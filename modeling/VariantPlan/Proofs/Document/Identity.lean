import Mathlib.Logic.Function.Basic
import VariantPlan.Proofs.Document.Variant

/-!
# Written identities

The compact text of an identity determines the identity. Identities with one package id are
therefore equal, unless the digests of two different texts begin alike.

A standard that was read has a level of two digits. A compiler may also be set to a standard of any
other level, which no reader accepts and which is written all the same. **Wide** identities allow
for this: their compilers have standards with any level of 32 bits. Every identity is a wide one
and is written alike.

Main results: `Identity.toJson_injective`, `WideIdentity.toJson_injective`, `eq_or_collide_iff` and
`identity_determined_by_text`.
-/

namespace VariantPlan

open Json Function

/-! ## Injective writers -/

namespace Json

variable {α : Type}

/-- What reads back was written differently for different values. -/
theorem injective_of_read {read : Json → Option α} {write : α → Json}
    (h : ∀ a, read (write a) = some a) : Injective write := by
  intro a b hab
  have hread := h a
  rw [hab, h b] at hread
  exact (Option.some.inj hread).symm

theorem ofOption_injective {write : α → Json} (hw : Injective write) (hn : ∀ a, write a ≠ .null) :
    Injective (ofOption write) := by
  intro a b h
  cases a with
  | none =>
    cases b with
    | none => rfl
    | some b => exact absurd h.symm (hn b)
  | some a =>
    cases b with
    | none => exact absurd h (hn a)
    | some b => exact congrArg some (hw h)

/-- The value with another value for a member of it. -/
def setMember (j : Json) (name : String) (value : Json) : Json :=
  match j with
  | .object members => .object (members.map fun m => if m.1 = name then (name, value) else m)
  | j => j

/-- Of two values for one member the second one stays. -/
theorem setMember_setMember (j : Json) (name : String) (x y : Json) :
    (j.setMember name x).setMember name y = j.setMember name y := by
  cases j with
  | object members =>
    refine congrArg Json.object ?_
    rw [List.map_map]
    refine List.map_congr_left fun m _ => ?_
    rw [Function.comp_apply]
    by_cases hm : m.1 = name <;> simp [hm]
  | _ => rfl

theorem within_setMember {depth : Nat} {name : String} {value j : Json}
    (hv : Within Plain depth value) (hj : Within Plain (depth + 1) j) :
    Within Plain (depth + 1) (j.setMember name value) := by
  cases j with
  | object members =>
    refine .object fun m hm => ?_
    obtain ⟨n, hn, rfl⟩ := List.mem_map.1 hm
    by_cases h : n.1 = name
    · rw [if_pos h]
      exact hv
    · rw [if_neg h]
      exact hj.members n hn
  | _ => exact hj

end Json

theorem Choice.toJson_injective {α : Type} [Choice α] [LawfulChoice α] :
    Injective (Choice.toJson : α → Json) :=
  injective_of_read (Choice.ofJson?_toJson LawfulChoice.mem_all LawfulChoice.name_inj)

/-! ## Identities -/

namespace Identity

theorem toJson_injective : Injective toJson := by
  intro a b h
  simp only [toJson, Json.object.injEq, List.cons.injEq, Prod.mk.injEq, true_and, and_true] at h
  obtain ⟨hgeometry, hoptimizer, hthreading, hheaderOnly, hjsBindings, htests, hpython, hsystem,
    hshared, hfpic, hbuildType, hcompiler, hdependencies⟩ := h
  have hnull : ∀ {α : Type} [Choice α] (x : α), Choice.toJson x ≠ .null := fun x h => by cases h
  cases a
  cases b
  rw [Identity.mk.injEq]
  exact ⟨Choice.toJson_injective hgeometry, Choice.toJson_injective hoptimizer,
    Choice.toJson_injective hthreading, Json.bool.inj hheaderOnly, Json.bool.inj hjsBindings,
    Json.bool.inj htests, Json.string.inj hpython, Choice.toJson_injective hsystem,
    ofOption_injective (fun _ _ => Json.bool.inj) (fun _ h => by cases h) hshared,
    ofOption_injective Choice.toJson_injective hnull hfpic,
    ofOption_injective Choice.toJson_injective hnull hbuildType,
    ofOption_injective (injective_of_read Compiler.ofJson?_toJson) (fun _ h => by cases h)
      hcompiler,
    injective_of_read DependencyOptions.ofJson?_toJson hdependencies⟩

theorem within_toJson (i : Identity) : Within Plain maxDepth i.toJson := by
  refine .object ?_
  simp only [List.forall_mem_cons]
  exact ⟨Choice.within_toJson _, Choice.within_toJson _, Choice.within_toJson _, within_bool _,
    within_bool _, within_bool _, within_string _, Choice.within_toJson _,
    within_ofOption fun _ _ => within_bool _,
    within_ofOption fun _ _ => Choice.within_toJson _,
    within_ofOption fun _ _ => Choice.within_toJson _,
    within_ofOption fun _ _ => Compiler.within_toJson _,
    DependencyOptions.within_toJson _, List.forall_mem_nil _⟩

end Identity

/-! ## Wide standards -/

/-- A standard whose level may have any number of digits. -/
structure WideStandard where
  level : UInt32
  /-- Whether the GNU dialect is meant. -/
  gnu : Bool
deriving DecidableEq

/-- A standard of two digits is a wide one. -/
def CppStandard.widen (s : CppStandard) : WideStandard := ⟨.ofNat s.level.val, s.gnu⟩

namespace WideStandard

/-- The written form: the level has at least two digits. -/
def chars (s : WideStandard) : List Char :=
  if s.gnu then 'g' :: 'n' :: 'u' :: Text.twoDigits s.level.toNat
  else Text.twoDigits s.level.toNat

def toJson (s : WideStandard) : Json := .string (String.ofList s.chars)

/-- The year in words of 32 bits. -/
def year (s : WideStandard) : UInt32 := if 90 ≤ s.level then 1900 + s.level else 2000 + s.level

theorem readDigits?_twoDigits (n : Nat) : Text.readDigits? (Text.twoDigits n) = some n := by
  have hsmall : ∀ n < 10, Text.readDigits? ('0' :: Text.digits n) = some n := by decide
  unfold Text.twoDigits
  split
  next h => exact hsmall n h
  next => exact Text.readDigits?_digits n

theorem level_eq_of_twoDigits_eq {m n : UInt32}
    (h : Text.twoDigits m.toNat = Text.twoDigits n.toNat) : m = n := by
  have hread := readDigits?_twoDigits m.toNat
  rw [h, readDigits?_twoDigits] at hread
  exact UInt32.toNat_inj.1 (Option.some.inj hread).symm

theorem twoDigits_ne_gnu (n : Nat) (cs : List Char) : Text.twoDigits n ≠ 'g' :: cs := by
  intro h
  have hread := readDigits?_twoDigits n
  rw [h] at hread
  simp [Text.readDigits?] at hread

theorem chars_injective : Injective chars := by
  intro s t h
  obtain ⟨m, gnu⟩ := s
  obtain ⟨n, gnu'⟩ := t
  cases gnu <;> cases gnu' <;> simp only [chars, if_true, if_false, Bool.false_eq_true] at h
  · rw [level_eq_of_twoDigits_eq h]
  · exact absurd h (twoDigits_ne_gnu _ _)
  · exact absurd h.symm (twoDigits_ne_gnu _ _)
  · simp only [List.cons.injEq, true_and] at h
    rw [level_eq_of_twoDigits_eq h]

theorem toJson_injective : Injective toJson := fun _ _ h =>
  chars_injective (String.ofList_injective (Json.string.inj h))

end WideStandard

theorem CppStandard.toNat_year_widen (s : CppStandard) : s.widen.year.toNat = s.year := by
  have h : ∀ level : Fin 100, ∀ gnu : Bool,
      (widen ⟨level, gnu⟩).year.toNat = year ⟨level, gnu⟩ := by decide
  exact h s.level s.gnu

theorem CppStandard.toJson_widen (s : CppStandard) : s.widen.toJson = s.toJson := by
  have hlevel : s.widen.level.toNat = s.level.val := by
    have := s.level.isLt
    exact UInt32.toNat_ofNat_of_lt' (by show s.level.val < 4294967296; omega)
  rw [WideStandard.toJson, WideStandard.chars, hlevel]
  rfl

/-! ## Wide compilers and identities -/

/-- A compiler that may be set to any wide standard. -/
structure WideCompiler where
  family : String
  version : Version
  standard : Option WideStandard
deriving DecidableEq

namespace WideCompiler

def toJson (c : WideCompiler) : Json :=
  .object [
    ("family", .string c.family),
    ("version", c.version.toJson),
    ("cppstd", ofOption WideStandard.toJson c.standard)]

theorem toJson_injective : Injective toJson := by
  intro a b h
  simp only [toJson, Json.object.injEq, List.cons.injEq, Prod.mk.injEq, true_and, and_true] at h
  obtain ⟨hfamily, hversion, hstandard⟩ := h
  cases a
  cases b
  rw [WideCompiler.mk.injEq]
  exact ⟨Json.string.inj hfamily, injective_of_read Version.ofJson?_toJson hversion,
    ofOption_injective WideStandard.toJson_injective (fun _ h => by cases h) hstandard⟩

theorem within_toJson {depth : Nat} (c : WideCompiler) : Within Plain (depth + 1) c.toJson := by
  refine .object ?_
  simp only [List.forall_mem_cons]
  exact ⟨within_string _, within_string _, within_ofOption fun _ _ => within_string _,
    List.forall_mem_nil _⟩

end WideCompiler

/-- A compiler is a wide one. -/
def Compiler.widen (c : Compiler) : WideCompiler :=
  ⟨c.family, c.version, c.standard.map CppStandard.widen⟩

theorem Compiler.toJson_widen (c : Compiler) : c.widen.toJson = c.toJson := by
  obtain ⟨family, version, standard⟩ := c
  cases standard with
  | none => rfl
  | some s =>
    show Json.object [_, _, ("cppstd", s.widen.toJson)] = _
    rw [s.toJson_widen]
    rfl

/-- What identifies a package, the compiler being set to any wide standard. -/
structure WideIdentity where
  /-- Everything but the compiler. -/
  settings : Identity
  compiler : Option WideCompiler
  /-- The compiler stands apart. -/
  settings_compiler : settings.compiler = none

/-- An identity is a wide one. -/
def Identity.widen (i : Identity) : WideIdentity :=
  ⟨{ i with compiler := none }, i.compiler.map Compiler.widen, rfl⟩

namespace WideIdentity

/-- A wide identity is written with its compiler in the place of an identity's compiler. -/
def toJson (i : WideIdentity) : Json :=
  i.settings.toJson.setMember "compiler" (ofOption WideCompiler.toJson i.compiler)

theorem setMember_null_toJson (i : WideIdentity) :
    i.toJson.setMember "compiler" .null = i.settings.toJson := by
  have hnull : Json.ofOption Compiler.toJson i.settings.compiler = .null := by
    rw [i.settings_compiler]
    rfl
  rw [toJson, setMember_setMember]
  simp [Identity.toJson, setMember, hnull]

theorem compiler_eq_of_setMember_eq {i : Identity} {x y : Json}
    (h : i.toJson.setMember "compiler" x = i.toJson.setMember "compiler" y) : x = y := by
  simpa [Identity.toJson, setMember] using h

theorem toJson_injective : Injective toJson := by
  intro a b h
  have hsettings : a.settings = b.settings := by
    refine Identity.toJson_injective ?_
    rw [← a.setMember_null_toJson, h, b.setMember_null_toJson]
  have hcompiler : a.compiler = b.compiler := by
    have hnull : ∀ c : WideCompiler, c.toJson ≠ .null := fun _ h => by cases h
    rw [toJson, toJson, hsettings] at h
    exact ofOption_injective WideCompiler.toJson_injective hnull (compiler_eq_of_setMember_eq h)
  cases a
  cases b
  cases hsettings
  cases hcompiler
  rfl

theorem within_toJson (i : WideIdentity) : Within Plain maxDepth i.toJson :=
  within_setMember (within_ofOption fun c _ => c.within_toJson) i.settings.within_toJson

theorem eq_of_compact_eq {a b : WideIdentity} (h : a.toJson.compact = b.toJson.compact) :
    a = b :=
  toJson_injective (Json.eq_of_compact_eq a.within_toJson b.within_toJson h)

end WideIdentity

theorem Identity.toJson_widen (i : Identity) : i.widen.toJson = i.toJson := by
  have hcompiler : ofOption WideCompiler.toJson (i.compiler.map Compiler.widen) =
      ofOption Compiler.toJson i.compiler := by
    cases i.compiler with
    | none => rfl
    | some c => exact c.toJson_widen
  simp [WideIdentity.toJson, widen, hcompiler, Identity.toJson, setMember]

/-! ## Package ids -/

/-- Two texts are different in their bytes, but their digests begin alike. -/
def Digest.Collide (s t : String) : Prop :=
  s.toUTF8 ≠ t.toUTF8 ∧
    (ofText s).toList.take fingerprintLength = (ofText t).toList.take fingerprintLength

/-- Values with one fingerprint have one text or texts that collide. -/
theorem fingerprint_eq_iff {i j : Json} : i.fingerprint = j.fingerprint ↔
    i.compact = j.compact ∨ Digest.Collide i.compact j.compact := by
  have hfingerprint : i.fingerprint = j.fingerprint ↔
      (Digest.ofText i.compact).toList.take fingerprintLength =
        (Digest.ofText j.compact).toList.take fingerprintLength :=
    String.ofList_inj
  rw [hfingerprint]
  constructor
  · intro h
    by_cases hs : i.compact = j.compact
    · exact .inl hs
    · exact .inr ⟨fun hb => hs (String.toByteArray_inj.1 hb), h⟩
  · rintro (h | h)
    · rw [h]
    · exact h.2

theorem WideIdentity.fingerprint_eq_iff {a b : WideIdentity} :
    a.toJson.fingerprint = b.toJson.fingerprint ↔
      a = b ∨ Digest.Collide a.toJson.compact b.toJson.compact := by
  rw [VariantPlan.fingerprint_eq_iff]
  exact or_congr_left ⟨eq_of_compact_eq, fun h => by rw [h]⟩

theorem Identity.eq_of_compact_eq {a b : Identity} (h : a.toJson.compact = b.toJson.compact) :
    a = b :=
  toJson_injective (Json.eq_of_compact_eq a.within_toJson b.within_toJson h)

/-- **The text of an identity determines it**, whatever its texts, options and versions are and
whichever standard its compiler is set to. Two identities share a package id if and only if they
are equal or their texts differ and collide. -/
theorem identity_determined_by_text :
    (∀ a b : Identity, a.toJson.compact = b.toJson.compact → a = b) ∧
    (∀ a b : WideIdentity, a.toJson.compact = b.toJson.compact → a = b) ∧
    (∀ i : Identity, i.widen.toJson = i.toJson) ∧
    (∀ a b : WideIdentity, a.toJson.fingerprint = b.toJson.fingerprint ↔
      a = b ∨ Digest.Collide a.toJson.compact b.toJson.compact) ∧
    (∀ v w : ValidVariant, v.packageId = w.packageId ↔ v.identity = w.identity ∨
      Digest.Collide v.identity.toJson.compact w.identity.toJson.compact) := by
  refine ⟨fun _ _ => Identity.eq_of_compact_eq, fun _ _ => WideIdentity.eq_of_compact_eq,
    Identity.toJson_widen, fun _ _ => WideIdentity.fingerprint_eq_iff, fun v w => ?_⟩
  refine fingerprint_eq_iff.trans (or_congr_left ⟨Identity.eq_of_compact_eq, fun h => ?_⟩)
  rw [h]

/-- Options told in two orders are written alike. A truth value and its name are not, nor are two
standards of which one has more than two digits. -/
theorem identity_determined_by_text_options :
    ∃ a b c : Identity, ∃ d : WideIdentity, a = b ∧ a.toJson.compact ≠ c.toJson.compact ∧
      c.widen.toJson.compact ≠ d.toJson.compact := by
  let options (m : SortedMap String OptionValue) : Identity := {
    geometry := .eigen, optimizer := .nlopt, threading := .std, headerOnly := false,
    jsBindings := false, tests := true, pythonVersion := "\"3\\\u00e9\n", system := .macos,
    shared := some false, fpic := some .notApplicable, buildType := some .debug,
    compiler := some ⟨"clang", .release 14 0 0, some .cpp17⟩,
    dependencyOptions := .ofList [("catch2", m)] }
  let a := options (.ofList [("b", .flag true), ("a", .text "")])
  let b := options (.ofList [("a", .text ""), ("b", .flag true)])
  let c := options (.ofList [("a", .text ""), ("b", .text "true")])
  let d : WideIdentity := ⟨{ c with compiler := none },
    some ⟨"clang", .release 14 0 0, some ⟨2017, false⟩⟩, rfl⟩
  have htext : a.toJson.compact = b.toJson.compact :=
    congrArg (fun m => (options m).toJson.compact) (by decide)
  have hac : a ≠ c := by decide
  have hcd : c.widen ≠ d := by
    intro h
    have hlevel := congrArg WideIdentity.compiler h
    revert hlevel
    decide
  exact ⟨a, b, c, d, identity_determined_by_text.1 a b htext,
    mt (identity_determined_by_text.1 a c) hac,
    mt (identity_determined_by_text.2.1 c.widen d) hcd⟩

end VariantPlan
