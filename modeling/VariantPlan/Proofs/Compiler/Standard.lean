import VariantPlan.Proofs.Building
import VariantPlan.Proofs.Document.Identity
import VariantPlan.Proofs.Text.Numerals
import VariantPlan.Proofs.Text.Trimming

/-!
# The grammar of C++ standards

A text **spells** a standard if its core, the text without the blanks around it, is a numeral for
the level, with `gnu` in front for the dialect and nothing else. The written form is one of the
spellings, the **canonical** one: two digits, after `gnu` for the dialect.

Standards are ordered by their years, 1990 to 2089, the plain standard before its dialect. A variant
whose compiler is set to a standard of a year before 2017 is refused for it.

Main results: `Compiler.readStandard_eq_ok_iff` and `Compiler.readStandard_eq_error_iff` (the
grammar), `CppStandard.isCanonical_iff` (the written forms), `CppStandard.compare_eq_lt_iff` (the
order), `Variant.validate?_eq_standardTooLow_iff` (the gate), and `standard_grammar`.
-/

namespace VariantPlan

namespace CppStandard

variable {s : CppStandard} {text : String} {cs : List Char} {gnu : Bool}

/-! ## Spellings -/

/-- What stands in front of the numeral of a standard. -/
def mark (gnu : Bool) : List Char := if gnu then ['g', 'n', 'u'] else []

/-- A text spells a standard. -/
def Spells (text : String) (s : CppStandard) : Prop :=
  ∃ numeral, Text.IsCore (mark s.gnu ++ numeral) text.toList ∧ Text.IsNumeral numeral s.level.val

theorem ofNumeral?_eq_some_iff :
    ofNumeral? gnu cs = some s ↔ s.gnu = gnu ∧ Text.IsNumeral cs s.level.val := by
  obtain ⟨level, gnu'⟩ := s
  rw [ofNumeral?, Option.bind_eq_some_iff]
  constructor
  · rintro ⟨n, hn, h⟩
    obtain ⟨hnumeral, hlt⟩ := Text.read?_eq_some_iff.1 hn
    rw [dif_pos hlt] at h
    cases h
    exact ⟨rfl, hnumeral⟩
  · rintro ⟨rfl, hnumeral⟩
    exact ⟨level.val, Text.read?_eq_some_iff.2 ⟨hnumeral, level.isLt⟩, dif_pos level.isLt⟩

/-- A text without blanks at its ends is a mark and a numeral, or names no standard. -/
theorem ofChars?_eq_some_iff : ofChars? cs = some s ↔
    ∃ numeral, cs = mark s.gnu ++ numeral ∧ Text.IsNumeral numeral s.level.val := by
  unfold ofChars?
  split
  next rest =>
    rw [ofNumeral?_eq_some_iff]
    constructor
    · rintro ⟨hgnu, hnumeral⟩
      exact ⟨rest, by rw [hgnu]; rfl, hnumeral⟩
    · rintro ⟨numeral, hcs, hnumeral⟩
      cases hgnu : s.gnu with
      | true =>
        rw [hgnu] at hcs
        obtain rfl : rest = numeral := by simpa [mark] using hcs
        exact ⟨rfl, hnumeral⟩
      | false =>
        -- A numeral does not start with a letter.
        rw [hgnu] at hcs
        obtain rfl : 'g' :: 'n' :: 'u' :: rest = numeral := hcs
        have hg := hnumeral.eq_plus_or_isDigit List.mem_cons_self
        exact absurd hg (by decide)
  next hmark =>
    rw [ofNumeral?_eq_some_iff]
    constructor
    · rintro ⟨hgnu, hnumeral⟩
      exact ⟨cs, by rw [hgnu]; rfl, hnumeral⟩
    · rintro ⟨numeral, hcs, hnumeral⟩
      cases hgnu : s.gnu with
      | true =>
        rw [hgnu] at hcs
        exact absurd hcs (hmark numeral)
      | false =>
        rw [hgnu] at hcs
        obtain rfl : cs = numeral := hcs
        exact ⟨rfl, hnumeral⟩

theorem ofText?_eq_some_iff : ofText? text = some s ↔ Spells text s := by
  rw [ofText?, ofChars?_eq_some_iff]
  constructor
  · rintro ⟨numeral, hcore, hnumeral⟩
    exact ⟨numeral, Text.trim_eq_iff.1 hcore, hnumeral⟩
  · rintro ⟨numeral, hcore, hnumeral⟩
    exact ⟨numeral, hcore.trim_eq, hnumeral⟩

theorem ofJson?_string_eq_some_iff : ofJson? (.string text) = some s ↔ Spells text s := by
  rw [ofJson?, Json.string?, Option.bind_some, ofText?_eq_some_iff]

/-- The texts of standards are those of the numerals below 100, with a mark or without. -/
theorem exists_spells_iff : (∃ s, Spells text s) ↔
    ∃ gnu numeral n, Text.IsCore (mark gnu ++ numeral) text.toList ∧ Text.IsNumeral numeral n ∧
      n < 100 := by
  constructor
  · rintro ⟨s, numeral, hcore, hnumeral⟩
    exact ⟨s.gnu, numeral, s.level.val, hcore, hnumeral, s.level.isLt⟩
  · rintro ⟨gnu, numeral, n, hcore, hnumeral, hlt⟩
    exact ⟨⟨⟨n, hlt⟩, gnu⟩, numeral, hcore, hnumeral⟩

/-! ## Written forms -/

/-- A text is two digits, after `gnu` for the dialect. -/
def IsCanonical (text : String) : Prop :=
  ∃ gnu c d, text.toList = mark gnu ++ [c, d] ∧ Char.isDigit c = true ∧ Char.isDigit d = true

theorem chars_eq (tens ones : Fin 10) (gnu : Bool) (h : 10 * tens.val + ones.val < 100) :
    chars ⟨⟨10 * tens.val + ones.val, h⟩, gnu⟩ =
      mark gnu ++ [Nat.digitChar tens, Nat.digitChar ones] := by
  revert tens ones gnu
  decide

theorem isCanonical_iff : IsCanonical text ↔ ∃ s : CppStandard, s.text = text := by
  constructor
  · rintro ⟨gnu, c, d, htext, hc, hd⟩
    obtain ⟨tens, rfl⟩ := Text.exists_digitChar_iff.1 hc
    obtain ⟨ones, rfl⟩ := Text.exists_digitChar_iff.1 hd
    refine ⟨⟨⟨10 * tens.val + ones.val, by omega⟩, gnu⟩, ?_⟩
    rw [CppStandard.text, chars_eq, ← htext, String.ofList_toList]
  · rintro ⟨⟨level, gnu⟩, rfl⟩
    have hlevel : 10 * (level.val / 10) + level.val % 10 = level.val := Nat.div_add_mod _ _
    have hwritten := chars_eq ⟨level.val / 10, by omega⟩ ⟨level.val % 10, by omega⟩ gnu
      (hlevel.trans_lt level.isLt)
    simp only [hlevel] at hwritten
    refine ⟨gnu, Nat.digitChar (level.val / 10), Nat.digitChar (level.val % 10), ?_,
      Text.exists_digitChar_iff.2 ⟨⟨level.val / 10, by omega⟩, rfl⟩,
      Text.exists_digitChar_iff.2 ⟨⟨level.val % 10, by omega⟩, rfl⟩⟩
    rw [CppStandard.text, String.toList_ofList]
    exact hwritten

/-! ## Order -/

theorem compare_eq_lt_iff {a b : CppStandard} :
    compare a b = .lt ↔ a.year < b.year ∨ a.year = b.year ∧ a.gnu = false ∧ b.gnu = true := by
  have hgnu : compare a.gnu b.gnu = .lt ↔ a.gnu = false ∧ b.gnu = true := by
    cases a.gnu <;> cases b.gnu <;> decide
  show (compare a.year b.year).then (compare a.gnu b.gnu) = .lt ↔ _
  rw [Ordering.then_eq_lt, Std.compare_eq_lt, Std.compare_eq_iff_eq, hgnu]

instance : Std.TransOrd CppStandard :=
  inferInstanceAs (Std.TransCmp (compareLex (compareOn year) (compareOn CppStandard.gnu)))

theorem lt_or_eq_or_gt (a b : CppStandard) :
    compare a b = .lt ∨ a = b ∨ compare b a = .lt := by
  cases h : compare a b with
  | lt => exact .inl rfl
  | eq => exact .inr (.inl (compare_eq_iff.1 h))
  | gt => exact .inr (.inr (Std.OrientedCmp.lt_of_gt h))

/-! ## Years -/

/-- The levels from 90 on denote years of the 1990s, and those before years after 2000. -/
theorem year_lt_2017_iff : s.year < 2017 ↔ 90 ≤ s.level.val ∨ s.level.val < 17 := by
  have := s.level.isLt
  unfold year
  split <;> omega

end CppStandard

namespace Compiler

variable {text : String}

/-! ## Reading -/

theorem readStandard_eq_ok_iff {s : CppStandard} :
    readStandard text = .ok s ↔ CppStandard.Spells text s := by
  rw [← CppStandard.ofText?_eq_some_iff, readStandard]
  cases CppStandard.ofText? text <;> simp

theorem readStandard_eq_error_iff {e : ConfigError} : readStandard text = .error e ↔
    (¬∃ s, CppStandard.Spells text s) ∧
      e = .invalidVersion "compiler.cppstd" text .notAStandard := by
  simp only [← CppStandard.ofText?_eq_some_iff, ← Option.isSome_iff_exists, readStandard]
  cases CppStandard.ofText? text <;> simp [eq_comm]

theorem readStandard_text (s : CppStandard) : readStandard s.text = .ok s := by
  rw [readStandard, CppStandard.ofText?_text]

end Compiler

/-! ## The gate -/

/-- A variant is refused for its standard if that is of a year before 2017, and then the standard
is named. -/
theorem Variant.validate?_eq_standardTooLow_iff {v : Variant} {s : CppStandard}
    (hs : v.compiler.standard = some s) (family : String) (version : Version)
    (observed : CppStandard) :
    v.validate? = .error (.standardTooLow family version observed) ↔
      s.year < 2017 ∧ family = v.compiler.family ∧ version = v.compiler.version ∧
        observed = s := by
  -- The other gates report other errors.
  have hversion : v.versionFault? ≠ some (.standardTooLow family version observed) := by
    rw [Ne, versionFault?_eq_some_iff]
    rintro ⟨major, -, -, h⟩
    cases h
  have hruntime : v.runtimeFault? ≠ some (.standardTooLow family version observed) := by
    rw [Ne, runtimeFault?_eq_some_iff]
    rintro ⟨-, h⟩
    cases h
  rw [validate?_eq_error_iff, fault?, Option.or_eq_some_iff, Option.or_eq_some_iff,
    standardFault?_eq_some_iff]
  simp only [hversion, hruntime, and_false, or_false, hs, Option.some.injEq, exists_eq_left',
    ConfigError.standardTooLow.injEq]

theorem ConfigError.message_standardTooLow (family : String) (version : Version)
    (s : CppStandard) : (standardTooLow family version s).message =
      "compiler " ++ family ++ " " ++ version.text ++ " reports compiler.cppstd=" ++ s.text ++
        " but C++17 is required" := by
  have hchars : requiredStandard.chars = ['1', '7'] := by decide
  have hrequired : " but C++" ++ requiredStandard.text ++ " is required" =
      " but C++17 is required" := by
    rw [CppStandard.text, hchars]
    rfl
  calc (standardTooLow family version s).message
      = "compiler " ++ family ++ " " ++ version.text ++ " reports compiler.cppstd=" ++ s.text ++
        " but C++" ++ requiredStandard.text ++ " is required" := rfl
    _ = "compiler " ++ family ++ " " ++ version.text ++ " reports compiler.cppstd=" ++ s.text ++
        " but C++17 is required" := by
      rw [← hrequired]
      simp only [String.append_assoc]

/-- A variant that is built for a text has the standard that the text spells. -/
theorem Builder.standard_of_build {b : Builder} {v : Variant} {text : String} {s : CppStandard}
    (hs : Compiler.readStandard text = .ok s) (htext : b.standard = some text)
    (hbuild : b.build = .ok v) : v.compiler.standard = some s := by
  obtain ⟨system, family, version, c, -, -, -, -, -, hstandard, rfl⟩ := build_eq_ok_iff.1 hbuild
  have hread := CppStandard.ofText?_eq_some_iff.2 (Compiler.readStandard_eq_ok_iff.1 hs)
  rw [htext, Option.map_some, hread] at hstandard
  obtain ⟨t, ht, hst⟩ := Option.map_eq_some_iff.1 hstandard.symm
  rw [← Option.some.inj hst]
  exact ht

/-- **The grammar of C++ standards.** A text is read as a standard if and only if its core is a
numeral below 100, with `gnu` in front for the dialect; otherwise it is refused in its own words.
The written form of what was read is canonical, and reads back; a canonical text is read, and is the
written form of what it is read as. Standards are ordered totally by their years, those of the
1990s first, and the year is the same in words of 32 bits. Documents have standards as texts.

A variant with a standard that was read is refused for it if and only if the standard is of a year
before 2017, and the diagnostic shows the written form. -/
theorem standard_grammar (text : String) :
    ((∃ s, Compiler.readStandard text = .ok s) ↔ ∃ gnu numeral n,
      Text.IsCore (CppStandard.mark gnu ++ numeral) text.toList ∧ Text.IsNumeral numeral n ∧
        n < 100) ∧
    (∀ s, Compiler.readStandard text = .ok s ↔ ∃ numeral,
      Text.IsCore (CppStandard.mark s.gnu ++ numeral) text.toList ∧
        Text.IsNumeral numeral s.level.val) ∧
    (∀ e, Compiler.readStandard text = .error e ↔ (¬∃ s, CppStandard.Spells text s) ∧
      e = .invalidVersion "compiler.cppstd" text .notAStandard) ∧
    (∀ s, Compiler.readStandard text = .ok s →
      CppStandard.IsCanonical s.text ∧ Compiler.readStandard s.text = .ok s ∧
      (∀ b v, b.standard = some text → Builder.build b = .ok v →
        v.compiler.standard = some s) ∧
      ∀ v : Variant, v.compiler.standard = some s → ∀ family version observed,
        v.validate? = .error (.standardTooLow family version observed) ↔
          (90 ≤ s.level.val ∨ s.level.val < 17) ∧ family = v.compiler.family ∧
            version = v.compiler.version ∧ observed = s) ∧
    (CppStandard.IsCanonical text → ∃ s, Compiler.readStandard text = .ok s ∧ s.text = text) ∧
    (∀ a b c : CppStandard,
      (compare a b = .lt ∨ a = b ∨ compare b a = .lt) ∧ (compare a b = .eq ↔ a = b) ∧
      (compare a b = .lt → compare b c = .lt → compare a c = .lt) ∧
      (compare a b = .lt ↔ a.year < b.year ∨ a.year = b.year ∧ a.gnu = false ∧ b.gnu = true)) ∧
    (∀ s : CppStandard, s.widen.year.toNat = s.year ∧
      (90 ≤ s.level.val → s.year = 1990 + (s.level.val - 90)) ∧
      (s.level.val < 90 → s.year = 2000 + s.level.val) ∧
      ∀ family version, (ConfigError.standardTooLow family version s).message =
        "compiler " ++ family ++ " " ++ version.text ++ " reports compiler.cppstd=" ++ s.text ++
          " but C++17 is required") ∧
    ∀ s, CppStandard.ofJson? (.string text) = some s ↔ Compiler.readStandard text = .ok s := by
  refine ⟨?_, fun s => Compiler.readStandard_eq_ok_iff,
    fun e => Compiler.readStandard_eq_error_iff, fun s hs => ⟨?_, ?_, ?_, ?_⟩, fun h => ?_,
    fun a b c => ⟨a.lt_or_eq_or_gt b, CppStandard.compare_eq_iff, Std.TransCmp.lt_trans,
      CppStandard.compare_eq_lt_iff⟩, fun s => ⟨s.toNat_year_widen, fun h => ?_, fun h => ?_, ?_⟩,
    fun s => ?_⟩
  · simp only [Compiler.readStandard_eq_ok_iff]
    exact CppStandard.exists_spells_iff
  · exact CppStandard.isCanonical_iff.2 ⟨s, rfl⟩
  · exact Compiler.readStandard_text s
  · intro b v htext hbuild
    exact Builder.standard_of_build hs htext hbuild
  · -- Years before 2017 are told from the level alone.
    intro v hv family version observed
    rw [Variant.validate?_eq_standardTooLow_iff hv, CppStandard.year_lt_2017_iff]
  · obtain ⟨s, rfl⟩ := CppStandard.isCanonical_iff.1 h
    exact ⟨s, Compiler.readStandard_text s, rfl⟩
  · rw [CppStandard.year, if_pos h]
    omega
  · rw [CppStandard.year, if_neg (Nat.not_le.2 h)]
  · exact fun family version => ConfigError.message_standardTooLow family version s
  · rw [CppStandard.ofJson?_string_eq_some_iff, Compiler.readStandard_eq_ok_iff]

/-- A long spelling of the dialect of 2014, with blanks around it, a sign and zeros, is read like
its written form, and what is built for it is refused. The canonical text of 2003 is read and
written as it is, and 1998 comes before it. A third digit is refused, and the text is told with its
blanks. -/
theorem standard_grammar_padded :
    let padded := "\u00a0gnu+00014\n"
    Compiler.readStandard padded = .ok ⟨14, true⟩ ∧
      Compiler.readStandard (CppStandard.text ⟨14, true⟩) = .ok ⟨14, true⟩ ∧
      (∃ (b : Builder) (v : Variant), b.standard = some padded ∧ b.build = .ok v ∧
        v.validate? = .error (.standardTooLow "gcc" (.release 9 0 0) ⟨14, true⟩)) ∧
      (∃ s, Compiler.readStandard "03" = .ok s ∧ s.text = "03" ∧
        compare (⟨98, false⟩ : CppStandard) s = .lt) ∧
      Compiler.readStandard " 100" =
        .error (.invalidVersion "compiler.cppstd" " 100" .notAStandard) := by
  intro padded
  have hnumeral : Text.IsNumeral "+00014".toList 14 := by
    have hread : Text.read? 100 "+00014".toList = some 14 := by decide
    exact (Text.read?_eq_some_iff.1 hread).1
  have hcore : Text.IsCore ("gnu".toList ++ "+00014".toList) padded.toList :=
    Text.trim_eq_iff.1 (by decide)
  have hpadded : Compiler.readStandard padded = .ok ⟨14, true⟩ :=
    ((standard_grammar padded).2.1 _).2 ⟨_, hcore, hnumeral⟩
  obtain ⟨-, hagain, -, hgate⟩ := (standard_grammar padded).2.2.2.1 _ hpadded
  refine ⟨hpadded, hagain, ?_, ?_, ?_⟩
  · let b : Builder := { Builder.default with
      system := some .linux, compilerFamily := some "gcc", compilerVersion := some "9"
      standard := some padded }
    let gcc : Compiler := ⟨"gcc", .release 9 0 0, some ⟨14, true⟩⟩
    have hfamily : gcc.family = Compiler.normalizeFamily "gcc" := by rfl
    have hversion : Compiler.readVersion "9" = .ok gcc.version := by rfl
    have hstandard : b.standard.map CppStandard.ofText? = gcc.standard.map some := by decide
    exact ⟨b, b.variant .linux gcc, rfl,
      Builder.build_eq_ok_iff.2 ⟨.linux, "gcc", "9", gcc, rfl, rfl, rfl, hfamily, hversion,
        hstandard, rfl⟩,
      (hgate _ rfl _ _ _).2 ⟨.inr (by decide), rfl, rfl, rfl⟩⟩
  · have hcanonical : CppStandard.IsCanonical "03" := ⟨false, '0', '3', rfl, rfl, rfl⟩
    obtain ⟨s, hs, htext⟩ := (standard_grammar "03").2.2.2.2.1 hcanonical
    have hread : Compiler.readStandard "03" = .ok ⟨3, false⟩ := by rfl
    obtain rfl : ⟨3, false⟩ = s := Except.ok.inj (hread.symm.trans hs)
    exact ⟨_, hs, htext, ((standard_grammar "03").2.2.2.2.2.1 _ _ ⟨0, false⟩).2.2.2.2
      (.inl (by decide))⟩
  · refine ((standard_grammar " 100").2.2.1 _).2 ⟨?_, rfl⟩
    simp only [← CppStandard.ofText?_eq_some_iff]
    have hnone : CppStandard.ofText? " 100" = none := by rfl
    simp [hnone]

end VariantPlan
