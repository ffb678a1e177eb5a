import VariantPlan.Document.Identity
import VariantPlan.Document.Request
import VariantPlan.Plan.Basic
import VariantPlan.Proofs.Json.ReadBack
import VariantPlan.Proofs.Json.Records
import VariantPlan.Proofs.Version

/-!
# Written variants and requests

A variant and a request read back from their compact texts. Each part has a law of its own: what is
written for it reads back, and it is written with plain scalars, nested no deeper than a document
may be.

Main results: `Variant.ofJson?_toJson`, `Variant.parse?_text` and `variant_and_request_read_back`.
-/

namespace VariantPlan

open Json

/-! ## Choices -/

/-- A choice whose values are all listed, under names that differ. -/
class LawfulChoice (α : Type) [Choice α] : Prop where
  mem_all : ∀ a : α, a ∈ Choice.all := by intro a; cases a <;> decide
  name_inj : ∀ a b : α, Choice.name a = Choice.name b → a = b := by
    intro a b; cases a <;> cases b <;> decide

instance : LawfulChoice Geometry := {}

instance : LawfulChoice Optimizer := {}

instance : LawfulChoice Threading := {}

instance : LawfulChoice Fpic := {}

instance : LawfulChoice System := {}

instance : LawfulChoice BuildType := {}

namespace Choice

variable {α : Type} [Choice α]

theorem required?_toJson [LawfulChoice α] (a : α) :
    required? Choice.ofJson? (some (Choice.toJson a)) = some a :=
  Choice.ofJson?_toJson LawfulChoice.mem_all LawfulChoice.name_inj a

theorem within_toJson {depth : Nat} (a : α) : Within Plain depth (Choice.toJson a) :=
  within_string _

end Choice

/-! ## Options -/

theorem OptionValue.within_toJson {depth : Nat} (v : OptionValue) :
    Within Plain depth v.toJson := by
  cases v with
  | flag b => exact within_bool b
  | text s => exact within_string s

theorem within_options {depth : Nat} (m : SortedMap String OptionValue) :
    Within Plain (depth + 1) (ofMap OptionValue.toJson m) :=
  within_ofMap fun e _ => e.2.within_toJson

theorem DependencyOptions.within_toJson {depth : Nat} (d : DependencyOptions) :
    Within Plain (depth + 2) (DependencyOptions.toJson d) :=
  within_ofMap fun e _ => within_options e.2

/-- Truth values and texts are written differently, whatever the text says. -/
theorem OptionValue.compact_ne (b : Bool) (s : String) :
    (OptionValue.flag b).toJson.compact ≠ (OptionValue.text s).toJson.compact := by
  intro h
  cases eq_of_compact_eq (OptionValue.within_toJson _) (OptionValue.within_toJson _) h

/-! ## Compilers and generators -/

theorem Version.ofJson?_toJson (v : Version) : ofJson? v.toJson = some v := by
  rw [ofJson?, toJson, string?, Option.bind_some, ofText?_text]

theorem CppStandard.ofJson?_toJson (s : CppStandard) : ofJson? s.toJson = some s := by
  rw [ofJson?, toJson, string?, Option.bind_some, ofText?_text]

namespace Compiler

theorem ofJson?_append_null {members : List (String × Json)}
    (h : "cppstd" ∉ members.map Prod.fst) :
    ofJson? (.object (members ++ [("cppstd", .null)])) = ofJson? (.object members) := by
  have hfamily : member? (members ++ [("cppstd", .null)]) "family" = member? members "family" :=
    member?_append_of_ne (by decide)
  have hversion : member? (members ++ [("cppstd", .null)]) "version" =
      member? members "version" :=
    member?_append_of_ne (by decide)
  unfold ofJson? record?
  simp only [List.mapM_cons, List.mapM_nil, hfamily, hversion, member?_append_self h,
    member?_of_not_mem h]
  cases member? members "family" with
  | none => rfl
  | some family =>
    cases member? members "version" with
    | none => rfl
    | some version => rfl

theorem ofJson?_toJson (c : Compiler) : ofJson? c.toJson = some c := by
  have hstandard : optional? CppStandard.ofJson?
      (some (ofOption CppStandard.toJson c.standard)) = some c.standard :=
    optional?_ofOption (fun s _ => s.ofJson?_toJson) fun _ _ h => by cases h
  refine bind_eq_some_of (record?_object rfl (by decide)) ?_
  refine bind_eq_some_of (a := c.family) rfl ?_
  refine bind_eq_some_of (required?_eq_some c.version.ofJson?_toJson) ?_
  exact bind_eq_some_of hstandard rfl

theorem within_toJson {depth : Nat} (c : Compiler) : Within Plain (depth + 1) c.toJson := by
  refine .object ?_
  simp only [List.forall_mem_cons]
  exact ⟨within_string _, within_string _, within_ofOption fun _ _ => within_string _,
    List.forall_mem_nil _⟩

end Compiler

namespace Generator

theorem ofJson?_append_null {members : List (String × Json)} {key : String}
    (hkey : key = "generator_platform" ∨ key = "toolset") (h : key ∉ members.map Prod.fst) :
    ofJson? (.object (members ++ [(key, .null)])) = ofJson? (.object members) := by
  unfold ofJson? record?
  rcases hkey with rfl | rfl
  · have htoolset : member? (members ++ [("generator_platform", .null)]) "toolset" =
        member? members "toolset" :=
      member?_append_of_ne (by decide)
    simp only [List.mapM_cons, List.mapM_nil, htoolset, member?_append_self h,
      member?_of_not_mem h]
    cases member? members "toolset" <;> rfl
  · have hplatform : member? (members ++ [("toolset", .null)]) "generator_platform" =
        member? members "generator_platform" :=
      member?_append_of_ne (by decide)
    simp only [List.mapM_cons, List.mapM_nil, hplatform, member?_append_self h,
      member?_of_not_mem h]
    cases member? members "generator_platform" <;> rfl

theorem within_toJson {depth : Nat} (g : Generator) : Within Plain (depth + 1) g.toJson := by
  refine .object ?_
  simp only [List.forall_mem_cons]
  exact ⟨within_ofOption fun _ _ => within_string _, within_ofOption fun _ _ => within_string _,
    List.forall_mem_nil _⟩

end Generator

/-! ## Variants -/

namespace Variant

theorem ofJson?_toJson (v : Variant) : ofJson? v.toJson = some v := by
  refine bind_eq_some_of (record?_object rfl (by decide)) ?_
  refine bind_eq_some_of (Choice.required?_toJson v.geometry) ?_
  refine bind_eq_some_of (Choice.required?_toJson v.optimizer) ?_
  refine bind_eq_some_of (Choice.required?_toJson v.threading) ?_
  refine bind_eq_some_of (a := v.shared) rfl ?_
  refine bind_eq_some_of (Choice.required?_toJson v.fpic) ?_
  refine bind_eq_some_of (a := v.headerOnly) rfl ?_
  refine bind_eq_some_of (a := v.jsBindings) rfl ?_
  refine bind_eq_some_of (a := v.tests) rfl ?_
  refine bind_eq_some_of (a := v.pythonVersion) rfl ?_
  refine bind_eq_some_of (Choice.required?_toJson v.system) ?_
  refine bind_eq_some_of (required?_eq_some v.compiler.ofJson?_toJson) ?_
  refine bind_eq_some_of (Choice.required?_toJson v.buildType) ?_
  refine bind_eq_some_of (required?_eq_some v.generator.ofJson?_toJson) ?_
  exact bind_eq_some_of
    (required?_eq_some (DependencyOptions.ofJson?_toJson v.dependencyOptions)) rfl

theorem within_toJson (v : Variant) : Within Plain maxDepth v.toJson := by
  refine .object ?_
  simp only [List.forall_mem_cons]
  exact ⟨Choice.within_toJson _, Choice.within_toJson _, Choice.within_toJson _, within_bool _,
    Choice.within_toJson _, within_bool _, within_bool _, within_bool _, within_string _,
    Choice.within_toJson _, Compiler.within_toJson _, Choice.within_toJson _,
    Generator.within_toJson _, DependencyOptions.within_toJson _, List.forall_mem_nil _⟩

theorem parse?_text (v : Variant) : (parse? v.toJson.compact).bind ofJson? = some v := by
  rw [parse?_compact v.within_toJson, Option.bind_some, ofJson?_toJson]

end Variant

/-! ## Requests -/

namespace Request

theorem within_toJson (r : Request) : Within Plain maxDepth r.toJson := by
  refine .object ?_
  simp only [List.forall_mem_cons]
  exact ⟨within_options _, within_ofMap fun _ _ => within_string _,
    DependencyOptions.within_toJson _, List.forall_mem_nil _⟩

theorem parse?_text (r : Request) : (parse? r.toJson.compact).bind ofJson? = some r := by
  rw [parse?_compact r.within_toJson, Option.bind_some, ofJson?_toJson]

end Request

/-- **Variants and requests read back** from their compact texts, whatever their texts, keys and
versions are. A variant that was read back validates alike, with the same package id, and resolves
to the same plan with the same events. Truth values and texts are told apart, and an optional part
may as well be missing as null. -/
theorem variant_and_request_read_back :
    (∀ v : Variant, (parse? v.toJson.compact).bind Variant.ofJson? = some v) ∧
    (∀ r : Request, (parse? r.toJson.compact).bind Request.ofJson? = some r) ∧
    (∀ v w : Variant, (parse? v.toJson.compact).bind Variant.ofJson? = some w →
      w.validate? = v.validate? ∧
      w.validate?.map ValidVariant.packageId = v.validate?.map ValidVariant.packageId ∧
      ∀ host, w.resolvePlan host = v.resolvePlan host) ∧
    (∀ b s, (OptionValue.flag b).toJson.compact ≠ (OptionValue.text s).toJson.compact) ∧
    (∀ members : List (String × Json), "cppstd" ∉ members.map Prod.fst →
      Compiler.ofJson? (.object (members ++ [("cppstd", .null)])) =
        Compiler.ofJson? (.object members)) ∧
    (∀ (members : List (String × Json)) (key : String),
      key = "generator_platform" ∨ key = "toolset" → key ∉ members.map Prod.fst →
        Generator.ofJson? (.object (members ++ [(key, .null)])) =
          Generator.ofJson? (.object members)) := by
  refine ⟨Variant.parse?_text, Request.parse?_text, fun v w h => ?_, OptionValue.compact_ne,
    fun _ => Compiler.ofJson?_append_null, fun _ _ => Generator.ofJson?_append_null⟩
  rw [Variant.parse?_text] at h
  obtain rfl := Option.some.inj h
  exact ⟨rfl, rfl, fun _ => rfl⟩

/-- A variant reads back whose compiler is a pre-release with build labels and without a known
standard. The compiler is also read without the standard, and the generator without a platform. -/
theorem variant_and_request_read_back_prerelease :
    ∃ v w : Variant, v.compiler.version.text = "13.0.0-rc.1+b-5.0" ∧
      (parse? v.toJson.compact).bind Variant.ofJson? = some w ∧
      (∀ host, w.resolvePlan host = v.resolvePlan host) ∧
      Compiler.ofJson? (.object [("family", .string "gcc"), ("version", v.compiler.version.toJson)])
        = some w.compiler ∧
      Generator.ofJson? (.object [("toolset", .string "v143")]) = some w.generator := by
  let version : Version := ⟨13, 0, 0,
    [.word ⟨['r', 'c'], by decide, by decide⟩ (by decide), .number 1],
    [⟨['b', '-', '5'], by decide, by decide⟩, ⟨['0'], by decide, by decide⟩]⟩
  let v : Variant := { Variant.sample with
    geometry := .eigen, threading := .tbb, shared := false, fpic := .disabled, jsBindings := true,
    tests := true, pythonVersion := "\u00e9 \"3.10\"", system := .ios,
    compiler := ⟨"gcc", version, none⟩, buildType := .minSizeRel,
    generator := ⟨none, some "v143"⟩,
    dependencyOptions := .ofList [("nlopt", .ofList [("a", .flag true), ("b", .text "true")])] }
  have hread := variant_and_request_read_back.1 v
  refine ⟨v, v, by decide, hread, (variant_and_request_read_back.2.2.1 v v hread).2.2, ?_, ?_⟩
  · rw [← variant_and_request_read_back.2.2.2.2.1 _ (by decide)]
    exact Compiler.ofJson?_toJson v.compiler
  · rw [← variant_and_request_read_back.2.2.2.2.2 _ "generator_platform" (.inl rfl) (by decide)]
    rfl

end VariantPlan
