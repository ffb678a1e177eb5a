import VariantPlan.Document.Plan
import VariantPlan.Proofs.Document.Variant
import VariantPlan.Proofs.Interchange
import VariantPlan.Proofs.Json.Canonical
import VariantPlan.Proofs.Json.Parsed

/-!
# Written plans

A plan reads back from its compact text if the fields of its published package are **writable**:
canonical, with plain scalars, and nested no deeper than their place in the document allows. The
only fields of a resolved plan are those of the bindings. The fields of a plan that was read are
canonical values of parts of its document, so they are writable unless a number with a binary point
stands in them.

Main results: `BuildPlan.parse?_text`, `BuildPlan.writable_planOn`, `BuildPlan.writable_of_ofJson?`
and `plan_reads_back`.
-/

namespace VariantPlan

open Json

/-! ## Requirements -/

instance : LawfulChoice RequirementKind := {}

theorem VersionConstraint.ofJson?_toJson (c : VersionConstraint) : ofJson? c.toJson = some c := by
  rw [ofJson?, toJson, string?, Option.bind_some, ofText?_text]

namespace Requirement

theorem ofJson?_toJson (r : Requirement) : ofJson? r.toJson = some r := by
  have hoptions : map? OptionValue.ofJson? (ofMap OptionValue.toJson r.options) =
      some r.options :=
    map?_ofMap fun e _ => e.2.ofJson?_toJson
  refine bind_eq_some_of (record?_object rfl (by decide)) ?_
  refine bind_eq_some_of (a := r.name) rfl ?_
  refine bind_eq_some_of (required?_eq_some r.constraint.ofJson?_toJson) ?_
  refine bind_eq_some_of (Choice.required?_toJson r.kind) ?_
  exact bind_eq_some_of (required?_eq_some hoptions) rfl

theorem within_toJson {depth : Nat} (r : Requirement) : Within Plain (depth + 2) r.toJson := by
  refine .object ?_
  simp only [List.forall_mem_cons]
  exact ⟨within_string _, within_string _, Choice.within_toJson _, within_options _,
    List.forall_mem_nil _⟩

end Requirement

/-! ## Assets -/

namespace AssetManifest

/-- How deep a field of a package may be nested. A plan, its manifest and the fields together are
three containers around it. -/
def fieldDepth : Nat := maxDepth - 3

/-- The fields of the package are what a document can hold in their place. -/
def Writable (m : AssetManifest) : Prop :=
  ∀ e ∈ m.packageFields.toList, canonical? e.2 = some e.2 ∧ Within Plain fieldDepth e.2

variable {m : AssetManifest}

theorem ofJson?_toJson (h : m.Writable) : ofJson? m.toJson = some m := by
  have hfields : map? canonical? (ofMap id m.packageFields) = some m.packageFields :=
    map?_ofMap fun e he => (h e he).1
  refine bind_eq_some_of (record?_object rfl (by decide)) ?_
  refine bind_eq_some_of (a := m.assetDir) rfl ?_
  refine bind_eq_some_of (required?_eq_some (list?_strings m.scripts)) ?_
  refine bind_eq_some_of (required?_eq_some (list?_strings m.modules)) ?_
  refine bind_eq_some_of (required?_eq_some (list?_strings m.declarations)) ?_
  exact bind_eq_some_of (required?_eq_some hfields) rfl

theorem within_toJson (h : m.Writable) : Within Plain (fieldDepth + 2) m.toJson := by
  refine .object ?_
  simp only [List.forall_mem_cons]
  exact ⟨within_string _, within_strings _, within_strings _, within_strings _,
    within_ofMap fun e he => (h e he).2, List.forall_mem_nil _⟩

theorem writable_ofBindings : ofBindings.Writable := by
  intro e he
  have he := SortedMap.mem_of_mem_ofList he
  have hfiles : Within Plain 1 (strings (["js", "wasm", "d.ts"].map Product.assetFile)) :=
    within_strings _
  have hconfig : Within Plain 1
      (.object [(Product.bindingsDirKey, .string Product.assetDir)]) :=
    .object fun m hm => by
      rw [List.mem_singleton.1 hm]
      exact within_string _
  simp only [List.mem_cons, List.not_mem_nil, or_false] at he
  rcases he with rfl | rfl | rfl | rfl | rfl | rfl
  · exact ⟨rfl, within_string _⟩
  · exact ⟨rfl, within_string _⟩
  · exact ⟨rfl, within_string _⟩
  · exact ⟨rfl, within_string _⟩
  · exact ⟨rfl, hfiles.of_le (by decide)⟩
  · exact ⟨rfl, hconfig.of_le (by decide)⟩

theorem writable_of_ofJson? {j : Json} (hj : Within Kept (fieldDepth + 2) j)
    (h : ofJson? j = some m) (hd : ∀ e ∈ m.packageFields.toList, e.2.hasDouble = false) :
    m.Writable := by
  unfold ofJson? at h
  obtain ⟨values, hvalues, h⟩ := Option.bind_eq_some_iff.1 h
  split at h
  next assetDir scripts modules declarations fields =>
    obtain ⟨_, -, h⟩ := Option.bind_eq_some_iff.1 h
    obtain ⟨_, -, h⟩ := Option.bind_eq_some_iff.1 h
    obtain ⟨_, -, h⟩ := Option.bind_eq_some_iff.1 h
    obtain ⟨_, -, h⟩ := Option.bind_eq_some_iff.1 h
    obtain ⟨_, hfields, h⟩ := Option.bind_eq_some_iff.1 h
    obtain ⟨i, hi, hfields⟩ := Option.bind_eq_some_iff.1 hfields
    obtain rfl := Option.some.inj h
    intro e he
    obtain ⟨members, rfl, l, hl, hread⟩ := exists_mem_of_map? hfields
    have hmem : some (.object members) ∈ [assetDir, scripts, modules, declarations, fields] := by
      rw [← hi]
      simp
    have hwithin := (hj.of_record? hvalues _ hmem).members
    obtain ⟨n, hn, hcanon⟩ := hread e (SortedMap.mem_of_mem_ofList (hl ▸ he))
    obtain ⟨hself, hreadable⟩ := canonical?_of_within (hwithin n hn) hcanon
    exact ⟨hself, hreadable.plain (hd e he)⟩
  next => cases h

end AssetManifest

/-! ## Plans -/

theorem NameSet.ofJson?_toJson (s : NameSet) : NameSet.ofJson? (NameSet.toJson s) = some s := by
  rw [NameSet.ofJson?, NameSet.toJson, list?_strings, Option.map_some, NameSet.ofNames_keys]

theorem PathSet.ofJson?_toJson (s : PathSet) : PathSet.ofJson? s.toJson = some s := by
  have hpaths : (s.toList.map Path.text).map Path.mk = s.toList := by
    rw [List.map_map]
    exact List.map_id' _
  rw [PathSet.ofJson?, PathSet.toJson, list?_strings, Option.map_some, hpaths,
    PathSet.ofList_toList]

namespace BuildPlan

/-- The fields of the published package, if there is one, are what a document can hold. -/
def Writable (p : BuildPlan) : Prop := ∀ m ∈ p.assets, m.Writable

variable {p : BuildPlan}

theorem ofJson?_toJson (h : p.Writable) : ofJson? p.toJson = some p := by
  have hlist : ∀ l : List Requirement,
      list? Requirement.ofJson? (.list (l.map Requirement.toJson)) = some l :=
    fun l => list?_list fun r _ => r.ofJson?_toJson
  have hassets : optional? AssetManifest.ofJson?
      (some (ofOption AssetManifest.toJson p.assets)) = some p.assets :=
    optional?_ofOption (fun m hm => AssetManifest.ofJson?_toJson (h m hm))
      fun _ _ e => by cases e
  have hcache : map? string? (ofMap .string p.cacheVariables) = some p.cacheVariables :=
    map?_ofMap fun _ _ => rfl
  refine bind_eq_some_of (record?_object rfl (by decide)) ?_
  refine bind_eq_some_of (required?_eq_some (hlist p.dependencies)) ?_
  refine bind_eq_some_of (required?_eq_some (hlist p.tools)) ?_
  refine bind_eq_some_of (a := p.artifact.libraryName) rfl ?_
  refine bind_eq_some_of (a := p.artifact.extension) rfl ?_
  refine bind_eq_some_of (a := p.artifact.fileName) rfl ?_
  refine bind_eq_some_of (required?_eq_some (list?_strings p.artifact.defines)) ?_
  refine bind_eq_some_of (required?_eq_some (NameSet.ofJson?_toJson p.systemLibraries)) ?_
  refine bind_eq_some_of (required?_eq_some (list?_strings p.layout.includeDirs)) ?_
  refine bind_eq_some_of (required?_eq_some (list?_strings p.layout.libraryDirs)) ?_
  refine bind_eq_some_of (required?_eq_some (list?_strings p.layout.binaryDirs)) ?_
  refine bind_eq_some_of (required?_eq_some p.prunedPaths.ofJson?_toJson) ?_
  refine bind_eq_some_of hassets ?_
  exact bind_eq_some_of (required?_eq_some hcache) rfl

theorem within_toJson (h : p.Writable) : Within Plain maxDepth p.toJson := by
  refine .object ?_
  simp only [List.forall_mem_cons]
  exact ⟨within_list_map fun r _ => r.within_toJson, within_list_map fun r _ => r.within_toJson,
    within_strings _, within_strings _, within_string _, within_string _, within_string _,
    within_strings _, within_strings _, within_strings _, within_strings _,
    within_ofOption fun m hm => AssetManifest.within_toJson (h m hm),
    within_ofMap fun _ _ => within_string _, List.forall_mem_nil _⟩

theorem parse?_text (h : p.Writable) : (parse? p.toJson.compact).bind ofJson? = some p := by
  rw [parse?_compact (within_toJson h), Option.bind_some, ofJson?_toJson h]

theorem eq_ofBindings_of_mem_assets {a : ValidVariant} {host : Host} {m : AssetManifest}
    (h : m ∈ (a.planOn host).assets) : m = .ofBindings := by
  change m ∈ a.assets? at h
  unfold Variant.assets? at h
  split at h
  · exact (Option.some.inj h).symm
  · cases h

/-- A resolved plan is writable: it has the fields of the bindings or none. -/
theorem writable_planOn (a : ValidVariant) (host : Host) : (a.planOn host).Writable := by
  intro m hm
  obtain rfl := eq_ofBindings_of_mem_assets hm
  exact AssetManifest.writable_ofBindings

/-! ## Plans that were read -/

/-- The value of a member in the document of a plan, which is an object or a list. -/
def member? (name : String) (j : Json) : Option Json :=
  (j.record? members).bind fun values => ((members.zip values).lookup name).join

/-- The sets and the assets of a plan come from the members for them. -/
theorem exists_members_of_ofJson? {j : Json} (h : ofJson? j = some p) :
    ∃ names texts assets values,
      member? "system_libs" j = some (strings names) ∧
      member? "pruned_paths" j = some (strings texts) ∧
      j.record? members = some values ∧ assets ∈ values ∧
      p.systemLibraries = NameSet.ofNames names ∧
      p.prunedPaths = PathSet.ofList (texts.map Path.mk) ∧
      optional? AssetManifest.ofJson? assets = some p.assets := by
  unfold ofJson? at h
  obtain ⟨values, hvalues, h⟩ := Option.bind_eq_some_iff.1 h
  split at h
  next dependencies tools defines libraries libraryName extension fileName includeDirs libraryDirs
      binaryDirs paths assets cacheVariables =>
    obtain ⟨_, -, h⟩ := Option.bind_eq_some_iff.1 h
    obtain ⟨_, -, h⟩ := Option.bind_eq_some_iff.1 h
    obtain ⟨_, -, h⟩ := Option.bind_eq_some_iff.1 h
    obtain ⟨_, -, h⟩ := Option.bind_eq_some_iff.1 h
    obtain ⟨_, -, h⟩ := Option.bind_eq_some_iff.1 h
    obtain ⟨_, -, h⟩ := Option.bind_eq_some_iff.1 h
    obtain ⟨s, hs, h⟩ := Option.bind_eq_some_iff.1 h
    obtain ⟨i, hi, hs⟩ := Option.bind_eq_some_iff.1 hs
    obtain ⟨_, -, h⟩ := Option.bind_eq_some_iff.1 h
    obtain ⟨_, -, h⟩ := Option.bind_eq_some_iff.1 h
    obtain ⟨_, -, h⟩ := Option.bind_eq_some_iff.1 h
    obtain ⟨t, ht, h⟩ := Option.bind_eq_some_iff.1 h
    obtain ⟨k, hk, ht⟩ := Option.bind_eq_some_iff.1 ht
    obtain ⟨m, hm, h⟩ := Option.bind_eq_some_iff.1 h
    obtain ⟨_, -, h⟩ := Option.bind_eq_some_iff.1 h
    obtain rfl := Option.some.inj h
    obtain ⟨names, hnames, rfl⟩ := Option.map_eq_some_iff.1 hs
    obtain ⟨texts, htexts, rfl⟩ := Option.map_eq_some_iff.1 ht
    obtain rfl := list?_string?_eq_some_iff.1 hnames
    obtain rfl := list?_string?_eq_some_iff.1 htexts
    refine ⟨names, texts, assets, _, ?_, ?_, hvalues, by simp, rfl, rfl, hm⟩
    · -- The two sets are read from the members of their names.
      rw [member?, hvalues]
      exact hi
    · rw [member?, hvalues]
      exact hk
  next => cases h

theorem writable_of_ofJson? {j : Json} (hj : Within Kept maxDepth j) (h : ofJson? j = some p)
    (hd : ∀ m ∈ p.assets, ∀ e ∈ m.packageFields.toList, e.2.hasDouble = false) : p.Writable := by
  obtain ⟨-, -, assets, values, -, -, hvalues, hmem, -, -, hassets⟩ :=
    exists_members_of_ofJson? h
  intro m hm
  cases assets with
  | none =>
    rw [← Option.some.inj hassets] at hm
    cases hm
  | some i =>
    have hwithin : Within Kept (AssetManifest.fieldDepth + 2) i := hj.of_record? hvalues i hmem
    change nullable? AssetManifest.ofJson? i = _ at hassets
    unfold nullable? at hassets
    split at hassets
    · rw [← Option.some.inj hassets] at hm
      cases hm
    · obtain ⟨m', hread, hm'⟩ := Option.map_eq_some_iff.1 hassets
      rw [← hm'] at hm
      obtain rfl := Option.some.inj hm
      exact AssetManifest.writable_of_ofJson? hwithin hread (hd m' hm'.symm)

end BuildPlan

/-- **Plans read back** from their compact texts, with the same fingerprint: every plan that a
variant resolves to, and every plan that was read from a document without numbers with a binary
point in the fields of the package. A plan that was read has the names of the document's libraries
in increasing order, and of the document's paths the first ones of those with the same components,
in increasing order of components. -/
theorem plan_reads_back :
    (∀ (v : Variant) (host : Host) (p : BuildPlan), (v.resolvePlan host).value = .ok p →
      (parse? p.toJson.compact).bind BuildPlan.ofJson? = some p ∧
      ((parse? p.toJson.compact).bind BuildPlan.ofJson?).map BuildPlan.fingerprint =
        some p.fingerprint) ∧
    (∀ (text : String) (p : BuildPlan), (parse? text).bind BuildPlan.ofJson? = some p →
      (∀ m ∈ p.assets, ∀ e ∈ m.packageFields.toList, e.2.hasDouble = false) →
        (parse? p.toJson.compact).bind BuildPlan.ofJson? = some p ∧
        ((parse? p.toJson.compact).bind BuildPlan.ofJson?).map BuildPlan.fingerprint =
          some p.fingerprint) ∧
    (∀ (text : String) (p : BuildPlan), (parse? text).bind BuildPlan.ofJson? = some p →
      (∃ names, (parse? text).bind (BuildPlan.member? "system_libs") = some (strings names) ∧
        (p.systemLibraries.keys.Pairwise fun a b => compare a b = .lt) ∧
        ∀ name, name ∈ p.systemLibraries.keys ↔ name ∈ names) ∧
      (∃ texts, (parse? text).bind (BuildPlan.member? "pruned_paths") = some (strings texts) ∧
        (p.prunedPaths.toList.Pairwise fun a b => compare a.components b.components = .lt) ∧
        ∀ path, path ∈ p.prunedPaths.toList ↔
          (texts.map Path.mk).find? (fun q => q.components = path.components) = some path)) := by
  refine ⟨fun v host p h => ?_, fun text p h hd => ?_, fun text p h => ?_⟩
  · -- A resolved plan holds nothing that cannot be written.
    obtain ⟨a, -, rfl⟩ := exists_of_resolvePlan_ok h
    have hread := BuildPlan.parse?_text (BuildPlan.writable_planOn a host)
    exact ⟨hread, by rw [hread, Option.map_some]⟩
  · obtain ⟨j, hj, h⟩ := Option.bind_eq_some_iff.1 h
    have hread := BuildPlan.parse?_text
      (BuildPlan.writable_of_ofJson? (within_of_parse? hj) h hd)
    exact ⟨hread, by rw [hread, Option.map_some]⟩
  · obtain ⟨j, hj, h⟩ := Option.bind_eq_some_iff.1 h
    obtain ⟨names, texts, -, -, hnames, htexts, -, -, hlibraries, hpaths, -⟩ :=
      BuildPlan.exists_members_of_ofJson? h
    refine ⟨⟨names, ?_, p.systemLibraries.pairwise_keys, fun name => ?_⟩,
      ⟨texts, ?_, p.prunedPaths.sorted, fun path => ?_⟩⟩
    · rw [hj, Option.bind_some, hnames]
    · rw [hlibraries, NameSet.mem_keys_ofNames]
    · rw [hj, Option.bind_some, htexts]
    · rw [hpaths, PathSet.mem_ofList_iff]

/-- The plan of a variant that generates bindings reads back. So does a plan that was read from a
list of members, with a whole number and a repeated key in the fields of its package; its paths are
in order, and of two texts of one path it holds the first. -/
theorem plan_reads_back_repeated :
    (∃ (v : Variant) (p : BuildPlan), (v.resolvePlan .cached).value = .ok p ∧
      p.assets.isSome = true ∧ (parse? p.toJson.compact).bind BuildPlan.ofJson? = some p) ∧
    (∃ (j : Json) (p : BuildPlan), (parse? j.compact).bind BuildPlan.ofJson? = some p ∧
      (parse? p.toJson.compact).bind BuildPlan.ofJson? = some p ∧
      p.prunedPaths.toList = [⟨"./a"⟩, ⟨"a//b"⟩, ⟨"b"⟩] ∧
      Path.mk "a/b/" ∉ p.prunedPaths.toList) := by
  constructor
  · let v : Variant := { Variant.sample with
      geometry := .boost, threading := .omp, shared := false, fpic := .enabled,
      jsBindings := true, tests := true, pythonVersion := "3.12",
      dependencyOptions := .ofList [("boost", .ofList [("header_only", .text "True")])] }
    let a : ValidVariant := ⟨v, by decide, rfl⟩
    have hplan : (v.resolvePlan .cached).value = .ok (a.planOn .cached) := by
      rw [Variant.value_resolvePlan, show v.validate? = .ok a from Variant.validate?_toVariant a]
    exact ⟨v, a.planOn .cached, hplan, rfl, (plan_reads_back.1 v .cached _ hplan).1⟩
  · let fields : Json := .object [("n", .integer (-7)), ("l", .list [.null]), ("n", .integer 7)]
    let assets : Json := .object [("asset_dir", .string "js"), ("js_files", strings []),
      ("wasm_files", strings []), ("type_decl_files", strings []), ("package_json_fields", fields)]
    let j : Json := .list [.list [], .list [], strings [], strings ["m", "m"], .string "l",
      .string "a", .string "l.a", strings [], strings [], strings [],
      strings ["b", "a//b", "./a", "a/b/"], assets, .object []]
    let p : BuildPlan := {
      dependencies := [], tools := [], artifact := ⟨"l", "a", "l.a", []⟩
      systemLibraries := .ofNames ["m"], layout := ⟨[], [], []⟩
      prunedPaths := .ofList [⟨"./a"⟩, ⟨"a//b"⟩, ⟨"b"⟩]
      assets := some ⟨"js", [], [], [], .ofList [("l", .list [.null]), ("n", .integer 7)]⟩
      cacheVariables := .empty }
    have hfields : Within Plain (maxDepth - 2) fields := by
      refine .object ?_
      simp only [List.forall_mem_cons]
      refine ⟨.scalar rfl rfl, .list fun i hi => ?_, .scalar rfl rfl, List.forall_mem_nil _⟩
      rw [List.mem_singleton.1 hi]
      exact .scalar rfl trivial
    have hassets : Within Plain (maxDepth - 1) assets := by
      refine .object ?_
      simp only [List.forall_mem_cons]
      exact ⟨within_string _, within_strings _, within_strings _, within_strings _, hfields,
        List.forall_mem_nil _⟩
    have hj : Within Plain maxDepth j := by
      refine .list ?_
      simp only [List.forall_mem_cons]
      exact ⟨within_strings [], within_strings [], within_strings _, within_strings _,
        within_string _, within_string _, within_string _, within_strings _, within_strings _,
        within_strings _, within_strings _, hassets, .object (List.forall_mem_nil _),
        List.forall_mem_nil _⟩
    have hp : (parse? j.compact).bind BuildPlan.ofJson? = some p := by
      rw [parse?_compact hj]
      rfl
    have hd : ∀ m ∈ p.assets, ∀ e ∈ m.packageFields.toList, e.2.hasDouble = false := by
      intro m hm
      obtain rfl := Option.some.inj hm
      exact List.forall_mem_cons.2 ⟨rfl, List.forall_mem_cons.2 ⟨rfl, List.forall_mem_nil _⟩⟩
    exact ⟨j, p, hp, (plan_reads_back.2.1 _ p hp hd).1, rfl, by decide⟩

end VariantPlan
