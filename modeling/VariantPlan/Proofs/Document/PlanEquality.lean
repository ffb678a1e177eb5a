import VariantPlan.Proofs.Document.Identity
import VariantPlan.Proofs.Document.Plan
import VariantPlan.Proofs.Json.Agreement
import VariantPlan.Proofs.Packaging.Headers
import VariantPlan.Proofs.Text.ByteOrder
import VariantPlan.Proofs.Tree.Spelling

/-!
# Plans that compare equal

Plans are compared part by part: the paths to prune by their components, the fields of the published
package as values, and everything else as it is. A document has the texts of the paths and the signs
of zeros, which a comparison does not see. Plans that compare equal are therefore written alike, and
have one fingerprint, only if they are spelled alike.

A plan is **normal** if its paths are in normal spelling and no zero in the fields has a sign. The
plans that compare equal to a plan have one normal form, and a resolved plan is its own.

Main results: `BuildPlan.toJson_injective`, `BuildPlan.same_iff_normalize_eq`,
`BuildPlan.Same.fingerprint_eq_iff` and `equal_plans_share_fingerprint`.
-/

namespace VariantPlan

open Json Function

/-! ## Documents -/

theorem AssetManifest.toJson_injective : Injective AssetManifest.toJson := by
  intro m n h
  simp only [toJson, Json.object.injEq, List.cons.injEq, Prod.mk.injEq, true_and, and_true] at h
  obtain ⟨hassetDir, hscripts, hmodules, hdeclarations, hfields⟩ := h
  have hread : ∀ m : SortedMap String Json, map? some (ofMap id m) = some m :=
    fun _ => map?_ofMap fun _ _ => rfl
  cases m
  cases n
  rw [AssetManifest.mk.injEq]
  exact ⟨Json.string.inj hassetDir, injective_of_read list?_strings hscripts,
    injective_of_read list?_strings hmodules, injective_of_read list?_strings hdeclarations,
    injective_of_read hread hfields⟩

theorem BuildPlan.toJson_injective : Injective BuildPlan.toJson := by
  intro p q h
  simp only [toJson, Json.object.injEq, List.cons.injEq, Prod.mk.injEq, true_and, and_true] at h
  obtain ⟨hdependencies, htools, hdefines, hlibraries, hname, hextension, hfile, hinclude,
    hlibrary, hbinary, hpaths, hassets, hcache⟩ := h
  have hrequirements : ∀ l : List Requirement,
      list? Requirement.ofJson? (.list (l.map Requirement.toJson)) = some l :=
    fun _ => list?_list fun r _ => r.ofJson?_toJson
  have hread : ∀ m : SortedMap String String, map? string? (ofMap .string m) = some m :=
    fun _ => map?_ofMap fun _ _ => rfl
  obtain ⟨_, _, ⟨_, _, _, _⟩, _, ⟨_, _, _⟩, _, _, _⟩ := p
  obtain ⟨_, _, ⟨_, _, _, _⟩, _, ⟨_, _, _⟩, _, _, _⟩ := q
  simp only [BuildPlan.mk.injEq, Artifact.mk.injEq, Layout.mk.injEq]
  exact ⟨injective_of_read hrequirements hdependencies, injective_of_read hrequirements htools,
    ⟨Json.string.inj hname, Json.string.inj hextension, Json.string.inj hfile,
      injective_of_read list?_strings hdefines⟩,
    injective_of_read NameSet.ofJson?_toJson hlibraries,
    ⟨injective_of_read list?_strings hinclude, injective_of_read list?_strings hlibrary,
      injective_of_read list?_strings hbinary⟩,
    injective_of_read PathSet.ofJson?_toJson hpaths,
    ofOption_injective AssetManifest.toJson_injective (fun _ h => by cases h) hassets,
    injective_of_read hread hcache⟩

/-! ## Comparison -/

/-- Two manifests compare equal. -/
structure AssetManifest.Same (m n : AssetManifest) : Prop where
  assetDir : m.assetDir = n.assetDir
  scripts : m.scripts = n.scripts
  modules : m.modules = n.modules
  declarations : m.declarations = n.declarations
  /-- The fields have the same keys, and values that compare equal. -/
  packageFields : List.Forall₂ (fun d e => d.1 = e.1 ∧ Json.Same d.2 e.2)
    m.packageFields.toList n.packageFields.toList

/-- Two plans compare equal. -/
structure BuildPlan.Same (p q : BuildPlan) : Prop where
  dependencies : p.dependencies = q.dependencies
  tools : p.tools = q.tools
  artifact : p.artifact = q.artifact
  systemLibraries : p.systemLibraries = q.systemLibraries
  layout : p.layout = q.layout
  /-- The paths have the same components, however they are spelled. -/
  prunedPaths : p.prunedPaths.Same q.prunedPaths
  assets : Option.Rel AssetManifest.Same p.assets q.assets
  cacheVariables : p.cacheVariables = q.cacheVariables

/-! ## Agreement of documents -/

namespace Json

theorem agree_strings {l m : List String} (h : l.length = m.length) :
    Agree (fun _ _ => True) (strings l) (strings m) := by
  refine .list (by rw [List.length_map, List.length_map, h]) fun p hp => ?_
  rw [List.zip_map] at hp
  obtain ⟨q, -, rfl⟩ := List.mem_map.1 hp
  exact .string trivial

theorem same_ofMap {m n : SortedMap String Json}
    (h : List.Forall₂ (fun d e => d.1 = e.1 ∧ Same d.2 e.2) m.toList n.toList) :
    Same (ofMap id m) (ofMap id n) := by
  have hkeys : m.toList.map Prod.fst = n.toList.map Prod.fst :=
    map_eq_map_iff_forall₂.2 (h.imp fun _ _ h => h.1)
  refine .object ?_ fun p hp => ?_
  · rw [List.map_map, List.map_map]
    exact hkeys
  · rw [List.zip_map] at hp
    obtain ⟨q, hq, rfl⟩ := List.mem_map.1 hp
    exact (List.forall₂_zip h hq).2

theorem agree_ofOption {α : Type} {related : α → α → Prop} {alike : String → String → Prop}
    {write : α → Json} (hw : ∀ a b, related a b → Agree alike (write a) (write b))
    {a b : Option α} (h : Option.Rel related a b) :
    Agree alike (ofOption write a) (ofOption write b) := by
  cases h with
  | none => exact .refl _
  | some h => exact hw _ _ h

end Json

theorem AssetManifest.Same.toJson {m n : AssetManifest} (h : m.Same n) :
    Json.Same m.toJson n.toJson := by
  refine .object rfl ?_
  simp only [List.zip_cons_cons, List.forall_mem_cons, List.zip_nil_left, h.assetDir, h.scripts,
    h.modules, h.declarations]
  exact ⟨.refl _, .refl _, .refl _, .refl _, same_ofMap h.packageFields, List.forall_mem_nil _⟩

namespace BuildPlan

variable {p q : BuildPlan}

/-- Plans that compare equal have documents that agree but for texts. -/
theorem Same.toJson (h : p.Same q) : Agree (fun _ _ => True) p.toJson q.toJson := by
  have hpaths : Agree (fun _ _ => True) p.prunedPaths.toJson q.prunedPaths.toJson :=
    agree_strings (by rw [List.length_map, List.length_map, h.prunedPaths.length_eq])
  have hassets : Agree (fun _ _ => True) (ofOption AssetManifest.toJson p.assets)
      (ofOption AssetManifest.toJson q.assets) :=
    agree_ofOption (fun _ _ hsame => hsame.toJson.mono fun _ _ _ => trivial) h.assets
  refine .object rfl ?_
  simp only [List.zip_cons_cons, List.forall_mem_cons, List.zip_nil_left, h.dependencies, h.tools,
    h.artifact, h.systemLibraries, h.layout, h.cacheVariables]
  exact ⟨.refl _, .refl _, .refl _, .refl _, .refl _, .refl _, .refl _, .refl _, .refl _, .refl _,
    hpaths, hassets, .refl _, List.forall_mem_nil _⟩

/-- The compact texts of plans that compare equal tell them apart. -/
theorem Same.compact_eq_iff (h : p.Same q) : p.toJson.compact = q.toJson.compact ↔ p = q :=
  ⟨fun htext => toJson_injective (h.toJson.eq_of_compact_eq htext), fun heq => by rw [heq]⟩

/-- **Plans that compare equal have one fingerprint only if they are spelled alike**, or if the
digests of their texts begin alike. -/
theorem Same.fingerprint_eq_iff (h : p.Same q) : p.fingerprint = q.fingerprint ↔
    p = q ∨ Digest.Collide p.toJson.compact q.toJson.compact := by
  rw [fingerprint, fingerprint, VariantPlan.fingerprint_eq_iff, h.compact_eq_iff]

end BuildPlan

/-! ## Normal forms -/

namespace AssetManifest

/-- The manifest with the normal forms of the fields. -/
def normalize (m : AssetManifest) : AssetManifest :=
  { m with packageFields := m.packageFields.map Json.normalize }

theorem same_iff_normalize_eq {m n : AssetManifest} : m.Same n ↔ m.normalize = n.normalize := by
  have hfields : m.packageFields.map Json.normalize = n.packageFields.map Json.normalize ↔
      List.Forall₂ (fun d e => d.1 = e.1 ∧ Json.Same d.2 e.2)
        m.packageFields.toList n.packageFields.toList := by
    rw [SortedMap.map, SortedMap.map, SortedMap.mk.injEq, map_eq_map_iff_forall₂]
    simp only [Prod.mk.injEq, Json.same_iff_normalize_eq, SortedMap.toList]
  simp only [normalize, mk.injEq, hfields]
  constructor
  · intro h
    exact ⟨h.assetDir, h.scripts, h.modules, h.declarations, h.packageFields⟩
  · rintro ⟨hassetDir, hscripts, hmodules, hdeclarations, hsame⟩
    exact ⟨hassetDir, hscripts, hmodules, hdeclarations, hsame⟩

/-- No zero in the fields has a sign. -/
def IsNormal (m : AssetManifest) : Prop := ∀ e ∈ m.packageFields.toList, e.2.normalize = e.2

theorem isNormal_normalize (m : AssetManifest) : m.normalize.IsNormal := by
  intro e he
  obtain ⟨d, -, rfl⟩ := List.mem_map.1 he
  exact d.2.normalize_normalize

theorem IsNormal.normalize_eq {m : AssetManifest} (h : m.IsNormal) : m.normalize = m := by
  have hfields : m.packageFields.map Json.normalize = m.packageFields := by
    have hentries : ∀ e ∈ m.packageFields.toList, (e.1, e.2.normalize) = e :=
      fun e he => congrArg (Prod.mk e.1) (h e he)
    cases m
    rw [SortedMap.map, SortedMap.mk.injEq]
    exact (List.map_congr_left hentries).trans (List.map_id' _)
  rw [normalize, hfields]

theorem isNormal_ofBindings : ofBindings.IsNormal := by
  intro e he
  have he := SortedMap.mem_of_mem_ofList he
  simp only [List.mem_cons, List.not_mem_nil, or_false] at he
  rcases he with rfl | rfl | rfl | rfl | rfl | rfl <;> rfl

end AssetManifest

namespace BuildPlan

/-- The plan with its paths in normal spelling and the normal forms of the fields. -/
def normalize (p : BuildPlan) : BuildPlan :=
  { p with
    prunedPaths := p.prunedPaths.normalize
    assets := p.assets.map AssetManifest.normalize }

/-- The paths are in normal spelling, and no zero in the fields of the package has a sign. -/
def IsNormal (p : BuildPlan) : Prop :=
  (∀ path ∈ p.prunedPaths.toList, path.normalize = path) ∧ ∀ m ∈ p.assets, m.IsNormal

variable {p q : BuildPlan}

/-- **Plans compare equal if and only if they have one normal form.** -/
theorem same_iff_normalize_eq : p.Same q ↔ p.normalize = q.normalize := by
  have hassets : p.assets.map AssetManifest.normalize = q.assets.map AssetManifest.normalize ↔
      Option.Rel AssetManifest.Same p.assets q.assets := by
    cases p.assets <;> cases q.assets <;> simp [AssetManifest.same_iff_normalize_eq]
  simp only [normalize, mk.injEq, PathSet.normalize_eq_iff, hassets]
  constructor
  · intro h
    exact ⟨h.dependencies, h.tools, h.artifact, h.systemLibraries, h.layout, h.prunedPaths,
      h.assets, h.cacheVariables⟩
  · rintro ⟨hdependencies, htools, hartifact, hlibraries, hlayout, hpaths, hassets, hcache⟩
    exact ⟨hdependencies, htools, hartifact, hlibraries, hlayout, hpaths, hassets, hcache⟩

theorem same_of_prunedPaths {s : PathSet} (h : p.prunedPaths.Same s) :
    p.Same { p with prunedPaths := s } := by
  rw [same_iff_normalize_eq]
  exact congrArg (fun t => { p.normalize with prunedPaths := t }) (PathSet.normalize_eq_iff.2 h)

theorem isNormal_normalize (p : BuildPlan) : p.normalize.IsNormal := by
  constructor
  · intro path hpath
    obtain ⟨r, -, rfl⟩ := List.mem_map.1 hpath
    exact r.normalize_normalize
  · intro m hm
    obtain ⟨n, -, rfl⟩ := Option.map_eq_some_iff.1 hm
    exact n.isNormal_normalize

theorem IsNormal.normalize_eq (h : p.IsNormal) : p.normalize = p := by
  have hassets : p.assets.map AssetManifest.normalize = p.assets :=
    (Option.map_congr fun m hm => (h.2 m hm).normalize_eq).trans (congrFun Option.map_id _)
  rw [normalize, PathSet.normalize_eq_self h.1, hassets]

theorem isNormal_planOn (a : ValidVariant) (host : Host) : (a.planOn host).IsNormal := by
  constructor
  · intro path hpath
    obtain ⟨names, hunselected, rfl⟩ := Variant.mem_prunedPaths.1 hpath
    exact Path.normalize_ofNames hunselected.isEntryName
  · intro m hm
    obtain rfl := eq_ofBindings_of_mem_assets hm
    exact AssetManifest.isNormal_ofBindings

end BuildPlan

/-! ## Fingerprints -/

/-- A fingerprint is worked out character by character. -/
theorem fingerprint_eq_ofList (j : Json) : j.fingerprint = String.ofList ((Digest.hexText
    (Digest.sha256 (j.compactText.flatMap String.utf8EncodeChar))).take fingerprintLength) := by
  have hbytes : j.compact.toUTF8.data.toList =
      j.compactText.flatMap String.utf8EncodeChar := by
    rw [← Text.bytes, Text.bytes_eq_flatMap, Json.compact, String.toList_ofList]
  rw [Json.fingerprint, Digest.ofText, Digest.ofBytes, hbytes, String.toList_ofList]

/-- **Plans that compare equal have one fingerprint if they are normal.** A resolved plan is normal,
and every plan compares equal to its normal form, which is normal. Whether they are normal or not,
plans that compare equal have one fingerprint if and only if they are spelled alike or the digests
of their texts begin alike. -/
theorem equal_plans_share_fingerprint (p q : BuildPlan) :
    (p.Same q → p.IsNormal → q.IsNormal → p.fingerprint = q.fingerprint) ∧
    (∀ (v : Variant) (host : Host), (v.resolvePlan host).value = .ok p → p.IsNormal) ∧
    (p.Same p.normalize ∧ p.normalize.IsNormal) ∧
    (p.Same q → (p.fingerprint = q.fingerprint ↔
      p = q ∨ Digest.Collide p.toJson.compact q.toJson.compact)) := by
  refine ⟨fun h hp hq => ?_, fun v host h => ?_, ?_, BuildPlan.Same.fingerprint_eq_iff⟩
  · have heq := BuildPlan.same_iff_normalize_eq.1 h
    rw [hp.normalize_eq, hq.normalize_eq] at heq
    rw [heq]
  · obtain ⟨a, -, rfl⟩ := exists_of_resolvePlan_ok h
    exact BuildPlan.isNormal_planOn a host
  · have hnormal := p.isNormal_normalize
    exact ⟨BuildPlan.same_iff_normalize_eq.2 hnormal.normalize_eq.symm, hnormal⟩

/-- A resolved plan compares equal to the one with a slash at the end of every path. The normal form
of that one has the fingerprint of the resolved plan. -/
theorem equal_plans_share_fingerprint_slashes :
    ∃ (v : Variant) (p q : BuildPlan), (v.resolvePlan .cached).value = .ok p ∧ p.Same q ∧
      p ≠ q ∧ p.fingerprint = q.normalize.fingerprint ∧
      (p.fingerprint = q.fingerprint ↔ Digest.Collide p.toJson.compact q.toJson.compact) := by
  let v : Variant := { Variant.sample with
    geometry := .boost, threading := .omp, shared := false, fpic := .enabled, jsBindings := true,
    tests := true }
  let a : ValidVariant := ⟨v, by decide, rfl⟩
  let p : BuildPlan := a.planOn .cached
  let slashed : PathSet := .ofList [⟨"include/libnest2d/backends/clipper/"⟩,
    ⟨"include/libnest2d/backends/eigen/"⟩, ⟨"include/libnest2d/optimizers/optimlib/"⟩]
  let q : BuildPlan := { p with prunedPaths := slashed }
  have hplan : (v.resolvePlan .cached).value = .ok p := by
    rw [Variant.value_resolvePlan, show v.validate? = .ok a from Variant.validate?_toVariant a]
  have hne : p ≠ q := by
    intro h
    have hpaths : v.prunedPaths = slashed := congrArg BuildPlan.prunedPaths h
    revert hpaths
    decide +kernel
  have hpaths : v.prunedPaths.Same slashed := by
    unfold PathSet.Same
    decide +kernel
  have hsame : p.Same q := BuildPlan.same_of_prunedPaths hpaths
  have hp : p.IsNormal := (equal_plans_share_fingerprint p q).2.1 v .cached hplan
  obtain ⟨hnormal, hq⟩ := (equal_plans_share_fingerprint q q).2.2.1
  have hboth : p.Same q.normalize := by
    rw [BuildPlan.same_iff_normalize_eq] at hsame hnormal ⊢
    exact hsame.trans hnormal
  refine ⟨v, p, q, hplan, hsame, hne, ?_, ?_⟩
  · exact (equal_plans_share_fingerprint p q.normalize).1 hboth hp hq
  · rw [(equal_plans_share_fingerprint p q).2.2.2 hsame, or_iff_right hne]

/-- Two plans that were read, one to prune the path "a" and the other "a/", compare equal but have
two fingerprints. -/
theorem respelled_path_changes_fingerprint :
    ∃ (s t : String) (p q : BuildPlan), (parse? s).bind BuildPlan.ofJson? = some p ∧
      (parse? t).bind BuildPlan.ofJson? = some q ∧ p.prunedPaths.toList = [⟨"a"⟩] ∧
      q.prunedPaths.toList = [⟨"a/"⟩] ∧ p.Same q ∧ p.fingerprint ≠ q.fingerprint := by
  let plan (path : String) : BuildPlan :=
    { BuildPlan.empty with prunedPaths := .ofList [⟨path⟩] }
  have hread : ∀ path, (parse? (plan path).toJson.compact).bind BuildPlan.ofJson? =
      some (plan path) := fun path => BuildPlan.parse?_text fun m hm => by cases hm
  have hpaths : (plan "a").prunedPaths.Same (plan "a/").prunedPaths :=
    .cons (by decide) .nil
  refine ⟨_, _, plan "a", plan "a/", hread "a", hread "a/", rfl, rfl,
    BuildPlan.same_of_prunedPaths hpaths, fun h => ?_⟩
  rw [BuildPlan.fingerprint, BuildPlan.fingerprint, fingerprint_eq_ofList, fingerprint_eq_ofList,
    String.ofList_inj] at h
  -- What is left are two digests of short texts, which are worked out.
  revert h
  decide +kernel

end VariantPlan
