import Mathlib.Data.Finset.Card
import VariantPlan.Proofs.Packaging.Headers
import VariantPlan.Proofs.Packaging.Scanning

/-!
# Collecting from a tree

What is collected from a tree can be read off the tree: the files at or below the directory of the
bindings whose path ends in a known extension, each with the digest of its content. They are held
against the three files that a plan with bindings predicts. The paths that a scan tells differ from
file to file, so the map that is made of what it found has all of it.

Main results: `missing?_kept` (the first predicted file that is missing), and `collecting_is_exact`
(the outcome of collecting by what stands in the tree).
-/

namespace VariantPlan

variable {t : FileTree} {root : Path} {dir : Location}

/-! ## Generated files -/

/-- A generated file: names that go to the directory of the bindings or through it, and lead to a
file whose path ends in a known extension. -/
def FileTree.IsGeneratedAt (t : FileTree) (dir names : Location) (content : List UInt8) : Prop :=
  [Product.assetDir] <+: names ∧ t.entryAt? (dir ++ names) = some (.file content) ∧
    ∃ suffix ∈ [".js", ".wasm", ".d.ts"], suffix.toList <:+ (FileTree.locationText names).toList

theorem FileTree.isGeneratedAt_iff {names : Location} {content : List UInt8} :
    t.IsGeneratedAt dir names content ↔ [Product.assetDir] <+: names ∧
      t.entryAt? (dir ++ names) = some (.file content) ∧
      isGenerated (FileTree.locationText names) = true := by
  rw [isGenerated_iff]
  exact Iff.rfl

theorem isEntryName_assetDir : Path.IsEntryName Product.assetDir := by decide

/-! ## Collecting -/

/-- Scan a tree, which stays as it is. -/
def scanIn (root : Path) (dir : String) : StateM FileTree CollectOutcome := fun t =>
  (t.scan root dir, t)

/-- Collect the generated files of a plan from a tree. -/
def BuildPlan.collectTree (plan : BuildPlan) (root : Path) (t : FileTree) :
    CollectOutcome × FileTree :=
  plan.collect scanIn root t

/-- The names that lead from the root to the files that a plan with bindings predicts. -/
def predictedAssets : List Location :=
  ["js", "wasm", "d.ts"].map fun extension => [Product.assetDir, "libnest2d_js." ++ extension]

theorem expectedFiles_ofBindings :
    AssetManifest.ofBindings.expectedFiles = predictedAssets.map FileTree.locationText := by
  decide

theorem snd_collectTree (plan : BuildPlan) (root : Path) (t : FileTree) :
    (plan.collectTree root t).2 = t := by
  unfold BuildPlan.collectTree BuildPlan.collect
  cases plan.assets <;> rfl

theorem collectTree_of_assets {plan : BuildPlan} {manifest : AssetManifest}
    (h : plan.assets = some manifest) (root : Path) (t : FileTree) :
    (plan.collectTree root t).1 = (do
      match ← t.scan root manifest.assetDir with
      | .ok found => manifest.check found
      | .error e => return .error e) := by
  unfold BuildPlan.collectTree BuildPlan.collect
  rw [h]
  rfl

theorem collectTree_eq_error_iff {plan : BuildPlan} {manifest : AssetManifest}
    (h : plan.assets = some manifest) :
    (∃ path cause, (plan.collectTree root t).1.value = .error (.scan path cause)) ↔
      ∃ path cause, (t.scan root manifest.assetDir).value = .error (.scan path cause) := by
  rw [collectTree_of_assets h, Logged.value_bind]
  cases (t.scan root manifest.assetDir).value with
  | error e => exact Iff.rfl
  | ok found =>
    constructor
    · rintro ⟨path, cause, hcheck⟩
      change (manifest.check found).value = _ at hcheck
      unfold AssetManifest.check at hcheck
      split at hcheck
      next => cases hcheck
      next => cases hcheck
    · rintro ⟨path, cause, hscan⟩
      cases hscan

/-! ## Holding what was found against the prediction -/

section Kept

variable {kept : List (Location × List UInt8)}
  (hnames : ∀ f ∈ kept, ∀ name ∈ f.1, Path.IsEntryName name)
  (hnodup : (kept.map Prod.fst).Nodup)

include hnames hnodup

theorem nodup_assetOf : ((kept.map FileTree.assetOf).map Prod.fst).Nodup := by
  have htexts : (kept.map FileTree.assetOf).map Prod.fst =
      (kept.map Prod.fst).map FileTree.locationText := by
    rw [List.map_map, List.map_map]
    rfl
  have hentries : ∀ names ∈ kept.map Prod.fst, ∀ name ∈ names, Path.IsEntryName name := by
    intro names hmem
    obtain ⟨f, hf, rfl⟩ := List.mem_map.1 hmem
    exact hnames f hf
  rw [htexts]
  exact hnodup.map_on fun names hmem names' hmem' heq =>
    Path.ofNames_injective (hentries names hmem) (hentries names' hmem') (congrArg Path.mk heq)

theorem get?_kept {path digest : String} :
    (SortedMap.ofList (kept.map FileTree.assetOf)).get? path = some digest ↔
      ∃ names content, (names, content) ∈ kept ∧ path = FileTree.locationText names ∧
        digest = Digest.ofBytes content := by
  rw [SortedMap.get?_ofList_eq_some_iff (nodup_assetOf hnames hnodup)]
  simp [FileTree.assetOf, eq_comm (a := path), eq_comm (a := digest)]

/-- The first predicted file that was not found, by the names of what was kept. -/
theorem missing?_kept : AssetManifest.ofBindings.missing? (.ofList (kept.map FileTree.assetOf)) =
    (predictedAssets.find? (· ∉ (kept.map Prod.fst).toFinset)).map FileTree.locationText := by
  have hpredicted : ∀ names ∈ predictedAssets, ∀ name ∈ names, Path.IsEntryName name := by decide
  rw [AssetManifest.missing?, expectedFiles_ofBindings, List.find?_map]
  -- The first of a list with a property is the head of those that have it.
  rw [← List.head?_filter, ← List.head?_filter]
  congr 2
  refine List.filter_congr fun names hmem => ?_
  have hentries := hpredicted names hmem
  have hcontains :
      (SortedMap.ofList (kept.map FileTree.assetOf)).contains (FileTree.locationText names) =
        true ↔ names ∈ kept.map Prod.fst := by
    rw [SortedMap.contains, Option.isSome_iff_exists]
    simp only [get?_kept hnames hnodup, List.mem_map]
    constructor
    · rintro ⟨digest, names', content, hkept, htext, -⟩
      have heq : names = names' :=
        Path.ofNames_injective hentries (hnames _ hkept) (congrArg Path.mk htext)
      exact ⟨(names', content), hkept, heq.symm⟩
    · rintro ⟨f, hf, rfl⟩
      exact ⟨_, f.1, f.2, hf, rfl, rfl⟩
  rw [Function.comp_apply, Bool.eq_iff_iff, Bool.not_eq_true', ← Bool.not_eq_true, hcontains,
    decide_eq_true_iff, List.mem_toFinset]

end Kept

/-! ## The outcome -/

/-- The outcome that generated files at the given names call for: all of them with their digests,
and a warning if there are more than predicted; or the first predicted one that is not there. -/
def IsCollected (t : FileTree) (dir : Location) (files : Finset Location)
    (outcome : CollectOutcome) : Prop :=
  match predictedAssets.find? (· ∉ files) with
  | some names => outcome.value = .error (.missingAsset (FileTree.locationText names)) ∧
      outcome.events.filter Event.isWarning = []
  | none =>
    (∃ found, outcome.value = .ok found ∧ ∀ path digest, found.get? path = some digest ↔
      ∃ names content, t.IsGeneratedAt dir names content ∧ path = FileTree.locationText names ∧
        digest = Digest.ofBytes content) ∧
    outcome.events.filter Event.isWarning =
      if 3 < files.card then [AssetManifest.extraEvent (files.card - 3)] else []

/-- Where something stands in the place of the bindings, the outcome is the one that the generated
files call for. -/
theorem exists_isCollected (ht : t.IsPlainBelow dir) (hroot : t.LeadsTo root dir)
    (hfault : (root.join ⟨Product.assetDir⟩).fault? = none)
    (h : (t.entryAt? (dir ++ [Product.assetDir])).isSome = true)
    (hopen : t.CanOpen root dir Product.assetDir) {plan : BuildPlan}
    (hassets : plan.assets = some .ofBindings) :
    ∃ files : Finset Location, (∀ names, names ∈ files ↔
        ∃ content, t.IsGeneratedAt dir names content) ∧
      IsCollected t dir files (plan.collectTree root t).1 := by
  obtain ⟨kept, hscan, hnodup, hkept⟩ :=
    FileTree.scan_of_canOpen isEntryName_assetDir (by decide) ht hroot hfault h hopen
  have hmem (names : Location) (content : List UInt8) :
      (names, content) ∈ kept ↔ t.IsGeneratedAt dir names content :=
    (hkept names content).trans FileTree.isGeneratedAt_iff.symm
  have hnames : ∀ f ∈ kept, ∀ name ∈ f.1, Path.IsEntryName name := by
    intro f hf
    exact ht.names _ _ ((hmem f.1 f.2).1 hf).2.1
  refine ⟨(kept.map Prod.fst).toFinset, fun names => ?_, ?_⟩
  · simp [hmem]
  · have hquiet : (((kept.map FileTree.assetOf).map fun f => foundEvent f.1 f.2).filter
        Event.isWarning) = [] := by
      refine List.filter_eq_nil_iff.2 fun e he => ?_
      obtain ⟨f, -, rfl⟩ := List.mem_map.1 he
      exact Bool.false_ne_true
    have hcard : (kept.map Prod.fst).toFinset.card = kept.length := by
      rw [List.toFinset_card_of_nodup hnodup, List.length_map]
    have hsize : (SortedMap.ofList (kept.map FileTree.assetOf)).size = kept.length := by
      rw [SortedMap.size_ofList (nodup_assetOf hnames hnodup), List.length_map]
    have hexpected : AssetManifest.ofBindings.expectedFiles.length = 3 := rfl
    have hdir : AssetManifest.ofBindings.assetDir = Product.assetDir := rfl
    rw [IsCollected, collectTree_of_assets hassets, hdir, hscan, Logged.value_bind,
      Logged.events_bind, List.filter_append, hquiet, List.nil_append]
    dsimp only
    rw [AssetManifest.check, missing?_kept hnames hnodup, hsize, hexpected]
    cases hfind : predictedAssets.find? (· ∉ (kept.map Prod.fst).toFinset) with
    | some names => exact ⟨rfl, rfl⟩
    | none =>
      refine ⟨⟨_, rfl, fun path digest => ?_⟩, ?_⟩
      · rw [get?_kept hnames hnodup]
        simp only [hmem]
      · dsimp only [Option.map]
        rw [hcard]
        by_cases hextra : 3 < kept.length
        · rw [if_neg (by omega), if_pos hextra]
          rfl
        · rw [if_pos (by omega), if_neg hextra]
          rfl

theorem assets_planOn {v : ValidVariant} (host : Host)
    (h : v.headerOnly = false ∧ (v.system = .emscripten ∨ v.jsBindings = true)) :
    (v.planOn host).assets = some .ofBindings := by
  show v.toVariant.assets? = _
  rw [Variant.assets?, Variant.generatesAssets]
  obtain ⟨hcompiled, hweb⟩ := h
  rw [hcompiled]
  rcases hweb with hweb | hweb <;> simp [hweb]

/-- **Collecting is exact.** Take a valid variant and a tree in which the contents of the directory
that the root leads to, if it leads to one, are plain. Collecting leaves the tree as it is.

* If the variant is compiled and for the web, or compiled with bindings, collecting fails to scan
  if nothing stands in the place of the bindings, or if a directory or a file with a known extension
  there or below is not admitted by the root, and only then. Otherwise the outcome is decided by the
  files there or below whose path from the root ends in a known extension: their digests by their
  paths, and a warning of those beyond the three predicted ones; or the first predicted file that is
  missing.
* Every other variant collects nothing, whatever the tree. -/
theorem collecting_is_exact (v : ValidVariant) (host : Host) (t : FileTree) (root : Path)
    (ht : ∀ dir, t.LeadsTo root dir → t.IsPlainBelow dir) :
    ∃ plan, (v.toVariant.resolvePlan host).value = .ok plan ∧ (plan.collectTree root t).2 = t ∧
      (v.headerOnly = false ∧ (v.system = .emscripten ∨ v.jsBindings = true) →
        ((∃ path cause, (plan.collectTree root t).1.value = .error (.scan path cause)) ↔
          ¬t.Holds root Product.assetDir ∨
            ∃ dir, t.LeadsTo root dir ∧ ¬t.CanOpen root dir Product.assetDir) ∧
        ∀ dir, t.LeadsTo root dir → t.Holds root Product.assetDir →
          t.CanOpen root dir Product.assetDir →
          ∃ files : Finset Location,
            (∀ names, names ∈ files ↔ ∃ content, t.IsGeneratedAt dir names content) ∧
            IsCollected t dir files (plan.collectTree root t).1) ∧
      (v.headerOnly = true ∨ v.system ≠ .emscripten ∧ v.jsBindings = false →
        (plan.collectTree root t).1 = pure (.ok .empty)) := by
  have hplan : (v.toVariant.resolvePlan host).value = .ok (v.planOn host) := by
    rw [Variant.value_resolvePlan, Variant.validate?_toVariant]
  refine ⟨v.planOn host, hplan, snd_collectTree _ root t, fun hgenerates => ?_, fun hnone => ?_⟩
  · have hassets := assets_planOn host hgenerates
    refine ⟨?_, fun dir hroot hholds hopen => ?_⟩
    · exact (collectTree_eq_error_iff hassets).trans
        (FileTree.scan_eq_error_iff isEntryName_assetDir (by decide) ht)
    · obtain ⟨dir', hroot', hfault, hentry⟩ := hholds
      obtain rfl := hroot.unique hroot'
      exact exists_isCollected (ht _ hroot) hroot hfault hentry hopen hassets
  · have hassets : (v.planOn host).assets = none := Variant.assets?_eq_none_iff.2 hnone
    exact congrArg Prod.fst (congrFun (collect_of_no_assets hassets scanIn root) t)

/-! ## Roots with long spellings -/

/-- A path with the directory itself named before it a number of times. -/
def Path.dotted (p : Path) : Nat → Path
  | 0 => p
  | n + 1 => (⟨"."⟩ : Path).join (p.dotted n)

section Dotted

variable {p q : Path} (hp : p.isAbsolute = false)

include hp

theorem isAbsolute_dotted (n : Nat) : (p.dotted n).isAbsolute = false := by
  induction n with
  | zero => exact hp
  | succ n ih => exact Path.isAbsolute_join ih

theorem text_dotted_succ (n : Nat) : (p.dotted (n + 1)).text = "./" ++ (p.dotted n).text := by
  rw [Path.dotted, Path.join, isAbsolute_dotted hp n]
  rfl

theorem text_dotted_ne_empty (htext : p.text ≠ "") (n : Nat) : (p.dotted n).text ≠ "" := by
  cases n with
  | zero => exact htext
  | succ n =>
    rw [text_dotted_succ hp]
    simp

theorem size_dotted (n : Nat) :
    (p.dotted n).text.utf8ByteSize = 2 * n + p.text.utf8ByteSize := by
  induction n with
  | zero => simp [Path.dotted]
  | succ n ih =>
    have hdot : "./".utf8ByteSize = 2 := rfl
    rw [text_dotted_succ hp, String.utf8ByteSize_append, ih, hdot]
    omega

theorem dotted_join (htext : p.text ≠ "") (hq : q.isAbsolute = false) (n : Nat) :
    (p.dotted n).join q = (p.join q).dotted n := by
  induction n with
  | zero => rfl
  | succ n ih =>
    rw [Path.dotted, Path.join_assoc (isAbsolute_dotted hp n) (text_dotted_ne_empty hp htext n) hq,
      ih, Path.dotted]

theorem fault?_dotted (hnul : p.hasNul = false) (htext : p.text ≠ "") (n : Nat) :
    (p.dotted n).fault? = if maxPathSize < 2 * n + p.text.utf8ByteSize
      then some (.ofKind .invalidFilename) else none := by
  have hnul : (p.dotted n).hasNul = false := by
    induction n with
    | zero => exact hnul
    | succ n ih =>
      rw [Path.hasNul, text_dotted_succ hp, String.toList_append]
      simpa [Path.hasNul] using ih
  rw [Path.fault?, hnul, size_dotted hp]
  simp [text_dotted_ne_empty hp htext n]

theorem leadsTo_dotted (h : t.LeadsTo p dir) (n : Nat) : t.LeadsTo (p.dotted n) dir := by
  induction n with
  | zero => exact h
  | succ n ih =>
    have hdot (name : String) : Component.current ≠ .entry name := Component.noConfusion
    have hparts : (p.dotted (n + 1)).parts = .current :: (p.dotted n).parts :=
      Path.parts_join (isAbsolute_dotted hp n)
    have hstart : (p.dotted (n + 1)).startFrom t.workingDir =
        (p.dotted n).startFrom t.workingDir := by
      rw [Path.startFrom, Path.startFrom, isAbsolute_dotted hp, isAbsolute_dotted hp]
    refine ⟨?_, h.directory⟩
    rw [hparts, hstart, List.map_cons, FileTree.walk_special hdot]
    exact ih.walk

end Dotted

/-- All predicted files stand there and can be opened. A further one cannot, because the spelling of
the root makes its path too long. -/
theorem collecting_through_long_root :
    ∃ (v : ValidVariant) (plan : BuildPlan) (t : FileTree) (root : Path),
      v.headerOnly = false ∧ v.system = .emscripten ∧
      (v.toVariant.resolvePlan .cached).value = .ok plan ∧
      (∀ dir, t.LeadsTo root dir → t.IsPlainBelow dir) ∧ t.LeadsTo root ["pkg"] ∧
      t.Holds root Product.assetDir ∧
      (∀ names ∈ predictedAssets, ∃ content, t.IsGeneratedAt ["pkg"] names content) ∧
      ∃ path cause, (plan.collectTree root t).1.value = .error (.scan path cause) := by
  let v : Variant := { Variant.sample with
    threading := .none, shared := false, system := .emscripten,
    compiler := ⟨"clang", .release 17 0 0, none⟩ }
  let valid : ValidVariant := ⟨v, by decide, rfl⟩
  let worker := "libnest2d_js.worker.debug.js"
  let t : FileTree := FileTree.empty.placeAll [
    (["pkg"], .directory), (["pkg", "libnest2d_js"], .directory),
    (["pkg", "libnest2d_js", "libnest2d_js.js"], .file [1]),
    (["pkg", "libnest2d_js", "libnest2d_js.wasm"], .file [2]),
    (["pkg", "libnest2d_js", "libnest2d_js.d.ts"], .file [3]),
    (["pkg", "libnest2d_js", worker], .file [4])]
  let root : Path := (⟨"pkg"⟩ : Path).dotted 2026
  have ht (dir : Location) (_ : t.LeadsTo root dir) : t.IsPlainBelow dir :=
    (FileTree.linkFree_placeAll (by decide) FileTree.linkFree_empty).isPlainBelow
      (FileTree.wellNamed_placeAll (by decide) FileTree.wellNamed_empty) dir
  have hpkg : (⟨"pkg"⟩ : Path).isAbsolute = false := by decide
  have hroot : t.LeadsTo root ["pkg"] :=
    leadsTo_dotted hpkg ⟨by decide +kernel, by decide +kernel⟩ 2026
  have hholds : t.Holds root Product.assetDir := by
    refine ⟨["pkg"], hroot, ?_, by decide +kernel⟩
    rw [dotted_join hpkg (by decide) (by decide), fault?_dotted (by decide) (by decide) (by decide)]
    decide
  have hopen : ¬t.CanOpen root ["pkg"] Product.assetDir := by
    intro h
    have hfault := (h [worker] (.file [4]) (by decide +kernel)
      (.inr ⟨".js", by decide, by decide⟩)).fault
    rw [dotted_join hpkg (by decide) (by decide),
      fault?_dotted (by decide) (by decide) (by decide)] at hfault
    revert hfault
    decide
  have hassets : (valid.planOn .cached).assets = some .ofBindings :=
    assets_planOn .cached ⟨rfl, .inl rfl⟩
  refine ⟨valid, valid.planOn .cached, t, root, rfl, rfl, ?_, ht, hroot, hholds, ?_, ?_⟩
  · rw [Variant.value_resolvePlan, Variant.validate?_toVariant]
  · simp only [predictedAssets, List.forall_mem_map, List.forall_mem_cons]
    exact ⟨⟨[1], FileTree.isGeneratedAt_iff.2 (by decide +kernel)⟩,
      ⟨[2], FileTree.isGeneratedAt_iff.2 (by decide +kernel)⟩,
      ⟨[3], FileTree.isGeneratedAt_iff.2 (by decide +kernel)⟩, List.forall_mem_nil _⟩
  · exact (collectTree_eq_error_iff hassets).2 ((FileTree.scan_eq_error_iff isEntryName_assetDir
      (by decide) ht).2 (.inr ⟨["pkg"], hroot, hopen⟩))

/-- A file further down counts by its extension, and another one beside it does not. -/
theorem collecting_is_exact_nested :
    ∃ (v : ValidVariant) (plan : BuildPlan) (t : FileTree) (found : AssetDigests),
      v.headerOnly = false ∧ v.system = .emscripten ∧
      (v.toVariant.resolvePlan .cached).value = .ok plan ∧
      (∀ dir, t.LeadsTo ⟨"pkg/"⟩ dir → t.IsPlainBelow dir) ∧
      t.entryAt? ["pkg", "libnest2d_js", "a.js", "notes.txt"] = some (.file [5]) ∧
      (plan.collectTree ⟨"pkg/"⟩ t).1.value = .ok found ∧
      found.get? "libnest2d_js/a.js/b.js" = some (Digest.ofBytes [4]) ∧
      found.get? "libnest2d_js/a.js/notes.txt" = none ∧
      (plan.collectTree ⟨"pkg/"⟩ t).1.events.filter Event.isWarning =
        [AssetManifest.extraEvent 1] := by
  let v : Variant := { Variant.sample with
    threading := .none, shared := false, system := .emscripten,
    compiler := ⟨"clang", .release 17 0 0, none⟩ }
  let valid : ValidVariant := ⟨v, by decide, rfl⟩
  let t : FileTree := FileTree.empty.placeAll [
    (["pkg"], .directory), (["pkg", "libnest2d_js"], .directory),
    (["pkg", "libnest2d_js", "libnest2d_js.js"], .file [1]),
    (["pkg", "libnest2d_js", "libnest2d_js.wasm"], .file [2]),
    (["pkg", "libnest2d_js", "libnest2d_js.d.ts"], .file [3]),
    (["pkg", "libnest2d_js", "a.js"], .directory),
    (["pkg", "libnest2d_js", "a.js", "b.js"], .file [4]),
    (["pkg", "libnest2d_js", "a.js", "notes.txt"], .file [5])]
  have ht (dir : Location) (_ : t.LeadsTo ⟨"pkg/"⟩ dir) : t.IsPlainBelow dir :=
    (FileTree.linkFree_placeAll (by decide) FileTree.linkFree_empty).isPlainBelow
      (FileTree.wellNamed_placeAll (by decide) FileTree.wellNamed_empty) dir
  have hroot : t.LeadsTo ⟨"pkg/"⟩ ["pkg"] := ⟨by decide +kernel, by decide +kernel⟩
  have hholds : t.Holds ⟨"pkg/"⟩ Product.assetDir :=
    ⟨["pkg"], hroot, by decide, by decide +kernel⟩
  obtain ⟨plan, hplan, -, hcollect, -⟩ := collecting_is_exact valid .cached t ⟨"pkg/"⟩ ht
  have hopen : t.CanOpen ⟨"pkg/"⟩ ["pkg"] Product.assetDir :=
    FileTree.canOpen_of_forall_mem (by decide +kernel)
  obtain ⟨files, hfiles, hcollected⟩ :=
    (hcollect ⟨rfl, .inl rfl⟩).2 ["pkg"] hroot hholds hopen
  have hall : predictedAssets.find? (· ∉ files) = none := by
    simp only [predictedAssets, List.find?_eq_none, List.map_cons, List.map_nil,
      List.forall_mem_cons, decide_eq_true_eq, not_not, hfiles]
    exact ⟨⟨[1], FileTree.isGeneratedAt_iff.2 (by decide +kernel)⟩,
      ⟨[2], FileTree.isGeneratedAt_iff.2 (by decide +kernel)⟩,
      ⟨[3], FileTree.isGeneratedAt_iff.2 (by decide +kernel)⟩, List.forall_mem_nil _⟩
  rw [IsCollected, hall] at hcollected
  obtain ⟨⟨found, hvalue, hfound⟩, hwarnings⟩ := hcollected
  refine ⟨valid, plan, t, found, rfl, rfl, hplan, ht, by decide +kernel, hvalue,
    (hfound _ _).2 ⟨["libnest2d_js", "a.js", "b.js"], [4],
      FileTree.isGeneratedAt_iff.2 (by decide +kernel), by decide, rfl⟩, ?_, ?_⟩
  · cases hnotes : found.get? "libnest2d_js/a.js/notes.txt" with
    | none => rfl
    | some digest =>
      obtain ⟨names, content, ⟨-, -, hsuffix⟩, hpath, -⟩ := (hfound _ _).1 hnotes
      rw [← hpath] at hsuffix
      exact absurd (isGenerated_iff.2 hsuffix) (by decide)
  · obtain rfl : plan = valid.planOn .cached := Except.ok.inj hplan.symm
    decide +kernel

end VariantPlan
