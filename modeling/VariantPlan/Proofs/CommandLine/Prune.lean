import VariantPlan.Proofs.CommandLine.Source
import VariantPlan.Proofs.Interchange
import VariantPlan.Proofs.Packaging.Collection
import VariantPlan.Proofs.Packaging.Keeping

/-!
# What the prune command keeps

A run of the prune command builds a variant, plans it, removes the headers of the backends that the
variant does not use, and looks for the files that the plan predicts. It can fail at each of these.
Before the removals nothing has changed; from then on only the headers of other backends can be
gone, at whatever point the run ends.

A run that succeeds has removed all of them if the root still leads to its directory. It does if the
plan predicts files, because they were found below it, and if the path of the root goes down only.
A root whose path goes through what is removed leads nowhere after the first removal, and the run
takes what is left for absent (`prune_leaves_what_is_unused`).

Main results: `package_ofTree`, `runPrune_of_refused` and `runPrune_of_validate?` (the steps of a
run), `keeps_of_package`, and `prune_keeps_what_is_used`.
-/

namespace VariantPlan.CommandLine

variable {t : FileTree} {root : Path} {dir : Location}

/-! ## Packaging -/

theorem package_ofTree (root : Path) (format : OutputFormat) (plan : BuildPlan) (t : FileTree) :
    (package Files.ofTree root format plan t).2 = (plan.pruneTree root t).2 ∧
      ((package Files.ofTree root format plan t).1.value.failure = none ↔
        (∃ r, (plan.pruneTree root t).1.value = .ok r) ∧
          ∃ found, (plan.collectTree root (plan.pruneTree root t).2).1.value = .ok found) := by
  have hbind (next : PruneOutcome → StateM FileTree (Logged Result)) :
      (plan.prune Files.ofTree.removeTree root >>= next) t =
        next (plan.pruneTree root t).1 (plan.pruneTree root t).2 := rfl
  rw [package, hbind]
  cases hpruned : (plan.pruneTree root t).1.value with
  | error e => exact ⟨rfl, nofun, nofun⟩
  | ok r =>
    have hcollect (next : CollectOutcome → StateM FileTree (Logged Result)) (t' : FileTree) :
        (plan.collect Files.ofTree.scan root >>= next) t' =
          next (plan.collectTree root t').1 (plan.collectTree root t').2 := rfl
    dsimp only
    rw [hcollect, snd_collectTree]
    refine ⟨rfl, ?_⟩
    cases (plan.collectTree root (plan.pruneTree root t).2).1.value with
    | error e => exact ⟨nofun, nofun⟩
    | ok found => exact ⟨fun _ => ⟨⟨r, rfl⟩, found, rfl⟩, fun _ => by cases format <;> rfl⟩

section Planned

variable {v : ValidVariant} {host : Host} (ht : ∀ dir, t.LeadsTo root dir → t.IsPlainBelow dir)

include ht

/-- A pass for a variant leaves everything but the headers of other backends. -/
theorem entryAt?_pruneTree {k : Location} (hk : ∀ dir, t.LeadsTo root dir →
    ∀ names, v.IsUnselected names → ¬dir ++ names <+: k) :
    ((v.planOn host).pruneTree root t).2.entryAt? k = t.entryAt? k := by
  have hord : ∀ p ∈ v.prunedPaths.toList, p.IsOrdinary := fun p hp =>
    (Variant.isUnselected_of_mem_prunedPaths hp).1
  refine entryAt?_prunePaths (fun dir hroot => (ht dir hroot).linkFree) hord ?_
  intro dir hroot p hp
  exact hk dir hroot p.names (Variant.isUnselected_of_mem_prunedPaths hp).2

/-- A pass that comes to its end leaves no headers of other backends, if the root still leads to its
directory. -/
theorem pruneTree_erased (hroot : t.LeadsTo root dir) {r : PruneReport}
    (hok : ((v.planOn host).pruneTree root t).1.value = .ok r)
    (hleads : ((v.planOn host).pruneTree root t).2.LeadsTo root dir) {names : List String}
    (hnames : v.IsUnselected names) {k : Location} (hk : dir ++ names <+: k) :
    ((v.planOn host).pruneTree root t).2.entryAt? k = none := by
  have hord : ∀ p ∈ v.prunedPaths.toList, p.IsOrdinary := fun p hp =>
    (Variant.isUnselected_of_mem_prunedPaths hp).1
  rw [(pruneTree_eq _ root t).1] at hok
  obtain ⟨p, hp, rfl⟩ := Variant.exists_mem_prunedPaths hnames
  exact FileTree.entryAt?_eq_none_below
    (prunePaths_erased hord (ht dir hroot).linkFree hleads hok p hp) hk

omit ht in
theorem partOf_pruneTree : ((v.planOn host).pruneTree root t).2.PartOf t :=
  partOf_prunePaths root _ t

/-- In a tree without links, a root that goes down only still leads to its directory. -/
theorem leadsTo_pruneTree (hroot : t.LeadsTo root dir) (hup : .parent ∉ root.parts)
    (hlinks : t.LinkFree) : ((v.planOn host).pruneTree root t).2.LeadsTo root dir := by
  refine hroot.of_kept hlinks hup partOf_pruneTree fun k hk => ?_
  refine entryAt?_pruneTree ht fun dir' hroot' names hnames hbelow => ?_
  obtain rfl := hroot.unique hroot'
  -- The headers are below the directory, and `k` is not.
  have hlength := (hbelow.trans hk).length_le
  have hne : names ≠ [] := by
    have hordinary := hnames.isOrdinary
    exact hordinary.2 ▸ hordinary.1.nonempty
  have hpos := List.length_pos_iff.2 hne
  rw [List.length_append] at hlength
  omega

/-- Collecting that comes to its end has found all predicted files, in the directory that the root
leads to. -/
theorem exists_predictedAssets
    (hgenerates : v.headerOnly = false ∧ (v.system = .emscripten ∨ v.jsBindings = true))
    {found : AssetDigests} (hok : ((v.planOn host).collectTree root t).1.value = .ok found) :
    ∃ dir, t.LeadsTo root dir ∧
      ∀ names ∈ predictedAssets, ∃ content, t.entryAt? (dir ++ names) = some (.file content) := by
  have hassets := assets_planOn host hgenerates
  -- The scan did not fail, so something stands there and everything can be opened.
  have hscanned : ¬(¬t.Holds root Product.assetDir ∨
      ∃ dir, t.LeadsTo root dir ∧ ¬t.CanOpen root dir Product.assetDir) := by
    rw [← FileTree.scan_eq_error_iff isEntryName_assetDir (by decide) ht]
    intro hscan
    obtain ⟨path, cause, herror⟩ := (collectTree_eq_error_iff hassets).2 hscan
    rw [hok] at herror
    cases herror
  rw [not_or, not_not] at hscanned
  obtain ⟨⟨dir, hroot, hfault, hentry⟩, hnone⟩ := hscanned
  have hopen : t.CanOpen root dir Product.assetDir := not_not.1 fun h => hnone ⟨dir, hroot, h⟩
  obtain ⟨files, hfiles, hcollected⟩ :=
    exists_isCollected (ht dir hroot) hroot hfault hentry hopen hassets
  refine ⟨dir, hroot, fun names hnames => ?_⟩
  rw [IsCollected] at hcollected
  cases hfind : predictedAssets.find? (· ∉ files) with
  | some missing =>
    rw [hfind, hok] at hcollected
    cases hcollected.1
  | none =>
    have hmem : names ∈ files := by simpa using List.find?_eq_none.1 hfind names hnames
    obtain ⟨content, -, hfile, -⟩ := (hfiles names).1 hmem
    exact ⟨content, hfile⟩

end Planned

/-! ## The command -/

section Command

variable (system : Option System) (source : VariantSource) (format : OutputFormat)

theorem runPrune_of_not_isDirectory (h : t.isDirectory root = false) :
    runPrune Files.ofTree system source root format t = (pure (.failed (.noRoot root)), t) := by
  have hbind (next : Bool → StateM FileTree (Logged Result)) :
      (Files.ofTree.isDirectory root >>= next) t = next (t.isDirectory root) t := rfl
  rw [runPrune, hbind, h]
  rfl

theorem runPrune_of_isDirectory (h : t.isDirectory root = true) :
    ∃ events, runPrune Files.ofTree system source root format t =
      match source.variantIn system t with
      | .error e => (⟨.failed e, events⟩, t)
      | .ok v =>
        match (v.resolvePlan ⟨!source.editable⟩).value with
        | .error e => (⟨.failed (.plan e), events⟩, t)
        | .ok plan => (⟨(package Files.ofTree root format plan t).1.value, events⟩,
            (package Files.ofTree root format plan t).2) := by
  have hbind (next : Bool → StateM FileTree (Logged Result)) :
      (Files.ofTree.isDirectory root >>= next) t = next (t.isDirectory root) t := rfl
  rw [runPrune, hbind, h]
  simp only [Bool.not_true, Bool.false_eq_true, if_false]
  rw [assemble_bind_ofTree]
  dsimp only
  cases source.variantIn system t with
  | error e => exact ⟨_, rfl⟩
  | ok v =>
    dsimp only
    cases (v.resolvePlan ⟨!source.editable⟩).value with
    | error e => exact ⟨_, rfl⟩
    | ok plan => exact ⟨_, rfl⟩

theorem runPrune_of_refused
    (h : t.isDirectory root = false ∨ (∃ e, source.variantIn system t = .error e) ∨
      ∃ v e, source.variantIn system t = .ok v ∧ v.validate? = .error e) :
    ∃ failure events, runPrune Files.ofTree system source root format t =
      (⟨.failed failure, events⟩, t) := by
  cases hdir : t.isDirectory root with
  | false => exact ⟨_, _, runPrune_of_not_isDirectory system source format hdir⟩
  | true =>
    obtain ⟨events, hrun⟩ := runPrune_of_isDirectory system source format hdir
    rw [hrun]
    rcases h with hnot | ⟨e, hvariant⟩ | ⟨v, e, hvariant, hinvalid⟩
    · rw [hdir] at hnot
      cases hnot
    · rw [hvariant]
      exact ⟨_, _, rfl⟩
    · rw [hvariant]
      dsimp only
      rw [Variant.value_resolvePlan, hinvalid]
      exact ⟨_, _, rfl⟩

/-- A command whose variant is accepted packages the tree with the plan of the variant. -/
theorem runPrune_of_validate? {v : Variant} {valid : ValidVariant}
    (hdir : t.isDirectory root = true) (hvariant : source.variantIn system t = .ok v)
    (hvalid : v.validate? = .ok valid) :
    ∃ events, runPrune Files.ofTree system source root format t =
      (⟨(package Files.ofTree root format (valid.planOn ⟨!source.editable⟩) t).1.value, events⟩,
        (package Files.ofTree root format (valid.planOn ⟨!source.editable⟩) t).2) := by
  obtain ⟨events, hrun⟩ := runPrune_of_isDirectory system source format hdir
  rw [hvariant] at hrun
  dsimp only at hrun
  rw [Variant.value_resolvePlan, hvalid] at hrun
  exact ⟨events, hrun⟩

variable {system source format}

theorem run_prune {log : Option String} {args : List String} {verbose : Bool}
    {r : Logged Result × FileTree}
    (hargs : readInvocation args = .ok ⟨.prune source root format, verbose⟩)
    (hrun : runPrune Files.ofTree system source root format t = r) :
    run Files.ofTree system log args t = (.ofResult (.choose verbose log) r.1, r.2) := by
  rw [run_ofTree hargs, show Command.run Files.ofTree system (.prune source root format) t = _
    from hrun]

end Command

/-! ## What is kept and what is gone -/

/-- What pruning keeps of a tree for a variant, whatever its exit code, and what it stands for when
the code is that of a success. -/
structure Keeps (v : Variant) (root : Path) (t after : FileTree) (code : Nat) : Prop where
  /-- All but the headers of other backends is as it was. -/
  others : ∀ k, (∀ dir, t.LeadsTo root dir → ∀ names, v.IsUnselected names → ¬dir ++ names <+: k) →
    after.entryAt? k = t.entryAt? k
  /-- The headers of the chosen backends are as they were. -/
  selected : ∀ dir, t.LeadsTo root dir → ∀ k,
    dir ++ v.geometry.headers <+: k ∨ dir ++ v.optimizer.headers <+: k →
      after.entryAt? k = t.entryAt? k
  /-- The headers of other backends are gone, if the root still leads to its directory. -/
  gone : code = 0 → ∀ dir, t.LeadsTo root dir →
    after.LeadsTo root dir ∨ .parent ∉ root.parts ∧ t.LinkFree →
      ∀ names, v.IsUnselected names → ∀ k, dir ++ names <+: k → after.entryAt? k = none
  /-- All predicted files are there, and the root still leads to its directory. -/
  assets : code = 0 → v.headerOnly = false ∧ (v.system = .emscripten ∨ v.jsBindings = true) →
    ∃ dir, t.LeadsTo root dir ∧ after.LeadsTo root dir ∧
      ∀ names ∈ predictedAssets, ∃ content, after.entryAt? (dir ++ names) = some (.file content)

theorem keeps_of_package (ht : ∀ dir, t.LeadsTo root dir → t.IsPlainBelow dir) (v : ValidVariant)
    (host : Host) {code : Nat}
    (hcode : code = 0 → (∃ r, ((v.planOn host).pruneTree root t).1.value = .ok r) ∧
      ∃ found, ((v.planOn host).collectTree root
        ((v.planOn host).pruneTree root t).2).1.value = .ok found) :
    Keeps v.toVariant root t ((v.planOn host).pruneTree root t).2 code where
  others k hk := entryAt?_pruneTree ht hk
  selected dir hroot k hk := by
    refine entryAt?_pruneTree ht fun dir' hroot' names hnames => ?_
    obtain rfl := hroot.unique hroot'
    exact hnames.not_prefix hk
  gone hzero dir hroot hleads names hnames k hk := by
    obtain ⟨⟨r, hok⟩, -⟩ := hcode hzero
    have hafter : ((v.planOn host).pruneTree root t).2.LeadsTo root dir :=
      hleads.elim id fun h => leadsTo_pruneTree ht hroot h.1 h.2
    exact pruneTree_erased ht hroot hok hafter hnames hk
  assets hzero hgenerates := by
    obtain ⟨-, found, hfound⟩ := hcode hzero
    have hplain (dir : Location) (h : ((v.planOn host).pruneTree root t).2.LeadsTo root dir) :
        ((v.planOn host).pruneTree root t).2.IsPlainBelow dir :=
      partOf_pruneTree.isPlainBelow (ht dir (h.of_partOf partOf_pruneTree))
    obtain ⟨dir, hafter, hfiles⟩ := exists_predictedAssets hplain hgenerates hfound
    exact ⟨dir, hafter.of_partOf partOf_pruneTree, hafter, hfiles⟩

/-- **Pruning keeps what a variant uses.** Take any arguments and any tree. Arguments that make no
command leave the tree as it is. Arguments that make the prune command do as follows, if the
contents of the directory that the root leads to are plain; what stands elsewhere may be links.

* If the root is no directory, or the variant cannot be read, built or accepted, the run fails and
  the tree is as it was.
* Otherwise the root leads to a directory, and the tree that is left differs from the tree before at
  the headers of other backends only. If the run succeeds, the predicted files are there, and the
  headers of other backends are gone unless the root leads nowhere any more. -/
theorem prune_keeps_what_is_used (system : Option System) (log : Option String)
    (args : List String) (t : FileTree) :
    (∀ stop, readInvocation args = .error stop → (run Files.ofTree system log args t).2 = t) ∧
    ∀ source root format verbose,
      readInvocation args = .ok ⟨.prune source root format, verbose⟩ →
      (∀ dir, t.LeadsTo root dir → t.IsPlainBelow dir) →
      (t.isDirectory root = false ∨ (∃ e, source.variantIn system t = .error e) ∨
          (∃ v e, source.variantIn system t = .ok v ∧ v.validate? = .error e) →
        (run Files.ofTree system log args t).1.code = 1 ∧
          (run Files.ofTree system log args t).2 = t) ∧
      ∀ v valid, t.isDirectory root = true → source.variantIn system t = .ok v →
        v.validate? = .ok valid →
        (t.entryAt? t.workingDir = some .directory → ∃ dir, t.LeadsTo root dir) ∧
        Keeps v root t (run Files.ofTree system log args t).2
          (run Files.ofTree system log args t).1.code := by
  refine ⟨fun stop hstop => ?_, fun source root format verbose hargs ht =>
    ⟨fun hrefused => ?_, fun v valid hdir hvariant hvalid => ⟨fun hworking =>
      FileTree.LeadsTo.of_isDirectory hworking hdir, ?_⟩⟩⟩
  · rw [run_of_stop _ _ _ hstop]
    rfl
  · -- Nothing was planned, so nothing was removed.
    obtain ⟨failure, events, hrun⟩ := runPrune_of_refused system source format hrefused
    rw [run_prune hargs hrun]
    exact ⟨rfl, rfl⟩
  · obtain ⟨events, hrun⟩ := runPrune_of_validate? system source format hdir hvariant hvalid
    obtain ⟨htree, hfailure⟩ :=
      package_ofTree root format (valid.planOn ⟨!source.editable⟩) t
    generalize package Files.ofTree root format (valid.planOn ⟨!source.editable⟩) t = packaged
      at hrun htree hfailure
    rw [run_prune hargs hrun]
    have hsuccess (hcode : (Output.ofResult (.choose verbose log)
        ⟨packaged.1.value, events⟩).code = 0) : packaged.1.value.failure = none := by
      have hnone := Output.code_eq_zero_iff.1 hcode
      exact hnone
    have hkeeps := keeps_of_package ht valid ⟨!source.editable⟩ (hfailure.1 ∘ hsuccess)
    rw [toVariant_of_validate? hvalid, ← htree] at hkeeps
    -- The normal form has the backends of the variant, and predicts files when the variant does.
    exact ⟨hkeeps.others, hkeeps.selected, hkeeps.gone, hkeeps.assets⟩

/-- A run over a package for the web: the headers of other backends go, and the chosen ones and the
predicted files stay. -/
theorem prune_keeps_what_is_used_web :
    ∃ (args : List String) (source : VariantSource) (t : FileTree) (v : Variant),
      readInvocation args = .ok ⟨.prune source ⟨"pkg/"⟩ .json, false⟩ ∧
      source.variantIn none t = .ok v ∧ (run Files.ofTree none none args t).1.code = 0 ∧
      t.entryAt? ["pkg", "include", "libnest2d", "backends", "eigen", "b.hpp"] = some (.file [2]) ∧
      (run Files.ofTree none none args t).2.entryAt?
        ["pkg", "include", "libnest2d", "backends", "eigen", "b.hpp"] = none ∧
      (run Files.ofTree none none args t).2.entryAt?
        ["pkg", "include", "libnest2d", "backends", "clipper", "a.hpp"] = some (.file [1]) ∧
      ∃ content, (run Files.ofTree none none args t).2.entryAt?
        ["pkg", "libnest2d_js", "libnest2d_js.wasm"] = some (.file content) := by
  let args := ["prune", "--root", "pkg/", "-s", "os=Emscripten", "-s", "compiler=clang",
    "-s", "compiler.version=17", "--format=json"]
  let source : VariantSource :=
    ⟨none, [], ["os=Emscripten", "compiler=clang", "compiler.version=17"], false⟩
  let t : FileTree := FileTree.empty.placeAll [
    (["pkg"], .directory), (["pkg", "include"], .directory),
    (["pkg", "include", "libnest2d"], .directory),
    (["pkg", "include", "libnest2d", "backends"], .directory),
    (["pkg", "include", "libnest2d", "backends", "clipper"], .directory),
    (["pkg", "include", "libnest2d", "backends", "clipper", "a.hpp"], .file [1]),
    (["pkg", "include", "libnest2d", "backends", "eigen"], .directory),
    (["pkg", "include", "libnest2d", "backends", "eigen", "b.hpp"], .file [2]),
    (["pkg", "include", "libnest2d", "optimizers"], .directory),
    (["pkg", "libnest2d_js"], .directory),
    (["pkg", "libnest2d_js", "libnest2d_js.js"], .file []),
    (["pkg", "libnest2d_js", "libnest2d_js.wasm"], .file []),
    (["pkg", "libnest2d_js", "libnest2d_js.d.ts"], .file [])]
  have hargs : readInvocation args = .ok ⟨.prune source ⟨"pkg/"⟩ .json, false⟩ := by decide +kernel
  have hcode : (run Files.ofTree none none args t).1.code = 0 := by decide +kernel
  have ht (dir : Location) (_ : t.LeadsTo ⟨"pkg/"⟩ dir) : t.IsPlainBelow dir :=
    (FileTree.linkFree_placeAll (by decide) FileTree.linkFree_empty).isPlainBelow
      (FileTree.wellNamed_placeAll (by decide) FileTree.wellNamed_empty) dir
  have hroot : t.LeadsTo ⟨"pkg/"⟩ ["pkg"] := ⟨by decide +kernel, by decide +kernel⟩
  obtain ⟨v, hvariant, hv⟩ : ∃ v, source.variantIn none t = .ok v ∧
      (v.geometry, v.headerOnly, v.system, v.validate?.toBool) =
        (.clipper, false, .emscripten, true) := exists_of_map_eq_ok (by decide +kernel)
  obtain ⟨hgeometry, hcompiled, hweb, haccepted⟩ := by simpa only [Prod.mk.injEq] using hv
  obtain ⟨valid, hvalid⟩ := exists_of_toBool haccepted
  obtain ⟨-, hkeeps⟩ := ((prune_keeps_what_is_used none none args t).2 source ⟨"pkg/"⟩ .json false
    hargs ht).2 v valid (by decide +kernel) hvariant hvalid
  obtain ⟨dir, hdir, hafter, hfiles⟩ := hkeeps.assets hcode ⟨hcompiled, .inl hweb⟩
  obtain rfl := hroot.unique hdir
  refine ⟨args, source, t, v, hargs, hvariant, hcode, by decide +kernel, ?_, ?_, ?_⟩
  · exact hkeeps.gone hcode _ hroot (.inl hafter) Geometry.eigen.headers
      (.inl ⟨.eigen, by simp [hgeometry], rfl⟩) _ (by decide)
  · refine (hkeeps.selected _ hroot _ (.inl ?_)).trans (by decide +kernel)
    rw [hgeometry]
    decide
  · exact hfiles _ (by decide)

/-- **A root whose path goes through what is removed.** The first removal succeeds, the path of the
root leads nowhere afterwards, and the other headers count as absent: the run succeeds and leaves
them. -/
theorem prune_leaves_what_is_unused :
    ∃ (args : List String) (source : VariantSource) (root : Path) (t : FileTree) (v : Variant)
      (names : List String),
      readInvocation args = .ok ⟨.prune source root .text, false⟩ ∧
      t.LinkFree ∧ t.LeadsTo root ["pkg"] ∧
      source.variantIn (some .linux) t = .ok v ∧ v.IsUnselected names ∧
      t.entryAt? ("pkg" :: names) = some .directory ∧
      (run Files.ofTree (some .linux) none args t).1.code = 0 ∧
      (run Files.ofTree (some .linux) none args t).2.entryAt? ("pkg" :: names) =
        some .directory := by
  let args := ["prune", "--root", "pkg/include/libnest2d/backends/boost/../../../..",
    "-s", "compiler=gcc", "-s", "compiler.version=12"]
  let source : VariantSource := ⟨none, [], ["compiler=gcc", "compiler.version=12"], false⟩
  let root : Path := ⟨"pkg/include/libnest2d/backends/boost/../../../.."⟩
  let t : FileTree := FileTree.empty.placeAll [
    (["pkg"], .directory), (["pkg", "include"], .directory),
    (["pkg", "include", "libnest2d"], .directory),
    (["pkg", "include", "libnest2d", "backends"], .directory),
    (["pkg", "include", "libnest2d", "backends", "boost"], .directory),
    (["pkg", "include", "libnest2d", "backends", "boost", "a.hpp"], .file [1]),
    (["pkg", "include", "libnest2d", "backends", "eigen"], .directory),
    (["pkg", "include", "libnest2d", "backends", "eigen", "b.hpp"], .file [2])]
  obtain ⟨v, hvariant, hgeometry⟩ :
      ∃ v, source.variantIn (some .linux) t = .ok v ∧ v.geometry = .clipper :=
    exists_of_map_eq_ok (by decide +kernel)
  have hrun : (run Files.ofTree (some .linux) none args t).1.code = 0 ∧
      (run Files.ofTree (some .linux) none args t).2.entryAt? ("pkg" :: Geometry.eigen.headers) =
        some .directory := by decide +kernel
  exact ⟨args, source, root, t, v, Geometry.eigen.headers, by decide +kernel,
    FileTree.linkFree_placeAll (by decide) FileTree.linkFree_empty,
    ⟨by decide +kernel, by decide +kernel⟩, hvariant, .inl ⟨.eigen, by simp [hgeometry], rfl⟩,
    by decide +kernel, hrun⟩

end VariantPlan.CommandLine
