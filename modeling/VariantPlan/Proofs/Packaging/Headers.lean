import VariantPlan.Plan.Basic
import VariantPlan.Proofs.Sets
import VariantPlan.Proofs.Tree.Paths

/-!
# Headers of other backends

Each geometry and each optimizer backend has a directory of its own among the installed headers. A
variant uses one of each kind; the directories of the others are **unselected**, and they are what a
plan prunes.

Main results: `isUnselected_of_mem_prunedPaths` and `exists_mem_prunedPaths` (the pruned paths are
ordinary and lead to the unselected directories, and to all of them).
-/

namespace VariantPlan

/-- The names that lead to the headers of a geometry backend. -/
def Geometry.headers (g : Geometry) : List String :=
  ["include", "libnest2d", "backends", Choice.name g]

/-- The names that lead to the headers of an optimizer backend. -/
def Optimizer.headers (o : Optimizer) : List String :=
  ["include", "libnest2d", "optimizers", Choice.name o]

theorem Geometry.isEntryName_of_mem_headers {g : Geometry} {name : String}
    (h : name ∈ g.headers) : Path.IsEntryName name := by
  have hentry : ∀ name ∈ g.headers, Path.IsEntryName name := by cases g <;> decide
  exact hentry name h

theorem Optimizer.isEntryName_of_mem_headers {o : Optimizer} {name : String}
    (h : name ∈ o.headers) : Path.IsEntryName name := by
  have hentry : ∀ name ∈ o.headers, Path.IsEntryName name := by cases o <;> decide
  exact hentry name h

theorem text_ofNames_four (a b c d : String) :
    (Path.ofNames [a, b, c, d]).text = a ++ "/" ++ b ++ "/" ++ c ++ "/" ++ d := by
  rw [Path.ofNames, String.intercalate_cons_cons, String.intercalate_cons_cons,
    String.intercalate_cons_cons, String.intercalate_singleton]
  simp only [String.append_assoc]

theorem geometryDir_eq (g : Geometry) :
    (⟨Product.geometryDir (Choice.name g)⟩ : Path) = .ofNames g.headers := by
  have htext : "include/libnest2d/backends/" =
      "include" ++ "/" ++ "libnest2d" ++ "/" ++ "backends" ++ "/" := by decide
  have hdir : Product.geometryDir (Choice.name g) = "include" ++ "/" ++ "libnest2d" ++ "/" ++
      "backends" ++ "/" ++ Choice.name g := congrArg (· ++ Choice.name g) htext
  exact congrArg Path.mk (hdir.trans (text_ofNames_four _ _ _ _).symm)

theorem optimizerDir_eq (o : Optimizer) :
    (⟨Product.optimizerDir (Choice.name o)⟩ : Path) = .ofNames o.headers := by
  have htext : "include/libnest2d/optimizers/" =
      "include" ++ "/" ++ "libnest2d" ++ "/" ++ "optimizers" ++ "/" := by decide
  have hdir : Product.optimizerDir (Choice.name o) = "include" ++ "/" ++ "libnest2d" ++ "/" ++
      "optimizers" ++ "/" ++ Choice.name o := congrArg (· ++ Choice.name o) htext
  exact congrArg Path.mk (hdir.trans (text_ofNames_four _ _ _ _).symm)

namespace Variant

/-- Names that lead to the headers of a backend that a variant does not use. -/
def IsUnselected (v : Variant) (names : List String) : Prop :=
  (∃ g : Geometry, g ≠ v.geometry ∧ names = g.headers) ∨
    ∃ o : Optimizer, o ≠ v.optimizer ∧ names = o.headers

variable {v : Variant} {names : List String}

theorem IsUnselected.isEntryName (h : v.IsUnselected names) :
    ∀ name ∈ names, Path.IsEntryName name := by
  rcases h with ⟨g, -, rfl⟩ | ⟨o, -, rfl⟩
  · exact fun _ => Geometry.isEntryName_of_mem_headers
  · exact fun _ => Optimizer.isEntryName_of_mem_headers

theorem IsUnselected.isOrdinary (h : v.IsUnselected names) :
    (Path.ofNames names).IsOrdinary ∧ (Path.ofNames names).names = names := by
  refine Path.IsOrdinary.ofNames h.isEntryName ?_
  rcases h with ⟨g, -, rfl⟩ | ⟨o, -, rfl⟩ <;> exact List.cons_ne_nil _ _

/-- The headers of the chosen backends have other names, and equally many. -/
theorem IsUnselected.ne_headers (h : v.IsUnselected names) :
    (names ≠ v.geometry.headers ∧ names.length = v.geometry.headers.length) ∧
      names ≠ v.optimizer.headers ∧ names.length = v.optimizer.headers.length := by
  have hgeometry : ∀ g g' : Geometry, g ≠ g' → g.headers ≠ g'.headers := by
    intro g g'
    cases g <;> cases g' <;> decide
  have hoptimizer : ∀ o o' : Optimizer, o ≠ o' → o.headers ≠ o'.headers := by
    intro o o'
    cases o <;> cases o' <;> decide
  have hkinds : ∀ (g : Geometry) (o : Optimizer), g.headers ≠ o.headers := by
    intro g o
    cases g <;> cases o <;> decide
  rcases h with ⟨g, hg, rfl⟩ | ⟨o, ho, rfl⟩
  · exact ⟨⟨hgeometry g _ hg, rfl⟩, hkinds g _, rfl⟩
  · exact ⟨⟨(hkinds _ o).symm, rfl⟩, hoptimizer o _ ho, rfl⟩

/-- What is at or below the headers of a chosen backend is at or below no others. -/
theorem IsUnselected.not_prefix (h : v.IsUnselected names) {dir k : List String}
    (hk : dir ++ v.geometry.headers <+: k ∨ dir ++ v.optimizer.headers <+: k) :
    ¬dir ++ names <+: k := by
  have heq {headers : List String} (hheaders : dir ++ headers <+: k) (hnames : dir ++ names <+: k)
      (hlength : names.length = headers.length) : names = headers := by
    have hle : (dir ++ names).length ≤ (dir ++ headers).length := by simp [hlength]
    have hbelow := List.prefix_of_prefix_length_le hnames hheaders hle
    exact List.append_cancel_left (hbelow.eq_of_length (by simp [hlength]))
  obtain ⟨⟨hgeometry, hglength⟩, hoptimizer, holength⟩ := h.ne_headers
  intro hnames
  rcases hk with hk | hk
  · exact hgeometry (heq hk hnames hglength)
  · exact hoptimizer (heq hk hnames holength)

theorem prunedPaths_eq (v : Variant) : v.prunedPaths = .ofList
    ((((Choice.all : List Geometry).filter (· != v.geometry)).map Geometry.headers ++
      ((Choice.all : List Optimizer).filter (· != v.optimizer)).map Optimizer.headers).map
        Path.ofNames) := by
  unfold prunedPaths
  rw [List.map_append, List.map_map, List.map_map]
  simp only [geometryDir_eq, optimizerDir_eq, Function.comp_def]

/-- The pruned paths lead to the headers of the backends that are not used. -/
theorem mem_prunedPaths {p : Path} : p ∈ v.prunedPaths.toList ↔
    ∃ names, v.IsUnselected names ∧ p = .ofNames names := by
  have hg (g : Geometry) : g ∈ (Choice.all : List Geometry) := by cases g <;> decide
  have ho (o : Optimizer) : o ∈ (Choice.all : List Optimizer) := by cases o <;> decide
  have hmem (names : List String) :
      names ∈ ((Choice.all : List Geometry).filter (· != v.geometry)).map Geometry.headers ++
        ((Choice.all : List Optimizer).filter (· != v.optimizer)).map Optimizer.headers ↔
      v.IsUnselected names := by
    simp only [List.mem_append, List.mem_map, List.mem_filter, bne_iff_ne, hg, ho, true_and,
      IsUnselected, eq_comm (b := names)]
  have hnodup : ((((Choice.all : List Geometry).filter (· != v.geometry)).map Geometry.headers ++
      ((Choice.all : List Optimizer).filter (· != v.optimizer)).map Optimizer.headers)).Nodup := by
    cases v.geometry <;> cases v.optimizer <;> decide
  rw [prunedPaths_eq, PathSet.mem_ofList_of_nodup]
  · simp only [List.mem_map, hmem, eq_comm (b := p)]
  · rw [List.map_map]
    refine hnodup.map_on fun names hnames names' hnames' heq => ?_
    -- Ordinary paths with the same components have the same names.
    obtain ⟨hordinary, hnames⟩ := ((hmem names).1 hnames).isOrdinary
    obtain ⟨hordinary', hnames'⟩ := ((hmem names').1 hnames').isOrdinary
    simp only [Function.comp_apply, hordinary.components, hordinary'.components, hnames,
      hnames'] at heq
    exact (List.map_inj_right fun _ _ => Component.entry.inj).1 heq

theorem isUnselected_of_mem_prunedPaths {p : Path} (h : p ∈ v.prunedPaths.toList) :
    p.IsOrdinary ∧ v.IsUnselected p.names := by
  obtain ⟨names, hunselected, rfl⟩ := mem_prunedPaths.1 h
  obtain ⟨hordinary, hnames⟩ := hunselected.isOrdinary
  exact ⟨hordinary, hnames.symm ▸ hunselected⟩

theorem exists_mem_prunedPaths (h : v.IsUnselected names) :
    ∃ p ∈ v.prunedPaths.toList, p.names = names :=
  ⟨.ofNames names, mem_prunedPaths.2 ⟨names, h, rfl⟩, h.isOrdinary.2⟩

end Variant

end VariantPlan
