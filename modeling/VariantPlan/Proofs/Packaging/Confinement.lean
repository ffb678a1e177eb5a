import VariantPlan.Proofs.Document.Plan
import VariantPlan.Proofs.Packaging.Headers
import VariantPlan.Proofs.Packaging.Passes

/-!
# Where pruning reaches

A pass asks for removals by path: each pruned path, seen from the root. What is removed is **below**
the root if its components are those of the root and then names, at least one. That depends on the
pruned path alone: one that **names entries** only leads below every root, and any other one leads
out of some root or to the root itself, because an absolute path replaces the root and `..` goes up.

The paths of a resolved plan name entries. A plan that was read from a document may hold any paths,
and a pass does not look at them before it asks.

Main results: `NamesEntries.components_join` and `forall_isBelow_join_iff` (single paths),
`askedPaths_eq` (what a pass asks for), `pruning_stays_below_iff` and `absolute_path_leaves_root`.
-/

namespace VariantPlan

/-! ## Paths below a root -/

namespace Path

variable {root p : Path}

/-- A path names entries only, and at least one. -/
def NamesEntries (p : Path) : Prop := ∃ names, names ≠ [] ∧ p.components = names.map .entry

/-- A path goes on from another one through names, and through at least one. -/
def IsBelow (q root : Path) : Prop :=
  ∃ names, names ≠ [] ∧ q.components = root.components ++ names.map .entry

theorem IsOrdinary.namesEntries (hp : p.IsOrdinary) : p.NamesEntries :=
  ⟨p.names, hp.nonempty, hp.components⟩

theorem NamesEntries.filter_parts (hp : p.NamesEntries) :
    p.isAbsolute = false ∧ p.parts.head? ≠ some .current ∧
      p.parts.filter (· ≠ .current) = p.components := by
  obtain ⟨names, hnames, hcomponents⟩ := hp
  obtain ⟨name, rest, rfl⟩ := List.exists_cons_of_ne_nil hnames
  have h := p.components_eq
  by_cases habs : p.isAbsolute = true
  · rw [hcomponents] at h
    simp [habs] at h
  · by_cases hhead : p.parts.head? = some .current
    · rw [hcomponents] at h
      simp [habs, hhead] at h
    · simp only [habs, hhead] at h
      exact ⟨by simpa using habs, hhead, by simpa using h.symm⟩

theorem NamesEntries.components_join (hp : p.NamesEntries) :
    (root.join p).components = root.components ++ p.components := by
  obtain ⟨hrelative, hhead, hparts⟩ := hp.filter_parts
  rw [Path.components_join hrelative hhead, hparts]

theorem NamesEntries.isBelow_join (hp : p.NamesEntries) (root : Path) :
    (root.join p).IsBelow root := by
  obtain ⟨names, hnames, hcomponents⟩ := id hp
  exact ⟨names, hnames, by rw [hp.components_join, hcomponents]⟩

/-- The paths that lead below every root are those that name entries only. -/
theorem forall_isBelow_join_iff : (∀ root : Path, (root.join p).IsBelow root) ↔ p.NamesEntries := by
  constructor
  · intro h
    -- From the root with the empty text a path is seen as it is.
    obtain ⟨names, hnames, hcomponents⟩ := h ⟨""⟩
    have hjoin : Path.join ⟨""⟩ p = p := by
      unfold join
      by_cases habs : p.isAbsolute = true <;> simp [habs]
    rw [hjoin] at hcomponents
    exact ⟨names, hnames, hcomponents⟩
  · exact NamesEntries.isBelow_join

end Path

/-! ## What a pass asks for -/

section Asked

variable {σ : Type} (remove : Path → StateM σ (Except IoError Unit)) (root : Path)

/-- The paths that a pass asks to be removed, in their order. -/
def BuildPlan.askedPaths (plan : BuildPlan) (s : σ) : List Path :=
  (plan.prune (noting remove) root ([], s)).2.1.map Prod.fst

/-- A pass asks for the first paths of its plan in their order, and for all of them if every answer
lets it go on. -/
theorem askedPaths_eq (plan : BuildPlan) (s : σ) :
    ∃ answered : List (Path × Except IoError Unit),
      plan.askedPaths remove root s = (answered.map Prod.fst).map root.join ∧
      answered.map Prod.fst <+: plan.prunedPaths.toList ∧
      ((∀ q s, goesOn (remove q s).1 = true) →
        answered.map Prod.fst = plan.prunedPaths.toList) := by
  obtain ⟨answered, hnoted, hends⟩ := exists_endsWith root plan.prunedPaths.toList remove s
  refine ⟨answered, ?_, hends.prefix_paths, fun hgoes => ?_⟩
  · rw [BuildPlan.askedPaths, prune_eq, hnoted, List.map_map, List.map_map]
    rfl
  · cases hvalue : (prunePaths (noting remove) root plan.prunedPaths.toList ([], s)).1.value with
    | ok r =>
      rw [hvalue] at hends
      cases hends with
      | done hpaths hall => exact hpaths
    | error failure =>
      -- An answer that stops the pass does not let it go on.
      obtain ⟨before, p, after, r, e, -, -, hanswer, he, -, -⟩ := exists_stop_of_error hvalue
      exact absurd (goesOn_iff.1 (hgoes (root.join p) _) e hanswer) he

theorem mem_askedPaths {plan : BuildPlan} {s : σ} {q : Path}
    (h : q ∈ plan.askedPaths remove root s) : ∃ p ∈ plan.prunedPaths.toList, q = root.join p := by
  obtain ⟨answered, hasked, hfirst, -⟩ := askedPaths_eq remove root plan s
  rw [hasked] at h
  obtain ⟨p, hp, rfl⟩ := List.mem_map.1 h
  exact ⟨p, hfirst.subset hp, rfl⟩

end Asked

/-- Remove nothing, and call it a success. -/
def acceptRemoval (_ : Path) : StateM Unit (Except IoError Unit) := pure (.ok ())

theorem askedPaths_acceptRemoval (plan : BuildPlan) (root : Path) :
    plan.askedPaths acceptRemoval root () = plan.prunedPaths.toList.map root.join := by
  obtain ⟨answered, hasked, -, hall⟩ := askedPaths_eq acceptRemoval root plan ()
  rw [hasked, hall fun _ _ => rfl]

/-! ## Staying below the root -/

/-- **Pruning stays below the root if the paths name entries, and only then.** Whatever answers the
removals, and whatever state the answers come from,

* a pass asks for paths of its plan, seen from the root, and one that names entries only is strictly
  below the root;
* the plans whose passes stay below every root are those all of whose paths name entries only;
* resolved plans are among them. -/
theorem pruning_stays_below_iff (plan : BuildPlan) :
    (∀ (σ : Type) (remove : Path → StateM σ (Except IoError Unit)) (root : Path) (s : σ),
      ∀ q ∈ plan.askedPaths remove root s, ∃ p ∈ plan.prunedPaths.toList,
        q = root.join p ∧ (p.NamesEntries → q.IsBelow root)) ∧
    ((∀ (σ : Type) (remove : Path → StateM σ (Except IoError Unit)) (root : Path) (s : σ),
        ∀ q ∈ plan.askedPaths remove root s, q.IsBelow root) ↔
      ∀ p ∈ plan.prunedPaths.toList, p.NamesEntries) ∧
    (∀ (v : Variant) (host : Host), (v.resolvePlan host).value = .ok plan →
      ∀ p ∈ plan.prunedPaths.toList, p.NamesEntries) := by
  refine ⟨fun σ remove root s q hq => ?_, ⟨fun h p hp => ?_, fun h σ remove root s q hq => ?_⟩,
    fun v host hplan p hp => ?_⟩
  · obtain ⟨p, hp, rfl⟩ := mem_askedPaths remove root hq
    exact ⟨p, hp, rfl, fun hnames => hnames.isBelow_join root⟩
  · refine Path.forall_isBelow_join_iff.1 fun root => h Unit acceptRemoval root () _ ?_
    rw [askedPaths_acceptRemoval]
    exact List.mem_map_of_mem hp
  · obtain ⟨p, hp, rfl⟩ := mem_askedPaths remove root hq
    exact (h p hp).isBelow_join root
  · obtain ⟨valid, -, rfl⟩ := exists_of_resolvePlan_ok hplan
    exact (Variant.isUnselected_of_mem_prunedPaths hp).1.namesEntries

/-- A pass of the plan of a variant over a relative root that goes up stays below that root, also
when the second removal fails. -/
theorem pruning_stays_below_iff_upward :
    ∃ (v : Variant) (plan : BuildPlan) (remove : Path → StateM Nat (Except IoError Unit)),
      (v.resolvePlan .cached).value = .ok plan ∧
      plan.askedPaths remove ⟨"../pkg"⟩ 0 =
        [⟨"../pkg/include/libnest2d/backends/boost"⟩,
          ⟨"../pkg/include/libnest2d/backends/clipper"⟩] ∧
      ∀ q ∈ plan.askedPaths remove ⟨"../pkg"⟩ 0, q.IsBelow ⟨"../pkg"⟩ := by
  let v : Variant := { Variant.sample with geometry := .eigen }
  let valid : ValidVariant := ⟨v, by decide, rfl⟩
  let plan := valid.planOn .cached
  let remove : Path → StateM Nat (Except IoError Unit) := fun _ n =>
    (if n = 0 then .ok () else .error (.ofKind .resourceBusy), n + 1)
  have hplan : (v.resolvePlan .cached).value = .ok plan := by
    rw [Variant.value_resolvePlan,
      show v.validate? = .ok valid from Variant.validate?_toVariant valid]
  have h := pruning_stays_below_iff plan
  exact ⟨v, plan, remove, hplan, by decide +kernel,
    h.2.1.2 (h.2.2 v .cached hplan) Nat remove ⟨"../pkg"⟩ 0⟩

/-- **An absolute path leaves the root.** A plan that reads back from its text makes a pass over a
package ask for the removal of a directory of the system. -/
theorem absolute_path_leaves_root :
    ∃ (plan : BuildPlan) (root q : Path),
      (Json.parse? plan.toJson.compact).bind BuildPlan.ofJson? = some plan ∧
      root = ⟨"/pkg"⟩ ∧ q = ⟨"/etc"⟩ ∧ q ∈ plan.askedPaths acceptRemoval root () ∧
      ¬q.IsBelow root := by
  let plan : BuildPlan := { BuildPlan.empty with prunedPaths := .ofList [⟨"/etc"⟩] }
  have hread : plan.Writable := fun m hm => by cases hm
  refine ⟨plan, ⟨"/pkg"⟩, ⟨"/etc"⟩, BuildPlan.parse?_text hread, rfl, rfl, ?_, ?_⟩
  · rw [askedPaths_acceptRemoval]
    decide
  · rintro ⟨names, -, hcomponents⟩
    have hq : Path.components ⟨"/etc"⟩ = [.root, .entry "etc"] := by decide
    have hroot : Path.components ⟨"/pkg"⟩ = [.root, .entry "pkg"] := by decide
    rw [hq, hroot] at hcomponents
    simp at hcomponents

end VariantPlan
