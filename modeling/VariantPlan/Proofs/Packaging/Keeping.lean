import VariantPlan.Proofs.Packaging.Passes
import VariantPlan.Proofs.Tree.Contents
import VariantPlan.Proofs.Tree.Frame

/-!
# What a pass leaves alone

A pass removes its paths one by one, and may stop at any of them. What one removal preserves, the
pass preserves (`prunePaths_invariant`), wherever it stops: the tree that is left is a part of the
tree before, and differs from it only at the pruned paths below the directory of the root.

A pass that comes to its end has erased all paths, if the root still leads to its directory. The
path of a root may go through what is removed and lead nowhere afterwards; then the later paths are
not found and count as absent, though they are there.

Main results: `prunePaths_invariant`, `entryAt?_prunePaths` (the frame) and `prunePaths_erased`.
-/

namespace VariantPlan

variable {t : FileTree} {root : Path} {dir : Location} {paths : List Path}

/-- Remove in a tree, as a step of a pass. -/
def removeIn (q : Path) : StateM FileTree (Except IoError Unit) := fun t => t.removeTree q

/-- Remove what a plan prunes from a tree. -/
def BuildPlan.pruneTree (plan : BuildPlan) (root : Path) (t : FileTree) :
    PruneOutcome × FileTree :=
  plan.prune removeIn root t

theorem pruneTree_eq (plan : BuildPlan) (root : Path) (t : FileTree) :
    (plan.pruneTree root t).1.value =
        (prunePaths removeIn root plan.prunedPaths.toList t).1.value ∧
      (plan.pruneTree root t).2 = (prunePaths removeIn root plan.prunedPaths.toList t).2 := by
  rw [BuildPlan.pruneTree, prune_eq, PruneOutcome.value_finish]
  exact ⟨rfl, rfl⟩

/-! ## Invariants of a pass -/

/-- What the removal of a path preserves, a pass over such paths preserves. -/
theorem prunePaths_invariant {σ : Type} {remove : Path → StateM σ (Except IoError Unit)}
    {P : σ → Prop} (hstep : ∀ p ∈ paths, ∀ s, P s → P (remove (root.join p) s).2) {s : σ}
    (h : P s) : P (prunePaths remove root paths s).2 := by
  induction paths generalizing s with
  | nil => exact h
  | cons p paths ih =>
    rw [List.forall_mem_cons] at hstep
    have hremoved := hstep.1 s h
    rw [prunePaths_run_cons]
    cases hanswer : remove (root.join p) s with
    | mk answer s' =>
      rw [hanswer] at hremoved
      cases answer with
      | ok u => exact ih hstep.2 hremoved
      | error e =>
        by_cases he : e.kind = .notFound
        · simp only [he, if_true]
          exact ih hstep.2 hremoved
        · simp only [he, if_false]
          exact hremoved

theorem partOf_prunePaths (root : Path) (paths : List Path) (t : FileTree) :
    (prunePaths removeIn root paths t).2.PartOf t := by
  refine prunePaths_invariant (P := fun t' : FileTree => t'.PartOf t) (fun p _ t' ht' => ?_)
    (.refl t)
  exact (t'.partOf_removeTree _).trans ht'

/-- **The frame of a pass.** Whether a pass comes to its end or not, it leaves everything as it was
that does not stand at one of its paths or below it. -/
theorem entryAt?_prunePaths (ht : ∀ dir, t.LeadsTo root dir → t.LinkFreeBelow dir)
    (hord : ∀ p ∈ paths, p.IsOrdinary) {k : Location}
    (hk : ∀ dir, t.LeadsTo root dir → ∀ p ∈ paths, ¬dir ++ p.names <+: k) :
    (prunePaths removeIn root paths t).2.entryAt? k = t.entryAt? k := by
  have hstep : ∀ p ∈ paths, ∀ t' : FileTree, t'.PartOf t ∧ t'.entryAt? k = t.entryAt? k →
      (t'.removeTree (root.join p)).2.PartOf t ∧
        (t'.removeTree (root.join p)).2.entryAt? k = t.entryAt? k := by
    rintro p hp t' ⟨hpart, hkept⟩
    refine ⟨(t'.partOf_removeTree _).trans hpart, ?_⟩
    by_cases hroot : ∃ dir, t'.LeadsTo root dir
    · obtain ⟨dir, hroot⟩ := hroot
      have hbefore := hroot.of_partOf hpart
      have hlinks := hpart.linkFreeBelow (ht dir hbefore)
      rw [FileTree.entryAt?_removeTree_join (fun _ => hroot.unique) (fun _ => hlinks) (hord p hp)
        (hk dir hbefore p hp), hkept]
    · have hnowhere (dir : Location) : ¬t'.LeadsTo root dir := fun h => hroot ⟨dir, h⟩
      obtain ⟨e, he⟩ := FileTree.removeTree_of_not_leadsTo (hord p hp) hnowhere
      rw [he, hkept]
  exact (prunePaths_invariant (P := fun t' : FileTree => t'.PartOf t ∧ t'.entryAt? k = t.entryAt? k)
    hstep ⟨.refl t, rfl⟩).2

/-! ## A pass that comes to its end -/

/-- **A pass that comes to its end has erased all paths**, if the root still leads to its
directory. -/
theorem prunePaths_erased (hord : ∀ p ∈ paths, p.IsOrdinary) (ht : t.LinkFreeBelow dir)
    (hleads : (prunePaths removeIn root paths t).2.LeadsTo root dir) {r : PruneReport}
    (hok : (prunePaths removeIn root paths t).1.value = .ok r) :
    ∀ p ∈ paths, (prunePaths removeIn root paths t).2.entryAt? (dir ++ p.names) = none := by
  induction paths generalizing t r with
  | nil => exact List.forall_mem_nil _
  | cons p paths ih =>
    rw [List.forall_mem_cons] at hord ⊢
    obtain ⟨hgoes, rest, hrest, -⟩ := prunePaths_cons_of_ok hok
    rw [(prunePaths_cons_of_goesOn paths hgoes).2] at hleads ⊢
    have hpart := partOf_prunePaths root paths (removeIn (root.join p) t).2
    have herase : (removeIn (root.join p) t).2 = t.erase (dir ++ p.names) :=
      FileTree.removeTree_of_leadsTo ht hord.1 (hleads.of_partOf hpart) (goesOn_iff.1 hgoes)
    refine ⟨?_, ih hord.2 ((t.partOf_removeTree _).linkFreeBelow ht) hleads hrest⟩
    -- What the first removal erased does not come back.
    cases hentry : (prunePaths removeIn root paths (removeIn (root.join p) t).2).2.entryAt?
        (dir ++ p.names) with
    | none => rfl
    | some e =>
      have hbefore := hpart.entryAt? _ _ hentry
      rw [herase, FileTree.entryAt?_erase_names hord.1, if_pos List.prefix_rfl] at hbefore
      cases hbefore

end VariantPlan
