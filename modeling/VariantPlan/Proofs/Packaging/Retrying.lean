import VariantPlan.Proofs.Packaging.Keeping
import VariantPlan.Proofs.Packaging.Passes
import VariantPlan.Proofs.Tree.Vacancy

/-!
# Passes that are tried again

A removal may fail for reasons that lie outside of the tree and pass away, and the pass stops there.
A removal is called **unreliable** if it does what removing does whenever it does not fail in such a
way, and leaves the tree as it is when it does.

A pass that is tried again finds nothing at the paths that the first one was through with: their
slots are vacant, and stay so. From the path that stopped the first pass on it goes on as that one
would have. The tree may hold links, and the root may lead anywhere or nowhere.

Main results: `prunePaths_of_unreliable`, `vacant_of_prunePaths_ok`, `prunePaths_of_vacant` and
`retried_pass_completes`.
-/

namespace VariantPlan

variable {σ : Type} {t : FileTree} {root : Path} {paths : List Path} {r : PruneReport}

/-! ## Unreliable removals -/

/-- Every removal in a tree does what removing does, or fails for another reason than absence and
leaves the tree as it is. What decides is a state beside the tree. -/
def IsUnreliable (remove : Path → StateM (σ × FileTree) (Except IoError Unit)) : Prop :=
  ∀ q s t, ((remove q (s, t)).1, (remove q (s, t)).2.2) = t.removeTree q ∨
    ∃ e, e.kind ≠ .notFound ∧ ((remove q (s, t)).1, (remove q (s, t)).2.2) = (.error e, t)

variable {remove : Path → StateM (σ × FileTree) (Except IoError Unit)}

theorem IsUnreliable.eq_of_goesOn (h : IsUnreliable remove) {q : Path} {s : σ × FileTree}
    (hgoes : goesOn (remove q s).1 = true) :
    ((remove q s).1, (remove q s).2.2) = s.2.removeTree q := by
  rcases h q s.1 s.2 with hsame | ⟨e, he, hrefused⟩
  · exact hsame
  · exact absurd (goesOn_iff.1 hgoes e (Prod.mk.inj hrefused).1) he

theorem IsUnreliable.tree_of_error (h : IsUnreliable remove) {p : Path} (hp : p.IsOrdinary)
    {s : σ × FileTree} {e : IoError} (hanswer : (remove (root.join p) s).1 = .error e) :
    (remove (root.join p) s).2.2 = s.2 := by
  rcases h (root.join p) s.1 s.2 with hsame | ⟨e', -, hrefused⟩
  · rcases FileTree.removeTree_cases hp s.2 root with ⟨hok, -⟩ | ⟨e', heq, -⟩
    · have hsame := (congrArg Prod.fst hsame).trans hok
      rw [show (remove (root.join p) s).1 = .ok () from hsame] at hanswer
      cases hanswer
    · exact (Prod.mk.inj (hsame.trans heq)).2
  · exact (Prod.mk.inj hrefused).2

/-- A pass with unreliable removals that comes to its end is a pass over the tree. -/
theorem prunePaths_of_unreliable (h : IsUnreliable remove) {s : σ × FileTree}
    (hok : (prunePaths remove root paths s).1.value = .ok r) :
    (prunePaths removeIn root paths s.2).1.value = .ok r ∧
      (prunePaths removeIn root paths s.2).2 = (prunePaths remove root paths s).2.2 := by
  induction paths generalizing r s with
  | nil => exact ⟨hok, rfl⟩
  | cons p paths ih =>
    obtain ⟨hgoes, rest, hrest, rfl⟩ := prunePaths_cons_of_ok hok
    obtain ⟨ihvalue, ihtree⟩ := ih hrest
    have hsame := h.eq_of_goesOn hgoes
    have hanswer : (removeIn (root.join p) s.2).1 = (remove (root.join p) s).1 :=
      congrArg Prod.fst hsame.symm
    have hstate : (removeIn (root.join p) s.2).2 = (remove (root.join p) s).2.2 :=
      congrArg Prod.snd hsame.symm
    have hgoesIn : goesOn (removeIn (root.join p) s.2).1 = true := hanswer.symm ▸ hgoes
    obtain ⟨hvalue, htree⟩ := prunePaths_cons_of_goesOn paths hgoesIn
    rw [hvalue, htree, hstate, hanswer, ihvalue, (prunePaths_cons_of_goesOn paths hgoes).2]
    exact ⟨rfl, ihtree⟩

/-! ## Vacant paths -/

theorem vacant_of_prunePaths_ok (hord : ∀ p ∈ paths, p.IsOrdinary)
    (h : (prunePaths removeIn root paths t).1.value = .ok r) :
    ∀ p ∈ paths, (prunePaths removeIn root paths t).2.Vacant (root.join p) := by
  induction paths generalizing r t with
  | nil => exact List.forall_mem_nil _
  | cons p paths ih =>
    rw [List.forall_mem_cons] at hord ⊢
    obtain ⟨hgoes, rest, hrest, rfl⟩ := prunePaths_cons_of_ok h
    rw [(prunePaths_cons_of_goesOn paths hgoes).2]
    refine ⟨?_, ih hord.2 hrest⟩
    obtain ⟨last, hname, -⟩ := FileTree.exists_steps_join root hord.1
    have hremoved : (t.removeTree (root.join p)).2.Vacant (root.join p) := by
      rcases FileTree.removeTree_cases hord.1 t root with ⟨-, hvacant⟩ | ⟨e, heq, hvacant⟩
      · exact hvacant
      · rw [heq]
        exact hvacant (goesOn_iff.1 hgoes e (Prod.mk.inj heq).1)
    exact hremoved.of_partOf hname (partOf_prunePaths root paths _)

theorem prunePaths_of_vacant (hord : ∀ p ∈ paths, p.IsOrdinary)
    (h : ∀ p ∈ paths, t.Vacant (root.join p)) :
    (prunePaths removeIn root paths t).1.value = .ok ⟨[], paths⟩ ∧
      (prunePaths removeIn root paths t).2 = t := by
  induction paths with
  | nil => exact ⟨rfl, rfl⟩
  | cons p paths ih =>
    rw [List.forall_mem_cons] at hord h
    obtain ⟨e, he, hremove⟩ := h.1.removeTree hord.1
    have hanswer : removeIn (root.join p) t = (.error e, t) := hremove
    obtain ⟨hvalue, htree⟩ := prunePaths_cons_of_notFound paths hanswer he
    obtain ⟨ihvalue, ihtree⟩ := ih hord.2 h.2
    rw [hvalue, htree, ihvalue]
    exact ⟨rfl, ihtree⟩

/-! ## A second pass -/

/-- From a path on, a pass has removed what it removed when it came there. -/
theorem filter_removed_append {before after : List Path} {p : Path} {tail : PruneReport}
    (hsorted : (before ++ p :: after).Pairwise fun p q => p.order q = .lt)
    (hbefore : r.removed.Sublist before) (htail : tail.removed.Sublist (p :: after)) :
    (r.append tail).removed.filter (fun q => (p.order q).isLE) = tail.removed := by
  obtain ⟨-, hafter, hapart⟩ := List.pairwise_append.1 hsorted
  have hearlier : r.removed.filter (fun q => (p.order q).isLE) = [] := by
    refine List.filter_eq_nil_iff.2 fun q hq => ?_
    have hgt : p.order q = .gt :=
      Std.OrientedCmp.gt_of_lt (hapart q (hbefore.subset hq) p List.mem_cons_self)
    rw [hgt]
    nofun
  have hlater : tail.removed.filter (fun q => (p.order q).isLE) = tail.removed := by
    refine List.filter_eq_self.2 fun q hq => ?_
    rcases List.mem_cons.1 (htail.subset hq) with rfl | hq
    · rw [Path.order_eq_iff.2 rfl]
      rfl
    · rw [List.rel_of_pairwise_cons hafter hq]
      rfl
  rw [PruneReport.append, List.filter_append, hearlier, hlater, List.nil_append]

/-- **A pass that is tried again does the rest.** Let the first pass with unreliable removals stop,
and the second one over the tree that it left come to its end. Then the first one was stopped by the
removal of a path of the plan, and a pass that is not interrupted comes to its end as well, leaves
the same tree, and removes what the second one removed and what stands before the path that stopped
the first one. All other paths were absent for the second pass. -/
theorem retried_pass_completes {τ : Type} {plan : BuildPlan}
    {first : Path → StateM (σ × FileTree) (Except IoError Unit)}
    {second : Path → StateM (τ × FileTree) (Except IoError Unit)} {s : σ} {u : τ}
    {failure : PackagingError} {report : PruneReport} (hfirst : IsUnreliable first)
    (hsecond : IsUnreliable second) (hord : ∀ p ∈ plan.prunedPaths.toList, p.IsOrdinary)
    (hfailed : (plan.prune first root (s, t)).1.value = .error failure)
    (hretried : (plan.prune second root (u, (plan.prune first root (s, t)).2.2)).1.value =
      .ok report) :
    ∃ p ∈ plan.prunedPaths.toList, ∃ e whole, failure = .prune (root.join p) e ∧
      (plan.pruneTree root t).1.value = .ok whole ∧
      (plan.prune second root (u, (plan.prune first root (s, t)).2.2)).2.2 =
        (plan.pruneTree root t).2 ∧
      report.removed = whole.removed.filter (fun q => (p.order q).isLE) ∧
      report.alreadyAbsent = plan.prunedPaths.toList.filter (· ∉ report.removed) := by
  rw [prune_eq, PruneOutcome.value_finish] at hfailed hretried
  obtain ⟨before, p, after, r, e, hpaths, hbefore, hanswer, -, rfl, hstop⟩ :=
    exists_stop_of_error hfailed
  have hp : p ∈ plan.prunedPaths.toList := hpaths ▸ by simp
  have hordBefore : ∀ q ∈ before, q.IsOrdinary := fun q hq => hord q (hpaths ▸ by simp [hq])
  -- The first pass leaves the tree that it had when it came to the path that stopped it.
  obtain ⟨hbeforeIn, htreeIn⟩ := prunePaths_of_unreliable hfirst hbefore
  have hleft : (plan.prune first root (s, t)).2.2 = (prunePaths removeIn root before t).2 := by
    rw [prune_eq, hstop, hfirst.tree_of_error (hord p hp) hanswer, htreeIn]
  rw [hleft] at hretried ⊢
  obtain ⟨hretriedIn, hfinal⟩ := prunePaths_of_unreliable hsecond hretried
  have hvacant := vacant_of_prunePaths_ok hordBefore hbeforeIn
  obtain ⟨hagain, hsame⟩ := prunePaths_of_vacant hordBefore hvacant
  -- Both passes over the tree go on from there with the same paths.
  obtain ⟨hsecondValue, hsecondTree⟩ := prunePaths_append_of_ok (p :: after) hagain
  obtain ⟨hwholeValue, hwholeTree⟩ := prunePaths_append_of_ok (p :: after) hbeforeIn
  rw [hsame] at hsecondValue hsecondTree
  rw [← hpaths] at hsecondValue hsecondTree hwholeValue hwholeTree
  rw [hretriedIn] at hsecondValue
  obtain ⟨tail, htail, rfl⟩ := exists_of_map_eq_ok hsecondValue.symm
  rw [htail] at hwholeValue
  refine ⟨p, hp, e, r.append tail, rfl, ?_, ?_, ?_, ?_⟩
  · rw [(pruneTree_eq plan root t).1, hwholeValue]
    rfl
  · rw [(pruneTree_eq plan root t).2, hwholeTree, ← hsecondTree, hfinal]
    rfl
  · have hsorted := plan.prunedPaths.sorted
    have hnodup := plan.prunedPaths.nodup
    rw [hpaths] at hsorted hnodup
    obtain ⟨hnodupBefore, hnodupTail, -⟩ := List.nodup_append.1 hnodup
    exact (filter_removed_append hsorted (alreadyAbsent_of_ok hnodupBefore hbeforeIn).1
      (alreadyAbsent_of_ok hnodupTail htail).1).symm
  · exact (alreadyAbsent_of_ok plan.prunedPaths.nodup hretriedIn).2

/-- The second removal is refused once. It is that of a path below the first one, which is gone
already, so the second pass finds neither of them and removes the third path. -/
theorem retried_pass_completes_nested :
    ∃ (plan : BuildPlan) (first : Path → StateM (Nat × FileTree) (Except IoError Unit))
      (second : Path → StateM (Unit × FileTree) (Except IoError Unit)) (t left : FileTree),
      plan.prunedPaths.toList = [⟨"a"⟩, ⟨"a/b"⟩, ⟨"c"⟩] ∧
      IsUnreliable first ∧ IsUnreliable second ∧
      (plan.prune first ⟨"pkg"⟩ (0, t)).1.value =
        .error (.prune ⟨"pkg/a/b"⟩ (.ofKind .resourceBusy)) ∧
      left = (plan.prune first ⟨"pkg"⟩ (0, t)).2.2 ∧
      (plan.prune second ⟨"pkg"⟩ ((), left)).1.value = .ok ⟨[⟨"c"⟩], [⟨"a"⟩, ⟨"a/b"⟩]⟩ ∧
      (plan.pruneTree ⟨"pkg"⟩ t).1.value = .ok ⟨[⟨"a"⟩, ⟨"c"⟩], [⟨"a/b"⟩]⟩ ∧
      (plan.prune second ⟨"pkg"⟩ ((), left)).2.2 = (plan.pruneTree ⟨"pkg"⟩ t).2 := by
  let plan : BuildPlan := { BuildPlan.empty with
    prunedPaths := .ofList [⟨"c"⟩, ⟨"a/b"⟩, ⟨"a"⟩] }
  let first : Path → StateM (Nat × FileTree) (Except IoError Unit) := fun q s =>
    if s.1 = 1 then (.error (.ofKind .resourceBusy), (2, s.2))
    else ((s.2.removeTree q).1, (s.1 + 1, (s.2.removeTree q).2))
  let second : Path → StateM (Unit × FileTree) (Except IoError Unit) := fun q s =>
    ((s.2.removeTree q).1, ((), (s.2.removeTree q).2))
  let t : FileTree := FileTree.empty.placeAll [(["pkg"], .directory), (["pkg", "a"], .directory),
    (["pkg", "a", "b"], .file [1]), (["pkg", "c"], .file [2])]
  have hpaths : plan.prunedPaths.toList = [⟨"a"⟩, ⟨"a/b"⟩, ⟨"c"⟩] := by decide +kernel
  have hord : ∀ p ∈ plan.prunedPaths.toList, p.IsOrdinary := by
    rw [hpaths]
    simp only [List.forall_mem_cons]
    exact ⟨⟨by decide, by decide, by decide, by decide⟩,
      ⟨by decide, by decide, by decide, by decide⟩, ⟨by decide, by decide, by decide, by decide⟩,
      List.forall_mem_nil _⟩
  have hfirst : IsUnreliable first := by
    intro q n t
    by_cases hn : n = 1
    · exact .inr ⟨.ofKind .resourceBusy, nofun, by simp [first, hn]⟩
    · exact .inl (by simp [first, hn])
  have hsecond : IsUnreliable second := fun _ _ _ => .inl rfl
  have hfailed : (plan.prune first ⟨"pkg"⟩ (0, t)).1.value =
      .error (.prune ⟨"pkg/a/b"⟩ (.ofKind .resourceBusy)) := by decide +kernel
  have hretried : (plan.prune second ⟨"pkg"⟩ ((), (plan.prune first ⟨"pkg"⟩ (0, t)).2.2)).1.value =
      .ok ⟨[⟨"c"⟩], [⟨"a"⟩, ⟨"a/b"⟩]⟩ := by decide +kernel
  obtain ⟨-, -, -, -, -, -, htree, -, -⟩ :=
    retried_pass_completes hfirst hsecond hord hfailed hretried
  exact ⟨plan, first, second, t, _, hpaths, hfirst, hsecond, hfailed, rfl, hretried,
    by decide +kernel, htree⟩

end VariantPlan
