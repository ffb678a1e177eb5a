import VariantPlan.Packaging.Prune
import VariantPlan.Proofs.Sets
import VariantPlan.Proofs.Tree.Paths

/-!
# Passes over any tree

A pass asks for the removal of one path after another, and each **answer** decides whether it goes
on: it does when the path was removed or was not found, and stops at any other answer. Nothing is
known about who answers; an answer may depend on everything that was asked before.

What was asked and answered is written down in the order of asking. A pass that stops was like a
pass over the paths before the last one until then (`exists_stop_of_error`), so all passes are
described by those that come to their end (`exists_answered_of_ok`).

Main results: `prunePaths_append_of_ok`, `exists_stop_of_error`, `alreadyAbsent_of_ok` and
`pruning_pass_complete`.
-/

namespace VariantPlan

variable {σ : Type} {remove : Path → StateM σ (Except IoError Unit)} {root p : Path}
  {paths before after : List Path} {r : PruneReport} {s : σ}

/-! ## The pass of a plan -/

theorem PruneOutcome.value_finish (o : PruneOutcome) : o.finish.value = o.value := by
  unfold finish
  split
  next h => exact h.symm
  next => rfl

theorem prune_eq (plan : BuildPlan) (remove : Path → StateM σ (Except IoError Unit))
    (root : Path) (s : σ) : plan.prune remove root s =
      ((prunePaths remove root plan.prunedPaths.toList s).1.finish,
        (prunePaths remove root plan.prunedPaths.toList s).2) := rfl

/-! ## One answer -/

/-- The report of a path, which existed or did not, before all else. -/
def PruneReport.withPath (existed : Bool) (p : Path) (r : PruneReport) : PruneReport :=
  if existed then r.withRemoved p else r.withAbsent p

/-- Whether a pass goes on after an answer: the path was removed, or was not found. -/
def goesOn : Except IoError Unit → Bool
  | .ok () => true
  | .error e => e.kind = .notFound

theorem goesOn_iff {answer : Except IoError Unit} :
    goesOn answer = true ↔ ∀ e, answer = .error e → e.kind = .notFound := by
  cases answer with
  | ok u => exact iff_of_true rfl fun e h => by cases h
  | error e => simp [goesOn]

theorem prunePaths_cons_of_goesOn (paths : List Path)
    (h : goesOn (remove (root.join p) s).1 = true) :
    (prunePaths remove root (p :: paths) s).1.value =
        (prunePaths remove root paths (remove (root.join p) s).2).1.value.map
          (.withPath (remove (root.join p) s).1.isOk p) ∧
      (prunePaths remove root (p :: paths) s).2 =
        (prunePaths remove root paths (remove (root.join p) s).2).2 := by
  rw [prunePaths_run_cons]
  cases hanswer : remove (root.join p) s with
  | mk answer s' =>
    rw [hanswer] at h
    cases answer with
    | ok u => exact ⟨rfl, rfl⟩
    | error e =>
      have he : e.kind = .notFound := of_decide_eq_true h
      simp only [he, if_true]
      exact ⟨rfl, trivial⟩

theorem prunePaths_cons_of_notFound {e : IoError} (paths : List Path)
    (h : remove (root.join p) s = (.error e, s)) (he : e.kind = .notFound) :
    (prunePaths remove root (p :: paths) s).1.value =
        (prunePaths remove root paths s).1.value.map (fun r => r.withAbsent p) ∧
      (prunePaths remove root (p :: paths) s).2 = (prunePaths remove root paths s).2 := by
  have hgoes : goesOn (remove (root.join p) s).1 = true := by
    rw [h]
    exact decide_eq_true he
  have hnext := prunePaths_cons_of_goesOn paths hgoes
  rwa [h] at hnext

theorem prunePaths_cons_of_stops (paths : List Path)
    (h : goesOn (remove (root.join p) s).1 = false) :
    ∃ e, (remove (root.join p) s).1 = .error e ∧ e.kind ≠ .notFound ∧
      (prunePaths remove root (p :: paths) s).1.value = .error (.prune (root.join p) e) ∧
      (prunePaths remove root (p :: paths) s).2 = (remove (root.join p) s).2 := by
  rw [prunePaths_run_cons]
  cases hanswer : remove (root.join p) s with
  | mk answer s' =>
    rw [hanswer] at h
    cases answer with
    | ok u => cases h
    | error e =>
      have he : e.kind ≠ .notFound := of_decide_eq_false h
      simp only [he, if_false]
      exact ⟨e, rfl, he, rfl, trivial⟩

/-- A pass that comes to its end was let go on by its first path. -/
theorem prunePaths_cons_of_ok (h : (prunePaths remove root (p :: paths) s).1.value = .ok r) :
    goesOn (remove (root.join p) s).1 = true ∧
      ∃ rest, (prunePaths remove root paths (remove (root.join p) s).2).1.value = .ok rest ∧
        r = rest.withPath (remove (root.join p) s).1.isOk p := by
  cases hgoes : goesOn (remove (root.join p) s).1 with
  | false =>
    obtain ⟨e, -, -, hvalue, -⟩ := prunePaths_cons_of_stops paths hgoes
    rw [hvalue] at h
    cases h
  | true =>
    rw [(prunePaths_cons_of_goesOn paths hgoes).1] at h
    obtain ⟨rest, hrest, rfl⟩ := exists_of_map_eq_ok h
    exact ⟨rfl, rest, hrest, rfl⟩

/-! ## Passes one after another -/

/-- One report after another. -/
def PruneReport.append (r rest : PruneReport) : PruneReport :=
  ⟨r.removed ++ rest.removed, r.alreadyAbsent ++ rest.alreadyAbsent⟩

theorem PruneReport.withPath_append (existed : Bool) (p : Path) (r rest : PruneReport) :
    (r.withPath existed p).append rest = (r.append rest).withPath existed p := by
  cases existed <;> rfl

theorem prunePaths_append_of_ok (after : List Path)
    (h : (prunePaths remove root before s).1.value = .ok r) :
    (prunePaths remove root (before ++ after) s).1.value =
        (prunePaths remove root after (prunePaths remove root before s).2).1.value.map r.append ∧
      (prunePaths remove root (before ++ after) s).2 =
        (prunePaths remove root after (prunePaths remove root before s).2).2 := by
  induction before generalizing r s with
  | nil =>
    obtain rfl : r = .empty := (Except.ok.inj h).symm
    refine ⟨?_, rfl⟩
    show (prunePaths remove root after s).1.value =
      (prunePaths remove root after s).1.value.map PruneReport.empty.append
    cases (prunePaths remove root after s).1.value <;> rfl
  | cons p before ih =>
    obtain ⟨hgoes, rest, hrest, rfl⟩ := prunePaths_cons_of_ok h
    obtain ⟨hvalue, hstate⟩ := prunePaths_cons_of_goesOn (before ++ after) hgoes
    obtain ⟨ihvalue, ihstate⟩ := ih hrest
    rw [(prunePaths_cons_of_goesOn before hgoes).2, List.cons_append, hvalue, hstate, ihvalue]
    refine ⟨?_, ihstate⟩
    cases (prunePaths remove root after (prunePaths remove root before _).2).1.value with
    | error e => rfl
    | ok more => exact congrArg _ (rest.withPath_append _ p more).symm

/-- A pass that fails came to the end of the paths before the one whose answer stops it. -/
theorem exists_stop_of_error {failure : PackagingError}
    (h : (prunePaths remove root paths s).1.value = .error failure) :
    ∃ before p after r e, paths = before ++ p :: after ∧
      (prunePaths remove root before s).1.value = .ok r ∧
      (remove (root.join p) (prunePaths remove root before s).2).1 = .error e ∧
      e.kind ≠ .notFound ∧ failure = .prune (root.join p) e ∧
      (prunePaths remove root paths s).2 =
        (remove (root.join p) (prunePaths remove root before s).2).2 := by
  induction paths generalizing s with
  | nil => cases h
  | cons p paths ih =>
    cases hgoes : goesOn (remove (root.join p) s).1 with
    | false =>
      -- The pass stops at its first path.
      obtain ⟨e, hanswer, he, hvalue, hstate⟩ := prunePaths_cons_of_stops paths hgoes
      rw [hvalue] at h
      exact ⟨[], p, paths, .empty, e, rfl, rfl, hanswer, he, (Except.error.inj h).symm, hstate⟩
    | true =>
      -- The stop is among the other paths, and the first one comes before it.
      obtain ⟨hvalue, hstate⟩ := prunePaths_cons_of_goesOn paths hgoes
      rw [hvalue] at h
      obtain ⟨before, q, after, r, e, rfl, hbefore, hanswer, he, hfailure, hstop⟩ :=
        ih (eq_error_of_map h)
      obtain ⟨hfirst, hnext⟩ := prunePaths_cons_of_goesOn before hgoes
      rw [hbefore] at hfirst
      exact ⟨p :: before, q, after, _, e, rfl, hfirst, hnext.symm ▸ hanswer, he, hfailure,
        hstate.trans (hnext.symm ▸ hstop)⟩

theorem value_ne_prune_of_not_mem {e : IoError} (hpaths : ∀ q ∈ paths, q.isAbsolute = false)
    (hp : p.isAbsolute = false) (h : p ∉ paths) :
    (prunePaths remove root paths s).1.value ≠ .error (.prune (root.join p) e) := by
  intro hvalue
  obtain ⟨before, q, after, r, e', rfl, -, -, -, hfailure, -⟩ := exists_stop_of_error hvalue
  have hq : q ∈ before ++ q :: after := by simp
  obtain rfl := Path.join_injective hp (hpaths q hq) (PackagingError.prune.inj hfailure).1
  exact h hq

/-! ## Reports -/

/-- A pass that comes to its end reports some of its paths as removed, and the others as absent. -/
theorem alreadyAbsent_of_ok (hnodup : paths.Nodup)
    (h : (prunePaths remove root paths s).1.value = .ok r) :
    r.removed.Sublist paths ∧ r.alreadyAbsent = paths.filter (· ∉ r.removed) := by
  induction paths generalizing r s with
  | nil =>
    obtain rfl : r = .empty := (Except.ok.inj h).symm
    exact ⟨.slnil, rfl⟩
  | cons p paths ih =>
    rw [List.nodup_cons] at hnodup
    obtain ⟨-, rest, hrest, rfl⟩ := prunePaths_cons_of_ok h
    obtain ⟨hremoved, habsent⟩ := ih hnodup.2 hrest
    -- The path is asked for once, so the rest of the pass does not report it.
    have hp : p ∉ rest.removed := fun hp => hnodup.1 (hremoved.subset hp)
    cases (remove (root.join p) s).1.isOk with
    | true =>
      refine ⟨hremoved.cons_cons p, ?_⟩
      show rest.alreadyAbsent = _
      rw [habsent,
        List.filter_cons_of_neg (by simp [PruneReport.withPath, PruneReport.withRemoved])]
      refine List.filter_congr fun q hq => ?_
      have hne : q ≠ p := fun heq => hnodup.1 (heq ▸ hq)
      simp [PruneReport.withPath, PruneReport.withRemoved, hne]
    | false =>
      refine ⟨hremoved.cons p, ?_⟩
      show p :: rest.alreadyAbsent = List.filter (· ∉ rest.removed) (p :: paths)
      rw [List.filter_cons_of_pos (by simpa using hp), habsent]

/-! ## What was asked and answered -/

/-- Remove, and write down what was to be removed and how that was answered. -/
def noting (remove : Path → StateM σ (Except IoError Unit)) (q : Path) :
    StateM (List (Path × Except IoError Unit) × σ) (Except IoError Unit) := fun s =>
  ((remove q s.2).1, (s.1 ++ [(q, (remove q s.2).1)], (remove q s.2).2))

/-- A pass sees no more of a state than the answers do. -/
theorem prunePaths_view {τ : Type} {remove' : Path → StateM τ (Except IoError Unit)} (view : σ → τ)
    (h : ∀ q s, remove' q (view s) = ((remove q s).1, view (remove q s).2)) (paths : List Path)
    (s : σ) : prunePaths remove' root paths (view s) =
      ((prunePaths remove root paths s).1, view (prunePaths remove root paths s).2) := by
  induction paths generalizing s with
  | nil => rfl
  | cons p paths ih =>
    rw [prunePaths_run_cons, prunePaths_run_cons, h]
    cases hanswer : remove (root.join p) s with
    | mk answer s' =>
      cases answer with
      | ok u => simp only [ih]
      | error e => by_cases he : e.kind = .notFound <;> simp only [he, ih, if_true, if_false]

/-- The report of answers: the paths of the successes, and all others. -/
def PruneReport.ofAnswers (answered : List (Path × Except IoError Unit)) : PruneReport :=
  ⟨(answered.filter (·.2.isOk)).map Prod.fst, (answered.filter (!·.2.isOk)).map Prod.fst⟩

theorem PruneReport.ofAnswers_cons (a : Path × Except IoError Unit)
    (answered : List (Path × Except IoError Unit)) :
    ofAnswers (a :: answered) = (ofAnswers answered).withPath a.2.isOk a.1 := by
  unfold ofAnswers withPath
  cases ha : a.2.isOk <;> simp [ha, withRemoved, withAbsent]

/-- A pass that comes to its end has asked for all of its paths, and reports the answers. -/
theorem exists_answered_of_ok {noted : List (Path × Except IoError Unit)}
    (h : (prunePaths (noting remove) root paths (noted, s)).1.value = .ok r) :
    ∃ answered : List (Path × Except IoError Unit),
      (prunePaths (noting remove) root paths (noted, s)).2.1 =
        noted ++ answered.map (fun a => (root.join a.1, a.2)) ∧
      answered.map Prod.fst = paths ∧ (∀ a ∈ answered, goesOn a.2 = true) ∧
      r = .ofAnswers answered := by
  induction paths generalizing noted r s with
  | nil =>
    obtain rfl : r = .empty := (Except.ok.inj h).symm
    exact ⟨[], (List.append_nil noted).symm, rfl, nofun, rfl⟩
  | cons p paths ih =>
    obtain ⟨hgoes, rest, hrest, rfl⟩ := prunePaths_cons_of_ok h
    obtain ⟨answered, hnoted, hpaths, hall, rfl⟩ := ih hrest
    refine ⟨(p, (remove (root.join p) s).1) :: answered, ?_, by rw [List.map_cons, hpaths],
      List.forall_mem_cons.2 ⟨hgoes, hall⟩,
      (PruneReport.ofAnswers_cons (p, (remove (root.join p) s).1) answered).symm⟩
    rw [(prunePaths_cons_of_goesOn paths hgoes).2]
    exact hnoted.trans (List.append_assoc noted _ _)

/-- How a pass ends, by the paths it asked for and the answers: after all paths, or at the first
answer that does not let it go on. -/
inductive EndsWith (root : Path) (paths : List Path) :
    List (Path × Except IoError Unit) → Except PackagingError PruneReport → Prop
  | done {answered : List (Path × Except IoError Unit)} (hpaths : answered.map Prod.fst = paths)
      (hall : ∀ a ∈ answered, goesOn a.2 = true) :
      EndsWith root paths answered (.ok (.ofAnswers answered))
  | stopped {before : List (Path × Except IoError Unit)} {p : Path} {after : List Path}
      {e : IoError} (hpaths : before.map Prod.fst ++ p :: after = paths)
      (hbefore : ∀ a ∈ before, goesOn a.2 = true) (he : e.kind ≠ .notFound) :
      EndsWith root paths (before ++ [(p, .error e)]) (.error (.prune (root.join p) e))

/-- **A pass ends with its answers.** -/
theorem exists_endsWith (root : Path) (paths : List Path)
    (remove : Path → StateM σ (Except IoError Unit)) (s : σ) :
    ∃ answered : List (Path × Except IoError Unit),
      (prunePaths (noting remove) root paths ([], s)).2.1 =
        answered.map (fun a => (root.join a.1, a.2)) ∧
      EndsWith root paths answered (prunePaths (noting remove) root paths ([], s)).1.value := by
  cases hvalue : (prunePaths (noting remove) root paths ([], s)).1.value with
  | ok r =>
    obtain ⟨answered, hnoted, hpaths, hall, rfl⟩ := exists_answered_of_ok hvalue
    exact ⟨answered, hnoted, .done hpaths hall⟩
  | error failure =>
    obtain ⟨before, p, after, r, e, rfl, hbefore, hanswer, he, rfl, hstate⟩ :=
      exists_stop_of_error hvalue
    obtain ⟨answered, hnoted, rfl, hall, -⟩ := exists_answered_of_ok hbefore
    refine ⟨answered ++ [(p, .error e)], ?_, .stopped rfl hall he⟩
    rw [hstate, List.map_append, List.map_singleton, ← hanswer]
    exact congrArg (· ++ _) hnoted

theorem EndsWith.prefix_paths {paths : List Path} {answered : List (Path × Except IoError Unit)}
    {outcome : Except PackagingError PruneReport} (h : EndsWith root paths answered outcome) :
    answered.map Prod.fst <+: paths := by
  cases h with
  | done hpaths hall => exact hpaths ▸ List.prefix_rfl
  | stopped hpaths hbefore he =>
    rw [← hpaths, List.map_append, List.map_singleton]
    exact ⟨_, List.append_assoc _ _ _⟩

/-- **What a pass asks for, and what it makes of the answers.** Take a plan, a root and anything
that answers the removals, out of a state that each of them may change. Then some paths of the plan
were asked for, seen from the root, and each of them was answered:

* they are the first ones of the plan, in increasing order of components, none of them twice; seen
  from the root they are in this order as well, if no path of the plan is absolute or begins with a
  dot;
* if every answer lets the pass go on, they are all paths of the plan, and the report tells apart
  those that were removed and those that were not found, in their order;
* otherwise the last answer is the first one that does not, and the failure tells its path and its
  cause.

A path of the plan may be seen from the root as another one is, as an absolute path is. -/
theorem pruning_pass_complete (plan : BuildPlan) (root : Path)
    (remove : Path → StateM σ (Except IoError Unit)) (s : σ) :
    ∃ answered : List (Path × Except IoError Unit),
      plan.prune (noting remove) root ([], s) = ((plan.prune remove root s).1,
        (answered.map fun a => (root.join a.1, a.2)), (plan.prune remove root s).2) ∧
      answered.map Prod.fst <+: plan.prunedPaths.toList ∧
      (answered.map Prod.fst).Pairwise (fun p q => p.order q = .lt) ∧
      ((∀ p ∈ plan.prunedPaths.toList,
          p.isAbsolute = false ∧ p.parts.head? ≠ some .current) →
        (answered.map fun a => root.join a.1).Pairwise fun p q => p.order q = .lt) ∧
      ((∀ a ∈ answered, goesOn a.2 = true) →
        answered.map Prod.fst = plan.prunedPaths.toList ∧
        ∃ report, (plan.prune remove root s).1.value = .ok report ∧
          report.removed = (answered.filter (·.2.isOk)).map Prod.fst ∧
          report.alreadyAbsent = (answered.filter (!·.2.isOk)).map Prod.fst ∧
          report.removed.Sublist plan.prunedPaths.toList ∧
          report.alreadyAbsent.Sublist plan.prunedPaths.toList ∧
          report.removed.Disjoint report.alreadyAbsent ∧
          (report.removed ++ report.alreadyAbsent).Perm plan.prunedPaths.toList) ∧
      (¬(∀ a ∈ answered, goesOn a.2 = true) →
        ∃ before p e, answered = before ++ [(p, .error e)] ∧
          (∀ a ∈ before, goesOn a.2 = true) ∧ e.kind ≠ .notFound ∧
          (plan.prune remove root s).1.value = .error (.prune (root.join p) e)) := by
  obtain ⟨answered, hnoted, hends⟩ := exists_endsWith root plan.prunedPaths.toList remove s
  have hview : prunePaths remove root plan.prunedPaths.toList s =
      ((prunePaths (noting remove) root plan.prunedPaths.toList ([], s)).1,
        (prunePaths (noting remove) root plan.prunedPaths.toList ([], s)).2.2) :=
    prunePaths_view Prod.snd (fun _ _ => rfl) plan.prunedPaths.toList ([], s)
  have hvalue : (plan.prune remove root s).1.value =
      (prunePaths (noting remove) root plan.prunedPaths.toList ([], s)).1.value := by
    rw [prune_eq, hview, PruneOutcome.value_finish]
  rw [← hvalue] at hends
  have hfirst := hends.prefix_paths
  have hsorted : (answered.map Prod.fst).Pairwise fun p q => p.order q = .lt :=
    plan.prunedPaths.sorted.sublist hfirst.sublist
  refine ⟨answered, ?_, hfirst, hsorted, fun hrelative => ?_, fun hall => ?_, fun hnot => ?_⟩
  · -- Noting what is asked changes no answer.
    rw [prune_eq, prune_eq, hview, ← hnoted]
  · have hjoined : ((answered.map Prod.fst).map root.join).Pairwise fun p q => p.order q = .lt := by
      refine List.pairwise_map.2 (hsorted.imp_of_mem fun hp hq hlt => ?_)
      obtain ⟨hp, hp'⟩ := hrelative _ (hfirst.subset hp)
      obtain ⟨hq, hq'⟩ := hrelative _ (hfirst.subset hq)
      rw [Path.order_join hp hp' hq hq', hlt]
    rwa [List.map_map] at hjoined
  · -- Every answer lets the pass go on, so it came to its end.
    generalize (plan.prune remove root s).1.value = outcome at hends hvalue
    cases hends with
    | stopped hpaths hbefore he =>
      exact absurd (hall _ (List.mem_append_right _ List.mem_cons_self))
        (by simpa [goesOn] using he)
    | done hpaths hall =>
      obtain ⟨hremoved, habsent⟩ := alreadyAbsent_of_ok plan.prunedPaths.nodup hvalue.symm
      refine ⟨hpaths, _, rfl, rfl, rfl, hremoved, ?_, ?_, ?_⟩
      · rw [habsent]
        exact List.filter_sublist
      · rw [habsent]
        intro p hp hp'
        simpa [hp] using (List.mem_filter.1 hp').2
      · rw [← hpaths, PruneReport.ofAnswers, ← List.map_append]
        exact (List.filter_append_perm _ answered).map Prod.fst
  · generalize (plan.prune remove root s).1.value = outcome at hends hvalue
    cases hends with
    | done hpaths hall => exact absurd hall hnot
    | stopped hpaths hbefore he => exact ⟨_, _, _, rfl, hbefore, he, rfl⟩

/-- Answers that change from one call to the next: the first path is not found, the second one is
removed, and the third one is busy and stops the pass. The fourth one is not asked for. -/
theorem pruning_pass_complete_changing :
    ∃ (plan : BuildPlan) (remove : Path → StateM Nat (Except IoError Unit)),
      plan.prunedPaths.toList = [⟨"a"⟩, ⟨"a/b"⟩, ⟨"c"⟩, ⟨"d"⟩] ∧
      (plan.prune (noting remove) ⟨"pkg"⟩ ([], 0)).2.1 =
        [(⟨"pkg/a"⟩, .error (.ofKind .notFound)), (⟨"pkg/a/b"⟩, .ok ()),
          (⟨"pkg/c"⟩, .error (.ofKind .resourceBusy))] ∧
      (plan.prune remove ⟨"pkg"⟩ 0).1.value =
        .error (.prune ⟨"pkg/c"⟩ (.ofKind .resourceBusy)) := by
  let plan : BuildPlan := { BuildPlan.empty with
    prunedPaths := .ofList [⟨"d"⟩, ⟨"c"⟩, ⟨"a/b"⟩, ⟨"a"⟩] }
  let remove : Path → StateM Nat (Except IoError Unit) := fun _ n =>
    (if n = 0 then .error (.ofKind .notFound) else if n = 1 then .ok ()
      else .error (.ofKind .resourceBusy), n + 1)
  have hasked : (plan.prune (noting remove) ⟨"pkg"⟩ ([], 0)).2.1 =
      [(⟨"pkg/a"⟩, .error (.ofKind .notFound)), (⟨"pkg/a/b"⟩, .ok ()),
        (⟨"pkg/c"⟩, .error (.ofKind .resourceBusy))] := by decide +kernel
  refine ⟨plan, remove, by decide +kernel, hasked, ?_⟩
  obtain ⟨answered, hnoted, -, -, -, -, hstop⟩ := pruning_pass_complete plan ⟨"pkg"⟩ remove 0
  rw [hnoted] at hasked
  change (answered.map fun a => (Path.join ⟨"pkg"⟩ a.1, a.2)) = _ at hasked
  have hnot : ¬∀ a ∈ answered, goesOn a.2 = true := by
    intro hall
    have hmem : (⟨"pkg/c"⟩, .error (.ofKind .resourceBusy)) ∈
        answered.map fun a => (Path.join ⟨"pkg"⟩ a.1, a.2) := by
      rw [hasked]
      simp
    obtain ⟨a, ha, heq⟩ := List.mem_map.1 hmem
    have hgoes := hall a ha
    rw [(Prod.mk.inj heq).2] at hgoes
    exact absurd hgoes (by decide)
  obtain ⟨before, p, e, rfl, -, -, hvalue⟩ := hstop hnot
  have hlast := congrArg List.getLast? hasked
  simp only [List.map_append, List.map_singleton, List.getLast?_concat] at hlast
  obtain ⟨hjoin, he⟩ := Prod.mk.inj (Option.some.inj hlast)
  rw [hvalue, hjoin, Except.error.inj he]

end VariantPlan
