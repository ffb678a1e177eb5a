import VariantPlan.Proofs.Packaging.Retrying

/-!
# Pruning a tree

A pass over a tree of files and directories erases the pruned paths one by one, each with all that
is below it, as long as its root **lasts**: the root leads to its directory until there is nothing
left to be erased. A path of a root that goes up may go through a pruned path, as `a/..` does when
`a` is pruned. Such a root leads nowhere once that path is gone, and what is left then is not found
and counts as absent though it is there.

Whether a path is reported as removed depends on the removals before it, since a path below another
one is gone with that one. The order of the set puts the other one first, so each path is told apart
by the tree before the pass: it is removed if it exists and is below no other one of the set.

One path is a step: it erases its location, or the root does not last, or nothing stands there and
nothing changes. The pass is an induction over the paths with the tree as the state.

Main results: `removeTree_of_clear_leadsTo`, `removeTree_of_none` and `kept_of_not_leadsTo` (what a
step does), `prunePaths_of_lasts` and `lasts_of_erased` (a pass that comes to its end),
`pruning_removes_exactly` and `pruning_through_pruned_root`.
-/

namespace VariantPlan

/-- Whether a path leads to another one. -/
def Path.isAbove (q p : Path) : Bool := q.names.isPrefixOf p.names && q.names != p.names

variable {t : FileTree} {root p : Path} {dir : Location} {paths : List Path} {r : PruneReport}

/-! ## One path -/

namespace FileTree

section Step

variable (ht : t.LinkFreeBelow dir) (hroot : ∀ dir', t.LeadsTo root dir' → dir' = dir)
  (hp : p.IsOrdinary)

include ht hroot hp

theorem removeTree_of_none (h : t.entryAt? (dir ++ p.names) = none) :
    ∃ e, t.removeTree (root.join p) = (.error e, t) := by
  by_cases hleads : t.LeadsTo root dir
  · cases hfault : (root.join p).fault? with
    | some e => exact ⟨e, removeTree_of_fault hfault⟩
    | none =>
      have hremove := removeTree_of_reach ht hp hfault hleads
      cases hreach : t.reach dir p.names with
      | error e =>
        rw [hreach] at hremove
        exact ⟨e, hremove⟩
      | ok entry =>
        rw [hreach, reach_eq_ok hreach, h] at hremove
        exact ⟨_, hremove⟩
  · exact removeTree_of_not_leadsTo hp fun dir' hdir => hleads (hroot dir' hdir ▸ hdir)

omit hroot in
/-- Something is erased if the root leads to its directory without what is below the location. -/
theorem removeTree_of_clear_leadsTo (h : (t.entryAt? (dir ++ p.names)).isSome = true)
    (hclear : (t.clear (dir ++ p.names)).LeadsTo root dir)
    (hgoes : goesOn (t.removeTree (root.join p)).1 = true) :
    t.removeTree (root.join p) = (.ok (), t.erase (dir ++ p.names)) := by
  have hleads := hclear.of_partOf (t.partOf_clear _)
  obtain ⟨hfault, hreach⟩ := reach_of_gone ht hp hleads (goesOn_iff.1 hgoes)
  -- The names are followed to the end, where something stands.
  obtain ⟨e, he⟩ := Option.isSome_iff_exists.1 h
  rw [removeTree_join ht hp hfault hclear, hreach, he]

/-- Otherwise something is left, and the root leads nowhere from then on. -/
theorem kept_of_not_leadsTo (h : (t.entryAt? (dir ++ p.names)).isSome = true)
    (hclear : ¬(t.clear (dir ++ p.names)).LeadsTo root dir)
    (hgoes : goesOn (t.removeTree (root.join p)).1 = true) :
    ((t.removeTree (root.join p)).2.entryAt? (dir ++ p.names)).isSome = true ∧
      ∀ dir', ¬(t.removeTree (root.join p)).2.LeadsTo root dir' := by
  have hnowhere (dir' : Location) : ¬(t.clear (dir ++ p.names)).LeadsTo root dir' := fun hdir =>
    hclear (hroot dir' (hdir.of_partOf (t.partOf_clear _)) ▸ hdir)
  -- Clearing cuts the root off, unless it led nowhere before.
  by_cases hleads : t.LeadsTo root dir
  · have hdir : t.entryAt? (dir ++ p.names) = some .directory := by
      by_contra hother
      rw [clear_eq_self hother] at hclear
      exact hclear hleads
    -- The contents go first, and then the path of the directory is not found any more.
    have hremoved : (t.removeTree (root.join p)).2 = t.clear (dir ++ p.names) := by
      obtain ⟨hfault, hreach⟩ := reach_of_gone ht hp hleads (goesOn_iff.1 hgoes)
      have hremove := removeTree_of_reach ht hp hfault hleads
      rw [hreach, hdir] at hremove
      rw [show t.removeTree (root.join p) = t.removeContents _ _ from hremove,
        snd_removeContents, snd_removeDirectory_of_not_leadsTo hp hnowhere]
    rw [hremoved, entryAt?_clear _ _ (hp.append_names_ne_nil dir), hdir]
    exact ⟨by simp [isBelow], hnowhere⟩
  · have hnone (dir' : Location) : ¬t.LeadsTo root dir' := fun hdir =>
      hleads (hroot dir' hdir ▸ hdir)
    obtain ⟨e, he⟩ := removeTree_of_not_leadsTo hp hnone
    rw [he]
    exact ⟨h, hnone⟩

end Step

/-! ## Roots that last -/

/-- A root **lasts** through a pass: it leads to its directory whenever something stands at the
location of the next path, without what is below that location. -/
def Lasts (t : FileTree) (root : Path) (dir : Location) : List Path → Prop
  | [] => True
  | p :: paths =>
    ((t.entryAt? (dir ++ p.names)).isSome = true → (t.clear (dir ++ p.names)).LeadsTo root dir) ∧
      (t.erase (dir ++ p.names)).Lasts root dir paths

/-- The locations of paths below a directory. -/
def locations (dir : Location) (paths : List Path) : List Location :=
  paths.map fun p => dir ++ p.names

/-- A root that leads to its directory in the end lasts. -/
theorem Lasts.of_eraseAll (h : (t.eraseAll (locations dir paths)).LeadsTo root dir) :
    t.Lasts root dir paths := by
  induction paths generalizing t with
  | nil => trivial
  | cons p paths ih =>
    have hpart := (t.erase (dir ++ p.names)).partOf_eraseAll (locations dir paths)
    exact ⟨fun _ => h.of_partOf (hpart.trans (t.partOf_erase_clear _)), ih h⟩

theorem mem_locations (hord : ∀ p ∈ paths, p.IsOrdinary) {loc : Location}
    (h : loc ∈ locations dir paths) : dir <+: loc ∧ loc ≠ dir := by
  obtain ⟨p, hp, rfl⟩ := List.mem_map.1 h
  exact ⟨List.prefix_append _ _, fun heq => (hord p hp).nonempty (List.append_right_eq_self.1 heq)⟩

theorem Lasts.of_downward (ht : t.LinkFree) (hroot : t.LeadsTo root dir)
    (hup : .parent ∉ root.parts) (hord : ∀ p ∈ paths, p.IsOrdinary) : t.Lasts root dir paths :=
  .of_eraseAll (hroot.eraseAll ht hup fun _ => mem_locations hord)

end FileTree

/-! ## Reports -/

/-- The report that tells the paths with a property from the others. -/
def PruneReport.split (f : Path → Bool) (paths : List Path) : PruneReport :=
  ⟨paths.filter f, paths.filter (!f ·)⟩

theorem PruneReport.split_cons (f : Path → Bool) (p : Path) (paths : List Path) :
    split f (p :: paths) = (split f paths).withPath (f p) p := by
  unfold split withPath
  cases hf : f p <;> simp [hf, withRemoved, withAbsent]

theorem PruneReport.split_congr {f g : Path → Bool} (h : ∀ p ∈ paths, f p = g p) :
    split f paths = split g paths := by
  unfold split
  rw [List.filter_congr h, List.filter_congr fun p hp => congrArg (!·) (h p hp)]

/-- Whether a path exists below a directory and is below no other of the given paths. -/
def isRemoved (t : FileTree) (dir : Location) (paths : List Path) (p : Path) : Bool :=
  (t.entryAt? (dir ++ p.names)).isSome && !paths.any (·.isAbove p)

theorem Path.isAbove_iff {q p : Path} :
    q.isAbove p = true ↔ q.names <+: p.names ∧ q.names ≠ p.names := by
  rw [Path.isAbove, Bool.and_eq_true, List.isPrefixOf_iff_prefix, bne_iff_ne]

theorem isRemoved_head (h : ∀ q ∈ paths, ¬q.names <+: p.names) :
    isRemoved t dir (p :: paths) p = (t.entryAt? (dir ++ p.names)).isSome := by
  have hnone : (p :: paths).any (·.isAbove p) = false := by
    refine List.any_eq_false.2 fun q hq habove => ?_
    obtain ⟨hbegin, hne⟩ := Path.isAbove_iff.1 habove
    rcases List.mem_cons.1 hq with rfl | hq
    · exact hne rfl
    · exact h q hq hbegin
  rw [isRemoved, hnone, Bool.not_false, Bool.and_true]

/-- What is below the first path of a set does not exist after the first step. -/
theorem isRemoved_tail {q : Path} (hp : p.IsOrdinary) (h : ¬q.names <+: p.names) :
    isRemoved (t.erase (dir ++ p.names)) dir paths q = isRemoved t dir (p :: paths) q := by
  have habove : p.isAbove q = decide (p.names <+: q.names) := by
    rw [Bool.eq_iff_iff, Path.isAbove_iff, decide_eq_true_iff]
    exact and_iff_left_of_imp fun _ heq => h (heq ▸ List.prefix_rfl)
  rw [isRemoved, isRemoved, FileTree.entryAt?_erase_names hp, List.any_cons, habove]
  simp only [List.prefix_append_right_inj]
  by_cases hbegin : p.names <+: q.names <;> simp [hbegin]

/-! ## A pass that comes to its end -/

section Pass

variable (hord : ∀ p ∈ paths, p.IsOrdinary) (ht : t.LinkFreeBelow dir)
  (hroot : ∀ dir', t.LeadsTo root dir' → dir' = dir)
  (hok : (prunePaths removeIn root paths t).1.value = .ok r)

include hord ht hroot hok

/-- A pass whose root lasts erases all paths, and reports them by the tree before it. -/
theorem prunePaths_of_lasts (hsorted : paths.Pairwise fun p q => ¬q.names <+: p.names)
    (hlasts : t.Lasts root dir paths) :
    (prunePaths removeIn root paths t).2 = t.eraseAll (FileTree.locations dir paths) ∧
      r = .split (isRemoved t dir paths) paths := by
  induction paths generalizing t r with
  | nil => exact ⟨rfl, (Except.ok.inj hok).symm⟩
  | cons p paths ih =>
    rw [List.forall_mem_cons] at hord
    rw [List.pairwise_cons] at hsorted
    obtain ⟨hfirst, hlasts⟩ := hlasts
    obtain ⟨hgoes, rest, hrest, rfl⟩ := prunePaths_cons_of_ok hok
    have hpart := t.partOf_erase (dir ++ p.names)
    -- The first path is erased, whether something stands there or not.
    have hremoved : (removeIn (root.join p) t).2 = t.erase (dir ++ p.names) ∧
        (removeIn (root.join p) t).1.isOk = (t.entryAt? (dir ++ p.names)).isSome := by
      by_cases hsome : (t.entryAt? (dir ++ p.names)).isSome = true
      · rw [removeIn, FileTree.removeTree_of_clear_leadsTo ht hord.1 hsome (hfirst hsome) hgoes,
          hsome]
        exact ⟨rfl, rfl⟩
      · have hnone := Option.not_isSome_iff_eq_none.1 hsome
        obtain ⟨e, he⟩ := FileTree.removeTree_of_none ht hroot hord.1 hnone
        rw [removeIn, he, FileTree.erase_eq_self hnone, hnone]
        exact ⟨rfl, rfl⟩
    rw [hremoved.1] at hrest
    obtain ⟨ihtree, rfl⟩ := ih hord.2 (hpart.linkFreeBelow ht)
      (fun dir' hdir => hroot dir' (hdir.of_partOf hpart)) hrest hsorted.2 hlasts
    refine ⟨by rw [(prunePaths_cons_of_goesOn paths hgoes).2, hremoved.1, ihtree]; rfl, ?_⟩
    rw [PruneReport.split_cons, isRemoved_head hsorted.1, hremoved.2]
    exact congrArg _ (PruneReport.split_congr fun q hq => isRemoved_tail hord.1 (hsorted.1 q hq))

/-- If a pass leaves nothing at its paths, its root lasted. -/
theorem lasts_of_erased
    (h : ∀ p ∈ paths, (prunePaths removeIn root paths t).2.entryAt? (dir ++ p.names) = none) :
    t.Lasts root dir paths := by
  induction paths generalizing t r with
  | nil => trivial
  | cons p paths ih =>
    rw [List.forall_mem_cons] at hord h
    obtain ⟨hgoes, rest, hrest, -⟩ := prunePaths_cons_of_ok hok
    rw [(prunePaths_cons_of_goesOn paths hgoes).2] at h
    have hpart := t.partOf_erase (dir ++ p.names)
    have hnext (htree : (removeIn (root.join p) t).2 = t.erase (dir ++ p.names)) :
        (t.erase (dir ++ p.names)).Lasts root dir paths := by
      rw [htree] at hrest h
      exact ih hord.2 (hpart.linkFreeBelow ht)
        (fun dir' hdir => hroot dir' (hdir.of_partOf hpart)) hrest h.2
    by_cases hsome : (t.entryAt? (dir ++ p.names)).isSome = true
    · have hclear : (t.clear (dir ++ p.names)).LeadsTo root dir := by
        by_contra hnot
        -- What the first path leaves behind is out of reach for all later ones.
        obtain ⟨hkept, hnowhere⟩ :=
          FileTree.kept_of_not_leadsTo ht hroot hord.1 hsome hnot hgoes
        have hsame : (prunePaths removeIn root paths (removeIn (root.join p) t).2).2.entryAt?
            (dir ++ p.names) = (removeIn (root.join p) t).2.entryAt? (dir ++ p.names) :=
          entryAt?_prunePaths (fun dir' hdir => absurd hdir (hnowhere dir')) hord.2
            fun dir' hdir => absurd hdir (hnowhere dir')
        rw [h.1] at hsame
        rw [show (t.removeTree _).2.entryAt? _ = none from hsame.symm] at hkept
        cases hkept
      refine ⟨fun _ => hclear, hnext ?_⟩
      rw [removeIn, FileTree.removeTree_of_clear_leadsTo ht hord.1 hsome hclear hgoes]
    · have hnone := Option.not_isSome_iff_eq_none.1 hsome
      obtain ⟨e, he⟩ := FileTree.removeTree_of_none ht hroot hord.1 hnone
      refine ⟨fun h => absurd h hsome, hnext ?_⟩
      rw [removeIn, he, FileTree.erase_eq_self hnone]

end Pass

/-- **Pruning removes exactly the pruned paths if its root lasts, and only then.** Take a tree of
files and directories, a path that leads to a directory in it, and a plan whose pruned paths are
ordinary. If the pass succeeds, then

* the tree that is left is the tree before without what stands at the pruned paths and below them if
  the root lasts, and only then;
* if it lasts, the removed paths are those that existed and are below no other one, in the order of
  the set, and the others were absent already;
* everything else stands as it did, and a second pass succeeds, removes nothing, finds all paths
  absent and leaves the tree as it is;
* a root lasts if its path goes down only, or leads to its directory in the end; and the directory
  has a path that lasts, if the names on the way there can be written into one. -/
theorem pruning_removes_exactly {plan : BuildPlan} {t : FileTree} {root : Path} {dir : Location}
    {report : PruneReport} (ht : t.LinkFree) (hroot : t.LeadsTo root dir)
    (hord : ∀ p ∈ plan.prunedPaths.toList, p.IsOrdinary)
    (hok : (plan.pruneTree root t).1.value = .ok report) :
    (t.Lasts root dir plan.prunedPaths.toList ↔ ∀ k, (plan.pruneTree root t).2.entryAt? k =
      if ∃ p ∈ plan.prunedPaths.toList, dir ++ p.names <+: k then none else t.entryAt? k) ∧
    (t.Lasts root dir plan.prunedPaths.toList →
      report.removed = plan.prunedPaths.toList.filter (fun p =>
        (t.entryAt? (dir ++ p.names)).isSome &&
          !plan.prunedPaths.toList.any (fun q => q.isAbove p)) ∧
      report.alreadyAbsent = plan.prunedPaths.toList.filter (fun p =>
        !((t.entryAt? (dir ++ p.names)).isSome &&
          !plan.prunedPaths.toList.any (fun q => q.isAbove p)))) ∧
    (∀ k, (∀ p ∈ plan.prunedPaths.toList, ¬dir ++ p.names <+: k) →
      (plan.pruneTree root t).2.entryAt? k = t.entryAt? k) ∧
    (plan.pruneTree root t).2.workingDir = t.workingDir ∧
    (plan.pruneTree root (plan.pruneTree root t).2).1.value =
      .ok ⟨[], plan.prunedPaths.toList⟩ ∧
    (plan.pruneTree root (plan.pruneTree root t).2).2 = (plan.pruneTree root t).2 ∧
    (.parent ∉ root.parts ∨ (plan.pruneTree root t).2.LeadsTo root dir →
      t.Lasts root dir plan.prunedPaths.toList) ∧
    ((∀ name ∈ dir, Path.IsEntryName name ∧ name.utf8ByteSize ≤ maxNameSize) →
      ∃ root', t.LeadsTo root' dir ∧ t.Lasts root' dir plan.prunedPaths.toList) := by
  have honly (dir' : Location) (hdir : t.LeadsTo root dir') : dir' = dir := hroot.unique hdir
  -- In a set no path begins with a later one, so nothing is asked for below what is still to come.
  have hsorted : plan.prunedPaths.toList.Pairwise fun p q => ¬q.names <+: p.names :=
    plan.prunedPaths.sorted.imp_of_mem fun hp hq hlt =>
      (hord _ hp).not_prefix_of_order_eq_lt (hord _ hq) hlt
  rw [(pruneTree_eq plan root t).1] at hok
  rw [(pruneTree_eq plan root t).2, (pruneTree_eq plan root _).1, (pruneTree_eq plan root _).2]
  obtain ⟨hvalue, hsame⟩ := prunePaths_of_vacant hord (vacant_of_prunePaths_ok hord hok)
  have hlasts := prunePaths_of_lasts hord (ht.below dir) honly hok hsorted
  have herased := lasts_of_erased hord (ht.below dir) honly hok
  refine ⟨⟨fun h k => ?_, fun h => herased fun p hp => ?_⟩, fun h => ?_, fun k hk => ?_,
    (partOf_prunePaths root plan.prunedPaths.toList t).workingDir, hvalue, hsame,
    fun h => ?_, fun hnames => ?_⟩
  · have hne (loc : Location) (hloc : loc ∈ FileTree.locations dir plan.prunedPaths.toList) :
        loc ≠ [] := by
      rintro rfl
      exact (FileTree.mem_locations hord hloc).2
        (List.prefix_nil.1 (FileTree.mem_locations hord hloc).1).symm
    rw [(hlasts h).1, FileTree.entryAt?_eraseAll hne]
    simp only [FileTree.locations, List.mem_map, exists_exists_and_eq_and]
  · rw [h, if_pos ⟨p, hp, List.prefix_rfl⟩]
  · obtain ⟨-, rfl⟩ := hlasts h
    exact ⟨rfl, rfl⟩
  · refine entryAt?_prunePaths (fun dir' _ => ht.below dir') hord fun dir' hdir => ?_
    obtain rfl := honly dir' hdir
    exact hk
  · -- A root that goes down only cannot be cut off, and one that leads there in the end was not.
    rcases h with hdown | hleads
    · exact .of_downward ht hroot hdown hord
    · exact herased (prunePaths_erased hord (ht.below dir) hleads hok)
  · obtain ⟨root', -, hdown, hroot'⟩ := FileTree.exists_leadsTo ht hroot.directory hnames
    exact ⟨root', hroot', .of_downward ht hroot' hdown hord⟩

/-- A directory with a file goes, and a path below it and a missing one are absent; the file beside
it stays. -/
theorem pruning_removes_exactly_nested :
    ∃ (plan : BuildPlan) (t : FileTree) (report : PruneReport),
      (plan.pruneTree ⟨"pkg/"⟩ t).1.value = .ok report ∧
      report.removed = [⟨"include/a"⟩] ∧
      report.alreadyAbsent = [⟨"include/a/b"⟩, ⟨"include/c"⟩] ∧
      t.entryAt? ["pkg", "include", "a", "b"] = some (.file [1]) ∧
      (plan.pruneTree ⟨"pkg/"⟩ t).2.entryAt? ["pkg", "include", "a", "b"] = none ∧
      (plan.pruneTree ⟨"pkg/"⟩ t).2.entryAt? ["pkg", "include", "ab"] = some (.file [2]) ∧
      (plan.pruneTree ⟨"pkg/"⟩ (plan.pruneTree ⟨"pkg/"⟩ t).2).2 =
        (plan.pruneTree ⟨"pkg/"⟩ t).2 := by
  let plan : BuildPlan := { BuildPlan.empty with
    prunedPaths := .ofList [⟨"include/c"⟩, ⟨"include/a/b"⟩, ⟨"include/a"⟩] }
  let t : FileTree := FileTree.empty.placeAll [(["pkg"], .directory),
    (["pkg", "include"], .directory), (["pkg", "include", "a"], .directory),
    (["pkg", "include", "a", "b"], .file [1]), (["pkg", "include", "ab"], .file [2])]
  have ht : t.LinkFree := FileTree.linkFree_placeAll (by decide) FileTree.linkFree_empty
  have hroot : t.LeadsTo ⟨"pkg/"⟩ ["pkg"] := ⟨by decide +kernel, by decide +kernel⟩
  have hpaths : plan.prunedPaths.toList = [⟨"include/a"⟩, ⟨"include/a/b"⟩, ⟨"include/c"⟩] := by
    decide +kernel
  have hord : ∀ p ∈ plan.prunedPaths.toList, p.IsOrdinary := by
    rw [hpaths]
    simp only [List.forall_mem_cons]
    exact ⟨⟨by decide, by decide, by decide, by decide⟩,
      ⟨by decide, by decide, by decide, by decide⟩, ⟨by decide, by decide, by decide, by decide⟩,
      List.forall_mem_nil _⟩
  have hok : (plan.pruneTree ⟨"pkg/"⟩ t).1.value =
      .ok ⟨[⟨"include/a"⟩], [⟨"include/a/b"⟩, ⟨"include/c"⟩]⟩ := by decide +kernel
  obtain ⟨hexact, -, -, -, -, hsame, hdown, -⟩ := pruning_removes_exactly ht hroot hord hok
  have hentry := hexact.1 (hdown (.inl (by decide)))
  refine ⟨plan, t, _, hok, rfl, rfl, by decide, ?_, ?_, hsame⟩
  · exact (hentry _).trans (by decide)
  · exact (hentry _).trans (by decide)

/-- **A root that goes up through a pruned path does not last.** Once the first path is gone the
root leads nowhere, and the second one is reported as absent and is still there. -/
theorem pruning_through_pruned_root :
    ∃ (plan : BuildPlan) (t : FileTree), t.LinkFree ∧ t.LeadsTo ⟨"pkg/a/.."⟩ ["pkg"] ∧
      plan.prunedPaths.toList = [⟨"a"⟩, ⟨"b"⟩] ∧
      (∀ p ∈ plan.prunedPaths.toList, p.IsOrdinary) ∧
      (plan.pruneTree ⟨"pkg/a/.."⟩ t).1.value = .ok ⟨[⟨"a"⟩], [⟨"b"⟩]⟩ ∧
      t.entryAt? ["pkg", "b"] = some (.file [2]) ∧
      (plan.pruneTree ⟨"pkg/a/.."⟩ t).2.entryAt? ["pkg", "b"] = some (.file [2]) := by
  let plan : BuildPlan := { BuildPlan.empty with prunedPaths := .ofList [⟨"b"⟩, ⟨"a"⟩] }
  let t : FileTree := FileTree.empty.placeAll [(["pkg"], .directory), (["pkg", "a"], .directory),
    (["pkg", "b"], .file [2])]
  have hpaths : plan.prunedPaths.toList = [⟨"a"⟩, ⟨"b"⟩] := by decide +kernel
  have hord : ∀ p ∈ plan.prunedPaths.toList, p.IsOrdinary := by
    rw [hpaths]
    simp only [List.forall_mem_cons]
    exact ⟨⟨by decide, by decide, by decide, by decide⟩,
      ⟨by decide, by decide, by decide, by decide⟩, List.forall_mem_nil _⟩
  exact ⟨plan, t, FileTree.linkFree_placeAll (by decide) FileTree.linkFree_empty,
    ⟨by decide +kernel, by decide +kernel⟩, hpaths, hord, by decide +kernel, by decide +kernel,
    by decide +kernel⟩

end VariantPlan
