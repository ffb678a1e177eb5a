import VariantPlan.Proofs.Packaging.Headers
import VariantPlan.Proofs.Packaging.Keeping
import VariantPlan.Proofs.Packaging.Passes
import VariantPlan.Proofs.Tree.Vacancy

/-!
# Paths that name nothing

A path names nothing if no entry stands where it leads. There are several ways to that: the last
name is missing, a directory above it is missing, or a plain file stands where a directory would
have to be. In the first two the path is not found, which a pass counts as absence. In the third one
the system says that something is not a directory, and the pass stops, as it does at a path that the
system refuses for its length.

What a path names is decided when its **turn** comes, in the tree that the removals before it left.

Main results: `absent_path_passed_over` and `absent_path_below_file`.
-/

namespace VariantPlan

variable {t t' : FileTree} {root p : Path} {dir : Location} {paths : List Path} {e : IoError}

/-! ## The turn of a path -/

/-- A path below a root names nothing in a tree, as when the root leads nowhere. -/
def NamesNothing (t : FileTree) (root p : Path) : Prop :=
  ∀ dir, t.LeadsTo root dir → t.entryAt? (dir ++ p.names) = none

theorem entryAt?_root_prunePaths (ht : t.LinkFree) (hroot : t.LeadsTo root dir)
    (hord : ∀ p ∈ paths, p.IsOrdinary) :
    (prunePaths removeIn root paths t).2.entryAt? dir = some .directory := by
  rw [entryAt?_prunePaths (fun dir _ => ht.below dir) hord fun dir' hroot' p hp hprefix => ?_]
  · exact hroot.directory
  · obtain rfl := hroot.unique hroot'
    obtain ⟨more, hmore⟩ := hprefix
    rw [List.append_assoc, List.append_right_eq_self, List.append_eq_nil_iff] at hmore
    exact (hord p hp).nonempty hmore.1

/-- What a path that names nothing is answered at its turn. -/
theorem removeIn_of_namesNothing (ht : t.LinkFree) (hroot : t.LeadsTo root dir)
    (hord : ∀ p ∈ paths, p.IsOrdinary) (hp : p.IsOrdinary)
    (hleft : (prunePaths removeIn root paths t).2 = t') (h : NamesNothing t' root p) :
    (∃ e, t'.Refuses root p e ∧ e.kind ≠ .notFound ∧
        t'.removeTree (root.join p) = (.error e, t')) ∨
      ((∀ e, ¬t'.Refuses root p e) ∧ t'.removeTree (root.join p) = t'.refuse .notFound) := by
  subst hleft
  have hpart := partOf_prunePaths root paths t
  exact FileTree.removeTree_of_absent (hpart.linkFree ht) hp hpart hroot
    (entryAt?_root_prunePaths ht hroot hord) (h dir)

section Turn

variable {plan : BuildPlan} {before after : List Path} {sofar : PruneReport}
  (hpaths : plan.prunedPaths.toList = before ++ p :: after)
  (hturn : (prunePaths removeIn root before t).1.value = .ok sofar)
  (hleft : (prunePaths removeIn root before t).2 = t')

include hpaths hturn hleft

theorem pruneTree_of_notFound (h : t'.removeTree (root.join p) = t'.refuse .notFound) :
    (plan.pruneTree root t).1.value = (prunePaths removeIn root after t').1.value.map (fun rest =>
        sofar.append (rest.withAbsent p)) ∧
      (plan.pruneTree root t).2 = (prunePaths removeIn root after t').2 := by
  obtain ⟨hvalue, htree⟩ := prunePaths_append_of_ok (p :: after) hturn
  have hanswer : removeIn (root.join p) t' = t'.refuse .notFound := h
  obtain ⟨hnext, hnextTree⟩ := prunePaths_cons_of_notFound after hanswer rfl
  rw [(pruneTree_eq plan root t).1, (pruneTree_eq plan root t).2, hpaths, hvalue, htree, hleft,
    hnext, hnextTree]
  refine ⟨?_, rfl⟩
  cases (prunePaths removeIn root after t').1.value <;> rfl

theorem pruneTree_of_stops (h : t'.removeTree (root.join p) = (.error e, t'))
    (he : e.kind ≠ .notFound) :
    (plan.pruneTree root t).1.value = .error (.prune (root.join p) e) ∧
      (plan.pruneTree root t).2 = t' := by
  obtain ⟨hvalue, htree⟩ := prunePaths_append_of_ok (p :: after) hturn
  have hgoes : goesOn (removeIn (root.join p) t').1 = false := by
    show goesOn (t'.removeTree (root.join p)).1 = false
    rw [h]
    exact decide_eq_false he
  obtain ⟨e', hanswer, -, hstops, hstopsTree⟩ := prunePaths_cons_of_stops after hgoes
  obtain rfl : e = e' := Except.error.inj ((congrArg Prod.fst h).symm.trans hanswer)
  rw [(pruneTree_eq plan root t).1, (pruneTree_eq plan root t).2, hpaths, hvalue, htree, hleft,
    hstops, hstopsTree]
  exact ⟨rfl, congrArg Prod.snd h⟩

end Turn

/-! ## Paths that are passed over -/

/-- A path that the system takes, with names that fit into directories, is refused for a file above
it only. -/
theorem refuses_iff_of_fits (hfault : (root.join p).fault? = none)
    (hnames : ∀ name ∈ p.names, name.utf8ByteSize ≤ maxNameSize) (h : NamesNothing t root p) :
    t.Refuses root p e ↔ e = .ofKind .notADirectory ∧
      ∃ dir above content, t.LeadsTo root dir ∧ above <+: p.names ∧
        t.entryAt? (dir ++ above) = some (.file content) := by
  constructor
  · rintro (hsystem | ⟨-, hroot, hblocks⟩)
    · exact absurd (hsystem.symm.trans hfault) nofun
    · cases hblocks with
      | longName heq habove hlong =>
        exact absurd (hnames _ (heq ▸ by simp)) (Nat.not_le.2 hlong)
      | @file above rest content heq hrest hshort hfile =>
        exact ⟨rfl, _, above, content, hroot, heq ▸ List.prefix_append above rest, hfile⟩
  · rintro ⟨rfl, dir, above, content, hroot, ⟨rest, hrest⟩, hfile⟩
    have hne : rest ≠ [] := by
      rintro rfl
      rw [← List.append_nil above, hrest, h dir hroot] at hfile
      cases hfile
    refine .blocked hfault hroot (.file hrest.symm hne (fun name hname => hnames name ?_) hfile)
    exact hrest ▸ List.mem_append_left rest hname

/-- **A path that names nothing is passed over, unless it is refused.** Take a tree of files and
directories, a root that leads to a directory in it, and a plan of ordinary paths. If the pass comes
to a path and this path names nothing in the tree that is left by then,

* the pass goes on and counts the path as absent if the path is not refused, and no failure is about
  this path;
* it stops there and leaves the tree as it is if the path is refused, and tells why;
* a path with names and a text that are not too long is refused if a plain file stands above it in
  the tree, and only then. -/
theorem absent_path_passed_over {plan : BuildPlan} {before after : List Path} {sofar : PruneReport}
    (ht : t.LinkFree) (hroot : t.LeadsTo root dir)
    (hord : ∀ p ∈ plan.prunedPaths.toList, p.IsOrdinary)
    (hpaths : plan.prunedPaths.toList = before ++ p :: after)
    (hturn : (prunePaths removeIn root before t).1.value = .ok sofar)
    (hleft : (prunePaths removeIn root before t).2 = t') (hnothing : NamesNothing t' root p) :
    ((∀ e, ¬t'.Refuses root p e) →
      (plan.pruneTree root t).1.value =
        (prunePaths removeIn root after t').1.value.map (fun rest =>
          sofar.append (rest.withAbsent p)) ∧
      (plan.pruneTree root t).2 = (prunePaths removeIn root after t').2 ∧
      (∀ report, (plan.pruneTree root t).1.value = .ok report →
        p ∈ report.alreadyAbsent ∧ p ∉ report.removed) ∧
      ∀ e, (plan.pruneTree root t).1.value ≠ .error (.prune (root.join p) e)) ∧
    (∀ e, t'.Refuses root p e →
      (plan.pruneTree root t).1.value = .error (.prune (root.join p) e) ∧
      (plan.pruneTree root t).2 = t') ∧
    ((root.join p).fault? = none → (∀ name ∈ p.names, name.utf8ByteSize ≤ maxNameSize) →
      ∀ e, t'.Refuses root p e ↔ e = .ofKind .notADirectory ∧
        ∃ dir above content, t'.LeadsTo root dir ∧ above <+: p.names ∧
          t'.entryAt? (dir ++ above) = some (.file content)) := by
  have hp : p.IsOrdinary := hord p (hpaths ▸ by simp)
  have hordBefore : ∀ q ∈ before, q.IsOrdinary := fun q hq => hord q (hpaths ▸ by simp [hq])
  have hnodup := plan.prunedPaths.nodup
  refine ⟨fun hnot => ?_, fun e he => ?_, fun hfault hnames e =>
    refuses_iff_of_fits hfault hnames hnothing⟩
  · -- The path is not found, and the pass goes on.
    obtain ⟨e, he, -⟩ | ⟨-, hremove⟩ :=
      removeIn_of_namesNothing ht hroot hordBefore hp hleft hnothing
    · exact absurd he (hnot e)
    obtain ⟨hvalue, htree⟩ := pruneTree_of_notFound hpaths hturn hleft hremove
    refine ⟨hvalue, htree, fun report hreport => ?_, fun e he => ?_⟩
    · have habsent := (alreadyAbsent_of_ok hnodup ((pruneTree_eq plan root t).1 ▸ hreport)).2
      rw [hvalue] at hreport
      obtain ⟨rest, -, rfl⟩ := exists_of_map_eq_ok hreport
      have hmem : p ∈ (sofar.append (rest.withAbsent p)).alreadyAbsent :=
        List.mem_append_right _ List.mem_cons_self
      refine ⟨hmem, ?_⟩
      rw [habsent] at hmem
      exact of_decide_eq_true (List.mem_filter.1 hmem).2
    · have hafter :
          (prunePaths removeIn root after t').1.value ≠ .error (.prune (root.join p) e) := by
        refine value_ne_prune_of_not_mem (fun q hq => (hord q (hpaths ▸ by simp [hq])).relative)
          hp.relative ?_
        rw [hpaths] at hnodup
        exact (List.nodup_cons.1 (List.nodup_append.1 hnodup).2.1).1
      rw [hvalue] at he
      exact hafter (eq_error_of_map he)
  · -- The path is refused, and the pass stops.
    obtain ⟨e', he', hkind, hremove⟩ | ⟨hnot, -⟩ :=
      removeIn_of_namesNothing ht hroot hordBefore hp hleft hnothing
    · obtain rfl := he.unique he'
      exact pruneTree_of_stops hpaths hturn hleft hremove hkind
    · exact absurd he (hnot e)

/-- Two paths that name nothing: below a directory the pass goes on, and below a file it stops. -/
theorem absent_path_passed_over_then_refused :
    ∃ (plan : BuildPlan) (t : FileTree),
      plan.prunedPaths.toList = [⟨"include/x/y"⟩, ⟨"lib/z"⟩] ∧ t.LinkFree ∧
      t.LeadsTo ⟨"pkg"⟩ ["pkg"] ∧ (∀ p ∈ plan.prunedPaths.toList, NamesNothing t ⟨"pkg"⟩ p) ∧
      (∀ e, (plan.pruneTree ⟨"pkg"⟩ t).1.value ≠ .error (.prune ⟨"pkg/include/x/y"⟩ e)) ∧
      (plan.pruneTree ⟨"pkg"⟩ t).1.value =
        .error (.prune ⟨"pkg/lib/z"⟩ (.ofKind .notADirectory)) ∧
      (plan.pruneTree ⟨"pkg"⟩ t).2 = t := by
  let plan : BuildPlan := { BuildPlan.empty with
    prunedPaths := .ofList [⟨"lib/z"⟩, ⟨"include/x/y"⟩] }
  let t : FileTree := FileTree.empty.placeAll [(["pkg"], .directory),
    (["pkg", "include"], .directory), (["pkg", "lib"], .file [1])]
  have hpaths : plan.prunedPaths.toList = [⟨"include/x/y"⟩, ⟨"lib/z"⟩] := by decide +kernel
  have ht : t.LinkFree := FileTree.linkFree_placeAll (by decide) FileTree.linkFree_empty
  have hroot : t.LeadsTo ⟨"pkg"⟩ ["pkg"] := ⟨by decide +kernel, by decide +kernel⟩
  have hord : ∀ p ∈ [(⟨"include/x/y"⟩ : Path), ⟨"lib/z"⟩], p.IsOrdinary := by
    simp only [List.forall_mem_cons]
    exact ⟨⟨by decide, by decide, by decide, by decide⟩,
      ⟨by decide, by decide, by decide, by decide⟩, List.forall_mem_nil _⟩
  have hnothing : ∀ p ∈ [(⟨"include/x/y"⟩ : Path), ⟨"lib/z"⟩], NamesNothing t ⟨"pkg"⟩ p := by
    intro p hp dir hdir
    obtain rfl := hroot.unique hdir
    revert p
    decide
  have hreach : t.reach ["pkg"] (Path.names ⟨"include/x/y"⟩) = .ok none := by decide +kernel
  have hfile : t.entryAt? ["pkg", "lib"] = some (.file [1]) := by decide
  have hturn : (prunePaths removeIn ⟨"pkg"⟩ [⟨"include/x/y"⟩] t).1.value =
      .ok ⟨[], [⟨"include/x/y"⟩]⟩ := by decide +kernel
  clear_value plan t
  obtain ⟨hord₁, hord₂, -⟩ := by simpa only [List.forall_mem_cons] using hord
  obtain ⟨hnothing₁, hnothing₂, -⟩ := by simpa only [List.forall_mem_cons] using hnothing
  rw [← hpaths] at hord hnothing
  -- The first path is not refused: its names can be followed to where nothing is.
  have hnot (e : IoError) : ¬t.Refuses ⟨"pkg"⟩ ⟨"include/x/y"⟩ e := by
    rintro (hsystem | ⟨-, hdir, hblocks⟩)
    · have hfault : (Path.join ⟨"pkg"⟩ ⟨"include/x/y"⟩).fault? = none := by decide
      exact absurd (hsystem.symm.trans hfault) nofun
    · obtain rfl := hroot.unique hdir
      rw [FileTree.reach_of_blocks hroot.directory hblocks] at hreach
      cases hreach
  obtain ⟨hpasses, -, -⟩ := absent_path_passed_over ht hroot hord
    (show plan.prunedPaths.toList = [] ++ ⟨"include/x/y"⟩ :: [⟨"lib/z"⟩] from hpaths) rfl rfl
    hnothing₁
  obtain ⟨-, -, -, hnever⟩ := hpasses hnot
  -- The second one is refused, for the file.
  have hleft : (prunePaths removeIn ⟨"pkg"⟩ [⟨"include/x/y"⟩] t).2 = t := by
    obtain ⟨e, he, -⟩ | ⟨-, hremove⟩ := removeIn_of_namesNothing ht hroot
      (List.forall_mem_nil Path.IsOrdinary) hord₁ rfl hnothing₁
    · exact absurd he (hnot e)
    · exact (prunePaths_cons_of_notFound [] (show removeIn _ t = _ from hremove) rfl).2
  obtain ⟨-, hstops, hfits⟩ := absent_path_passed_over ht hroot hord
    (show plan.prunedPaths.toList = [⟨"include/x/y"⟩] ++ ⟨"lib/z"⟩ :: [] from hpaths) hturn hleft
    hnothing₂
  have hrefused : t.Refuses ⟨"pkg"⟩ ⟨"lib/z"⟩ (.ofKind .notADirectory) :=
    (hfits (by decide) (by decide) _).2
      ⟨rfl, ["pkg"], ["lib"], [1], hroot, ⟨["z"], by decide⟩, hfile⟩
  obtain ⟨hvalue, htree⟩ := hstops _ hrefused
  exact ⟨plan, t, hpaths, ht, hroot, hnothing, hnever, hvalue, htree⟩

/-- **A file above a path that names nothing stops the pass.** The plan of a variant prunes the
headers that it does not use. In a package where a plain file stands above them all, none of them is
there, and pruning fails at the first one. -/
theorem absent_path_below_file :
    ∃ (v : Variant) (plan : BuildPlan) (t : FileTree),
      (v.resolvePlan .cached).value = .ok plan ∧ t.LinkFree ∧ t.LeadsTo ⟨"pkg"⟩ ["pkg"] ∧
      (∀ p ∈ plan.prunedPaths.toList, p.IsOrdinary ∧ NamesNothing t ⟨"pkg"⟩ p) ∧
      (plan.pruneTree ⟨"pkg"⟩ t).1.value =
        .error (.prune ⟨"pkg/include/libnest2d/backends/boost"⟩ (.ofKind .notADirectory)) := by
  let v : Variant := .sample
  let valid : ValidVariant := ⟨v, by decide, rfl⟩
  let plan := valid.planOn .cached
  let t : FileTree := FileTree.empty.placeAll [(["pkg"], .directory),
    (["pkg", "include"], .directory), (["pkg", "include", "libnest2d"], .file [120])]
  have hplan : (v.resolvePlan .cached).value = .ok plan := by
    rw [Variant.value_resolvePlan,
      show v.validate? = .ok valid from Variant.validate?_toVariant valid]
  have hroot : t.LeadsTo ⟨"pkg"⟩ ["pkg"] := ⟨by decide +kernel, by decide +kernel⟩
  refine ⟨v, plan, t, hplan, FileTree.linkFree_placeAll (by decide) FileTree.linkFree_empty, hroot,
    fun p hp => ⟨(Variant.isUnselected_of_mem_prunedPaths hp).1, fun dir hdir => ?_⟩,
    by decide +kernel⟩
  obtain rfl := hroot.unique hdir
  have hnone : ∀ p ∈ plan.prunedPaths.toList, t.entryAt? (["pkg"] ++ p.names) = none := by
    decide +kernel
  exact hnone p hp

end VariantPlan
