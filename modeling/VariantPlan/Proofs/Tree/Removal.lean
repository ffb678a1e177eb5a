import VariantPlan.Proofs.Tree.Paths
import VariantPlan.Proofs.Tree.Reach
import VariantPlan.Tree.Operations

/-!
# Removing paths below a directory

Below a directory without links, what removing an ordinary path does is decided by what the names of
the path reach. An entry is erased with all that is below it. In every other case nothing
changes; the path is not found if its names reach nothing, and fails in another way if they cannot
be followed or if the path cannot be walked at all.

A directory is removed in two steps, its contents first. The path has to lead to it still after the
first one, so the path of the directory above must not go through what is removed.

Main results: `find_join` and `findSlot_of_reach` (where a path below a directory leads),
`removeTree_join`, and `removeTree_of_fault`.
-/

namespace VariantPlan.FileTree

variable {t : FileTree} {root : Path} {dir : Location} {names : List String}

/-! ## Paths below a directory -/

/-- The location that was found, if a directory stands there. -/
def directoryAt : Location × Entry → Except IoError Location
  | (loc, .directory) => .ok loc
  | _ => .error (.ofKind .notADirectory)

theorem findParent_eq (t : FileTree) (q : Path) :
    t.findParent q = ((t.locate (fun _ => false) q (q.parts.dropLast.map .component)).bind
      Stop.found).bind directoryAt := by
  unfold findParent
  cases t.locate (fun _ => false) q (q.parts.dropLast.map .component) with
  | error e => rfl
  | ok s =>
    show s.found.bind _ = s.found.bind directoryAt
    cases s.found with
    | error e => rfl
    | ok found =>
      obtain ⟨loc, e⟩ := found
      cases e <;> rfl

theorem entryAt?_erase_names {p : Path} (hp : p.IsOrdinary) (dir k : Location) :
    (t.erase (dir ++ p.names)).entryAt? k = if dir ++ p.names <+: k then none else t.entryAt? k :=
  entryAt?_erase_of_ne_nil (hp.append_names_ne_nil dir) k

def namesSteps (names : List String) : List Step := names.map fun name => .component (.entry name)

theorem steps_join {p : Path} (hp : p.IsOrdinary) :
    (root.join p).steps = root.parts.map .component ++ namesSteps p.names := by
  rw [Path.steps, Path.hasTrailingSlash_join hp.relative hp.text_ne_empty, hp.endsInName,
    Path.parts_join hp.relative, hp.parts]
  simp [namesSteps]

theorem parentSteps_join (root : Path) {p : Path} (hp : p.IsOrdinary) {names : List String}
    {last : String} (hnames : p.names = names ++ [last]) :
    (root.join p).parts.dropLast.map .component = root.parts.map .component ++ namesSteps names ∧
      (root.join p).entryName? = some last := by
  have hparts : (root.join p).parts =
      root.parts ++ names.map .entry ++ [.entry last] := by
    rw [Path.parts_join hp.relative, hp.parts, hnames]
    simp
  constructor
  · rw [hparts, List.dropLast_concat]
    simp [namesSteps]
  · rw [Path.entryName?, hparts, List.getLast?_concat]

section Joined

variable {p : Path} (ht : t.LinkFreeBelow dir) (hroot : t.LeadsTo root dir) (hp : p.IsOrdinary)
  (hfault : (root.join p).fault? = none)

include ht hroot hp hfault

theorem found_locate {stops : List Step → Bool} (names : List String)
    (hstops : ∀ left, stops (left ++ namesSteps names) = false) :
    (t.locate stops (root.join p) (root.parts.map .component ++ namesSteps names)).bind
        Stop.found = t.locateNames dir names := by
  obtain ⟨links, hwalk⟩ := walk_append hstops hroot.walk
  rw [locate, hfault, Path.startFrom_join hp.relative]
  dsimp only
  rw [hwalk]
  exact found_walk ht hroot.directory names

theorem find_join (follow : Bool) :
    t.find follow (root.join p) = t.locateNames dir p.names := by
  rw [find, steps_join hp]
  refine found_locate ht hroot hp hfault p.names fun left => ?_
  simp [namesSteps, hp.nonempty]

theorem findSlot_join (special : IoErrorKind) {names : List String} {last : String}
    (hnames : p.names = names ++ [last]) :
    t.findSlot (root.join p) special = ((t.locateNames dir names).bind directoryAt).bind
      fun loc => (t.lookup loc last).map (loc ++ [last], ·) := by
  obtain ⟨hsteps, hname⟩ := parentSteps_join root hp hnames
  rw [findSlot, findParent_eq, hsteps, found_locate ht hroot hp hfault names fun _ => rfl, hname]
  cases (t.locateNames dir names).bind directoryAt with
  | error e => rfl
  | ok loc =>
    show (do return (loc ++ [last], ← t.lookup loc last)) =
      (t.lookup loc last).map (loc ++ [last], ·)
    cases t.lookup loc last <;> rfl

/-- The end of a path whose names can be followed is there, or it or a directory above it is
missing. -/
theorem findSlot_of_reach (special : IoErrorKind) :
    match t.reach dir p.names with
    | .ok (some e) => t.findSlot (root.join p) special = .ok (dir ++ p.names, some e)
    | .ok none => t.findSlot (root.join p) special = .error (.ofKind .notFound) ∨
        t.findSlot (root.join p) special = .ok (dir ++ p.names, none)
    | .error e => t.findSlot (root.join p) special = .error e := by
  obtain ⟨names, last, hnames⟩ : ∃ names last, p.names = names ++ [last] :=
    ⟨_, _, (List.dropLast_concat_getLast hp.nonempty).symm⟩
  rw [findSlot_join ht hroot hp hfault special hnames, hnames, reach_concat hroot.directory,
    locateNames, ← List.append_assoc]
  cases t.reach dir names with
  | error e => rfl
  | ok found =>
    cases found with
    | none => exact .inl rfl
    | some e =>
      cases e with
      | file content => rfl
      | link target => rfl
      | directory =>
        dsimp only [Except.bind, directoryAt]
        cases t.lookup (dir ++ names) last with
        | error e => rfl
        | ok found =>
          cases found with
          | none => exact .inr rfl
          | some e => rfl

theorem unlink_of_reach_ok_none (h : t.reach dir p.names = .ok none) :
    t.unlink (root.join p) = t.refuse .notFound := by
  have hslot := findSlot_of_reach ht hroot hp hfault .isADirectory
  rw [h] at hslot
  rcases hslot with hslot | hslot
  · rw [unlink, hslot]
    rfl
  · rw [unlink, hslot]

theorem unlink_of_reach_error {e : IoError} (h : t.reach dir p.names = .error e) :
    t.unlink (root.join p) = (.error e, t) := by
  have hslot := findSlot_of_reach ht hroot hp hfault .isADirectory
  rw [h] at hslot
  simp only [unlink, hslot]

end Joined

/-! ## Removing -/

section Removing

variable {p : Path} (ht : t.LinkFreeBelow dir) (hp : p.IsOrdinary)
  (hfault : (root.join p).fault? = none)

include ht hp hfault

/-- What is removed is decided by what the names lead to; a directory is removed in two steps. -/
theorem removeTree_of_reach (hroot : t.LeadsTo root dir) :
    t.removeTree (root.join p) =
      match t.reach dir p.names with
      | .ok (some .directory) => t.removeContents (root.join p) (dir ++ p.names)
      | .ok (some _) => (.ok (), t.erase (dir ++ p.names))
      | .ok none => t.refuse .notFound
      | .error e => (.error e, t) := by
  have hfind (follow : Bool) := find_join ht hroot hp hfault follow
  simp only [locateNames] at hfind
  cases hreach : t.reach dir p.names with
  | error e =>
    rw [hreach] at hfind
    rw [removeTree_of_find_error (hfind true)]
    exact unlink_of_reach_error ht hroot hp hfault hreach
  | ok found =>
    cases found with
    | none =>
      rw [hreach] at hfind
      rw [removeTree_of_find_error (hfind true)]
      exact unlink_of_reach_ok_none ht hroot hp hfault hreach
    | some e =>
      have hslot := findSlot_of_reach ht hroot hp hfault .isADirectory
      rw [hreach] at hfind hslot
      cases e with
      | link target =>
        exact absurd (reach_eq_ok hreach).symm (ht _ target (List.prefix_append dir p.names))
      | file content =>
        have hslash : (root.join p).hasTrailingSlash = false := by
          rw [Path.hasTrailingSlash_join hp.relative hp.text_ne_empty, hp.endsInName]
        simp [removeTree, hfind true, unlink, hslot, hslash]
      | directory => simp [removeTree, hfind]

/-- Once its contents are gone, a directory is erased if its path still leads there. -/
theorem removeContents_join (hclear : (t.clear (dir ++ p.names)).LeadsTo root dir)
    (hreach : t.reach dir p.names = .ok (some .directory)) :
    t.removeContents (root.join p) (dir ++ p.names) = (.ok (), t.erase (dir ++ p.names)) := by
  have hkept : (t.clear (dir ++ p.names)).entryAt? (dir ++ p.names) = some .directory := by
    rw [entryAt?_clear _ _ (hp.append_names_ne_nil dir), ← reach_eq_ok hreach]
    simp [isBelow]
  have hreach' := (t.partOf_clear (dir ++ p.names)).reach hreach
  have hslot' := findSlot_of_reach ((t.partOf_clear _).linkFreeBelow ht) hclear hp hfault
    (removalFault (root.join p))
  rw [hreach', hkept] at hslot'
  have hempty : ((t.clear (dir ++ p.names)).below (dir ++ p.names)).isEmpty = true := by
    rw [below_clear]
    rfl
  simp [removeContents, removeDirectory, hslot', hempty, erase_clear]

/-- **Removing a path below a directory** erases what its names lead to; nothing changes if they
lead to nothing or cannot be followed. -/
theorem removeTree_join (hclear : (t.clear (dir ++ p.names)).LeadsTo root dir) :
    t.removeTree (root.join p) =
      match t.reach dir p.names with
      | .ok (some _) => (.ok (), t.erase (dir ++ p.names))
      | .ok none => t.refuse .notFound
      | .error e => (.error e, t) := by
  rw [removeTree_of_reach ht hp hfault (hclear.of_partOf (t.partOf_clear _))]
  cases hreach : t.reach dir p.names with
  | error e => rfl
  | ok found =>
    cases found with
    | none => rfl
    | some e =>
      cases e with
      | file content => rfl
      | link target => rfl
      | directory => exact removeContents_join ht hp hfault hclear hreach

end Removing

/-! ## Failures -/

theorem removeTree_of_fault {q : Path} {e : IoError} (h : q.fault? = some e) :
    t.removeTree q = (.error e, t) := by
  have hlocate (stops : List Step → Bool) (steps : List Step) :
      t.locate stops q steps = .error e := by simp only [locate, h]
  have hfind : t.find true q = .error e := by
    rw [find, hlocate]
    rfl
  have hslot : t.findSlot q .isADirectory = .error e := by
    rw [findSlot, findParent, hlocate]
    rfl
  rw [removeTree_of_find_error hfind]
  simp only [unlink, hslot]

/-- That an ordinary path cannot be walked is another failure than that it is not found. -/
theorem kind_ne_notFound_of_fault {p : Path} (hp : p.IsOrdinary) {e : IoError}
    (h : (root.join p).fault? = some e) : e.kind ≠ .notFound := by
  have htext : (root.join p).text ≠ "" := by
    intro hempty
    have hlist := @Path.toList_text_join root p hp.relative
    rw [hempty] at hlist
    have hnil := (List.append_eq_nil_iff.1 hlist.symm).2
    exact hp.text_ne_empty (String.toList_eq_nil_iff.1 hnil)
  unfold Path.fault? at h
  rw [if_neg htext] at h
  split at h
  next =>
    cases h
    nofun
  next =>
    split at h
    next =>
      cases h
      nofun
    next => cases h

theorem kind_ne_notFound_of_reach {e : IoError} (h : t.reach dir names = .error e) :
    e.kind ≠ .notFound := by
  have hlookup {dir : Location} {name : String} {e : IoError} (h : t.lookup dir name = .error e) :
      e.kind ≠ .notFound := by
    unfold lookup at h
    split at h
    next =>
      cases h
      nofun
    next => cases h
  induction names generalizing dir with
  | nil => cases h
  | cons name names ih =>
    unfold reach at h
    split at h
    next => exact ih h
    next =>
      split at h
      next => cases h
      next =>
        cases h
        nofun
    next => exact hlookup h

/-- A removal that succeeds or does not find its path could follow the names. -/
theorem reach_of_gone {p : Path} (ht : t.LinkFreeBelow dir) (hp : p.IsOrdinary)
    (hroot : t.LeadsTo root dir)
    (hgone : ∀ e, (t.removeTree (root.join p)).1 = .error e → e.kind = .notFound) :
    (root.join p).fault? = none ∧ t.reach dir p.names = .ok (t.entryAt? (dir ++ p.names)) := by
  cases hfault : (root.join p).fault? with
  | some e =>
    rw [removeTree_of_fault hfault] at hgone
    exact absurd (hgone e rfl) (kind_ne_notFound_of_fault hp hfault)
  | none =>
    have hremove := removeTree_of_reach ht hp hfault hroot
    cases hreach : t.reach dir p.names with
    | error e =>
      rw [hreach] at hremove
      rw [hremove] at hgone
      exact absurd (hgone e rfl) (kind_ne_notFound_of_reach hreach)
    | ok found => exact ⟨rfl, congrArg _ (reach_eq_ok hreach)⟩

end VariantPlan.FileTree
