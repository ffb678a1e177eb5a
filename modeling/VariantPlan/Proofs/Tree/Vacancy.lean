import VariantPlan.Proofs.Tree.Frame

/-!
# Paths that lead to nothing

The **slot** of a path is the place that its last name stands for, with what is there. It is vacant
if nothing is there, or if a directory on the way there is missing.

What removing an ordinary path does is decided by its slot alone, whatever links the tree holds and
wherever the root leads. A removal that succeeds leaves the slot vacant, and one that fails leaves
the tree as it is. A vacant slot stays vacant when more is removed, so the path is not found from
then on.

In a tree of files and directories names lead from one directory to the next until something
**blocks** them: a name that is too long, or a file. A path that names nothing is **refused** if the
system does not take it or its names are blocked, and is not found otherwise.

Main results: `findSlot_partOf` (slots in a part of a tree), `removeTree_of_findSlot` (removals by
their slots), `removeTree_cases`, `Vacant.of_partOf`, `reach_eq_error_iff` and
`removeTree_of_absent`.
-/

namespace VariantPlan.FileTree

variable {t t' : FileTree} {root p : Path} {special : IoErrorKind} {dir loc : Location}
  {name : String} {names : List String} {e : IoError}

/-! ## Slots in a part of a tree -/

/-- Nothing is at the end of a path, or the way there ends before. -/
inductive IsVacant : Except IoError (Location × Option Entry) → Prop
  | missing (loc : Location) : IsVacant (.ok (loc, none))
  | unreached {e : IoError} (h : e.kind = .notFound) : IsVacant (.error e)

theorem findSlot_eq {q : Path} (hname : q.entryName? = some name) :
    t.findSlot q special =
      (t.findParent q).bind fun dir => (t.lookup dir name).map (dir ++ [name], ·) := by
  rw [findSlot, hname]
  cases t.findParent q with
  | error e => rfl
  | ok dir =>
    show (do return (dir ++ [name], ← t.lookup dir name)) =
      (t.lookup dir name).map (dir ++ [name], ·)
    cases t.lookup dir name <;> rfl

theorem findParent_partOf (hp : t'.PartOf t) (q : Path) :
    t'.findParent q = t.findParent q ∨ t'.findParent q = .error (.ofKind .notFound) := by
  rw [findParent_eq, findParent_eq, locate, locate]
  cases q.fault? with
  | some e => exact .inl rfl
  | none =>
    dsimp only
    rw [hp.workingDir]
    have hcases : t'.walk _ _ _ _ = t.walk (fun _ => false) maxLinks (q.startFrom t.workingDir)
        (q.parts.dropLast.map .component) ∨ StopsShort _ := walk_partOf hp
    rcases hcases with heq | ⟨loc, left, hshort⟩
    · exact .inl (by rw [heq])
    · exact .inr (by rw [hshort]; rfl)

/-- The slot of a path in a part of a tree is the one in the tree, or is vacant. -/
theorem findSlot_partOf (hp : t'.PartOf t) {q : Path} (hname : q.entryName? = some name) :
    t'.findSlot q special = t.findSlot q special ∨ IsVacant (t'.findSlot q special) := by
  rw [findSlot_eq hname, findSlot_eq hname]
  rcases findParent_partOf hp q with hparent | hparent
  · rw [hparent]
    cases t.findParent q with
    | error e => exact .inl rfl
    | ok dir =>
      by_cases hsize : maxNameSize < name.utf8ByteSize
      · exact .inl (by simp [Except.bind, lookup, hsize])
      · rw [Except.bind, Except.bind, lookup_eq_ok (Nat.not_lt.1 hsize),
          lookup_eq_ok (Nat.not_lt.1 hsize)]
        cases hentry : t'.entryAt? (dir ++ [name]) with
        | none => exact .inr (.missing _)
        | some e =>
          rw [hp.entryAt? _ _ hentry]
          exact .inl rfl
  · rw [hparent]
    exact .inr (.unreached rfl)

theorem entryAt?_of_findSlot {q : Path} {entry : Option Entry} (hname : q.entryName? = some name)
    (h : t.findSlot q special = .ok (loc, entry)) : loc ≠ [] ∧ t.entryAt? loc = entry := by
  rw [findSlot_eq hname] at h
  cases hparent : t.findParent q with
  | error e =>
    rw [hparent] at h
    cases h
  | ok dir =>
    rw [hparent, Except.bind] at h
    cases hlookup : t.lookup dir name with
    | error e =>
      rw [hlookup] at h
      cases h
    | ok found =>
      rw [hlookup] at h
      cases h
      exact ⟨by simp, (lookup_eq_ok_iff.1 hlookup).2⟩

/-! ## Removals by their slots -/

/-- The last name of a path below a root is looked up where the steps before it lead. -/
theorem exists_steps_join (root : Path) (hp : p.IsOrdinary) :
    ∃ last, (root.join p).entryName? = some last ∧ (root.join p).steps =
      (root.join p).parts.dropLast.map .component ++ [.component (.entry last)] := by
  obtain ⟨names, last, hnames⟩ : ∃ names last, p.names = names ++ [last] :=
    ⟨_, _, (List.dropLast_concat_getLast hp.nonempty).symm⟩
  obtain ⟨hsteps, hname⟩ := parentSteps_join root hp hnames
  refine ⟨last, hname, ?_⟩
  rw [hsteps, steps_join hp, hnames]
  simp [namesSteps]

/-- What a path leads to is found where the steps before its last name lead. -/
theorem exists_find_eq {q : Path} {follow : Bool}
    (hsteps : q.steps = q.parts.dropLast.map .component ++ [.component (.entry name)]) :
    ∃ links, t.find follow q = (t.findParent q).bind fun dir =>
      (t.walk (fun rest => rest.isEmpty && !follow) links dir [.component (.entry name)]).bind
        Stop.found := by
  rw [findParent_eq, find, hsteps, locate, locate]
  cases q.fault? with
  | some e => exact ⟨0, rfl⟩
  | none =>
    dsimp only
    -- The walk to the last name is the one to its directory, taken further.
    have hresumes : t.Resumes (fun rest => rest.isEmpty && !follow) [.component (.entry name)]
        (t.walk _ maxLinks (q.startFrom t.workingDir) (q.parts.dropLast.map .component)) _ :=
      resumes_walk fun left => by simp
    cases hwalk : t.walk (fun _ => false) maxLinks (q.startFrom t.workingDir)
        (q.parts.dropLast.map .component) with
    | error e =>
      rw [hwalk] at hresumes
      rw [show t.walk _ _ _ _ = .error e from hresumes]
      exact ⟨0, rfl⟩
    | ok stop =>
      obtain ⟨loc, entry, left⟩ := stop
      rw [hwalk] at hresumes
      cases entry with
      | none =>
        rw [show t.walk _ _ _ _ = .ok ⟨loc, none, _⟩ from hresumes]
        exact ⟨0, rfl⟩
      | some e =>
        cases e with
        | directory =>
          obtain ⟨rfl, links, hresumed⟩ := hresumes
          rw [hresumed]
          exact ⟨links, rfl⟩
        | file content =>
          rw [show t.walk _ _ _ _ = .ok ⟨loc, some (.file content), _⟩ from hresumes]
          refine ⟨0, ?_⟩
          cases left <;> rfl
        | link target =>
          rw [show t.walk _ _ _ _ = .ok ⟨loc, some (.link target), _⟩ from hresumes]
          refine ⟨0, ?_⟩
          cases left <;> rfl

theorem exists_walk_eq_descend (t : FileTree) (stops : List Step → Bool) (links : Nat)
    (dir : Location) (steps : List Step) :
    ∃ onLink, t.walk stops links dir steps = t.descend stops onLink dir steps := by
  cases links with
  | zero => exact ⟨_, rfl⟩
  | succ links => exact ⟨_, rfl⟩

theorem exists_find_of_findParent {q : Path}
    (hsteps : q.steps = q.parts.dropLast.map .component ++ [.component (.entry name)])
    (hparent : t.findParent q = .ok dir) (follow : Bool) :
    ∃ onLink, t.find follow q = (t.descend (fun rest => rest.isEmpty && !follow) onLink dir
      [.component (.entry name)]).bind Stop.found := by
  obtain ⟨links, hfound⟩ := exists_find_eq hsteps
  obtain ⟨onLink, hwalk⟩ := t.exists_walk_eq_descend (fun rest => rest.isEmpty && !follow) links dir
    [.component (.entry name)]
  refine ⟨onLink, ?_⟩
  rw [hfound, hparent, ← hwalk]
  rfl

theorem removeTree_eq_unlink {q : Path} (h : ∀ loc, t.find true q ≠ .ok (loc, .directory)) :
    t.removeTree q = t.unlink q := by
  unfold removeTree
  split
  next loc heq => exact absurd heq (h loc)
  next => rfl

/-- **A removal is decided by the slot of its path.** -/
theorem removeTree_of_findSlot (hp : p.IsOrdinary) (t : FileTree) (root : Path) :
    t.removeTree (root.join p) =
      match t.findSlot (root.join p) .isADirectory with
      | .ok (loc, some .directory) => t.removeContents (root.join p) loc
      | .ok (loc, some _) => (.ok (), t.erase loc)
      | .ok (_, none) => t.refuse .notFound
      | .error e => (.error e, t) := by
  obtain ⟨last, hname, hsteps⟩ := exists_steps_join root hp
  have hslash : (root.join p).hasTrailingSlash = false := by
    rw [Path.hasTrailingSlash_join hp.relative hp.text_ne_empty, hp.endsInName]
  have hslot : t.findSlot (root.join p) .isADirectory = _ := findSlot_eq hname
  cases hparent : t.findParent (root.join p) with
  | error e =>
    -- No directory is there to remove from, and the path itself leads nowhere either.
    rw [hparent] at hslot
    obtain ⟨links, hfound⟩ : ∃ links, t.find true (root.join p) = _ := exists_find_eq hsteps
    rw [hparent] at hfound
    rw [removeTree_eq_unlink (by rw [hfound]; nofun)]
    simp only [unlink, hslot, Except.bind]
  | ok dir =>
    rw [hparent] at hslot
    obtain ⟨onLink, hfollow⟩ := exists_find_of_findParent hsteps hparent true
    obtain ⟨onLink', hstay⟩ := exists_find_of_findParent hsteps hparent false
    cases hlookup : t.lookup dir last with
    | error e =>
      rw [removeTree_eq_unlink (by simp [hfollow, descend, hlookup, Except.bind])]
      simp [unlink, hslot, hlookup, Except.bind, Except.map]
    | ok entry =>
      cases entry with
      | none =>
        rw [removeTree_eq_unlink (by simp [hfollow, descend, hlookup, Except.bind, Stop.found])]
        simp [unlink, hslot, hlookup, Except.bind, Except.map]
      | some e =>
        cases e with
        | file content =>
          rw [removeTree_eq_unlink (by simp [hfollow, descend, hlookup, Except.bind, Stop.found])]
          simp [unlink, hslot, hlookup, hslash, Except.bind, Except.map]
        | directory =>
          simp [removeTree, hfollow, hstay, hslot, descend, hlookup, Except.bind, Except.map,
            Stop.found]
        | link target =>
          -- A link is removed itself, even if it leads to a directory.
          have hlink : t.find false (root.join p) = .ok (dir ++ [last], .link target) := by
            simp [hstay, descend, hlookup, Except.bind, Stop.found]
          have hremove : t.removeTree (root.join p) = t.unlink (root.join p) := by
            unfold removeTree
            split
            next => rw [hlink]
            next => rfl
          rw [hremove]
          simp [unlink, hslot, hlookup, hslash, Except.bind, Except.map]

/-! ## Vacant slots -/

/-- The slot of a path is vacant. -/
def Vacant (t : FileTree) (q : Path) : Prop := IsVacant (t.findSlot q .isADirectory)

theorem Vacant.of_partOf {q : Path} (h : t.Vacant q) (hname : q.entryName? = some name)
    (hpart : t'.PartOf t) : t'.Vacant q := by
  rcases findSlot_partOf hpart hname with heq | hvacant
  · rwa [Vacant, heq]
  · exact hvacant

theorem vacant_of_findSlot {q : Path} {e : Entry} (hname : q.entryName? = some name)
    (h : t.findSlot q special = .ok (loc, some e)) (hpart : t'.PartOf t)
    (hgone : t'.entryAt? loc = none) : t'.Vacant q := by
  have hslot : t.findSlot q .isADirectory = .ok (loc, some e) := by
    rw [findSlot_eq hname, ← h, findSlot_eq hname]
  rcases findSlot_partOf hpart hname with heq | hvacant
  · have hentry := (entryAt?_of_findSlot hname (heq.trans hslot)).2
    rw [hgone] at hentry
    cases hentry
  · exact hvacant

theorem Vacant.removeTree (hp : p.IsOrdinary) (h : t.Vacant (root.join p)) :
    ∃ e, e.kind = .notFound ∧ t.removeTree (root.join p) = (.error e, t) := by
  rw [removeTree_of_findSlot hp]
  unfold Vacant at h
  generalize t.findSlot (root.join p) .isADirectory = slot at h
  cases h with
  | missing loc => exact ⟨_, rfl, rfl⟩
  | unreached he => exact ⟨_, he, rfl⟩

/-- The removal of a directory empties its slot, even if the path leads nowhere once the contents
are gone. -/
theorem removeContents_of_findSlot {q : Path} (hname : q.entryName? = some name)
    (h : t.findSlot q .isADirectory = .ok (loc, some .directory)) :
    (t.removeContents q loc).1 = .ok () ∧ (t.removeContents q loc).2.Vacant q := by
  obtain ⟨hne, -⟩ := entryAt?_of_findSlot hname h
  have hspecial (t : FileTree) (special : IoErrorKind) :
      t.findSlot q special = t.findSlot q .isADirectory := by
    rw [findSlot_eq hname, findSlot_eq hname]
  unfold removeContents removeDirectory
  rw [hspecial]
  -- Once the contents are gone the path leads to the same directory, or nowhere.
  rcases findSlot_partOf (t.partOf_clear loc) hname with heq | hvacant
  · have hempty : ((t.clear loc).below loc).isEmpty = true := by
      rw [below_clear]
      rfl
    have hgone : (t.erase loc).entryAt? loc = none := by
      rw [entryAt?_erase_of_ne_nil hne, if_pos List.prefix_rfl]
    rw [heq, h]
    simp only [hempty, if_true, erase_clear]
    exact ⟨trivial, vacant_of_findSlot hname h (t.partOf_erase loc) hgone⟩
  · have hclear : (t.clear loc).Vacant q := hvacant
    generalize (t.clear loc).findSlot q .isADirectory = slot at hvacant
    cases hvacant with
    | missing loc => exact ⟨rfl, hclear⟩
    | unreached he =>
      simp only [he, if_true]
      exact ⟨trivial, hclear⟩

/-- **What a removal can do.** It empties the slot of its path, or it fails and leaves the tree as
it is; a path is not found only if its slot is vacant. -/
theorem removeTree_cases (hp : p.IsOrdinary) (t : FileTree) (root : Path) :
    ((t.removeTree (root.join p)).1 = .ok () ∧
        (t.removeTree (root.join p)).2.Vacant (root.join p)) ∨
      ∃ e, t.removeTree (root.join p) = (.error e, t) ∧
        (e.kind = .notFound → t.Vacant (root.join p)) := by
  obtain ⟨last, hname, -⟩ := exists_steps_join root hp
  rw [removeTree_of_findSlot hp]
  cases hslot : t.findSlot (root.join p) .isADirectory with
  | error e => exact .inr ⟨e, rfl, fun he => by rw [Vacant, hslot]; exact .unreached he⟩
  | ok slot =>
    obtain ⟨loc, entry⟩ := slot
    have hgone (hne : loc ≠ []) : (t.erase loc).entryAt? loc = none := by
      rw [entryAt?_erase_of_ne_nil hne, if_pos List.prefix_rfl]
    have hne := (entryAt?_of_findSlot hname hslot).1
    cases entry with
    | none => exact .inr ⟨_, rfl, fun _ => by rw [Vacant, hslot]; exact .missing loc⟩
    | some e =>
      cases e with
      | directory => exact .inl (removeContents_of_findSlot hname hslot)
      | file content =>
        exact .inl ⟨rfl, vacant_of_findSlot hname hslot (t.partOf_erase loc) (hgone hne)⟩
      | link target =>
        exact .inl ⟨rfl, vacant_of_findSlot hname hslot (t.partOf_erase loc) (hgone hne)⟩

/-! ## Names that cannot be followed -/

/-- What keeps names from being followed below a directory: a name that is too long for a directory
on the way, or a file that is none. -/
inductive Blocks (t : FileTree) (dir : Location) (names : List String) : IoError → Prop
  | longName {above : List String} {name : String} {rest : List String}
      (hnames : names = above ++ name :: rest)
      (habove : t.entryAt? (dir ++ above) = some .directory)
      (hlong : maxNameSize < name.utf8ByteSize) : Blocks t dir names (.ofKind .invalidFilename)
  | file {above rest : List String} {content : List UInt8} (hnames : names = above ++ rest)
      (hrest : rest ≠ []) (hshort : ∀ name ∈ above, name.utf8ByteSize ≤ maxNameSize)
      (hfile : t.entryAt? (dir ++ above) = some (.file content)) :
      Blocks t dir names (.ofKind .notADirectory)

theorem Blocks.cons {name : String} (h : t.Blocks (dir ++ [name]) names e)
    (hname : name.utf8ByteSize ≤ maxNameSize) : t.Blocks dir (name :: names) e := by
  cases h with
  | @longName above long rest hnames habove hlong =>
    have hcons : name :: names = name :: above ++ long :: rest := congrArg _ hnames
    rw [← List.append_cons] at habove
    exact .longName hcons habove hlong
  | @file above rest content hnames hrest hshort hfile =>
    have hcons : name :: names = name :: above ++ rest := congrArg _ hnames
    rw [← List.append_cons] at hfile
    exact .file hcons hrest (List.forall_mem_cons.2 ⟨hname, hshort⟩) hfile

theorem blocks_of_reach (ht : t.LinkFreeBelow dir) (hdir : t.entryAt? dir = some .directory)
    (h : t.reach dir names = .error e) : t.Blocks dir names e := by
  induction names generalizing dir with
  | nil => cases h
  | cons name names ih =>
    unfold reach at h
    by_cases hlong : maxNameSize < name.utf8ByteSize
    · rw [lookup, if_pos hlong] at h
      cases h
      exact .longName (List.nil_append _).symm (by rwa [List.append_nil]) hlong
    · have hname := Nat.not_lt.1 hlong
      rw [lookup_eq_ok hname] at h
      cases hentry : t.entryAt? (dir ++ [name]) with
      | none =>
        rw [hentry] at h
        cases h
      | some entry =>
        rw [hentry] at h
        cases entry with
        | directory => exact (ih (ht.append [name]) hentry h).cons hname
        | link target => exact absurd hentry (ht _ target (List.prefix_append dir [name]))
        | file content =>
          by_cases hnames : names = []
          · simp [hnames] at h
          · simp only [hnames, if_false] at h
            cases h
            exact .file List.singleton_append.symm hnames (by simpa using hname) hentry

theorem reach_of_blocks (hdir : t.entryAt? dir = some .directory) (h : t.Blocks dir names e) :
    t.reach dir names = .error e := by
  induction names generalizing dir with
  | nil => cases h <;> simp_all
  | cons name names ih =>
    -- Something on the way stands below the first name, which is a directory then.
    have henter {above : List String} {entry : Entry} (hname : name.utf8ByteSize ≤ maxNameSize)
        (habove : t.entryAt? (dir ++ name :: above) = some entry)
        (hne : above ≠ [] ∨ entry = .directory) (hrest : t.Blocks (dir ++ [name]) names e) :
        t.reach dir (name :: names) = .error e := by
      have hfirst : t.entryAt? (dir ++ [name]) = some .directory := by
        cases above with
        | nil => rw [habove, hne.resolve_left fun h => h rfl]
        | cons next above =>
          rw [List.append_cons] at habove
          exact t.entryAt?_eq_directory_of_below _ next above (by rw [habove]; rfl)
      rw [reach, lookup_eq_ok hname, hfirst]
      exact ih hfirst hrest
    cases h with
    | @longName above long rest hnames habove hlong =>
      by_cases hname : maxNameSize < name.utf8ByteSize
      · rw [reach, lookup, if_pos hname]
      · cases above with
        | nil =>
          obtain ⟨rfl, -⟩ := List.cons.inj hnames
          exact absurd hlong hname
        | cons first above =>
          obtain ⟨rfl, htail⟩ := List.cons.inj hnames
          refine henter (Nat.not_lt.1 hname) habove (.inr rfl) (.longName htail ?_ hlong)
          rwa [← List.append_cons]
    | @file above rest content hnames hrest hshort hfile =>
      cases above with
      | nil =>
        rw [List.append_nil, hdir] at hfile
        cases hfile
      | cons first above =>
        obtain ⟨rfl, htail⟩ := List.cons.inj hnames
        rw [List.forall_mem_cons] at hshort
        cases above with
        | nil =>
          have hne : names ≠ [] := htail ▸ hrest
          rw [reach, lookup_eq_ok hshort.1, hfile]
          simp [hne]
        | cons next above =>
          have hbelow : t.entryAt? (dir ++ [name] ++ next :: above) = some (.file content) := by
            rwa [← List.append_cons]
          exact henter hshort.1 hfile (.inl (List.cons_ne_nil next above))
            (.file htail hrest hshort.2 hbelow)

/-- **Names cannot be followed** if one of them is too long or a file stands in the way, and only
then. -/
theorem reach_eq_error_iff (ht : t.LinkFreeBelow dir) (hdir : t.entryAt? dir = some .directory) :
    t.reach dir names = .error e ↔ t.Blocks dir names e :=
  ⟨blocks_of_reach ht hdir, reach_of_blocks hdir⟩

/-! ## Paths that name nothing -/

/-- Why a path that names nothing is refused: the system takes no such path, or the names below the
directory of the root cannot be followed. -/
inductive Refuses (t : FileTree) (root p : Path) : IoError → Prop
  | system {e : IoError} (h : (root.join p).fault? = some e) : Refuses t root p e
  | blocked {dir : Location} {e : IoError} (hfault : (root.join p).fault? = none)
      (hroot : t.LeadsTo root dir) (h : t.Blocks dir p.names e) : Refuses t root p e

theorem Refuses.unique {e e' : IoError} (h : t.Refuses root p e) (h' : t.Refuses root p e') :
    e' = e := by
  cases h with
  | system h =>
    cases h' with
    | system h' => exact Option.some.inj (h'.symm.trans h)
    | blocked hfault => exact absurd (h.symm.trans hfault) nofun
  | blocked hfault hroot h =>
    cases h' with
    | system h' => exact absurd (h'.symm.trans hfault) nofun
    | blocked _ hroot' h' =>
      obtain rfl := hroot.unique hroot'
      exact Except.error.inj
        ((reach_of_blocks hroot.directory h').symm.trans (reach_of_blocks hroot.directory h))

/-- Where the directory of a root has become unreachable, nothing is found below the root. -/
theorem findSlot_of_not_leadsTo (hp : p.IsOrdinary) (hpart : t'.PartOf t)
    (hroot : t.LeadsTo root dir) (hdir : t'.entryAt? dir = some .directory)
    (h : ¬t'.LeadsTo root dir) (hfault : (root.join p).fault? = none) :
    t'.findSlot (root.join p) special = .error (.ofKind .notFound) := by
  have hcases : t'.walk _ _ _ _ = t.walk (fun _ => false) maxLinks (root.startFrom t.workingDir)
      (root.parts.map .component) ∨ StopsShort _ := walk_partOf hpart
  rw [hroot.walk, ← hpart.workingDir] at hcases
  obtain ⟨loc, left, hshort⟩ := hcases.resolve_left fun hwalk => h ⟨hwalk, hdir⟩
  obtain ⟨names, last, hnames⟩ : ∃ names last, p.names = names ++ [last] :=
    ⟨_, _, (List.dropLast_concat_getLast hp.nonempty).symm⟩
  obtain ⟨hsteps, hname⟩ := parentSteps_join root hp hnames
  have hresumes : t'.Resumes (fun _ => false) (namesSteps names)
      (t'.walk _ maxLinks (root.startFrom t'.workingDir) (root.parts.map .component)) _ :=
    resumes_walk fun _ => rfl
  rw [hshort] at hresumes
  rw [findSlot_eq hname, findParent_eq, hsteps, locate, hfault, Path.startFrom_join hp.relative]
  dsimp only
  rw [show t'.walk _ _ _ _ = .ok ⟨loc, none, _⟩ from hresumes]
  rfl

/-- **Removing a path that names nothing** does not find it, unless the path is refused. The root
leads to its directory, or did so in a larger tree. -/
theorem removeTree_of_absent (ht : t'.LinkFree) (hp : p.IsOrdinary) (hpart : t'.PartOf t)
    (hroot : t.LeadsTo root dir) (hdir : t'.entryAt? dir = some .directory)
    (habsent : t'.LeadsTo root dir → t'.entryAt? (dir ++ p.names) = none) :
    (∃ e, t'.Refuses root p e ∧ e.kind ≠ .notFound ∧
        t'.removeTree (root.join p) = (.error e, t')) ∨
      ((∀ e, ¬t'.Refuses root p e) ∧ t'.removeTree (root.join p) = t'.refuse .notFound) := by
  cases hfault : (root.join p).fault? with
  | some e =>
    exact .inl ⟨e, .system hfault, kind_ne_notFound_of_fault hp hfault, removeTree_of_fault hfault⟩
  | none =>
    have hsystem (e : IoError) : (root.join p).fault? ≠ some e := by
      rw [hfault]
      nofun
    by_cases hleads : t'.LeadsTo root dir
    · -- The root leads to its directory, and the names decide.
      have hnone := habsent hleads
      have herase : (t'.erase (dir ++ p.names)).LeadsTo root dir :=
        (erase_eq_self hnone).symm ▸ hleads
      have hremove := removeTree_join (ht.below dir) hp hfault
        (herase.of_partOf (t'.partOf_erase_clear _))
      cases hreach : t'.reach dir p.names with
      | error e =>
        rw [hreach] at hremove
        have hblocks := (reach_eq_error_iff (ht.below dir) hdir).1 hreach
        exact .inl ⟨e, .blocked hfault hleads hblocks, kind_ne_notFound_of_reach hreach, hremove⟩
      | ok entry =>
        rw [hreach, reach_eq_ok hreach, hnone] at hremove
        refine .inr ⟨fun e he => ?_, hremove⟩
        cases he with
        | system h => exact hsystem e h
        | blocked _ hroot' h =>
          obtain rfl := hleads.unique hroot'
          rw [(reach_eq_error_iff (ht.below _) hdir).2 h] at hreach
          cases hreach
    · -- The directory of the root is out of reach.
      have hslot : t'.findSlot (root.join p) .isADirectory = _ :=
        findSlot_of_not_leadsTo hp hpart hroot hdir hleads hfault
      refine .inr ⟨fun e he => ?_, ?_⟩
      · cases he with
        | system h => exact hsystem e h
        | blocked _ hroot' h =>
          obtain rfl := hroot.unique (hroot'.of_partOf hpart)
          exact hleads hroot'
      · rw [removeTree_of_findSlot hp, hslot]
        rfl

end VariantPlan.FileTree
