import VariantPlan.Proofs.Tree.Removal

/-!
# What removing leaves alone

Removing takes things away and adds nothing. A path below a directory takes away what its names lead
to from there and what is below that, and nothing else, whether the removal succeeds or fails.

A path may be walked while it stops leading anywhere: the path of its directory may go through what
is removed, or through a link into it. Then the walk finds nothing and removing fails. If the path
of the directory still leads there afterwards, a success or a path that was not found leaves nothing
behind.

Main results: `partOf_removeTree`, `LeadsTo.of_find` and `LeadsTo.of_findSlot` (what is found below
a root shows that the root leads somewhere), `entryAt?_removeTree_join` (the frame) and
`removeTree_of_leadsTo` (nothing is left behind).
-/

namespace VariantPlan.FileTree

variable {t : FileTree} {root p : Path} {dir : Location}

/-! ## Removing takes away -/

theorem partOf_unlink (t : FileTree) (q : Path) : (t.unlink q).2.PartOf t := by
  unfold unlink
  split
  next => exact .refl t
  next => exact .refl t
  next => exact .refl t
  next =>
    split
    next => exact .refl t
    next => exact t.partOf_erase _

theorem partOf_removeDirectory (t : FileTree) (q : Path) : (t.removeDirectory q).2.PartOf t := by
  unfold removeDirectory
  split
  next => exact .refl t
  next => exact .refl t
  next =>
    split
    next => exact t.partOf_erase _
    next => exact .refl t
  next => exact .refl t

theorem snd_removeContents (t : FileTree) (q : Path) (loc : Location) :
    (t.removeContents q loc).2 = ((t.clear loc).removeDirectory q).2 := by
  unfold removeContents
  split
  next heq =>
    rw [heq]
    split <;> rfl
  next => rfl

theorem partOf_removeContents (t : FileTree) (q : Path) (loc : Location) :
    (t.removeContents q loc).2.PartOf (t.clear loc) :=
  t.snd_removeContents q loc ▸ (t.clear loc).partOf_removeDirectory q

theorem partOf_removeTree (t : FileTree) (q : Path) : (t.removeTree q).2.PartOf t := by
  unfold removeTree
  split
  next =>
    split
    next => exact t.partOf_unlink q
    next => exact (t.partOf_removeContents q _).trans (t.partOf_clear _)
  next => exact t.partOf_unlink q

/-! ## Roots that lead somewhere -/

theorem locate_bind_eq {stops : List Step → Bool} {steps : List Step}
    {found : Location × Entry} {q : Path}
    (h : (t.locate stops q steps).bind Stop.found = .ok found) :
    (t.walk stops maxLinks (q.startFrom t.workingDir) steps).bind Stop.found = .ok found := by
  unfold locate at h
  split at h
  next => cases h
  next => exact h

/-- Something that is found along names below a root, or a directory, shows that the root leads to
a directory, if something stands in what the names before it lead to. -/
theorem LeadsTo.of_locate {stops : List Step → Bool} {names : List String}
    {found : Location × Entry} (hp : p.IsOrdinary)
    (hstops : ∀ left, stops (left ++ namesSteps names) = false)
    (hfound : names ≠ [] ∨ found.2 = .directory ∧ t.entryAt? found.1 = some .directory)
    (h : (t.locate stops (root.join p) (root.parts.map .component ++ namesSteps names)).bind
      Stop.found = .ok found) : ∃ dir, t.LeadsTo root dir := by
  have hwalk := locate_bind_eq h
  rw [Path.startFrom_join hp.relative] at hwalk
  have hrest : namesSteps names ≠ [] ∨ found.2 = .directory :=
    hfound.imp (fun hne => by simpa [namesSteps] using hne) And.left
  obtain ⟨dir, links, hroot, hresumed⟩ := exists_directory_of_found hstops hrest hwalk
  refine ⟨dir, hroot, ?_⟩
  cases names with
  | nil =>
    rw [show namesSteps [] = [] from rfl, walk_nil] at hresumed
    cases hresumed
    exact (hfound.resolve_left fun hne => hne rfl).2
  | cons name names => exact directory_of_found hresumed

theorem LeadsTo.of_find {follow : Bool} {found : Location × Entry} (hp : p.IsOrdinary)
    (h : t.find follow (root.join p) = .ok found) : ∃ dir, t.LeadsTo root dir := by
  rw [find, steps_join hp] at h
  refine LeadsTo.of_locate hp (fun left => ?_) (.inl hp.nonempty) h
  simp [namesSteps, hp.nonempty]

theorem LeadsTo.of_findSlot {special : IoErrorKind} {loc : Location} {e : Entry}
    (hp : p.IsOrdinary) (h : t.findSlot (root.join p) special = .ok (loc, some e)) :
    ∃ dir, t.LeadsTo root dir := by
  obtain ⟨names, last, hnames⟩ : ∃ names last, p.names = names ++ [last] :=
    ⟨_, _, (List.dropLast_concat_getLast hp.nonempty).symm⟩
  obtain ⟨hsteps, hname⟩ := parentSteps_join root hp hnames
  unfold findSlot at h
  rw [findParent_eq, hsteps, hname] at h
  cases hfound : (t.locate (fun _ => false) (root.join p)
      (root.parts.map .component ++ namesSteps names)).bind Stop.found with
  | error e =>
    rw [hfound] at h
    cases h
  | ok found =>
    obtain ⟨parent, entry⟩ := found
    rw [hfound] at h
    cases entry with
    | file content => cases h
    | link target => cases h
    | directory =>
      change (t.lookup parent last >>= fun entry => pure (parent ++ [last], entry)) =
        .ok (loc, some e) at h
      cases hlookup : t.lookup parent last with
      | error e =>
        rw [hlookup] at h
        cases h
      | ok entry =>
        rw [hlookup] at h
        cases h
        -- Something stands in the directory of the last name, so that one exists.
        have hparent : t.entryAt? parent = some .directory :=
          t.entryAt?_eq_directory_of_below parent last []
            (by rw [(lookup_eq_ok_iff.1 hlookup).2]; rfl)
        exact LeadsTo.of_locate hp (fun _ => rfl) (.inr ⟨rfl, hparent⟩) hfound

/-- A walk that starts in a directory that exists and leads to a directory leads to one that
exists. -/
theorem descend_directory {stops : List Step → Bool} {steps left : List Step} {loc : Location}
    {onLink : Location → Path → List Step → Except IoError Stop}
    (hlink : ∀ {dir target rest}, t.entryAt? dir = some .directory →
      onLink dir target rest = .ok ⟨loc, some .directory, left⟩ → t.entryAt? loc = some .directory)
    (hdir : t.entryAt? dir = some .directory)
    (h : t.descend stops onLink dir steps = .ok ⟨loc, some .directory, left⟩) :
    t.entryAt? loc = some .directory := by
  induction steps generalizing dir with
  | nil =>
    cases h
    exact hdir
  | cons step steps ih =>
    cases step with
    | slash => exact ih hdir h
    | component c =>
      cases c with
      | root => exact ih t.entryAt?_root h
      | current => exact ih hdir h
      | parent =>
        -- The directory above one that exists exists.
        refine ih ?_ h
        by_cases hnil : dir = []
        · subst hnil
          exact hdir
        · refine t.entryAt?_eq_directory_of_below dir.dropLast (dir.getLast hnil) [] ?_
          rw [List.dropLast_concat_getLast, hdir]
          rfl
      | entry name =>
        rw [descend] at h
        cases hlookup : t.lookup dir name with
        | error e =>
          rw [hlookup] at h
          cases h
        | ok found =>
          rw [hlookup] at h
          cases found with
          | none => cases h
          | some e =>
            cases e with
            | file content => cases h
            | directory => exact ih (lookup_eq_ok_iff.1 hlookup).2 h
            | link target =>
              by_cases hstops : stops steps = true
              · simp only [hstops, if_true] at h
                cases h
              · simp only [hstops] at h
                exact hlink hdir h

theorem walk_directory {stops : List Step → Bool} {links : Nat} {steps left : List Step}
    {loc : Location} (hdir : t.entryAt? dir = some .directory)
    (h : t.walk stops links dir steps = .ok ⟨loc, some .directory, left⟩) :
    t.entryAt? loc = some .directory := by
  induction links generalizing dir steps with
  | zero => exact descend_directory (fun _ h => by cases h) hdir h
  | succ links ih =>
    refine descend_directory (fun hdir h => ih ?_ h) hdir h
    unfold Path.startFrom
    split
    next => exact t.entryAt?_root
    next => exact hdir

/-- A root that is a directory leads to one, if relative paths start from one. -/
theorem LeadsTo.of_isDirectory (hworking : t.entryAt? t.workingDir = some .directory)
    (h : t.isDirectory root = true) : ∃ dir, t.LeadsTo root dir := by
  obtain ⟨loc, hfind⟩ : ∃ loc, t.find true root = .ok (loc, .directory) := by
    unfold isDirectory at h
    split at h
    next loc heq => exact ⟨loc, heq⟩
    next => cases h
  have hwalk := locate_bind_eq hfind
  obtain ⟨dir, -, hroot, -⟩ := exists_directory_of_found (fun _ => by simp) (.inr rfl) hwalk
  refine ⟨dir, hroot, walk_directory ?_ hroot⟩
  unfold Path.startFrom
  split
  next => exact t.entryAt?_root
  next => exact hworking

theorem unlink_of_not_leadsTo (hp : p.IsOrdinary) (h : ∀ dir, ¬t.LeadsTo root dir) :
    ∃ e, t.unlink (root.join p) = (.error e, t) := by
  unfold unlink
  split
  next => exact ⟨_, rfl⟩
  next => exact ⟨_, rfl⟩
  next => exact ⟨_, rfl⟩
  next hslot =>
    obtain ⟨dir, hdir⟩ := LeadsTo.of_findSlot hp hslot
    exact absurd hdir (h dir)

theorem snd_removeDirectory_of_not_leadsTo (hp : p.IsOrdinary)
    (h : ∀ dir, ¬t.LeadsTo root dir) : (t.removeDirectory (root.join p)).2 = t := by
  unfold removeDirectory
  split
  next => rfl
  next => rfl
  next hslot =>
    obtain ⟨dir, hdir⟩ := LeadsTo.of_findSlot hp hslot
    exact absurd hdir (h dir)
  next => rfl

theorem removeTree_of_not_leadsTo (hp : p.IsOrdinary) (h : ∀ dir, ¬t.LeadsTo root dir) :
    ∃ e, t.removeTree (root.join p) = (.error e, t) := by
  cases hfind : t.find true (root.join p) with
  | ok found =>
    obtain ⟨dir, hdir⟩ := LeadsTo.of_find hp hfind
    exact absurd hdir (h dir)
  | error e =>
    rw [removeTree_of_find_error hfind]
    exact unlink_of_not_leadsTo hp h

/-! ## The frame -/

/-- A directory that is removed takes its contents with it, and nothing else. -/
theorem entryAt?_removeContents_join (ht : t.LinkFreeBelow dir) (hroot : t.LeadsTo root dir)
    (hp : p.IsOrdinary) (hfault : (root.join p).fault? = none)
    (hreach : t.reach dir p.names = .ok (some .directory)) {k : Location}
    (hk : ¬dir ++ p.names <+: k) :
    (t.removeContents (root.join p) (dir ++ p.names)).2.entryAt? k = t.entryAt? k := by
  by_cases hclear : (t.clear (dir ++ p.names)).LeadsTo root dir
  · rw [removeContents_join ht hp hfault hclear hreach, entryAt?_erase_names hp, if_neg hk]
  · have hnone (dir' : Location) : ¬(t.clear (dir ++ p.names)).LeadsTo root dir' := by
      intro hleads
      obtain rfl := hroot.unique (hleads.of_partOf (t.partOf_clear _))
      exact hclear hleads
    rw [snd_removeContents, snd_removeDirectory_of_not_leadsTo hp hnone]
    by_cases hnil : k = []
    · subst hnil
      rfl
    · have hbelow : ¬isBelow (dir ++ p.names) k = true := by
        intro h
        rw [isBelow, Bool.and_eq_true, List.isPrefixOf_iff_prefix] at h
        exact hk h.1
      rw [entryAt?_clear _ _ hnil, if_neg hbelow]

/-- **The frame of a removal.** Removing a path below a root leaves everything as it was that does
not stand at the location of the path or below it. The root may lead nowhere. -/
theorem entryAt?_removeTree_join (hroot : ∀ dir', t.LeadsTo root dir' → dir' = dir)
    (ht : t.LeadsTo root dir → t.LinkFreeBelow dir) (hp : p.IsOrdinary) {k : Location}
    (hk : ¬dir ++ p.names <+: k) :
    (t.removeTree (root.join p)).2.entryAt? k = t.entryAt? k := by
  by_cases hleads : t.LeadsTo root dir
  · cases hfault : (root.join p).fault? with
    | some e => rw [removeTree_of_fault hfault]
    | none =>
      rw [removeTree_of_reach (ht hleads) hp hfault hleads]
      cases hreach : t.reach dir p.names with
      | error e => rfl
      | ok found =>
        cases found with
        | none => rfl
        | some e =>
          cases e with
          | directory =>
            exact entryAt?_removeContents_join (ht hleads) hleads hp hfault hreach hk
          | file content => exact (entryAt?_erase_names hp dir k).trans (if_neg hk)
          | link target => exact (entryAt?_erase_names hp dir k).trans (if_neg hk)
  · -- Below a root that leads nowhere nothing is removed.
    have hnone (dir' : Location) : ¬t.LeadsTo root dir' := by
      intro h
      obtain rfl := hroot dir' h
      exact hleads h
    obtain ⟨e, he⟩ := removeTree_of_not_leadsTo hp hnone
    rw [he]

/-- **Nothing is left behind** by a removal that succeeds or does not find its path, if the root
still leads to its directory. -/
theorem removeTree_of_leadsTo (ht : t.LinkFreeBelow dir) (hp : p.IsOrdinary)
    (hleads : (t.removeTree (root.join p)).2.LeadsTo root dir)
    (hgone : ∀ e, (t.removeTree (root.join p)).1 = .error e → e.kind = .notFound) :
    (t.removeTree (root.join p)).2 = t.erase (dir ++ p.names) := by
  have hroot := hleads.of_partOf (t.partOf_removeTree _)
  obtain ⟨hfault, hreach⟩ := reach_of_gone ht hp hroot hgone
  have hremove := removeTree_of_reach ht hp hfault hroot
  cases hentry : t.entryAt? (dir ++ p.names) with
  | none =>
    rw [hreach, hentry] at hremove
    rw [hremove, erase_eq_self hentry, refuse]
  | some e =>
    rw [hentry] at hreach
    rw [hreach] at hremove
    cases e with
    | file content => rw [hremove]
    | link target => rw [hremove]
    | directory =>
      change t.removeTree (root.join p) = t.removeContents (root.join p) _ at hremove
      rw [hremove] at hleads ⊢
      -- The root leads there in the end, so it did when only the contents were gone.
      have hclear := hleads.of_partOf (t.partOf_removeContents _ _)
      rw [removeContents_join ht hp hfault hclear hreach]

end VariantPlan.FileTree
