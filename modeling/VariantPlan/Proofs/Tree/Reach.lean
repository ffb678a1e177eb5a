import Mathlib.Data.List.Induction
import VariantPlan.Proofs.Tree.Parts
import VariantPlan.Proofs.Tree.Paths
import VariantPlan.Tree.Walk

/-!
# Reaching entries

A walk enters one directory after another, or goes on where a link leads to. The components of a
path **lead to** a directory if the walk along them ends there. A longer walk goes on from that
directory (`walk_append`), and what a longer walk finds shows that the shorter one leads to a
directory. A path that leads to a directory in a part of a tree does so in the tree.

In a tree without links a path that goes down only leads to its directory whatever is erased below
the directory. Every directory has a path that goes down only.

Below a directory the names of a path decide alone what is **reached**: an entry, or nothing, or a
failure where a file stands in the way or a name is too long.

Main results: `walk_append`, `exists_directory_of_found` and `walk_mono` (walks to a directory),
`walk_partOf` (walks in a part of a tree), `LeadsTo.of_partOf` and `LeadsTo.of_kept`,
`exists_leadsTo` (directories have paths), `reach_eq_ok` (names that are followed lead to what
stands there), `PartOf.reach` (in a part of a tree they are followed as well) and `found_walk` (a
walk along names finds what they reach).
-/

namespace VariantPlan.FileTree

variable {t t' : FileTree} {dir : Location} {name : String} {names : List String}

/-! ## Walks without links -/

theorem lookup_eq_ok_iff {e : Option Entry} : t.lookup dir name = .ok e ↔
    name.utf8ByteSize ≤ maxNameSize ∧ t.entryAt? (dir ++ [name]) = e := by
  unfold lookup
  split
  next h =>
    refine ⟨fun heq => ?_, fun heq => absurd heq.1 (Nat.not_le.2 h)⟩
    cases heq
  next h => exact ⟨fun heq => ⟨Nat.not_lt.1 h, Except.ok.inj heq⟩, fun heq => congrArg _ heq.2⟩

/-- The directory that a component leads to. -/
def follow (dir : Location) : Component → Location
  | .root => []
  | .current => dir
  | .parent => dir.dropLast
  | .entry name => dir ++ [name]

section Walks

variable {stops stops' : List Step → Bool} {links links' : Nat} {rest : List Step}
  {start : Location} {cs : List Component}

theorem walk_nil : t.walk stops links dir [] = .ok ⟨dir, some .directory, []⟩ := by
  cases links <;> rfl

theorem walk_special {c : Component} (hc : ∀ name, c ≠ .entry name) :
    t.walk stops links dir (.component c :: rest) = t.walk stops links (follow dir c) rest := by
  cases c with
  | entry name => exact absurd rfl (hc name)
  | root => cases links <;> rfl
  | current => cases links <;> rfl
  | parent => cases links <;> rfl

/-- Where no link is met, a walk enters a directory or stops. -/
theorem walk_entry (h : ∀ target, t.entryAt? (dir ++ [name]) ≠ some (.link target)) :
    t.walk stops links dir (.component (.entry name) :: rest) =
      match t.lookup dir name with
      | .error e => .error e
      | .ok (some .directory) => t.walk stops links (dir ++ [name]) rest
      | .ok entry => .ok ⟨dir ++ [name], entry, rest⟩ := by
  have hstep (onLink : Location → Path → List Step → Except IoError Stop) :
      t.descend stops onLink dir (.component (.entry name) :: rest) =
        match t.lookup dir name with
        | .error e => .error e
        | .ok (some .directory) => t.descend stops onLink (dir ++ [name]) rest
        | .ok entry => .ok ⟨dir ++ [name], entry, rest⟩ := by
    rw [descend]
    cases hfound : t.lookup dir name with
    | error e => rfl
    | ok found =>
      cases found with
      | none => rfl
      | some e =>
        cases e with
        | file content => rfl
        | directory => rfl
        | link target => exact absurd (lookup_eq_ok_iff.1 hfound).2 (h target)
  cases links with
  | zero => exact hstep _
  | succ links => exact hstep _

/-- A walk that leads to a directory along a component enters it, if it is an entry, and goes on
from there. -/
theorem walk_cons_eq_ok_iff {c : Component} (h : t.LinkFree) :
    t.walk stops links start (.component c :: cs.map .component) = .ok ⟨dir, some .directory, []⟩ ↔
      (∀ name, c = .entry name → t.lookup start name = .ok (some .directory)) ∧
      t.walk stops links (follow start c) (cs.map .component) =
        .ok ⟨dir, some .directory, []⟩ := by
  by_cases hc : ∃ name, c = .entry name
  · obtain ⟨name, rfl⟩ := hc
    rw [walk_entry (h _)]
    split
    next heq => simp [heq]
    next heq => simp [heq, follow]
    next heq hne => simp_all
  · have hc : ∀ name, c ≠ .entry name := fun name heq => hc ⟨name, heq⟩
    rw [walk_special hc]
    exact ⟨fun hw => ⟨fun name heq => absurd heq (hc name), hw⟩, And.right⟩

/-- A walk that goes down only ends below its start. -/
theorem prefix_of_walk (h : t.LinkFree) (hroot : .root ∉ cs) (hparent : .parent ∉ cs)
    (hw : t.walk stops links start (cs.map .component) = .ok ⟨dir, some .directory, []⟩) :
    start <+: dir := by
  induction cs generalizing start with
  | nil =>
    rw [List.map_nil, walk_nil] at hw
    cases hw
    exact List.prefix_rfl
  | cons c cs ih =>
    obtain ⟨-, hw⟩ := (walk_cons_eq_ok_iff h).1 hw
    rw [List.mem_cons, not_or] at hroot hparent
    have hfollow := ih hroot.2 hparent.2 hw
    cases c with
    | root => exact absurd rfl hroot.1
    | current => exact hfollow
    | parent => exact absurd rfl hparent.1
    | entry name => exact (List.prefix_append start [name]).trans hfollow

/-- A walk leads to its directory in every tree that holds the directories on its way, which are
above the last one if the walk goes down only. -/
theorem walk_mono (h : t.LinkFree) (h' : t'.LinkFree)
    (hdir : ∀ k, (.root ∉ cs → .parent ∉ cs → k <+: dir) →
      t.entryAt? k = some .directory → t'.entryAt? k = some .directory)
    (hw : t.walk stops links start (cs.map .component) = .ok ⟨dir, some .directory, []⟩) :
    t'.walk stops links start (cs.map .component) = .ok ⟨dir, some .directory, []⟩ := by
  induction cs generalizing start with
  | nil =>
    rw [List.map_nil, walk_nil] at hw ⊢
    exact hw
  | cons c cs ih =>
    obtain ⟨henter, hw⟩ := (walk_cons_eq_ok_iff h).1 hw
    refine (walk_cons_eq_ok_iff h').2 ⟨?_, ih (fun k hk => hdir k fun hroot hparent => ?_) hw⟩
    · rintro name rfl
      obtain ⟨hsize, hentry⟩ := lookup_eq_ok_iff.1 (henter name rfl)
      refine lookup_eq_ok_iff.2 ⟨hsize, hdir _ (fun hroot hparent => ?_) hentry⟩
      rw [List.mem_cons, not_or] at hroot hparent
      exact prefix_of_walk h hroot.2 hparent.2 hw
    · rw [List.mem_cons, not_or] at hroot hparent
      exact hk hroot.2 hparent.2

end Walks

/-! ## Walks that meet links -/

section Links

variable {stops : List Step → Bool} {links : Nat} {steps rest left : List Step}
  {start loc : Location} {e : Entry}
  {onLink onLink' : Location → Path → List Step → Except IoError Stop}

/-- How a walk along steps and a rest ends, by how the walk along the steps does: it goes on from a
directory, and stops where the walk along the steps stops. -/
def Resumes (t : FileTree) (stops : List Step → Bool) (rest : List Step) :
    Except IoError Stop → Except IoError Stop → Prop
  | .error e, resumed => resumed = .error e
  | .ok ⟨dir, some .directory, left⟩, resumed =>
    left = [] ∧ ∃ links, resumed = t.walk stops links dir rest
  | .ok ⟨loc, entry, left⟩, resumed => resumed = .ok ⟨loc, entry, left ++ rest⟩

theorem resumes_descend (hstops : ∀ left, stops (left ++ rest) = false)
    (hrest : ∀ dir, t.descend stops onLink' dir rest = t.walk stops links dir rest)
    (hlink : ∀ dir target left,
      t.Resumes stops rest (onLink dir target left) (onLink' dir target (left ++ rest))) :
    t.Resumes stops rest (t.descend (fun _ => false) onLink start steps)
      (t.descend stops onLink' start (steps ++ rest)) := by
  induction steps generalizing start with
  | nil => exact ⟨rfl, links, hrest start⟩
  | cons step steps ih =>
    cases step with
    | slash => exact ih
    | component c =>
      cases c with
      | root => exact ih
      | current => exact ih
      | parent => exact ih
      | entry name =>
        rw [List.cons_append, descend, descend]
        cases t.lookup start name with
        | error e => rfl
        | ok found =>
          cases found with
          | none => rfl
          | some e =>
            cases e with
            | file content => rfl
            | directory => exact ih
            | link target =>
              simp only [hstops, Bool.false_eq_true, if_false]
              exact hlink start target steps

/-- The walk along steps decides how a longer one goes on, if the longer one stops at no link on the
way. -/
theorem resumes_walk (hstops : ∀ left, stops (left ++ rest) = false) :
    t.Resumes stops rest (t.walk (fun _ => false) links start steps)
      (t.walk stops links start (steps ++ rest)) := by
  induction links generalizing start steps with
  | zero =>
    have hrest (dir : Location) : t.walk stops 0 dir rest = t.walk stops 0 dir rest := rfl
    exact resumes_descend hstops hrest fun _ _ _ => rfl
  | succ links ih =>
    have hrest (dir : Location) :
        t.walk stops (links + 1) dir rest = t.walk stops (links + 1) dir rest := rfl
    refine resumes_descend hstops hrest fun dir target left => ?_
    rw [← List.append_assoc]
    exact ih

/-- A walk that leads to a directory goes on from there. -/
theorem walk_append (hstops : ∀ left, stops (left ++ rest) = false)
    (hw : t.walk (fun _ => false) links start steps = .ok ⟨dir, some .directory, []⟩) :
    ∃ links', t.walk stops links start (steps ++ rest) = t.walk stops links' dir rest := by
  have h : t.Resumes stops rest (t.walk (fun _ => false) links start steps)
    (t.walk stops links start (steps ++ rest)) := resumes_walk hstops
  rw [hw] at h
  exact h.2

/-- A walk that finds something after more steps, or a directory, leads to a directory before
them. -/
theorem exists_directory_of_found {found : Location × Entry}
    (hstops : ∀ left, stops (left ++ rest) = false) (hrest : rest ≠ [] ∨ found.2 = .directory)
    (h : (t.walk stops links start (steps ++ rest)).bind Stop.found = .ok found) :
    ∃ dir links', t.walk (fun _ => false) links start steps = .ok ⟨dir, some .directory, []⟩ ∧
      (t.walk stops links' dir rest).bind Stop.found = .ok found := by
  have hresumes : t.Resumes stops rest (t.walk (fun _ => false) links start steps)
    (t.walk stops links start (steps ++ rest)) := resumes_walk hstops
  -- What is no directory stops the walk, and is not found if steps are left.
  have hother (loc : Location) (e : Entry) (left : List Step) (he : e ≠ .directory)
      (hwalk : t.walk stops links start (steps ++ rest) = .ok ⟨loc, some e, left ++ rest⟩) :
      False := by
    rw [hwalk] at h
    change (if (left ++ rest).isEmpty then Except.ok (loc, e)
      else .error (IoError.ofKind .notADirectory)) = .ok found at h
    split at h
    next hempty =>
      cases h
      rcases hrest with hrest | hrest
      · simp [hrest] at hempty
      · exact he hrest
    next => cases h
  cases hwalk : t.walk (fun _ => false) links start steps with
  | error e =>
    rw [hwalk] at hresumes
    rw [show t.walk stops links start (steps ++ rest) = .error e from hresumes] at h
    cases h
  | ok stop =>
    obtain ⟨loc, entry, left⟩ := stop
    rw [hwalk] at hresumes
    cases entry with
    | none =>
      rw [show t.walk stops links start (steps ++ rest) = _ from hresumes] at h
      cases h
    | some e =>
      cases e with
      | directory =>
        obtain ⟨hleft, links', hresumed⟩ := hresumes
        exact ⟨loc, links', by rw [hleft], by rw [← hresumed, h]⟩
      | file content => exact (hother loc (.file content) left nofun hresumes).elim
      | link target => exact (hother loc (.link target) left nofun hresumes).elim

theorem directory_of_found {found : Location × Entry}
    (h : (t.walk stops links dir (.component (.entry name) :: rest)).bind Stop.found = .ok found) :
    t.entryAt? dir = some .directory := by
  refine t.entryAt?_eq_directory_of_below dir name [] ?_
  cases hlookup : t.lookup dir name with
  | error e => cases links <;> simp [walk, descend, hlookup, Except.bind] at h
  | ok entry =>
    rw [(lookup_eq_ok_iff.1 hlookup).2]
    cases entry with
    | none => cases links <;> simp [walk, descend, hlookup, Except.bind, Stop.found] at h
    | some e => rfl

/-- A walk stops where something is missing. -/
def StopsShort (outcome : Except IoError Stop) : Prop :=
  ∃ loc left, outcome = .ok ⟨loc, none, left⟩

theorem descend_partOf (hp : t'.PartOf t)
    (hlink : ∀ dir target left, onLink' dir target left = onLink dir target left ∨
      StopsShort (onLink' dir target left)) :
    t'.descend stops onLink' start steps = t.descend stops onLink start steps ∨
      StopsShort (t'.descend stops onLink' start steps) := by
  induction steps generalizing start with
  | nil => exact .inl rfl
  | cons step steps ih =>
    cases step with
    | slash => exact ih
    | component c =>
      cases c with
      | root => exact ih
      | current => exact ih
      | parent => exact ih
      | entry name =>
        rw [descend, descend]
        by_cases hsize : maxNameSize < name.utf8ByteSize
        · rw [lookup, lookup, if_pos hsize, if_pos hsize]
          exact .inl rfl
        · rw [lookup_eq_ok (Nat.not_lt.1 hsize), lookup_eq_ok (Nat.not_lt.1 hsize)]
          cases hentry : t'.entryAt? (start ++ [name]) with
          | none => exact .inr ⟨_, _, rfl⟩
          | some e =>
            -- What the smaller tree holds, the larger one holds.
            rw [hp.entryAt? _ _ hentry]
            cases e with
            | file content => exact .inl rfl
            | directory => exact ih
            | link target =>
              by_cases hstops : stops steps = true
              · simp only [hstops, if_true]
                exact .inl trivial
              · simp only [hstops]
                exact hlink start target steps

/-- **A walk in a part of a tree** ends as the walk in the tree does, or stops where something is
missing. -/
theorem walk_partOf (hp : t'.PartOf t) :
    t'.walk stops links start steps = t.walk stops links start steps ∨
      StopsShort (t'.walk stops links start steps) := by
  induction links generalizing start steps with
  | zero => exact descend_partOf hp fun _ _ _ => .inl rfl
  | succ links ih => exact descend_partOf hp fun _ _ _ => ih

theorem walk_of_partOf (hp : t'.PartOf t) {stop : Stop}
    (h : t'.walk stops links start steps = .ok stop) (hstop : stop.entry ≠ none) :
    t.walk stops links start steps = .ok stop := by
  have hcases : t'.walk stops links start steps = t.walk stops links start steps ∨
      StopsShort (t'.walk stops links start steps) := walk_partOf hp
  rw [h] at hcases
  rcases hcases with heq | ⟨loc, left, hshort⟩
  · exact heq.symm
  · cases hshort
    exact absurd rfl hstop

end Links

/-! ## Reached directories -/

/-- A path leads to a directory that exists. -/
structure LeadsTo (t : FileTree) (root : Path) (dir : Location) : Prop where
  walk : t.walk (fun _ => false) maxLinks (root.startFrom t.workingDir)
    (root.parts.map .component) = .ok ⟨dir, some .directory, []⟩
  directory : t.entryAt? dir = some .directory

variable {root : Path}

theorem LeadsTo.of_partOf (h : t'.LeadsTo root dir) (hp : t'.PartOf t) : t.LeadsTo root dir where
  walk := by
    rw [← hp.workingDir]
    exact walk_of_partOf hp h.walk nofun
  directory := hp.entryAt? dir _ h.directory

theorem LeadsTo.unique {dir' : Location} (h : t.LeadsTo root dir) (h' : t.LeadsTo root dir') :
    dir' = dir := by
  have hwalk := h'.walk.symm.trans h.walk
  cases hwalk
  rfl

theorem root_not_mem_parts (p : Path) : .root ∉ p.parts := by
  intro h
  obtain ⟨s, -, hs⟩ := List.mem_map.1 h
  unfold Component.ofText at hs
  split at hs
  next => cases hs
  next =>
    split at hs <;> cases hs

/-- A path that goes down only leads to its directory in every part of the tree that holds the
directories above it. -/
theorem LeadsTo.of_kept (h : t.LeadsTo root dir) (ht : t.LinkFree) (hup : .parent ∉ root.parts)
    (hp : t'.PartOf t) (hkept : ∀ k, k <+: dir → t'.entryAt? k = t.entryAt? k) :
    t'.LeadsTo root dir := by
  refine ⟨?_, (hkept dir List.prefix_rfl).trans h.directory⟩
  rw [hp.workingDir]
  refine walk_mono ht (hp.linkFree ht) (fun k hk hdir => ?_) h.walk
  rw [hkept k (hk (root_not_mem_parts root) hup), hdir]

/-- A path that goes down only leads to its directory whatever is erased below the directory. -/
theorem LeadsTo.eraseAll (h : t.LeadsTo root dir) (ht : t.LinkFree) (hup : .parent ∉ root.parts)
    {locs : List Location} (hlocs : ∀ loc ∈ locs, dir <+: loc ∧ loc ≠ dir) :
    (t.eraseAll locs).LeadsTo root dir := by
  have hne (loc : Location) (hloc : loc ∈ locs) : loc ≠ [] := by
    rintro rfl
    exact (hlocs _ hloc).2 (List.prefix_nil.1 (hlocs _ hloc).1).symm
  refine h.of_kept ht hup (t.partOf_eraseAll locs) fun k hk => ?_
  rw [entryAt?_eraseAll hne, if_neg]
  rintro ⟨loc, hloc, hp⟩
  obtain ⟨hbelow, hdir⟩ := hlocs loc hloc
  exact hdir ((hp.trans hk).eq_of_length (Nat.le_antisymm (hp.trans hk).length_le
    hbelow.length_le))

/-- A directory has an absolute path that goes down only, if the names on the way there can be
written into a path. -/
theorem exists_leadsTo (ht : t.LinkFree) (hdir : t.entryAt? dir = some .directory)
    (hnames : ∀ name ∈ dir, Path.IsEntryName name ∧ name.utf8ByteSize ≤ maxNameSize) :
    ∃ root : Path, root.isAbsolute = true ∧ .parent ∉ root.parts ∧ t.LeadsTo root dir := by
  induction dir using List.reverseRecOn with
  | nil =>
    have hparts : Path.parts ⟨"/"⟩ = [] := by decide
    exact ⟨⟨"/"⟩, by decide, hparts ▸ List.not_mem_nil, hparts ▸ walk_nil, hdir⟩
  | append_singleton dir name ih =>
    rw [List.forall_mem_append, List.forall_mem_singleton] at hnames
    obtain ⟨habove, hname, hsize⟩ := hnames
    have hparent : t.entryAt? dir = some .directory :=
      t.entryAt?_eq_directory_of_below dir name [] (by rw [hdir]; rfl)
    obtain ⟨root, habs, hdown, hroot⟩ := ih hparent habove
    have hrelative := hname.isAbsolute_eq_false
    have hparts : (root.join ⟨name⟩).parts = root.parts ++ [.entry name] := by
      rw [Path.parts_join hrelative, hname.parts]
    refine ⟨root.join ⟨name⟩, (Path.isAbsolute_join hrelative).trans habs, ?_, ?_, hdir⟩
    · rw [hparts, List.mem_append, List.mem_singleton]
      exact not_or.2 ⟨hdown, nofun⟩
    · obtain ⟨links, hwalk⟩ : ∃ links, t.walk (fun _ => false) maxLinks
          (root.startFrom t.workingDir) (root.parts.map .component ++ [.component (.entry name)]) =
        t.walk (fun _ => false) links dir [.component (.entry name)] :=
        walk_append (fun _ => rfl) hroot.walk
      rw [hparts, Path.startFrom_join hrelative, List.map_append, List.map_singleton, hwalk,
        walk_entry (ht _), lookup_eq_ok_iff.2 ⟨hsize, hdir⟩]
      exact walk_nil

/-! ## Names below a directory -/

/-- What names lead to from a directory of a tree without links, or why they cannot be followed. -/
def reach (t : FileTree) : Location → List String → Except IoError (Option Entry)
  | dir, [] => .ok (t.entryAt? dir)
  | dir, name :: names =>
    match t.lookup dir name with
    | .ok (some .directory) => t.reach (dir ++ [name]) names
    | .ok (some e) => if names = [] then .ok (some e) else .error (.ofKind .notADirectory)
    | found => found

theorem reach_eq_ok {e : Option Entry} (h : t.reach dir names = .ok e) :
    e = t.entryAt? (dir ++ names) := by
  induction names generalizing dir with
  | nil =>
    rw [List.append_nil]
    exact (Except.ok.inj h).symm
  | cons name names ih =>
    rw [List.append_cons]
    unfold reach at h
    split at h
    next => exact ih h
    next heq =>
      split at h
      next hnil =>
        rw [hnil, List.append_nil, (lookup_eq_ok_iff.1 heq).2]
        exact (Except.ok.inj h).symm
      next => cases h
    next hdir hentry =>
      obtain ⟨-, hlookup⟩ := lookup_eq_ok_iff.1 h
      cases e with
      | none => exact (entryAt?_eq_none_below hlookup (List.prefix_append _ _)).symm
      | some e => exact absurd h (hentry e)

/-- The names of what stands somewhere can be followed if none is too long, and only then. -/
theorem reach_eq_ok_iff {e : Entry} (h : t.entryAt? (dir ++ names) = some e) :
    t.reach dir names = .ok (some e) ↔ ∀ name ∈ names, name.utf8ByteSize ≤ maxNameSize := by
  induction names generalizing dir with
  | nil =>
    rw [List.append_nil] at h
    simp [reach, h]
  | cons name names ih =>
    rw [List.append_cons] at h
    rw [List.forall_mem_cons, reach]
    by_cases hsize : name.utf8ByteSize ≤ maxNameSize
    · rw [lookup_eq_ok hsize, and_iff_right hsize]
      cases names with
      | nil =>
        rw [List.append_nil] at h
        cases e <;> simp [h, reach]
      | cons next rest =>
        rw [t.entryAt?_eq_directory_of_below _ next rest (by rw [h]; rfl)]
        exact ih h
    · rw [lookup, if_pos (Nat.lt_of_not_le hsize)]
      simp [hsize]

theorem PartOf.reach (hp : t'.PartOf t) {e : Option Entry} (h : t.reach dir names = .ok e) :
    t'.reach dir names = .ok (t'.entryAt? (dir ++ names)) := by
  have hfollowed : ∃ e', t'.reach dir names = .ok e' := by
    induction names generalizing dir with
    | nil => exact ⟨_, rfl⟩
    | cons name names ih =>
      unfold FileTree.reach at h ⊢
      cases hlookup : t.lookup dir name with
      | error err =>
        rw [hlookup] at h
        cases h
      | ok found =>
        obtain ⟨hsize, hentry⟩ := lookup_eq_ok_iff.1 hlookup
        rw [hlookup] at h
        rw [lookup_eq_ok hsize]
        cases hentry' : t'.entryAt? (dir ++ [name]) with
        | none => exact ⟨none, rfl⟩
        | some e' =>
          obtain rfl : some e' = found := (hp.entryAt? _ _ hentry').symm.trans hentry
          cases e' with
          | directory => exact ih h
          | file content => exact ⟨e, h⟩
          | link target => exact ⟨e, h⟩
  obtain ⟨e', he'⟩ := hfollowed
  rw [he', reach_eq_ok he']

theorem reach_concat (hdir : t.entryAt? dir = some .directory) (names : List String)
    (last : String) :
    t.reach dir (names ++ [last]) =
      match t.reach dir names with
      | .ok (some .directory) => t.lookup (dir ++ names) last
      | .ok (some _) => .error (.ofKind .notADirectory)
      | other => other := by
  induction names generalizing dir with
  | nil =>
    rw [List.nil_append, List.append_nil]
    simp only [reach, hdir]
    cases hlookup : t.lookup dir last with
    | error err => rfl
    | ok found =>
      cases found with
      | none => rfl
      | some e =>
        cases e with
        | directory => exact congrArg _ (lookup_eq_ok_iff.1 hlookup).2
        | file content => rfl
        | link target => rfl
  | cons name names ih =>
    rw [List.cons_append, List.append_cons dir]
    unfold reach
    cases hlookup : t.lookup dir name with
    | error err => rfl
    | ok found =>
      cases found with
      | none => rfl
      | some e =>
        cases e with
        | directory => exact ih (lookup_eq_ok_iff.1 hlookup).2
        | file content => by_cases hnames : names = [] <;> simp [hnames]
        | link target => by_cases hnames : names = [] <;> simp [hnames]

/-- Where names lead from a directory, as a location with what stands there. -/
def locateNames (t : FileTree) (dir : Location) (names : List String) :
    Except IoError (Location × Entry) :=
  match t.reach dir names with
  | .ok (some e) => .ok (dir ++ names, e)
  | .ok none => .error (.ofKind .notFound)
  | .error e => .error e

theorem found_walk {stops : List Step → Bool} {links : Nat} (ht : t.LinkFreeBelow dir)
    (hdir : t.entryAt? dir = some .directory) (names : List String) :
    (t.walk stops links dir (names.map fun name => .component (.entry name))).bind Stop.found =
      t.locateNames dir names := by
  induction names generalizing dir with
  | nil =>
    rw [List.map_nil, walk_nil, locateNames, reach, hdir, List.append_nil]
    rfl
  | cons name names ih =>
    rw [List.map_cons, walk_entry fun target => ht _ target (List.prefix_append dir [name]),
      locateNames, List.append_cons dir name names]
    unfold reach
    cases hlookup : t.lookup dir name with
    | error err => rfl
    | ok found =>
      cases found with
      | none => rfl
      | some e =>
        cases e with
        | directory => exact ih (ht.append [name]) (lookup_eq_ok_iff.1 hlookup).2
        | file content => cases names <;> simp [Except.bind, Stop.found]
        | link target => cases names <;> simp [Except.bind, Stop.found]

end VariantPlan.FileTree
