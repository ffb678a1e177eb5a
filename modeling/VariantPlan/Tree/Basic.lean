import VariantPlan.Path
import VariantPlan.SortedMap

/-!
# File trees

A tree is a finite map from locations to entries. A location is the list of names that lead from
the root to an entry; the root itself is the empty list, is a directory, and has no entry of its
own. The map is **closed**: whatever exists stands in a directory that exists.

Operations on locations:

* **place** puts an entry into a directory, in place of anything but a directory;
* **erase** removes an entry with all that is below it;
* **clear** removes all that is below an entry.

Main results: `entryAt?_place`, `entryAt?_erase` and `entryAt?_clear` describe the operations
through what stands at each location, and `entryAt?_eq_directory_of_below` says that only
directories have something below them.
-/

namespace VariantPlan

/-- The names that lead from the root to an entry. -/
abbrev Location : Type := List String

/-- What stands at a location. -/
inductive Entry where
  | file (content : List UInt8)
  | directory
  /-- A symbolic link. -/
  | link (target : Path)
deriving DecidableEq

/-- The kinds of entries. -/
inductive EntryKind where
  | file
  | directory
  | link
deriving DecidableEq

def Entry.kind : Entry → EntryKind
  | .file _ => .file
  | .directory => .directory
  | .link _ => .link

/-- What a map holds at a location; the root is a directory. -/
def entryIn (m : SortedMap Location Entry) : Location → Option Entry
  | [] => some .directory
  | loc => m.get? loc

/-- A tree of files, and the directory from which relative paths start. -/
structure FileTree where
  entries : SortedMap Location Entry
  workingDir : Location
  /-- Whatever exists stands in a directory. -/
  closed : ∀ loc, loc ≠ [] → (entryIn entries loc).isSome = true →
    entryIn entries loc.dropLast = some .directory

namespace FileTree

/-- What stands at a location. -/
def entryAt? (t : FileTree) (loc : Location) : Option Entry := entryIn t.entries loc

/-- The tree whose root is empty. -/
def empty : FileTree where
  entries := .empty
  workingDir := []
  closed loc h hs := by
    cases loc with
    | nil => exact absurd rfl h
    | cons hd tl => simp [entryIn] at hs

/-- The tree with another directory for relative paths to start from. -/
def withWorkingDir (t : FileTree) (dir : Location) : FileTree := { t with workingDir := dir }

@[simp]
theorem entryAt?_root (t : FileTree) : t.entryAt? [] = some .directory := rfl

theorem entryIn_of_ne_nil {m : SortedMap Location Entry} {loc : Location} (h : loc ≠ []) :
    entryIn m loc = m.get? loc := by
  cases loc with
  | nil => exact absurd rfl h
  | cons hd tl => rfl

/-- Only directories have something below them. -/
theorem entryAt?_eq_directory_of_below (t : FileTree) (loc : Location) (name : String)
    (names : List String) (h : (t.entryAt? (loc ++ name :: names)).isSome = true) :
    t.entryAt? loc = some .directory := by
  induction names generalizing loc name with
  | nil => simpa [entryAt?] using t.closed (loc ++ [name]) (by simp) h
  | cons next names ih =>
    have hd := ih (loc ++ [name]) next (by simpa using h)
    simpa [entryAt?] using t.closed (loc ++ [name]) (by simp) (by rw [← entryAt?, hd]; rfl)

/-! ## Placing -/

/-- Whether an entry can be put at a location: in a directory, and not over one. -/
def canPlace (t : FileTree) (loc : Location) : Bool :=
  loc != [] && t.entryAt? loc.dropLast == some .directory && t.entryAt? loc != some .directory

theorem entryIn_insert (m : SortedMap Location Entry) {loc : Location} (h : loc ≠ []) (e : Entry)
    (k : Location) : entryIn (m.insert loc e) k = if k = loc then some e else entryIn m k := by
  cases k with
  | nil => rw [if_neg (Ne.symm h)]; rfl
  | cons a k => exact SortedMap.get?_insert m loc (a :: k) e

theorem dropLast_ne_self {loc : Location} (h : loc ≠ []) : loc.dropLast ≠ loc := fun e => by
  have := congrArg List.length e
  have := List.length_pos_iff.2 h
  simp only [List.length_dropLast] at *
  omega

/-- Put an entry at a location, if it can be. -/
def place (t : FileTree) (loc : Location) (e : Entry) : FileTree :=
  if h : t.canPlace loc = true then
    { t with
      entries := t.entries.insert loc e
      closed := by
        simp only [canPlace, Bool.and_eq_true, bne_iff_ne, beq_iff_eq] at h
        obtain ⟨⟨hn, hd⟩, he⟩ := h
        intro k hk hs
        rw [entryIn_insert _ hn] at hs ⊢
        by_cases hkl : k = loc
        · subst hkl
          rw [if_neg (dropLast_ne_self hn)]
          exact hd
        · rw [if_neg hkl] at hs
          have := t.closed k hk hs
          by_cases hkd : k.dropLast = loc
          · exact absurd (hkd ▸ this) he
          · rw [if_neg hkd]
            exact this }
  else t

theorem entryAt?_place {t : FileTree} {loc : Location} (h : t.canPlace loc = true) (e : Entry)
    (k : Location) :
    (t.place loc e).entryAt? k = if k = loc then some e else t.entryAt? k := by
  rw [place, dif_pos h]
  refine entryIn_insert _ ?_ e k
  simp only [canPlace, Bool.and_eq_true, bne_iff_ne] at h
  exact h.1.1

/-! ## Removing -/

/-- Keep the entries whose location satisfies `p`, which must hold of a directory if it holds of
something in it. -/
def keep (t : FileTree) (p : Location → Bool)
    (hp : ∀ k, k.dropLast ≠ [] → p k = true → p k.dropLast = true) : FileTree :=
  { t with
    entries := t.entries.filter fun k _ => p k
    closed := by
      intro k hk hs
      rw [entryIn_of_ne_nil hk, SortedMap.get?_filter] at hs
      obtain ⟨e, he⟩ := Option.isSome_iff_exists.1 hs
      obtain ⟨hg, hpk⟩ := Option.filter_eq_some_iff.1 he
      have hd := t.closed k hk (by rw [entryIn_of_ne_nil hk, hg]; rfl)
      by_cases hkd : k.dropLast = []
      · rw [hkd]
        rfl
      · rw [entryIn_of_ne_nil hkd] at hd ⊢
        rw [SortedMap.get?_filter, hd]
        simp [Option.filter, hp k hkd hpk] }

theorem entryAt?_keep (t : FileTree) (p : Location → Bool)
    (hp : ∀ k, k.dropLast ≠ [] → p k = true → p k.dropLast = true) {k : Location} (h : k ≠ []) :
    (t.keep p hp).entryAt? k = if p k then t.entryAt? k else none := by
  rw [entryAt?, entryAt?, entryIn_of_ne_nil h, entryIn_of_ne_nil h]
  refine (SortedMap.get?_filter _ _ _).trans ?_
  cases t.entries.get? k <;> simp [Option.filter]

/-- Whether a location is `dir` or below it. -/
def isWithin (dir loc : Location) : Bool := dir.isPrefixOf loc

def isBelow (dir loc : Location) : Bool := dir.isPrefixOf loc && loc != dir

/-- Remove what stands at a location, with all that is below it. -/
def erase (t : FileTree) (loc : Location) : FileTree :=
  t.keep (fun k => !isWithin loc k) (by
    intro k _ hk
    simp only [isWithin, Bool.not_eq_true', ← Bool.not_eq_true, List.isPrefixOf_iff_prefix] at hk ⊢
    exact fun h => hk (h.trans (List.dropLast_prefix k)))

/-- Remove all that is below a location. -/
def clear (t : FileTree) (loc : Location) : FileTree :=
  t.keep (fun k => !isBelow loc k) (by
    intro k hd hk
    simp only [isBelow, Bool.not_eq_true', ← Bool.not_eq_true, Bool.and_eq_true, bne_iff_ne,
      List.isPrefixOf_iff_prefix, not_and, Decidable.not_not] at hk ⊢
    intro h
    have e := hk (h.trans (List.dropLast_prefix k))
    subst e
    have h := h.length_le
    have : k ≠ [] := fun e => hd (by rw [e]; rfl)
    have := List.length_pos_iff.2 this
    simp only [List.length_dropLast] at h
    omega)

/-- Erasing leaves nothing at a location and below it, and everything else as it was. -/
theorem entryAt?_erase (t : FileTree) (loc : Location) {k : Location} (h : k ≠ []) :
    (t.erase loc).entryAt? k = if isWithin loc k then none else t.entryAt? k := by
  rw [erase, entryAt?_keep _ _ _ h]
  cases isWithin loc k <;> rfl

/-- Clearing leaves nothing below a location, and everything else as it was. -/
theorem entryAt?_clear (t : FileTree) (loc : Location) {k : Location} (h : k ≠ []) :
    (t.clear loc).entryAt? k = if isBelow loc k then none else t.entryAt? k := by
  rw [clear, entryAt?_keep _ _ _ h]
  cases isBelow loc k <;> rfl

/-! ## Contents -/

/-- What is below a location, by the names that lead there from it, in order. -/
def below (t : FileTree) (dir : Location) : List (Location × Entry) :=
  (t.entries.toList.filter fun e => isBelow dir e.1).map fun e => (e.1.drop dir.length, e.2)

end FileTree

end VariantPlan
