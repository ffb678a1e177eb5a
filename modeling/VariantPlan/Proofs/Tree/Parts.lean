import VariantPlan.Tree.Basic

/-!
# Parts of a tree

Erasing and clearing leave a part of a tree: whatever stands there stood there before. Erasing what
does not exist leaves the tree as it is, and what is erased after its contents leaves the same tree
as when it is erased at once.

A tree of files and directories is called **free of links**, and so are its parts. A tree may also
be free of links below one of its directories.

Main results: `entryAt?_eraseAll` (what stands after locations are erased), `erase_eq_self`,
`erase_clear` and `partOf_eraseAll`.
-/

namespace VariantPlan.FileTree

variable {t t' : FileTree} {dir loc : Location}

/-! ## Erasing -/

theorem isWithin_iff : isWithin dir loc = true ↔ dir <+: loc := List.isPrefixOf_iff_prefix

theorem eq_of_entries_eq (h : t.entries = t'.entries) (hw : t.workingDir = t'.workingDir) :
    t = t' := by
  cases t
  cases t'
  cases h
  cases hw
  rfl

/-- Erasing leaves nothing at a location and below it, and everything else as it was, the root
included. -/
theorem entryAt?_erase_of_ne_nil (h : loc ≠ []) (k : Location) :
    (t.erase loc).entryAt? k = if loc <+: k then none else t.entryAt? k := by
  by_cases hk : k = []
  · subst hk
    rw [if_neg fun hp => h (List.prefix_nil.1 hp)]
    rfl
  · rw [entryAt?_erase t loc hk]
    simp only [isWithin_iff]

theorem entryAt?_eq_none_below (h : t.entryAt? dir = none) (hp : dir <+: loc) :
    t.entryAt? loc = none := by
  obtain ⟨names, rfl⟩ := hp
  cases names with
  | nil => rwa [List.append_nil]
  | cons name names =>
    cases hk : t.entryAt? (dir ++ name :: names) with
    | none => rfl
    | some e =>
      have hdir := t.entryAt?_eq_directory_of_below dir name names (by rw [hk]; rfl)
      cases h.symm.trans hdir

theorem keep_eq_self {p : Location → Bool}
    {hp : ∀ k, k.dropLast ≠ [] → p k = true → p k.dropLast = true}
    (h : ∀ k, p k = false → t.entryAt? k = none) : t.keep p hp = t := by
  refine eq_of_entries_eq (SortedMap.ext_get? fun k => ?_) rfl
  refine (SortedMap.get?_filter _ _ _).trans ?_
  cases hk : p k with
  | true => cases t.entries.get? k <;> simp
  | false =>
    have hnone := h k hk
    have hne : k ≠ [] := by
      rintro rfl
      cases hnone
    rw [entryAt?, entryIn_of_ne_nil hne] at hnone
    rw [hnone]
    rfl

theorem erase_eq_self (h : t.entryAt? loc = none) : t.erase loc = t := by
  refine keep_eq_self fun k hk => entryAt?_eq_none_below h ?_
  exact isWithin_iff.1 (by simpa using hk)

theorem clear_eq_self (h : t.entryAt? loc ≠ some .directory) : t.clear loc = t := by
  refine keep_eq_self fun k hk => ?_
  simp only [isBelow, Bool.not_eq_false', Bool.and_eq_true, List.isPrefixOf_iff_prefix, bne_iff_ne]
    at hk
  obtain ⟨⟨names, rfl⟩, hne⟩ := hk
  cases names with
  | nil => exact absurd (List.append_nil loc) hne
  | cons name rest =>
    cases hentry : t.entryAt? (loc ++ name :: rest) with
    | none => rfl
    | some e =>
      exact absurd (t.entryAt?_eq_directory_of_below loc name rest (by rw [hentry]; rfl)) h

theorem erase_clear (t : FileTree) (loc : Location) : (t.clear loc).erase loc = t.erase loc := by
  refine eq_of_entries_eq (SortedMap.ext_get? fun k => ?_) rfl
  refine (SortedMap.get?_filter _ _ _).trans ?_
  refine Eq.trans ?_ (SortedMap.get?_filter _ _ _).symm
  refine (congrArg _ (SortedMap.get?_filter _ _ _)).trans ?_
  rw [Option.filter_filter]
  cases hk : loc.isPrefixOf k <;> simp [isWithin, isBelow, hk]

theorem below_clear (t : FileTree) (loc : Location) : (t.clear loc).below loc = [] := by
  have hentries : (t.clear loc).entries.toList = t.entries.toList.filter fun e =>
    !isBelow loc e.1 := rfl
  rw [below, hentries, List.filter_filter, List.map_eq_nil_iff, List.filter_eq_nil_iff]
  intro e _ h
  simp at h

/-- Erase several locations. -/
def eraseAll (t : FileTree) (locs : List Location) : FileTree := locs.foldl erase t

theorem eraseAll_cons (t : FileTree) (loc : Location) (locs : List Location) :
    t.eraseAll (loc :: locs) = (t.erase loc).eraseAll locs := rfl

/-- Erasing several locations leaves nothing at one of them and below it, and everything else as it
was. -/
theorem entryAt?_eraseAll {locs : List Location} (h : ∀ loc ∈ locs, loc ≠ []) (k : Location) :
    (t.eraseAll locs).entryAt? k =
      if ∃ loc ∈ locs, loc <+: k then none else t.entryAt? k := by
  induction locs generalizing t with
  | nil => simp [eraseAll]
  | cons loc locs ih =>
    rw [List.forall_mem_cons] at h
    rw [eraseAll_cons, ih h.2, entryAt?_erase_of_ne_nil h.1]
    by_cases hk : loc <+: k <;> simp [hk]

/-! ## Parts of a tree -/

/-- A tree holds nothing but what another one holds. -/
structure PartOf (t' t : FileTree) : Prop where
  entryAt? : ∀ (k : Location) (e : Entry), t'.entryAt? k = some e → t.entryAt? k = some e
  workingDir : t'.workingDir = t.workingDir

namespace PartOf

theorem refl (t : FileTree) : t.PartOf t := ⟨fun _ _ h => h, rfl⟩

theorem trans {t₁ t₂ t₃ : FileTree} (h : t₁.PartOf t₂) (h' : t₂.PartOf t₃) : t₁.PartOf t₃ :=
  ⟨fun k e hk => h'.entryAt? k e (h.entryAt? k e hk), h.workingDir.trans h'.workingDir⟩

end PartOf

theorem partOf_keep {p : Location → Bool}
    {hp : ∀ k, k.dropLast ≠ [] → p k = true → p k.dropLast = true} : (t.keep p hp).PartOf t := by
  refine ⟨fun k e h => ?_, rfl⟩
  by_cases hk : k = []
  · subst hk
    exact h
  · rw [entryAt?_keep t p hp hk] at h
    split at h
    next => exact h
    next => cases h

theorem partOf_erase (t : FileTree) (loc : Location) : (t.erase loc).PartOf t := partOf_keep

theorem partOf_clear (t : FileTree) (loc : Location) : (t.clear loc).PartOf t := partOf_keep

theorem partOf_eraseAll (t : FileTree) (locs : List Location) : (t.eraseAll locs).PartOf t := by
  induction locs generalizing t with
  | nil => exact .refl t
  | cons loc locs ih => exact (ih (t.erase loc)).trans (t.partOf_erase loc)

theorem partOf_erase_clear (t : FileTree) (loc : Location) : (t.erase loc).PartOf (t.clear loc) :=
  t.erase_clear loc ▸ partOf_erase (t.clear loc) loc

/-- A tree of files and directories. -/
def LinkFree (t : FileTree) : Prop :=
  ∀ (k : Location) (target : Path), t.entryAt? k ≠ some (.link target)

/-- No link stands at a location or below it. -/
def LinkFreeBelow (t : FileTree) (dir : Location) : Prop :=
  ∀ (k : Location) (target : Path), dir <+: k → t.entryAt? k ≠ some (.link target)

theorem LinkFree.below (ht : t.LinkFree) (dir : Location) : t.LinkFreeBelow dir :=
  fun k target _ => ht k target

theorem LinkFreeBelow.append (ht : t.LinkFreeBelow dir) (names : Location) :
    t.LinkFreeBelow (dir ++ names) :=
  fun k target hk => ht k target ((List.prefix_append dir names).trans hk)

theorem linkFree_empty : empty.LinkFree := by
  intro k target h
  cases k with
  | nil => cases h
  | cons name names => cases h

/-- What is placed decides whether a tree stays one of files and directories. -/
theorem LinkFree.place (ht : t.LinkFree) {e : Entry} (he : ∀ target, e ≠ .link target)
    (loc : Location) : (t.place loc e).LinkFree := by
  intro k target h
  by_cases hplace : t.canPlace loc = true
  · rw [entryAt?_place hplace] at h
    split at h
    next => exact he target (Option.some.inj h)
    next => exact ht k target h
  · rw [FileTree.place, dif_neg hplace] at h
    exact ht k target h

theorem PartOf.linkFree (h : t'.PartOf t) (ht : t.LinkFree) : t'.LinkFree :=
  fun k target hk => ht k target (h.entryAt? k _ hk)

theorem PartOf.linkFreeBelow (h : t'.PartOf t) (ht : t.LinkFreeBelow dir) : t'.LinkFreeBelow dir :=
  fun k target hdir hk => ht k target hdir (h.entryAt? k _ hk)

end VariantPlan.FileTree
