import VariantPlan.Proofs.Sets
import VariantPlan.Proofs.Tree.Parts
import VariantPlan.Proofs.Tree.Paths

/-!
# The contents of a directory

What is below a directory is listed by the names that lead there, each of them once. Below anything
that is no directory there is nothing.

The contents of a directory are called **plain** if they are files and directories whose names can
be written into a path. The names in a tree that a file system holds always can.

Main results: `mem_below` and `nodup_below` (the list of what is below a directory), and
`LinkFree.isPlainBelow` with `linkFree_placeAll` and `wellNamed_placeAll` (trees with plain
contents).
-/

namespace VariantPlan

def Entry.isLink : Entry → Bool
  | .link _ => true
  | _ => false

namespace FileTree

variable {t t' : FileTree} {dir loc : Location} {names : List String} {e : Entry}

/-! ## What is below a directory -/

theorem isBelow_iff : isBelow dir loc = true ↔ ∃ names, names ≠ [] ∧ loc = dir ++ names := by
  rw [isBelow, Bool.and_eq_true, List.isPrefixOf_iff_prefix, bne_iff_ne]
  constructor
  · rintro ⟨⟨names, rfl⟩, hne⟩
    exact ⟨names, fun hnil => hne (by rw [hnil, List.append_nil]), rfl⟩
  · rintro ⟨names, hne, rfl⟩
    exact ⟨List.prefix_append dir names, fun heq => hne (List.append_right_eq_self.1 heq)⟩

theorem mem_below : (names, e) ∈ t.below dir ↔ names ≠ [] ∧ t.entryAt? (dir ++ names) = some e := by
  simp only [below, List.mem_map, List.mem_filter, Prod.mk.injEq]
  constructor
  · rintro ⟨⟨k, e'⟩, ⟨hmem, hbelow⟩, hnames, rfl⟩
    obtain ⟨rest, hne, rfl⟩ := isBelow_iff.1 hbelow
    rw [List.drop_left] at hnames
    subst hnames
    refine ⟨hne, ?_⟩
    rw [entryAt?, entryIn_of_ne_nil (List.append_ne_nil_of_right_ne_nil dir hne)]
    exact SortedMap.get?_eq_some_iff.2 hmem
  · rintro ⟨hne, hentry⟩
    rw [entryAt?, entryIn_of_ne_nil (List.append_ne_nil_of_right_ne_nil dir hne)] at hentry
    exact ⟨(dir ++ names, e), ⟨SortedMap.get?_eq_some_iff.1 hentry,
      isBelow_iff.2 ⟨names, hne, rfl⟩⟩, List.drop_left, rfl⟩

theorem nodup_below (t : FileTree) (dir : Location) : ((t.below dir).map Prod.fst).Nodup := by
  have hkeys : (((t.entries.toList.filter fun e => isBelow dir e.1)).map Prod.fst).Nodup :=
    t.entries.nodup_keys.sublist (List.filter_sublist.map Prod.fst)
  have hnames : (t.below dir).map Prod.fst =
      ((t.entries.toList.filter fun e => isBelow dir e.1).map Prod.fst).map
        (·.drop dir.length) := by
    rw [below, List.map_map, List.map_map]
    rfl
  rw [hnames]
  refine hkeys.map_on fun k hk k' hk' heq => ?_
  -- Both locations begin with the directory, so what follows it tells them apart.
  have hbelow {k : Location} (hk : k ∈ (t.entries.toList.filter fun e => isBelow dir e.1).map
      Prod.fst) : ∃ names, k = dir ++ names := by
    obtain ⟨e, he, rfl⟩ := List.mem_map.1 hk
    obtain ⟨names, -, hnames⟩ := isBelow_iff.1 (List.mem_filter.1 he).2
    exact ⟨names, hnames⟩
  obtain ⟨names, rfl⟩ := hbelow hk
  obtain ⟨names', rfl⟩ := hbelow hk'
  rw [List.drop_left, List.drop_left] at heq
  rw [heq]

/-- Nothing stands below what is no directory. -/
theorem entryAt?_below_of_ne_directory (he : e ≠ .directory) (h : t.entryAt? dir = some e)
    (hne : names ≠ []) : t.entryAt? (dir ++ names) = none := by
  obtain ⟨name, rest, rfl⟩ := List.exists_cons_of_ne_nil hne
  cases hbelow : t.entryAt? (dir ++ name :: rest) with
  | none => rfl
  | some e' =>
    have hdir := t.entryAt?_eq_directory_of_below dir name rest (by rw [hbelow]; rfl)
    rw [h] at hdir
    exact absurd (Option.some.inj hdir) he

/-! ## Plain contents -/

/-- The contents of a directory are files and directories whose names can be written into a path. -/
structure IsPlainBelow (t : FileTree) (dir : Location) : Prop where
  linkFree : t.LinkFreeBelow dir
  names : ∀ (names : List String) (e : Entry), t.entryAt? (dir ++ names) = some e →
    ∀ name ∈ names, Path.IsEntryName name

theorem PartOf.isPlainBelow (h : t'.PartOf t) (ht : t.IsPlainBelow dir) : t'.IsPlainBelow dir where
  linkFree := h.linkFreeBelow ht.linkFree
  names _ e he := ht.names _ e (h.entryAt? _ e he)

/-- All names in a tree can be written into a path. -/
def WellNamed (t : FileTree) : Prop :=
  ∀ (k : Location) (e : Entry), t.entryAt? k = some e → ∀ name ∈ k, Path.IsEntryName name

theorem LinkFree.isPlainBelow (ht : t.LinkFree) (hnames : t.WellNamed) (dir : Location) :
    t.IsPlainBelow dir where
  linkFree := ht.below dir
  names _ e he name hname := hnames _ e he name (List.mem_append_right dir hname)

theorem wellNamed_empty : empty.WellNamed := by
  intro k e h
  cases k with
  | nil => exact List.forall_mem_nil _
  | cons name names => cases h

theorem WellNamed.place (ht : t.WellNamed) (hloc : ∀ name ∈ loc, Path.IsEntryName name)
    (e : Entry) : (t.place loc e).WellNamed := by
  intro k e' h
  by_cases hplace : t.canPlace loc = true
  · rw [entryAt?_place hplace] at h
    split at h
    next heq => exact heq ▸ hloc
    next => exact ht k e' h
  · rw [FileTree.place, dif_neg hplace] at h
    exact ht k e' h

/-- Put entries into a tree, one after another. -/
def placeAll (t : FileTree) (entries : List (Location × Entry)) : FileTree :=
  entries.foldl (fun t e => t.place e.1 e.2) t

theorem linkFree_placeAll {entries : List (Location × Entry)}
    (h : ∀ e ∈ entries, e.2.isLink = false) (ht : t.LinkFree) : (t.placeAll entries).LinkFree := by
  induction entries generalizing t with
  | nil => exact ht
  | cons e entries ih =>
    rw [List.forall_mem_cons] at h
    refine ih h.2 (ht.place (fun target heq => ?_) e.1)
    rw [heq] at h
    cases h.1

theorem wellNamed_placeAll {entries : List (Location × Entry)}
    (h : ∀ e ∈ entries, ∀ name ∈ e.1, Path.IsEntryName name) (ht : t.WellNamed) :
    (t.placeAll entries).WellNamed := by
  induction entries generalizing t with
  | nil => exact ht
  | cons e entries ih =>
    rw [List.forall_mem_cons] at h
    exact ih h.2 (ht.place h.1 e.2)

end FileTree

end VariantPlan
