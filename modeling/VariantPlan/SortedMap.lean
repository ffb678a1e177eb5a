/-!
# Sorted maps

A finite map kept as the list of its entries in strictly increasing key order. Two maps with the
same lookups are therefore the same value, and reading the entries off gives the order in which
every report and every document of this library writes them.

Main results: `get?_insert` and `get?_filter` describe operations through lookups, `ext_get?` says
that lookups determine the map, and `ofList_toList` that its entries do.
-/

namespace VariantPlan

/-- A finite map from `κ` to `β`, its entries in strictly increasing key order. -/
structure SortedMap (κ β : Type) [Ord κ] where
  /-- The entries, by increasing key. -/
  entries : List (κ × β)
  /-- Each key is below all later ones. -/
  sorted : entries.Pairwise fun a b => compare a.1 b.1 = .lt

namespace SortedMap

variable {κ β γ : Type} [Ord κ]

instance [DecidableEq κ] [DecidableEq β] : DecidableEq (SortedMap κ β) := fun a b =>
  decidable_of_iff (a.entries = b.entries)
    ⟨fun h => by cases a; cases b; cases h; rfl, fun h => h ▸ rfl⟩

def empty : SortedMap κ β := ⟨[], .nil⟩

instance : EmptyCollection (SortedMap κ β) := ⟨empty⟩

instance : Inhabited (SortedMap κ β) := ⟨empty⟩

/-- The entries, by increasing key. -/
def toList (m : SortedMap κ β) : List (κ × β) := m.entries

/-- The keys, increasing. -/
def keys (m : SortedMap κ β) : List κ := m.entries.map Prod.fst

def size (m : SortedMap κ β) : Nat := m.entries.length

def isEmpty (m : SortedMap κ β) : Bool := m.entries.isEmpty

/-- The value of the first entry whose key compares equal to `k`. -/
def lookup (k : κ) : List (κ × β) → Option β
  | [] => none
  | (k', v) :: rest => if compare k k' = .eq then some v else lookup k rest

/-- The value stored under `k`. -/
def get? (m : SortedMap κ β) (k : κ) : Option β := lookup k m.entries

/-- Whether `k` has a value. -/
def contains (m : SortedMap κ β) (k : κ) : Bool := (m.get? k).isSome

/-- The value stored under `k`, or `fallback`. -/
def getD (m : SortedMap κ β) (k : κ) (fallback : β) : β := (m.get? k).getD fallback

/-! ## Insertion -/

/-- Put `v` under `k` into an increasing list of entries, in place of an entry with that key. -/
def insertEntry (k : κ) (v : β) : List (κ × β) → List (κ × β)
  | [] => [(k, v)]
  | (k', v') :: rest =>
    match compare k k' with
    | .lt => (k, v) :: (k', v') :: rest
    | .eq => (k, v) :: rest
    | .gt => (k', v') :: insertEntry k v rest

theorem mem_insertEntry {k : κ} {v : β} {e : κ × β} {l : List (κ × β)}
    (h : e ∈ insertEntry k v l) : e = (k, v) ∨ e ∈ l := by
  induction l with
  | nil => simpa [insertEntry] using h
  | cons hd tl ih =>
    obtain ⟨k', v'⟩ := hd
    unfold insertEntry at h
    split at h <;> grind

theorem pairwise_insertEntry [Std.TransOrd κ] [Std.LawfulEqOrd κ] (k : κ) (v : β)
    {l : List (κ × β)} (h : l.Pairwise fun a b => compare a.1 b.1 = .lt) :
    (insertEntry k v l).Pairwise fun a b => compare a.1 b.1 = .lt := by
  induction l with
  | nil => simp [insertEntry]
  | cons hd tl ih =>
    obtain ⟨k', v'⟩ := hd
    have htl : ∀ e ∈ tl, compare k' e.1 = .lt := fun e he => List.rel_of_pairwise_cons h he
    unfold insertEntry
    split
    next hlt =>
      refine .cons (fun e he => ?_) h
      rcases List.mem_cons.1 he with rfl | he
      · exact hlt
      · exact Std.TransCmp.lt_trans hlt (htl e he)
    next heq =>
      obtain rfl := Std.LawfulEqCmp.eq_of_compare heq
      exact .cons htl h.of_cons
    next hgt =>
      refine .cons (fun e he => ?_) (ih h.of_cons)
      rcases mem_insertEntry he with rfl | he
      · exact Std.OrientedCmp.lt_of_gt hgt
      · exact htl e he

/-- Store `v` under `k`, in place of what was there. -/
def insert [Std.TransOrd κ] [Std.LawfulEqOrd κ] (m : SortedMap κ β) (k : κ) (v : β) :
    SortedMap κ β :=
  ⟨insertEntry k v m.entries, pairwise_insertEntry k v m.sorted⟩

/-- The map holding the given entries; of entries with one key the last one counts. -/
def ofList [Std.TransOrd κ] [Std.LawfulEqOrd κ] (l : List (κ × β)) : SortedMap κ β :=
  l.foldl (fun m e => m.insert e.1 e.2) empty

/-- Keep the entries whose key and value satisfy `p`. -/
def filter (p : κ → β → Bool) (m : SortedMap κ β) : SortedMap κ β :=
  ⟨m.entries.filter fun e => p e.1 e.2, m.sorted.filter _⟩

/-- Apply `f` to every value. -/
def map (f : β → γ) (m : SortedMap κ β) : SortedMap κ γ :=
  ⟨m.entries.map fun e => (e.1, f e.2), List.pairwise_map.2 m.sorted⟩

/-! ## Lookups -/

@[simp]
theorem get?_empty (k : κ) : (empty : SortedMap κ β).get? k = none := rfl

theorem lookup_insertEntry [Std.TransOrd κ] [Std.LawfulEqOrd κ] (k k' : κ) (v : β)
    (l : List (κ × β)) :
    lookup k' (insertEntry k v l) = if compare k' k = .eq then some v else lookup k' l := by
  induction l with
  | nil => rfl
  | cons hd tl ih =>
    obtain ⟨k'', v''⟩ := hd
    unfold insertEntry
    split
    next => rfl
    next heq =>
      obtain rfl := Std.LawfulEqCmp.eq_of_compare heq
      simp only [lookup]
      split <;> rfl
    next hgt =>
      simp only [lookup, ih]
      split
      next h =>
        obtain rfl := Std.LawfulEqCmp.eq_of_compare h
        split
        next h' =>
          obtain rfl := Std.LawfulEqCmp.eq_of_compare h'
          simp [Std.compare_self] at hgt
        next => rfl
      next => rfl

/-- An insertion changes the value of its own key and of no other. -/
theorem get?_insert [DecidableEq κ] [Std.TransOrd κ] [Std.LawfulEqOrd κ] (m : SortedMap κ β)
    (k k' : κ) (v : β) :
    (m.insert k v).get? k' = if k' = k then some v else m.get? k' := by
  show lookup k' (insertEntry k v m.entries) = _
  rw [lookup_insertEntry]
  split
  next h => rw [if_pos (Std.LawfulEqCmp.eq_of_compare h)]
  next h =>
    rw [if_neg fun e : k' = k => h (e ▸ Std.compare_self)]
    rfl

theorem lookup_eq_none [Std.TransOrd κ] {k : κ} {l : List (κ × β)}
    (h : ∀ e ∈ l, compare k e.1 = .lt) : lookup k l = none := by
  induction l with
  | nil => rfl
  | cons hd tl ih =>
    obtain ⟨k', v'⟩ := hd
    have hk := h (k', v') (List.mem_cons_self ..)
    simp only [lookup, hk]
    exact ih fun e he => h e (List.mem_cons_of_mem _ he)

theorem eq_of_lookup_eq [Std.TransOrd κ] [Std.LawfulEqOrd κ] {l₁ l₂ : List (κ × β)}
    (h₁ : l₁.Pairwise fun a b => compare a.1 b.1 = .lt)
    (h₂ : l₂.Pairwise fun a b => compare a.1 b.1 = .lt)
    (h : ∀ k, lookup k l₁ = lookup k l₂) : l₁ = l₂ := by
  induction l₁ generalizing l₂ with
  | nil =>
    cases l₂ with
    | nil => rfl
    | cons hd tl => simpa [lookup, Std.compare_self] using h hd.1
  | cons hd tl ih =>
    obtain ⟨k, v⟩ := hd
    cases l₂ with
    | nil => simpa [lookup, Std.compare_self] using h k
    | cons hd' tl' =>
      obtain ⟨k', v'⟩ := hd'
      have b₁ : ∀ e ∈ tl, compare k e.1 = .lt := fun e he => List.rel_of_pairwise_cons h₁ he
      have b₂ : ∀ e ∈ tl', compare k' e.1 = .lt := fun e he => List.rel_of_pairwise_cons h₂ he
      have hk := h k
      have hk' := h k'
      simp only [lookup, Std.compare_self, if_true] at hk hk'
      have hkk : k = k' := by
        cases hc : compare k k' with
        | eq => exact Std.LawfulEqCmp.eq_of_compare hc
        | lt =>
          rw [if_neg (by simp [hc]), lookup_eq_none fun e he => Std.TransCmp.lt_trans hc (b₂ e he)]
            at hk
          simp at hk
        | gt =>
          have hc' := Std.OrientedCmp.lt_of_gt hc
          rw [if_neg (by simp [hc']),
            lookup_eq_none fun e he => Std.TransCmp.lt_trans hc' (b₁ e he)] at hk'
          simp at hk'
      subst hkk
      rw [if_pos Std.compare_self] at hk
      obtain rfl := Option.some.inj hk
      congr 1
      refine ih h₁.of_cons h₂.of_cons fun j => ?_
      have hj := h j
      simp only [lookup] at hj
      split at hj
      next he =>
        obtain rfl := Std.LawfulEqCmp.eq_of_compare he
        rw [lookup_eq_none b₁, lookup_eq_none b₂]
      next => exact hj

theorem lookup_filter [Std.TransOrd κ] [Std.LawfulEqOrd κ] (p : κ → β → Bool) (k : κ)
    {l : List (κ × β)} (h : l.Pairwise fun a b => compare a.1 b.1 = .lt) :
    lookup k (l.filter fun e => p e.1 e.2) = (lookup k l).filter (p k) := by
  induction l with
  | nil => rfl
  | cons hd tl ih =>
    obtain ⟨k', v⟩ := hd
    have ih := ih h.of_cons
    have b : ∀ e ∈ tl, compare k' e.1 = .lt := fun e he => List.rel_of_pairwise_cons h he
    rw [List.filter_cons]
    by_cases hk : compare k k' = .eq
    · obtain rfl := Std.LawfulEqCmp.eq_of_compare hk
      rw [lookup_eq_none b] at ih
      by_cases hp : p k v = true
      · simp [hp, lookup, Std.compare_self, Option.filter]
      · simp only [hp, lookup, Std.compare_self, Option.filter, if_true]
        exact ih
    · by_cases hp : p k' v = true
      · simpa [hp, lookup, hk] using ih
      · simpa [hp, lookup, hk] using ih

theorem get?_filter [Std.TransOrd κ] [Std.LawfulEqOrd κ] (p : κ → β → Bool) (m : SortedMap κ β)
    (k : κ) : (m.filter p).get? k = (m.get? k).filter (p k) :=
  lookup_filter p k m.sorted

/-- **Extensionality.** Maps with the same lookups are equal. -/
theorem ext_get? [Std.TransOrd κ] [Std.LawfulEqOrd κ] {a b : SortedMap κ β}
    (h : ∀ k, a.get? k = b.get? k) : a = b := by
  obtain ⟨l₁, s₁⟩ := a
  obtain ⟨l₂, s₂⟩ := b
  obtain rfl := eq_of_lookup_eq s₁ s₂ h
  rfl

theorem get?_foldl_insert [Std.TransOrd κ] [Std.LawfulEqOrd κ] (m : SortedMap κ β) (k : κ)
    {l : List (κ × β)} (h : l.Pairwise fun a b => compare a.1 b.1 = .lt) :
    (l.foldl (fun m e => m.insert e.1 e.2) m).get? k = (lookup k l).or (m.get? k) := by
  induction l generalizing m with
  | nil => rfl
  | cons hd tl ih =>
    obtain ⟨k', v⟩ := hd
    have b : ∀ e ∈ tl, compare k' e.1 = .lt := fun e he => List.rel_of_pairwise_cons h he
    rw [List.foldl_cons, ih _ h.of_cons]
    show (lookup k tl).or (lookup k (insertEntry k' v m.entries)) = _
    rw [lookup_insertEntry, lookup]
    split
    next hk =>
      obtain rfl := Std.LawfulEqCmp.eq_of_compare hk
      rw [lookup_eq_none b]
      rfl
    next => rfl

theorem ofList_toList [Std.TransOrd κ] [Std.LawfulEqOrd κ] (m : SortedMap κ β) :
    ofList m.toList = m :=
  ext_get? fun k => by
    rw [ofList, toList, get?_foldl_insert _ _ m.sorted, get?_empty, Option.or_none]
    rfl

end SortedMap

end VariantPlan
