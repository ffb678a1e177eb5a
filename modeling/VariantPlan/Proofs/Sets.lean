import Mathlib.Data.List.Induction
import Mathlib.Data.List.Nodup
import VariantPlan.Plan.Basic
import VariantPlan.Proofs.Basic

/-!
# Sets of names and paths

What maps and sets hold. The keys of a map are those that have a value. A map made of a list has
its entries from the list and its keys exactly, and all of the entries if their keys are different;
a set of names is such a map. A set of paths made of a list holds the first of the paths with the
same components; a set is made again from its own paths.

Main results: `SortedMap.mem_keys_iff`, `SortedMap.get?_ofList_eq_some_iff`,
`NameSet.ofNames_keys`, `PathSet.mem_ofList_iff` and `PathSet.ofList_toList`.
-/

namespace VariantPlan

/-! ## Entries of maps -/

namespace SortedMap

variable {κ β : Type} [Ord κ]

theorem pairwise_keys (m : SortedMap κ β) : m.keys.Pairwise fun a b => compare a b = .lt :=
  List.pairwise_map.2 m.sorted

theorem isSome_lookup [Std.LawfulEqOrd κ] {k : κ} {l : List (κ × β)} :
    (lookup k l).isSome = true ↔ k ∈ l.map Prod.fst := by
  induction l with
  | nil => simp [lookup]
  | cons e l ih =>
    obtain ⟨k', v'⟩ := e
    rw [lookup, List.map_cons, List.mem_cons, ← ih]
    split
    next heq => simp [Std.LawfulEqCmp.eq_of_compare heq]
    next hne =>
      have hk : k ≠ k' := fun h => hne (h ▸ Std.compare_self)
      simp [hk]

theorem mem_keys_iff [Std.LawfulEqOrd κ] {m : SortedMap κ β} {k : κ} :
    k ∈ m.keys ↔ m.contains k = true :=
  isSome_lookup.symm

theorem mem_keys_insertEntry [Std.LawfulEqOrd κ] {k k' : κ} {v : β} {l : List (κ × β)} :
    k' ∈ (insertEntry k v l).map Prod.fst ↔ k' = k ∨ k' ∈ l.map Prod.fst := by
  induction l with
  | nil => simp [insertEntry]
  | cons e l ih =>
    obtain ⟨k'', v''⟩ := e
    unfold insertEntry
    split
    next => rw [List.map_cons, List.mem_cons]
    next heq =>
      obtain rfl := Std.LawfulEqCmp.eq_of_compare heq
      simp
    next =>
      rw [List.map_cons, List.mem_cons, ih, List.map_cons, List.mem_cons]
      exact or_left_comm

theorem nodup_keys [Std.LawfulEqOrd κ] (m : SortedMap κ β) : m.keys.Nodup := by
  refine m.pairwise_keys.imp ?_
  rintro k _ hlt rfl
  rw [Std.compare_self] at hlt
  cases hlt

variable [Std.TransOrd κ] [Std.LawfulEqOrd κ]

theorem exists_get?_of_ne_empty {m : SortedMap κ β} (h : m ≠ empty) :
    ∃ k v, m.get? k = some v := by
  by_contra hnone
  refine h (ext_get? fun k => ?_)
  cases hk : m.get? k with
  | none => rfl
  | some v => exact absurd ⟨k, v, hk⟩ hnone

theorem ofList_append_singleton (l : List (κ × β)) (e : κ × β) :
    ofList (l ++ [e]) = (ofList l).insert e.1 e.2 := by
  rw [ofList, List.foldl_append, List.foldl_cons, List.foldl_nil, ofList]

theorem mem_of_mem_ofList {l : List (κ × β)} {e : κ × β} (h : e ∈ (ofList l).toList) : e ∈ l := by
  induction l using List.reverseRecOn with
  | nil => exact h
  | append_singleton l e' ih =>
    rw [ofList_append_singleton] at h
    rw [List.mem_append, List.mem_singleton]
    rcases mem_insertEntry h with rfl | h
    · exact .inr rfl
    · exact .inl (ih h)

theorem mem_keys_ofList {l : List (κ × β)} {k : κ} :
    k ∈ (ofList l).keys ↔ k ∈ l.map Prod.fst := by
  induction l using List.reverseRecOn with
  | nil => exact Iff.rfl
  | append_singleton l e ih =>
    rw [ofList_append_singleton, List.map_append, List.mem_append, ← ih]
    refine mem_keys_insertEntry.trans ?_
    rw [List.map_singleton, List.mem_singleton]
    exact or_comm

theorem lookup_eq_some_iff {k : κ} {v : β} {l : List (κ × β)}
    (h : l.Pairwise fun a b => compare a.1 b.1 = .lt) : lookup k l = some v ↔ (k, v) ∈ l := by
  induction l with
  | nil => simp [lookup]
  | cons e l ih =>
    obtain ⟨k', v'⟩ := e
    have hlater : ∀ e ∈ l, compare k' e.1 = .lt := fun e he => List.rel_of_pairwise_cons h he
    rw [lookup, List.mem_cons, ← ih h.of_cons]
    by_cases hk : compare k k' = .eq
    · obtain rfl := Std.LawfulEqCmp.eq_of_compare hk
      simp [lookup_eq_none hlater, Std.compare_self, eq_comm]
    · have hne : k ≠ k' := fun heq => hk (heq ▸ Std.compare_self)
      simp [hk, hne]

theorem get?_eq_some_iff {m : SortedMap κ β} {k : κ} {v : β} :
    m.get? k = some v ↔ (k, v) ∈ m.toList :=
  lookup_eq_some_iff m.sorted

section Insert

variable [DecidableEq κ]

theorem insert_insert (m : SortedMap κ β) (k : κ) (v w : β) :
    (m.insert k v).insert k w = m.insert k w := by
  refine ext_get? fun j => ?_
  simp only [get?_insert]
  split_ifs <;> rfl

theorem insert_comm (m : SortedMap κ β) {k l : κ} (h : k ≠ l) (v w : β) :
    (m.insert k v).insert l w = (m.insert l w).insert k v := by
  refine ext_get? fun j => ?_
  simp only [get?_insert]
  split_ifs with hl hk
  · exact absurd (hk.symm.trans hl) h
  · rfl
  · rfl
  · rfl

end Insert

section Nodup

variable {l : List (κ × β)} (h : (l.map Prod.fst).Nodup)

include h

/-- Entries with different keys are all in the map that is made of them. -/
theorem get?_ofList_eq_some_iff {k : κ} {v : β} : (ofList l).get? k = some v ↔ (k, v) ∈ l := by
  constructor
  · intro hget
    exact mem_of_mem_ofList (get?_eq_some_iff.1 hget)
  · intro hmem
    obtain ⟨v', hv'⟩ : ∃ v', (ofList l).get? k = some v' := by
      have hkey : k ∈ (ofList l).keys := mem_keys_ofList.2 (List.mem_map_of_mem hmem)
      exact Option.isSome_iff_exists.1 (mem_keys_iff.1 hkey)
    have hmem' : (k, v') ∈ l := mem_of_mem_ofList (get?_eq_some_iff.1 hv')
    have heq : (k, v) = (k, v') := List.inj_on_of_nodup_map h hmem hmem' rfl
    rw [hv', (Prod.mk.inj heq).2]

theorem size_ofList : (ofList l).size = l.length := by
  have hperm : ((ofList l).keys).Perm (l.map Prod.fst) :=
    (List.perm_ext_iff_of_nodup (ofList l).nodup_keys h).2 fun _ => mem_keys_ofList
  have hlength := hperm.length_eq
  rwa [keys, List.length_map, List.length_map] at hlength

end Nodup

end SortedMap

namespace NameSet

theorem mem_keys_ofNames {names : List String} {name : String} :
    name ∈ (ofNames names).keys ↔ name ∈ names := by
  rw [ofNames, SortedMap.mem_keys_ofList, List.map_map]
  exact ⟨fun h => by simpa using h, fun h => by simpa using h⟩

theorem ofNames_keys (s : NameSet) : ofNames s.keys = s := by
  have hentries : s.keys.map (·, ()) = s.toList := by
    rw [SortedMap.keys, List.map_map]
    exact List.map_id' _
  rw [ofNames, hentries, SortedMap.ofList_toList]

end NameSet

/-! ## Sets of paths -/

namespace PathSet

variable {p q : Path} {l : List Path}

theorem insertPath_of_lt (h : ∀ q ∈ l, q.order p = .lt) : insertPath p l = l ++ [p] := by
  induction l with
  | nil => rfl
  | cons q l ih =>
    have hq : p.order q = .gt := Std.OrientedCmp.gt_of_lt (h q List.mem_cons_self)
    rw [insertPath, hq, List.cons_append, ← ih fun r hr => h r (List.mem_cons_of_mem _ hr)]

theorem toList_foldl_insert {s : PathSet}
    (h : (s.toList ++ l).Pairwise fun p q => p.order q = .lt) :
    (l.foldl insert s).toList = s.toList ++ l := by
  induction l generalizing s with
  | nil => rw [List.foldl_nil, List.append_nil]
  | cons p l ih =>
    have hins : (s.insert p).toList = s.toList ++ [p] :=
      insertPath_of_lt fun q hq => (List.pairwise_append.1 h).2.2 q hq p List.mem_cons_self
    rw [List.foldl_cons, ih, hins, List.append_assoc, List.singleton_append]
    rw [hins, List.append_assoc, List.singleton_append]
    exact h

theorem ofList_toList (s : PathSet) : ofList s.toList = s := by
  have h : (ofList s.toList).toList = s.toList := toList_foldl_insert s.sorted
  obtain ⟨l, hl⟩ := s
  cases hs : ofList l with
  | mk l' hl' =>
    simp only [hs] at h
    subst h
    rfl

theorem mem_insertPath_iff (h : l.Pairwise fun p q => p.order q = .lt) :
    q ∈ insertPath p l ↔ q ∈ l ∨ q = p ∧ ∀ r ∈ l, r.components ≠ p.components := by
  induction l with
  | nil => simp [insertPath]
  | cons hd tl ih =>
    have hne : ∀ {r : Path}, p.order r = .lt → r.components ≠ p.components := by
      intro r hr e
      rw [Path.order_eq_iff.2 e.symm] at hr
      cases hr
    unfold insertPath
    split
    next hlt =>
      have hall : ∀ r ∈ hd :: tl, r.components ≠ p.components := by
        refine List.forall_mem_cons.2 ⟨hne hlt, fun r hr => hne ?_⟩
        exact Std.TransCmp.lt_trans hlt (List.rel_of_pairwise_cons h hr)
      rw [List.mem_cons, or_comm]
      exact ⟨fun h => h.imp_right fun e => ⟨e, hall⟩, fun h => h.imp_right And.left⟩
    next heq =>
      refine ⟨.inl, fun h => h.resolve_right ?_⟩
      rintro ⟨-, hall⟩
      exact hall hd List.mem_cons_self (Path.order_eq_iff.1 heq).symm
    next hgt =>
      have hhd : hd.components ≠ p.components := by
        intro e
        rw [Path.order_eq_iff.2 e.symm] at hgt
        cases hgt
      rw [List.mem_cons, ih h.of_cons, List.mem_cons, List.forall_mem_cons, or_assoc]
      simp only [ne_eq, hhd, not_false_eq_true, true_and]

/-- **A set keeps the first of the paths with the same components**, and no other. -/
theorem mem_ofList_iff : q ∈ (ofList l).toList ↔
    l.find? (fun r => r.components = q.components) = some q := by
  induction l using List.reverseRecOn generalizing q with
  | nil =>
    constructor
    · intro h
      cases h
    · intro h
      cases h
  | append_singleton l p ih =>
    have hstep : ofList (l ++ [p]) = (ofList l).insert p := by
      rw [ofList, List.foldl_append, List.foldl_cons, List.foldl_nil, ofList]
    have hin := mem_insertPath_iff (p := p) (q := q) (ofList l).sorted
    rw [hstep]
    refine hin.trans ?_
    rw [ih, List.find?_append]
    cases hf : l.find? fun r => r.components = q.components with
    | some r =>
      have hr : r.components = q.components := by simpa using List.find?_some hf
      rw [Option.some_or]
      refine ⟨fun h => h.resolve_right ?_, .inl⟩
      rintro ⟨rfl, hall⟩
      -- The first path of the class stands in the set already.
      refine hall r (ih.2 ?_) hr
      simp only [hr]
      exact hf
    | none =>
      have hnone : ∀ r ∈ l, r.components ≠ q.components := by simpa using hf
      rw [Option.none_or]
      constructor
      · rintro (h | ⟨rfl, -⟩)
        · cases h
        · simp
      · intro h
        have hp : q = p := by
          have := List.mem_of_find?_eq_some h
          exact List.mem_singleton.1 this
        subst hp
        refine .inr ⟨rfl, fun r hr => hnone r ?_⟩
        exact List.mem_of_find?_eq_some (ih.1 hr)

theorem nodup (s : PathSet) : s.toList.Nodup := by
  refine s.sorted.imp ?_
  rintro p _ hlt rfl
  rw [Path.order_eq_iff.2 rfl] at hlt
  cases hlt

/-- Paths with different components are all in their set. -/
theorem mem_ofList_of_nodup (h : (l.map Path.components).Nodup) :
    p ∈ (ofList l).toList ↔ p ∈ l := by
  rw [mem_ofList_iff]
  constructor
  · exact List.mem_of_find?_eq_some
  · intro hp
    cases hfind : l.find? fun q => q.components = p.components with
    | none => simpa using List.find?_eq_none.1 hfind p hp
    | some q =>
      have heq : q.components = p.components := by simpa using List.find?_some hfind
      rw [List.inj_on_of_nodup_map h (List.mem_of_find?_eq_some hfind) hp heq]

end PathSet

end VariantPlan
