import VariantPlan.Proofs.Json.Records
import VariantPlan.Proofs.Sets

/-!
# Canonical values

A canonical value is as deep as what it was made of at most, holds nothing unreadable and is its own
canonical value. If no number in it has a binary point either, all its scalars are plain.

Main results: `canonical?_of_within` and `Within.plain`.
-/

namespace VariantPlan.Json

/-! ## Numbers with a binary point -/

mutual

/-- Whether a number with a binary point stands in a value. -/
def hasDouble : Json → Bool
  | .double _ => true
  | .list items => itemsHaveDouble items
  | .object members => membersHaveDouble members
  | .null | .bool _ | .integer _ | .string _ | .unreadable => false

/-- Whether one stands in an item. -/
def itemsHaveDouble : List Json → Bool
  | [] => false
  | j :: rest => hasDouble j || itemsHaveDouble rest

/-- Whether one stands in a member. -/
def membersHaveDouble : List (String × Json) → Bool
  | [] => false
  | (_, j) :: rest => hasDouble j || membersHaveDouble rest

end

theorem itemsHaveDouble_eq_any (items : List Json) :
    itemsHaveDouble items = items.any hasDouble := by
  induction items with
  | nil => rfl
  | cons j rest ih => rw [itemsHaveDouble, ih, List.any_cons]

theorem membersHaveDouble_eq_any (members : List (String × Json)) :
    membersHaveDouble members = members.any fun m => m.2.hasDouble := by
  induction members with
  | nil => rfl
  | cons m rest ih => rw [membersHaveDouble, ih, List.any_cons]

/-- A kept scalar that is not unreadable. -/
def Readable (j : Json) : Prop := Kept j ∧ j ≠ .unreadable

/-- What is readable and has no binary point is plain. -/
theorem Within.plain {depth : Nat} {j : Json} (h : Within Readable depth j)
    (hd : j.hasDouble = false) : Within Plain depth j := by
  induction h with
  | @scalar depth j hs hj =>
    refine .scalar hs ?_
    cases j with
    | null | bool | string => trivial
    | integer n => exact hj.1
    | double x => cases hd
    | unreadable => exact hj.2 rfl
    | list | object => cases hs
  | list _ ih =>
    rw [hasDouble, itemsHaveDouble_eq_any, List.any_eq_false] at hd
    exact .list fun j hj => ih j hj (Bool.eq_false_iff.2 (hd j hj))
  | object _ ih =>
    rw [hasDouble, membersHaveDouble_eq_any, List.any_eq_false] at hd
    exact .object fun m hm => ih m hm (Bool.eq_false_iff.2 (hd m hm))

/-! ## Canonical values -/

theorem canonicalItems?_eq_mapM (items : List Json) :
    canonicalItems? items = items.mapM canonical? := by
  induction items with
  | nil => rfl
  | cons j rest ih =>
    rw [canonicalItems?, ih, List.mapM_cons]
    rfl

theorem canonicalMembers?_eq_mapM (members : List (String × Json)) :
    canonicalMembers? members =
      members.mapM fun m => (canonical? m.2).map fun c => (m.1, c) := by
  induction members with
  | nil => rfl
  | cons m rest ih =>
    rw [canonicalMembers?, ih, List.mapM_cons]
    cases canonical? m.2 <;> rfl

theorem canonical?_list {items : List Json} (h : ∀ j ∈ items, canonical? j = some j) :
    canonical? (.list items) = some (.list items) := by
  rw [canonical?, canonicalItems?_eq_mapM, mapM_eq_some_map h, List.map_id', Option.map_some]

theorem canonical?_object {m : SortedMap String Json}
    (h : ∀ e ∈ m.toList, canonical? e.2 = some e.2) :
    canonical? (.object m.entries) = some (.object m.entries) := by
  have hmembers : ∀ e ∈ m.entries, (canonical? e.2).map (fun c => (e.1, c)) = some e := by
    intro e he
    rw [h e he, Option.map_some]
  have hentries : SortedMap.ofList m.entries = m := m.ofList_toList
  rw [canonical?, canonicalMembers?_eq_mapM, mapM_eq_some_map hmembers, List.map_id',
    Option.map_some, hentries]

/-- **A canonical value is its own canonical value**, as deep as its origin at most, and nothing in
it is unreadable. -/
theorem canonical?_of_within {depth : Nat} {j c : Json} (h : Within Kept depth j)
    (hc : canonical? j = some c) : canonical? c = some c ∧ Within Readable depth c := by
  induction h generalizing c with
  | @scalar depth j hs hj =>
    cases j with
    | list | object => cases hs
    | unreadable => cases hc
    | null | bool | integer | double | string =>
      obtain rfl := Option.some.inj hc
      exact ⟨rfl, .scalar rfl ⟨hj, fun e => by cases e⟩⟩
  | @list depth _ _ ih =>
    rw [canonical?, canonicalItems?_eq_mapM] at hc
    obtain ⟨items, hitems, rfl⟩ := Option.map_eq_some_iff.1 hc
    have hall : ∀ i ∈ items, canonical? i = some i ∧ Within Readable depth i := by
      intro i hi
      obtain ⟨j, hj, hcanon⟩ := exists_of_mem_mapM hitems hi
      exact ih j hj hcanon
    exact ⟨canonical?_list fun i hi => (hall i hi).1, .list fun i hi => (hall i hi).2⟩
  | @object depth _ _ ih =>
    rw [canonical?, canonicalMembers?_eq_mapM] at hc
    obtain ⟨l, hl, rfl⟩ := Option.map_eq_some_iff.1 hc
    -- An entry that stays after sorting is one of the members still.
    have hall : ∀ e ∈ (SortedMap.ofList l).toList,
        canonical? e.2 = some e.2 ∧ Within Readable depth e.2 := by
      intro e he
      obtain ⟨m, hm, hread⟩ := exists_of_mem_mapM hl (SortedMap.mem_of_mem_ofList he)
      obtain ⟨i, hi, rfl⟩ := Option.map_eq_some_iff.1 hread
      exact ih m hm hi
    exact ⟨canonical?_object fun e he => (hall e he).1, .object fun e he => (hall e he).2⟩

end VariantPlan.Json
