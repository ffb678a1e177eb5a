import VariantPlan.Json.Reader

/-!
# Nesting of JSON values

A value is taken as containers around **scalars**. `Within ok depth` holds of the values whose
containers are nested at most `depth` deep and whose scalars all satisfy `ok`. Two such conditions
on scalars matter:

* **kept** scalars are what a document can hold: their integers fit a word of 64 bits;
* **plain** scalars are the kept ones that have one written form: they are neither numbers with a
  binary point nor unreadable.

Main results: `within_limitDepth` (limiting the depth bounds it) and `limitDepth_eq_self` (it
changes nothing that is bounded).
-/

namespace VariantPlan.Json

/-- Whether a value has no parts. -/
def isScalar : Json → Bool
  | .list _ | .object _ => false
  | _ => true

/-- A scalar that a document can hold. -/
def Kept : Json → Prop
  | .integer n => fitsWord n = true
  | _ => True

/-- A scalar that has one written form. -/
def Plain : Json → Prop
  | .integer n => fitsWord n = true
  | .double _ | .unreadable => False
  | _ => True

/-- Containers nested at most so deep around scalars that satisfy `ok`. -/
inductive Within (ok : Json → Prop) : Nat → Json → Prop
  | scalar {depth : Nat} {j : Json} : j.isScalar = true → ok j → Within ok depth j
  | list {depth : Nat} {items : List Json} : (∀ j ∈ items, Within ok depth j) →
      Within ok (depth + 1) (.list items)
  | object {depth : Nat} {members : List (String × Json)} :
      (∀ m ∈ members, Within ok depth m.2) → Within ok (depth + 1) (.object members)

namespace Within

variable {ok ok' : Json → Prop} {depth depth' : Nat} {j : Json}

theorem mono (h : Within ok depth j) (hok : ∀ j, ok j → ok' j) (hd : depth ≤ depth') :
    Within ok' depth' j := by
  induction h generalizing depth' with
  | scalar hs hj => exact .scalar hs (hok _ hj)
  | list _ ih =>
    obtain ⟨d, rfl⟩ : ∃ d, depth' = d + 1 := ⟨depth' - 1, by omega⟩
    exact .list fun j hj => ih j hj (by omega)
  | object _ ih =>
    obtain ⟨d, rfl⟩ : ∃ d, depth' = d + 1 := ⟨depth' - 1, by omega⟩
    exact .object fun m hm => ih m hm (by omega)

theorem of_le (h : Within ok depth j) (hd : depth ≤ depth') : Within ok depth' j :=
  h.mono (fun _ hj => hj) hd

theorem items {items : List Json} (h : Within ok (depth + 1) (.list items)) :
    ∀ j ∈ items, Within ok depth j := by
  cases h with
  | scalar hs => cases hs
  | list h => exact h

theorem members {members : List (String × Json)} (h : Within ok (depth + 1) (.object members)) :
    ∀ m ∈ members, Within ok depth m.2 := by
  cases h with
  | scalar hs => cases hs
  | object h => exact h

end Within

/-! ## Written values -/

section Written

variable {ok : Json → Prop} {depth : Nat}

theorem within_string (s : String) : Within Plain depth (.string s) := .scalar rfl trivial

theorem within_bool (b : Bool) : Within Plain depth (.bool b) := .scalar rfl trivial

theorem within_strings (l : List String) : Within Plain (depth + 1) (strings l) := by
  refine .list fun j hj => ?_
  obtain ⟨s, -, rfl⟩ := List.mem_map.1 hj
  exact within_string s

theorem within_list_map {α : Type} {write : α → Json} {l : List α}
    (h : ∀ a ∈ l, Within ok depth (write a)) : Within ok (depth + 1) (.list (l.map write)) := by
  refine .list fun j hj => ?_
  obtain ⟨a, ha, rfl⟩ := List.mem_map.1 hj
  exact h a ha

theorem within_ofMap {α : Type} {write : α → Json} {m : SortedMap String α}
    (h : ∀ e ∈ m.toList, Within ok depth (write e.2)) : Within ok (depth + 1) (ofMap write m) := by
  refine .object fun n hn => ?_
  obtain ⟨e, he, rfl⟩ := List.mem_map.1 hn
  exact h e he

theorem within_ofOption {α : Type} {write : α → Json} {a : Option α}
    (h : ∀ b ∈ a, Within Plain depth (write b)) : Within Plain depth (ofOption write a) := by
  cases a with
  | none => exact .scalar rfl trivial
  | some b => exact h b rfl

end Written

/-! ## Limiting the depth -/

theorem limitItems_eq_map (depth : Nat) (items : List Json) :
    limitItems depth items = items.map (limitDepth depth) := by
  induction items with
  | nil => rfl
  | cons j rest ih => rw [limitItems, ih, List.map_cons]

theorem limitMembers_eq_map (depth : Nat) (members : List (String × Json)) :
    limitMembers depth members = members.map fun m => (m.1, limitDepth depth m.2) := by
  induction members with
  | nil => rfl
  | cons m rest ih => rw [limitMembers, ih, List.map_cons]

theorem limitDepth_of_isScalar {j : Json} (h : j.isScalar = true) (depth : Nat) :
    limitDepth depth j = j := by
  cases j <;> first | (cases h; done) | (cases depth <;> rfl)

/-- Limiting the depth changes no value that keeps to the limit. -/
theorem limitDepth_eq_self {ok : Json → Prop} {depth : Nat} {j : Json} (h : Within ok depth j) :
    limitDepth depth j = j := by
  induction h with
  | scalar hs _ => exact limitDepth_of_isScalar hs _
  | list _ ih =>
    rw [limitDepth, limitItems_eq_map, List.map_congr_left ih, List.map_id']
  | object _ ih =>
    have hm : ∀ m ∈ _, (m.1, limitDepth _ m.2) = m := fun m hm => by rw [ih m hm]
    rw [limitDepth, limitMembers_eq_map, List.map_congr_left hm, List.map_id']

theorem within_limitDepth {ok : Json → Prop} (hu : ok .unreadable) {depth : Nat} {j : Json}
    (h : Within ok depth j) (limit : Nat) : Within ok limit (limitDepth limit j) := by
  induction h generalizing limit with
  | scalar hs hj =>
    rw [limitDepth_of_isScalar hs]
    exact .scalar hs hj
  | list _ ih =>
    cases limit with
    | zero => exact .scalar rfl hu
    | succ limit =>
      rw [limitDepth, limitItems_eq_map]
      refine .list fun j hj => ?_
      obtain ⟨i, hi, rfl⟩ := List.mem_map.1 hj
      exact ih i hi limit
  | object _ ih =>
    cases limit with
    | zero => exact .scalar rfl hu
    | succ limit =>
      rw [limitDepth, limitMembers_eq_map]
      refine .object fun m hm => ?_
      obtain ⟨n, hn, rfl⟩ := List.mem_map.1 hm
      exact ih n hn limit

end VariantPlan.Json
