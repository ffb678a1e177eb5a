import Mathlib.Data.List.Forall2
import Mathlib.Data.UInt

/-!
# General lemmas

Lists, tables, outcomes and numbers, without regard to what the package is about.
-/

namespace VariantPlan

/-! ## Lists -/

theorem map_eq_map_iff_forall₂ {α β : Type} {f : α → β} {l m : List α} :
    l.map f = m.map f ↔ List.Forall₂ (fun a b => f a = f b) l m := by
  rw [← List.forall₂_eq_eq_eq, List.forall₂_map_left_iff, List.forall₂_map_right_iff]

/-- A table with different keys holds a row if looking its key up gives the row's value. -/
theorem lookup_eq_some_iff_mem {α β : Type} [BEq α] [LawfulBEq α] {l : List (α × β)}
    (h : (l.map Prod.fst).Nodup) {k : α} {v : β} : l.lookup k = some v ↔ (k, v) ∈ l := by
  induction l with
  | nil => simp
  | cons row l ih =>
    obtain ⟨hrow, hrest⟩ := List.nodup_cons.1 h
    rw [List.lookup_cons, List.mem_cons]
    split
    next hk =>
      obtain rfl := beq_iff_eq.1 hk
      have hnot : (row.1, v) ∉ l := fun hmem => hrow (List.mem_map.2 ⟨_, hmem, rfl⟩)
      rw [or_iff_left hnot, Option.some.injEq]
      exact ⟨fun hv => by rw [← hv], fun hv => congrArg Prod.snd hv.symm⟩
    next hk =>
      have hne : (k, v) ≠ row := by
        rintro rfl
        simp at hk
      rw [ih hrest, or_iff_right hne]

/-! ## Outcomes -/

section Outcomes

variable {ε α β : Type}

instance decidableEqExcept [DecidableEq ε] [DecidableEq α] : DecidableEq (Except ε α)
  | .ok a, .ok b => decidable_of_iff (a = b) ⟨congrArg _, Except.ok.inj⟩
  | .error e, .error e' => decidable_of_iff (e = e') ⟨congrArg _, Except.error.inj⟩
  | .ok _, .error _ => isFalse nofun
  | .error _, .ok _ => isFalse nofun

theorem exists_of_map_eq_ok {x : Except ε α} {f : α → β} {b : β} (h : x.map f = .ok b) :
    ∃ a, x = .ok a ∧ f a = b := by
  cases x with
  | error e => cases h
  | ok a => exact ⟨a, rfl, Except.ok.inj h⟩

theorem eq_error_of_map {x : Except ε α} {f : α → β} {e : ε} (h : x.map f = .error e) :
    x = .error e := by
  cases x with
  | error e' => exact congrArg _ (Except.error.inj h)
  | ok a => cases h

end Outcomes

/-! ## Numbers -/

theorem compare_eq_compare_toNat (a b : UInt64) : compare a b = compare a.toNat b.toNat := by
  show compareOfLessAndEq a b = compareOfLessAndEq a.toNat b.toNat
  simp only [compareOfLessAndEq, UInt64.lt_iff_toNat_lt, ← UInt64.toNat_inj]

end VariantPlan
