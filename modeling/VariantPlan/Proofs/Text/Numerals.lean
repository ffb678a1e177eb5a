import Mathlib.Data.List.Induction
import VariantPlan.Text.Numeral

/-!
# Numerals and what they stand for

A **decimal** is a text of one or more ASCII digits; a further digit behind it multiplies what it
stands for by ten and adds to it. A **numeral** is a decimal, perhaps with a plus sign in front.
Every decimal and every numeral stands for one number, and reading finds it if it is below the
reader's bound, however many digits there are.

Main results: `readDigits?_eq_some_iff` and `read?_eq_some_iff`.
-/

namespace VariantPlan.Text

variable {cs : List Char} {n bound : Nat}

/-- The texts of one or more ASCII digits, with the numbers they stand for. -/
inductive IsDecimal : List Char → Nat → Prop where
  | digit (d : Fin 10) : IsDecimal [Nat.digitChar d] d
  | snoc {cs : List Char} {n : Nat} (h : IsDecimal cs n) (d : Fin 10) :
    IsDecimal (cs ++ [Nat.digitChar d]) (10 * n + d)

/-- The decimals, perhaps with a plus sign in front, with the numbers they stand for. -/
inductive IsNumeral : List Char → Nat → Prop where
  | unsigned {cs : List Char} {n : Nat} (h : IsDecimal cs n) : IsNumeral cs n
  | signed {cs : List Char} {n : Nat} (h : IsDecimal cs n) : IsNumeral ('+' :: cs) n

/-! ## Digits -/

theorem exists_digitChar_iff {c : Char} : c.isDigit = true ↔ ∃ d : Fin 10, c = Nat.digitChar d := by
  constructor
  · intro h
    have hc : 48 ≤ c.toNat ∧ c.toNat ≤ 57 := by
      simp only [Char.isDigit, ge_iff_le, Bool.and_eq_true, decide_eq_true_eq] at h
      exact h
    refine ⟨⟨c.toNat - 48, by omega⟩, Char.toNat_inj.1 ?_⟩
    rw [Nat.toNat_digitChar_of_lt_ten (Fin.isLt _)]
    exact (Nat.add_sub_cancel' hc.1).symm
  · rintro ⟨d, rfl⟩
    revert d
    decide

theorem ofDigitChars_concat (cs : List Char) (d : Fin 10) :
    Nat.ofDigitChars 10 (cs ++ [Nat.digitChar d]) 0 = 10 * Nat.ofDigitChars 10 cs 0 + d := by
  rw [Nat.ofDigitChars_append, Nat.ofDigitChars_cons_digitChar_of_lt_ten d.isLt,
    Nat.ofDigitChars_nil]

/-! ## Decimals -/

theorem readDigits?_of_isDigit (hne : cs ≠ []) (h : cs.all Char.isDigit = true) :
    readDigits? cs = some (Nat.ofDigitChars 10 cs 0) := by
  rw [readDigits?, if_pos (by simp [hne, h])]

theorem IsDecimal.ne_nil (h : IsDecimal cs n) : cs ≠ [] := by
  cases h <;> simp

theorem IsDecimal.all_isDigit (h : IsDecimal cs n) : cs.all Char.isDigit = true := by
  have hdigit (d : Fin 10) : (Nat.digitChar d).isDigit = true := exists_digitChar_iff.2 ⟨d, rfl⟩
  induction h with
  | digit d => rw [List.all_cons, hdigit, List.all_nil, Bool.and_self]
  | snoc h d ih => rw [List.all_append, ih, List.all_cons, hdigit, List.all_nil]; rfl

theorem isDecimal_ofDigitChars (hne : cs ≠ []) (h : cs.all Char.isDigit = true) :
    IsDecimal cs (Nat.ofDigitChars 10 cs 0) := by
  induction cs using List.reverseRecOn with
  | nil => exact absurd rfl hne
  | append_singleton cs c ih =>
    rw [List.all_append, List.all_cons, List.all_nil, Bool.and_true, Bool.and_eq_true] at h
    obtain ⟨d, rfl⟩ := exists_digitChar_iff.1 h.2
    rw [ofDigitChars_concat]
    by_cases hcs : cs = []
    · subst hcs
      rw [Nat.ofDigitChars_nil, Nat.mul_zero, Nat.zero_add]
      exact .digit d
    · exact .snoc (ih hcs h.1) d

theorem readDigits?_eq_some_iff : readDigits? cs = some n ↔ IsDecimal cs n := by
  constructor
  · intro h
    rw [readDigits?, Option.ite_none_right_eq_some, Bool.and_eq_true, Bool.not_eq_true',
      List.isEmpty_eq_false_iff] at h
    obtain ⟨⟨hne, hall⟩, hn⟩ := h
    obtain rfl := Option.some.inj hn
    exact isDecimal_ofDigitChars hne hall
  · intro h
    rw [readDigits?_of_isDigit h.ne_nil h.all_isDigit]
    induction h with
    | digit d =>
      rw [Nat.ofDigitChars_cons_digitChar_of_lt_ten d.isLt, Nat.ofDigitChars_nil, Nat.mul_zero,
        Nat.zero_add]
    | snoc h d ih => rw [ofDigitChars_concat, Option.some.inj ih]

/-! ## Numerals -/

theorem IsDecimal.ne_plus (h : IsDecimal cs n) {rest : List Char} : cs ≠ '+' :: rest := by
  rintro rfl
  have hplus := h.all_isDigit
  rw [List.all_cons, Bool.and_eq_true] at hplus
  exact absurd hplus.1 (by decide)

/-- A numeral is read as the number that it stands for, if that is below the bound. -/
theorem read?_eq_some_iff : read? bound cs = some n ↔ IsNumeral cs n ∧ n < bound := by
  unfold read?
  split
  next rest =>
    rw [Option.filter_eq_some_iff, readDigits?_eq_some_iff, decide_eq_true_eq]
    refine and_congr_left' ⟨.signed, fun h => ?_⟩
    cases h with
    | unsigned h => exact absurd rfl h.ne_plus
    | signed h => exact h
  next hplus =>
    rw [Option.filter_eq_some_iff, readDigits?_eq_some_iff, decide_eq_true_eq]
    refine and_congr_left' ⟨.unsigned, fun h => ?_⟩
    cases h with
    | unsigned h => exact h
    | signed h => exact absurd rfl (hplus _)

/-- The characters of a numeral are digits but for the plus sign. -/
theorem IsNumeral.eq_plus_or_isDigit (h : IsNumeral cs n) {c : Char} (hc : c ∈ cs) :
    c = '+' ∨ c.isDigit = true := by
  cases h with
  | unsigned h => exact .inr (List.all_eq_true.1 h.all_isDigit c hc)
  | signed h =>
    rcases List.mem_cons.1 hc with rfl | hc
    · exact .inl rfl
    · exact .inr (List.all_eq_true.1 h.all_isDigit c hc)

end VariantPlan.Text
