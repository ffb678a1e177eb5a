/-!
# Hexadecimal digits

Digits of base sixteen are read in either letter case and written in small letters.

Main result: `hexValue?_digitChar` (a written digit reads back).
-/

namespace VariantPlan.Text

/-- The value of a hexadecimal digit of either case. -/
def hexValue? (c : Char) : Option Nat :=
  if '0' ≤ c ∧ c ≤ '9' then some (c.toNat - 48)
  else if 'a' ≤ c ∧ c ≤ 'f' then some (c.toNat - 87)
  else if 'A' ≤ c ∧ c ≤ 'F' then some (c.toNat - 55)
  else none

/-- The digits of a number in base sixteen. -/
def hexDigits (n : Nat) : List Char := Nat.toDigits 16 n

theorem hexValue?_digitChar {n : Nat} (h : n < 16) : hexValue? (Nat.digitChar n) = some n := by
  revert n
  decide

end VariantPlan.Text
