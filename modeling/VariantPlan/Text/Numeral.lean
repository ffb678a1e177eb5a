/-!
# Decimal numerals

A numeral is read as an optional plus sign and at least one ASCII digit, leading zeros allowed,
and only below a bound given by its reader. It is written with the fewest digits.

Main result: `readDigits?_digits` (a written number reads back).
-/

namespace VariantPlan.Text

/-- The bound of a 64-bit word. -/
def wordBound : Nat := UInt64.size

/-- The decimal digits of a number, without leading zeros. -/
def digits (n : Nat) : List Char := Nat.toDigits 10 n

/-- The decimal digits of a number, with a zero in front if it has only one. -/
def twoDigits (n : Nat) : List Char := if n < 10 then '0' :: digits n else digits n

/-- The value of a text of one or more ASCII digits. -/
def readDigits? (cs : List Char) : Option Nat :=
  if !cs.isEmpty && cs.all Char.isDigit then some (Nat.ofDigitChars 10 cs 0) else none

/-- The value of an optionally signed numeral, if it is below `bound`. -/
def read? (bound : Nat) (cs : List Char) : Option Nat :=
  let body := match cs with
    | '+' :: rest => rest
    | _ => cs
  (readDigits? body).filter (· < bound)

/-! ## Numbers with a fraction -/

/-- Whether a text is the exponent of a number, without its letter. -/
def isExponent (cs : List Char) : Bool :=
  let body := match cs with
    | '+' :: rest | '-' :: rest => rest
    | _ => cs
  !body.isEmpty && body.all Char.isDigit

/-- Whether a text is empty or an exponent with its letter. -/
def endsNumber : List Char → Bool
  | [] => true
  | c :: rest => (c == 'e' || c == 'E') && isExponent rest

/-- Whether a text is a number, perhaps signed, with a fraction or an exponent, or the name of a
value that is no finite number. A digit is needed on one side of the point. -/
def isNumber (cs : List Char) : Bool :=
  let body := match cs with
    | '+' :: rest | '-' :: rest => rest
    | _ => cs
  let whole := body.takeWhile Char.isDigit
  match body.drop whole.length with
  | '.' :: rest =>
    let fraction := rest.takeWhile Char.isDigit
    !(whole.isEmpty && fraction.isEmpty) && endsNumber (rest.drop fraction.length)
  | rest =>
    (!whole.isEmpty && endsNumber rest) ||
      [['i', 'n', 'f'], ['i', 'n', 'f', 'i', 'n', 'i', 't', 'y'], ['n', 'a', 'n']].contains
        (body.map Char.toLower)

theorem digits_ne_nil (n : Nat) : digits n ≠ [] := by
  simp [digits]

theorem all_isDigit_digits (n : Nat) : (digits n).all Char.isDigit = true :=
  List.all_eq_true.2 fun _ h => Nat.isDigit_of_mem_toDigits (by decide) (by decide) h

/-- Only zero is written with a zero in front. -/
theorem eq_zero_of_head?_digits {n : Nat} (h : (digits n).head? = some '0') : n = 0 := by
  have hsmall : ∀ n < 10, (some n.digitChar = some '0') → n = 0 := by decide
  induction n using Nat.strongRecOn with
  | _ n ih =>
    unfold digits at h ih
    by_cases hn : n < 10
    · rw [Nat.toDigits_of_lt_base hn] at h
      exact hsmall n hn h
    · obtain ⟨c, cs, hcs⟩ := List.exists_cons_of_ne_nil (digits_ne_nil (n / 10))
      unfold digits at hcs
      rw [Nat.toDigits_of_base_le (by decide) (by omega), hcs] at h
      have := ih (n / 10) (by omega) (by rw [hcs]; exact h)
      omega

theorem exists_digits_eq_cons (n : Nat) :
    ∃ c cs, digits n = c :: cs ∧ c.isDigit = true := by
  obtain ⟨c, cs, hcs⟩ := List.exists_cons_of_ne_nil (digits_ne_nil n)
  have hall := all_isDigit_digits n
  rw [hcs, List.all_cons, Bool.and_eq_true] at hall
  exact ⟨c, cs, hcs, hall.1⟩

theorem not_leadingZero_digits (n : Nat) :
    ((digits n).head? == some '0' && (digits n).length != 1) = false := by
  rw [Bool.and_eq_false_imp]
  intro h
  rw [eq_zero_of_head?_digits (beq_iff_eq.1 h)]
  rfl

theorem readDigits?_digits (n : Nat) : readDigits? (digits n) = some n := by
  rw [readDigits?, if_pos (by simp [digits_ne_nil, all_isDigit_digits])]
  exact congrArg some (Nat.ofDigitChars_toDigits (by decide) (by decide))

end VariantPlan.Text
