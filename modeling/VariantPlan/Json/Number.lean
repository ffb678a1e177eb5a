import VariantPlan.Binary64.Decimal
import VariantPlan.Json.Basic

/-!
# Numbers in JSON

**Reading.** A numeral without a fraction and an exponent is an integer if it fits 64 bits and is
no negative zero. Any other numeral is a number with a binary point: its digits make a whole
number as long as that fits a word of 64 bits, the digits after them count by their places only,
and the whole number is taken times a power of ten.

**Writing.** An integer is written with its digits. A number with a binary point is written with
the fewest digits that tell it from its neighbours, in positional notation from 0.00001 up to 16
digits before the point, with one digit after the point at least, and otherwise with an exponent
that has a sign.

Main result: `Numeral.integer?_digits` (the digits of an integer are read as that integer).
-/

namespace VariantPlan.Json

/-! ## Reading -/

/-- A number as it is written. -/
structure Numeral where
  negative : Bool
  whole : List Char
  fraction : List Char
  exponent : Option Int

/-- Add digits to a whole number while it fits a word; the other digits are left. -/
def addDigits (n : Nat) : List Char → Nat × List Char
  | [] => (n, [])
  | c :: rest =>
    let m := 10 * n + (c.toNat - '0'.toNat)
    if m < Text.wordBound then addDigits m rest else (n, c :: rest)

namespace Numeral

/-- The integer that a numeral is, if it is one. -/
def integer? (x : Numeral) : Option Int :=
  let n := Nat.ofDigitChars 10 x.whole 0
  let i : Int := if x.negative then -n else n
  if x.fraction.isEmpty && x.exponent.isNone && fitsWord i && !(x.negative && n == 0) then some i
  else none

/-- The magnitude of a numeral, if it is not too large. -/
def magnitude? (x : Numeral) : Option Nat :=
  let (n, more) := addDigits 0 x.whole
  let (n, unused) := addDigits n x.fraction
  let places : Int := more.length - (x.fraction.length - unused.length : Nat)
  Binary64.ofDecimal? n (places + x.exponent.getD 0)

/-- The value of a numeral. -/
def value (x : Numeral) : Json :=
  match x.integer? with
  | some i => .integer i
  | none =>
    match x.magnitude? with
    | some units => .double ⟨x.negative, units⟩
    | none => .unreadable

theorem integer?_digits {n : Int} (h : fitsWord n = true) :
    integer? ⟨decide (n < 0), Text.digits n.natAbs, [], none⟩ = some n := by
  have hd : Nat.ofDigitChars 10 (Text.digits n.natAbs) 0 = n.natAbs :=
    Nat.ofDigitChars_toDigits (by decide) (by decide)
  have hi : (if decide (n < 0) = true then -(n.natAbs : Int) else n.natAbs) = n := by
    split <;> rename_i hn <;> rw [decide_eq_true_eq] at hn <;> omega
  have hz : (decide (n < 0) && n.natAbs == 0) = false := by
    rw [Bool.and_eq_false_iff, decide_eq_false_iff_not, beq_eq_false_iff_ne]
    omega
  simp only [integer?, hd, hi, hz, h, List.isEmpty_nil, Option.isNone_none, Bool.and_self,
    Bool.not_false, if_true]

end Numeral

/-! ## Writing -/

def integerText (n : Int) : List Char :=
  if n < 0 then '-' :: Text.digits n.natAbs else Text.digits n.natAbs

/-- The most digits that may stand before the point. -/
def maxWholeDigits : Int := 16

/-- The most zeros that may stand between the point and the first other digit. -/
def maxLeadingZeros : Int := 4

/-- An exponent with its sign. -/
def exponentText (e : Int) : List Char :=
  'e' :: (if e < 0 then '-' else '+') :: Text.digits e.natAbs

/-- The text of digits with a point after the first one. -/
def pointAfterFirst : List Char → List Char
  | first :: second :: rest => first :: '.' :: second :: rest
  | ds => ds

def decimalText (d : Binary64.Decimal) : List Char :=
  let ds := Text.digits d.digits
  let point : Int := ds.length + d.exponent
  if 0 ≤ d.exponent ∧ point ≤ maxWholeDigits then
    ds ++ List.replicate d.exponent.toNat '0' ++ ['.', '0']
  else if 0 < point ∧ point ≤ maxWholeDigits then
    ds.take point.toNat ++ '.' :: ds.drop point.toNat
  else if point ≤ 0 ∧ -point ≤ maxLeadingZeros then
    '0' :: '.' :: (List.replicate (-point).toNat '0' ++ ds)
  else pointAfterFirst ds ++ exponentText (point - 1)

def doubleText (x : Binary64) : List Char :=
  let text := decimalText (Binary64.toDecimal x.units)
  if x.negative then '-' :: text else text

end VariantPlan.Json
