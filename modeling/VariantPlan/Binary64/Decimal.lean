import VariantPlan.Binary64.Basic
import VariantPlan.Text.Numeral

/-!
# Decimal numbers and numbers with a binary point

**From decimals.** A decimal is a whole number and a power of ten to multiply it with. It is
rounded in steps, so the result may be a neighbour of the nearest number: the whole number is
rounded, then the power of ten, and then their product or quotient. Powers of ten beyond the
largest one of the format are divided by in several steps.

**To decimals.** The digits of a number are the fewest that tell it from its neighbours: of the
decimals with that many digits that are nearer to the number than to any other, the nearest. They
are looked for among the two decimals around the number with one digit, two digits and so on.
-/

namespace VariantPlan.Binary64

/-! ## From decimals -/

/-- The largest exponent of a power of ten in the format. -/
def maxTenPower : Nat := 308

/-- The magnitude of a power of ten. -/
def tenPower (k : Nat) : Nat := (whole? (Nat.pow 10 k)).getD 0

/-- Divide a magnitude by the largest power of ten so many times. -/
def divideRepeatedly : Nat → Nat → Nat
  | 0, units => units
  | n + 1, units =>
    if units = 0 then 0
    else divideRepeatedly n ((div? units (tenPower maxTenPower)).getD 0)

/-- The magnitude of a whole number times a power of ten, if it is not too large. -/
def ofDecimal? (n : Nat) : Int → Option Nat
  | .ofNat k => do
    let units ← whole? n
    if units = 0 then some 0
    else if maxTenPower < k then none
    else mul? units (tenPower k)
  | .negSucc k => do
    let units := divideRepeatedly (k / maxTenPower) (← whole? n)
    div? units (tenPower (k % maxTenPower + 1))

/-! ## To decimals -/

/-- A decimal: a whole number and the power of ten to multiply it with. -/
structure Decimal where
  digits : Nat
  exponent : Int
deriving DecidableEq

/-- The exponent of the power of ten by which magnitudes are multiplied to find their digits. The
smallest one then has as many whole digits as are ever needed. -/
def digitShift : Nat := 340

/-- How many digits are always enough. -/
def maxDigits : Nat := 17

/-- A magnitude with the two ends of the interval around it that is rounded to it, all of them
multiplied by four. -/
structure Interval where
  lower : Nat
  middle : Nat
  upper : Nat
  /-- Whether the ends belong to it. -/
  closed : Bool

/-- The interval that is rounded to a magnitude. Below a power of two the numbers are twice as
dense as above it. -/
def Interval.around (units : Nat) : Interval :=
  let step := spacing units
  let below := if 1 < step ∧ units = 1 <<< Nat.log2 units then step else 2 * step
  ⟨4 * units - below, 4 * units, 4 * units + 2 * step, (units / step) % 2 = 0⟩

def distance (a b : Nat) : Nat := (a - b) + (b - a)

/-- Drop zeros at the end of a whole number, at most so many, and count them. -/
def dropZeros : Nat → Nat → Nat × Nat
  | 0, n => (n, 0)
  | k + 1, n =>
    if n % 10 = 0 then
      let (n, zeros) := dropZeros k (n / 10)
      (n, zeros + 1)
    else (n, 0)

/-- A multiple of a step, in fourths of units. The step counts whole ones times `digitShift`
tens. -/
def fourths (step m : Nat) : Nat := 4 * (m * step * unitsPerWhole)

/-- A number of fourths of units on the scale of `fourths`. -/
def scaled (n : Nat) : Nat := n * Nat.pow 10 digitShift

/-- Whether a multiple of a step lies in an interval. -/
def Interval.holds (i : Interval) (step m : Nat) : Bool :=
  if i.closed then scaled i.lower ≤ fourths step m && fourths step m ≤ scaled i.upper
  else scaled i.lower < fourths step m && fourths step m < scaled i.upper

/-- How far a multiple of a step is from the middle of an interval. -/
def Interval.gap (i : Interval) (step m : Nat) : Nat := distance (fourths step m) (scaled i.middle)

/-- Of a multiple of a step and the next one, the one in an interval or, of two, the nearer one to
its middle, the even one of equally near ones. -/
def nearestMultiple? (i : Interval) (step m : Nat) : Option Nat :=
  if i.holds step m then
    if i.holds step (m + 1) ∧
        (i.gap step (m + 1) < i.gap step m ∨ i.gap step (m + 1) = i.gap step m ∧ m % 2 = 1) then
      some (m + 1)
    else some m
  else if i.holds step (m + 1) then some (m + 1)
  else none

/-- The decimal with the fewest digits that a magnitude is told from its neighbours by. -/
def toDecimal (units : Nat) : Decimal :=
  if units = 0 then ⟨0, 0⟩
  else
    let whole := units * Nat.pow 10 digitShift / unitsPerWhole
    let size := (Text.digits whole).length
    let found := (List.range maxDigits).findSome? fun n =>
      let step := Nat.pow 10 (size - (n + 1))
      (nearestMultiple? (.around units) step (whole / step)).map fun m =>
        let (m, zeros) := dropZeros maxDigits m
        (⟨m, (size - (n + 1) : Nat) + (zeros : Nat) - (digitShift : Nat)⟩ : Decimal)
    found.getD ⟨0, 0⟩

end VariantPlan.Binary64
