/-!
# Numbers of 64 bits with a binary point

A finite number of the format is a sign and a **magnitude**, counted in units of the smallest
positive number, 2 to the power of -1074. A magnitude has at most 53 bits and then zeros, and at
most 2098 bits in all. Zero has two signs.

Operations are exact on the magnitudes and then **rounded** to the nearest magnitude of the
format, of two equally near ones to the one with an even last bit.
-/

namespace VariantPlan

/-- A finite number of the format. -/
structure Binary64 where
  negative : Bool
  /-- The magnitude in units of the smallest positive number. -/
  units : Nat
deriving DecidableEq, Inhabited

namespace Binary64

/-! ## Rounding -/

/-- A quotient rounded to a whole number, a half to the even neighbour. -/
def roundDiv (num den : Nat) : Nat :=
  let q := num / den
  let twice := 2 * (num % den)
  if den < twice ∨ (twice = den ∧ q % 2 = 1) then q + 1 else q

/-- The number of units in a whole. -/
def unitsPerWhole : Nat := 1 <<< 1074

/-- The least magnitude, in units, that is too large for the format. -/
def limit : Nat := 1 <<< 2098

/-- The distance, in units, of magnitudes of the format from a number of units upwards. -/
def spacing (units : Nat) : Nat := 1 <<< (Nat.log2 units - 52)

/-- The magnitude of the format that is nearest to a quotient of units, if it is not too large. -/
def nearest? (num den : Nat) : Option Nat :=
  let step := spacing (num / den)
  let units := roundDiv num (den * step) * step
  if units < limit then some units else none

/-! ## Operations on magnitudes -/

/-- The magnitude of a whole number. -/
def whole? (n : Nat) : Option Nat := nearest? (n * unitsPerWhole) 1

def mul? (a b : Nat) : Option Nat := nearest? (a * b) unitsPerWhole

def div? (a b : Nat) : Option Nat := nearest? (a * unitsPerWhole) b

end Binary64

end VariantPlan
