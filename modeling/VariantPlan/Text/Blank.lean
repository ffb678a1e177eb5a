import VariantPlan.Text.Range

/-!
# Blank characters

A character is blank when Unicode gives it the property White_Space. Configuration texts are
trimmed and split into words by this property, so a no-break space separates words and a
zero-width space does not.
-/

namespace VariantPlan.Text

/-- The code points with the property White_Space. -/
def blankRanges : Ranges :=
  [(0x09, 0x0D), (0x20, 0x20), (0x85, 0x85), (0xA0, 0xA0), (0x1680, 0x1680), (0x2000, 0x200A),
    (0x2028, 0x2029), (0x202F, 0x202F), (0x205F, 0x205F), (0x3000, 0x3000)]

def isBlank (c : Char) : Bool := isWithin blankRanges c

/-! ## Trimming -/

def trimStart (cs : List Char) : List Char := cs.dropWhile isBlank

def trimEnd (cs : List Char) : List Char := (cs.reverse.dropWhile isBlank).reverse

/-- Drop the blanks at both ends. -/
def trim (cs : List Char) : List Char := trimEnd (trimStart cs)

/-- The text without the blanks at its ends. -/
def trimmed (s : String) : String := String.ofList (trim s.toList)

/-! ## Words -/

/-- The maximal runs of characters that are not blank. -/
def words (cs : List Char) : List (List Char) := (cs.splitOnP isBlank).filter (! ·.isEmpty)

end VariantPlan.Text
