import VariantPlan.Text.Numeral
import VariantPlan.Text.Split

/-!
# Semantic versions

A version has three 64-bit numbers, a list of pre-release labels and a list of build labels. The
types carry what the grammar asks of labels, so each version has exactly one written form:

* a **label** is a non-empty text of ASCII letters, digits and hyphens;
* a **pre-release label** is a number, written without leading zeros, or a label with a character
  that is no digit.

**Precedence** compares the three numbers first; of versions with the same numbers one with
pre-release labels comes before the one without, and pre-release labels are compared from left to
right, numbers by value and before words, words by code points, a shorter list before a longer
one that starts with it. Build labels do not count.

Main result: `precedence_release` (against a release, precedence reads the numbers first and the
presence of pre-release labels last).
-/

namespace VariantPlan

/-- Whether a character may stand in a label. -/
def isLabelChar (c : Char) : Bool := c.isAlphanum || c == '-'

/-- A label of a version. -/
structure Label where
  /-- The characters of the label. -/
  chars : List Char
  /-- A label is not empty. -/
  nonempty : chars ≠ []
  /-- A label holds ASCII letters, digits and hyphens only. -/
  allowed : chars.all isLabelChar = true
deriving DecidableEq

/-- A pre-release label of a version. -/
inductive PreLabel where
  | number (value : Nat)
  | word (label : Label) (notNumeric : label.chars.all Char.isDigit = false)
deriving DecidableEq

/-- A semantic version. -/
structure Version where
  major : UInt64
  minor : UInt64
  patch : UInt64
  pre : List PreLabel
  build : List Label
deriving DecidableEq

/-! ## Written form -/

/-- The characters of a pre-release label. -/
def PreLabel.chars : PreLabel → List Char
  | .number n => Text.digits n
  | .word label _ => label.chars

/-- The order of pre-release labels. -/
def PreLabel.order : PreLabel → PreLabel → Ordering
  | .number m, .number n => compare m n
  | .number _, .word .. => .lt
  | .word .., .number _ => .gt
  | .word a _, .word b _ => compare a.chars b.chars

namespace Version

def release (major minor patch : UInt64) : Version := ⟨major, minor, patch, [], []⟩

/-- The three numbers between dots. -/
def coreText (v : Version) : List Char :=
  Text.digits v.major.toNat ++
    '.' :: (Text.digits v.minor.toNat ++ '.' :: Text.digits v.patch.toNat)

/-- Labels between dots, after a mark; nothing if there is none. -/
def labelText (mark : Char) (labels : List (List Char)) : List Char :=
  if labels.isEmpty then [] else mark :: ['.'].intercalate labels

def chars (v : Version) : List Char :=
  v.coreText ++ labelText '-' (v.pre.map PreLabel.chars) ++ labelText '+' (v.build.map Label.chars)

def text (v : Version) : String := String.ofList v.chars

/-! ## Reading -/

/-- A number of a version: digits without leading zeros, of 64 bits. -/
def readNumber? (cs : List Char) : Option UInt64 :=
  if cs.head? == some '0' && cs.length != 1 then none
  else ((Text.readDigits? cs).filter (· < Text.wordBound)).map UInt64.ofNat

/-- A label. -/
def readLabel? (cs : List Char) : Option Label :=
  if h : cs ≠ [] ∧ cs.all isLabelChar = true then some ⟨cs, h.1, h.2⟩ else none

/-- A pre-release label. -/
def readPreLabel? (cs : List Char) : Option PreLabel := do
  let label ← readLabel? cs
  if h : label.chars.all Char.isDigit = false then some (.word label h)
  else if cs.head? == some '0' && cs.length != 1 then none
  else (Text.readDigits? cs).map .number

/-- A version in its written form. -/
def ofChars? (cs : List Char) : Option Version := do
  let (front, build) ← match Text.cut? '+' cs with
    | none => some (cs, [])
    | some (front, back) => ((back.splitOn '.').mapM readLabel?).map (front, ·)
  let (core, pre) ← match Text.cut? '-' front with
    | none => some (front, [])
    | some (core, back) => ((back.splitOn '.').mapM readPreLabel?).map (core, ·)
  let [major, minor, patch] := core.splitOn '.' | none
  let major ← readNumber? major
  let minor ← readNumber? minor
  let patch ← readNumber? patch
  some ⟨major, minor, patch, pre, build⟩

/-- A version in its written form. -/
def ofText? (s : String) : Option Version := ofChars? s.toList

/-! ## Precedence -/

/-- The order of lists of pre-release labels, of which the empty one comes last. -/
def preOrder : List PreLabel → List PreLabel → Ordering
  | [], [] => .eq
  | [], _ :: _ => .gt
  | _ :: _, [] => .lt
  | a, b => List.compareLex PreLabel.order a b

/-- The order of precedence. -/
def precedence (a b : Version) : Ordering :=
  (compare a.major b.major).then <| (compare a.minor b.minor).then <|
    (compare a.patch b.patch).then <| preOrder a.pre b.pre

def precedes (a b : Version) : Bool := precedence a b == .lt

/-- Against a release, the numbers decide first and the presence of pre-release labels last. -/
theorem precedence_release (v : Version) (major minor patch : UInt64) :
    precedence v (release major minor patch) =
      (compare v.major major).then ((compare v.minor minor).then ((compare v.patch patch).then
        (if v.pre.isEmpty then .eq else .lt))) := by
  unfold precedence release
  cases v.pre <;> rfl

end Version

end VariantPlan
