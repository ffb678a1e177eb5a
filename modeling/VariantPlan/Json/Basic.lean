import VariantPlan.Binary64.Basic
import VariantPlan.SortedMap

/-!
# JSON values

A value keeps the members of an object in the order in which they are written, repeats included,
so that one type serves both for documents that were read and for documents to be written.

Numbers are the integers of 64 bits, signed or unsigned, and numbers with a binary point. What is
well-formed JSON but has no value here (a number that is too large, an escape naming half a
surrogate pair, a document nested too deeply) is `unreadable`: no reader accepts it, but it may
stand where nothing is read.

**Canonical values** have the members of every object sorted by key, one member a key. They are
what a document holds as data rather than as text.
-/

namespace VariantPlan

/-- A JSON value, members of objects in written order. -/
inductive Json where
  | null
  | bool (value : Bool)
  | integer (value : Int)
  /-- A number with a fraction or an exponent, or one that is no integer of 64 bits. -/
  | double (value : Binary64)
  | string (value : String)
  | list (items : List Json)
  | object (members : List (String × Json))
  /-- Well-formed, but without a value that could be kept. -/
  | unreadable
deriving Inhabited

namespace Json

/-- Whether an integer fits a signed or an unsigned word of 64 bits. -/
def fitsWord (n : Int) : Bool := Int64.minValue.toInt ≤ n && n < UInt64.size

/-! ## Canonical values -/

mutual

/-- The value with the members of every object sorted by key, the last of repeated members kept;
nothing if a part of it is unreadable. -/
def canonical? : Json → Option Json
  | .null => some .null
  | .bool b => some (.bool b)
  | .integer n => some (.integer n)
  | .double x => some (.double x)
  | .string s => some (.string s)
  | .list items => (canonicalItems? items).map .list
  | .object members => (canonicalMembers? members).map fun l => .object (SortedMap.ofList l).entries
  | .unreadable => none

/-- The canonical values of list items. -/
def canonicalItems? : List Json → Option (List Json)
  | [] => some []
  | j :: rest => do
    let j ← canonical? j
    let rest ← canonicalItems? rest
    some (j :: rest)

/-- The canonical values of object members, under their keys. -/
def canonicalMembers? : List (String × Json) → Option (List (String × Json))
  | [] => some []
  | (k, j) :: rest => do
    let j ← canonical? j
    let rest ← canonicalMembers? rest
    some ((k, j) :: rest)

end

/-! ## Depth -/

mutual

/-- Replace every list and object below `depth` nested ones by `unreadable`. -/
def limitDepth : Nat → Json → Json
  | 0, .list _ => .unreadable
  | 0, .object _ => .unreadable
  | depth + 1, .list items => .list (limitItems depth items)
  | depth + 1, .object members => .object (limitMembers depth members)
  | _, .null => .null
  | _, .bool b => .bool b
  | _, .integer n => .integer n
  | _, .double x => .double x
  | _, .string s => .string s
  | _, .unreadable => .unreadable

/-- Limit the depth of list items. -/
def limitItems : Nat → List Json → List Json
  | _, [] => []
  | depth, j :: rest => limitDepth depth j :: limitItems depth rest

/-- Limit the depth of object members. -/
def limitMembers : Nat → List (String × Json) → List (String × Json)
  | _, [] => []
  | depth, (k, j) :: rest => (k, limitDepth depth j) :: limitMembers depth rest

end

end Json

end VariantPlan
