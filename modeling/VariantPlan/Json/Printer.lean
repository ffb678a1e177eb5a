import VariantPlan.Json.Number
import VariantPlan.Json.Quoted

/-!
# Written JSON

A value has two written forms. The **compact** form has no blank at all; digests are taken of it.
The **indented** form puts every item and member on a line of its own, two spaces deeper than its
container, and writes empty containers without a line break; reports are printed in it.
-/

namespace VariantPlan.Json

/-- The written form of a value without parts; containers are written by the printers. -/
def scalarText : Json → List Char
  | .bool true => ['t', 'r', 'u', 'e']
  | .bool false => ['f', 'a', 'l', 's', 'e']
  | .integer n => integerText n
  | .double x => doubleText x
  | .string s => quoted s.toList
  | _ => ['n', 'u', 'l', 'l']

/-! ## The compact form -/

mutual

def compactText : Json → List Char
  | .list [] => ['[', ']']
  | .list (j :: rest) => '[' :: (compactText j ++ compactItems rest)
  | .object [] => ['{', '}']
  | .object ((k, j) :: rest) =>
    '{' :: (quoted k.toList ++ ':' :: (compactText j ++ compactMembers rest))
  | .null => scalarText .null
  | .bool b => scalarText (.bool b)
  | .integer n => scalarText (.integer n)
  | .double x => scalarText (.double x)
  | .string s => scalarText (.string s)
  | .unreadable => scalarText .unreadable

/-- The items after the first one, and the closing bracket. -/
def compactItems : List Json → List Char
  | [] => [']']
  | j :: rest => ',' :: (compactText j ++ compactItems rest)

/-- The members after the first one, and the closing brace. -/
def compactMembers : List (String × Json) → List Char
  | [] => ['}']
  | (k, j) :: rest => ',' :: (quoted k.toList ++ ':' :: (compactText j ++ compactMembers rest))

end

def compact (j : Json) : String := String.ofList (compactText j)

/-! ## The indented form -/

/-- The start of a line at a depth. -/
def newline (depth : Nat) : List Char := '\n' :: List.replicate (2 * depth) ' '

mutual

/-- The indented form of a value that stands at `depth`. -/
def indentedText (depth : Nat) : Json → List Char
  | .list [] => ['[', ']']
  | .list (j :: rest) =>
    '[' :: (newline (depth + 1) ++ indentedText (depth + 1) j ++ indentedItems depth rest)
  | .object [] => ['{', '}']
  | .object ((k, j) :: rest) =>
    '{' :: (newline (depth + 1) ++ quoted k.toList ++ [':', ' '] ++ indentedText (depth + 1) j ++
      indentedMembers depth rest)
  | .null => scalarText .null
  | .bool b => scalarText (.bool b)
  | .integer n => scalarText (.integer n)
  | .double x => scalarText (.double x)
  | .string s => scalarText (.string s)
  | .unreadable => scalarText .unreadable

/-- The items after the first one of a list at `depth`, and the closing bracket. -/
def indentedItems (depth : Nat) : List Json → List Char
  | [] => newline depth ++ [']']
  | j :: rest =>
    ',' :: (newline (depth + 1) ++ indentedText (depth + 1) j ++ indentedItems depth rest)

/-- The members after the first one of an object at `depth`, and the closing brace. -/
def indentedMembers (depth : Nat) : List (String × Json) → List Char
  | [] => newline depth ++ ['}']
  | (k, j) :: rest =>
    ',' :: (newline (depth + 1) ++ quoted k.toList ++ [':', ' '] ++ indentedText (depth + 1) j ++
      indentedMembers depth rest)

end

def indented (j : Json) : String := String.ofList (indentedText 0 j)

end VariantPlan.Json
