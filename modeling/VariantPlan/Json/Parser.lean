import VariantPlan.Json.Number
import VariantPlan.Json.Quoted

/-!
# Reading JSON

The grammar is strict: no comments, no trailing commas, no leading zeros, no raw control
characters in strings, and nothing but blanks around the one value of a document. Blanks are the
space, the tab, the line feed and the carriage return.

The reader descends into the text with a fuel that bounds its steps; the text's length gives
enough, so `parse?` shows none. Containers may be nested `maxDepth` deep; what lies below is
unreadable.
-/

namespace VariantPlan.Json

/-- How deep containers may be nested in a document. -/
def maxDepth : Nat := 127

/-- Drop the blanks between the parts of a document. -/
def skipBlanks (cs : List Char) : List Char :=
  cs.dropWhile fun c => c == ' ' || c == '\n' || c == '\t' || c == '\r'

/-! ## Numbers -/

/-- The leading digits and the rest, if there is a digit. -/
def spanDigits? (cs : List Char) : Option (List Char × List Char) :=
  let (ds, rest) := cs.span Char.isDigit
  if ds.isEmpty then none else some (ds, rest)

/-- Read the digits of a fraction; there are none without a point. -/
def readFraction? : List Char → Option (List Char × List Char)
  | '.' :: rest => spanDigits? rest
  | cs => some ([], cs)

/-- Read an exponent, if there is one. -/
def readExponent? (cs : List Char) : Option (Option Int × List Char) :=
  match cs with
  | 'e' :: rest | 'E' :: rest =>
    let (negative, rest) := match rest with
      | '-' :: r => (true, r)
      | '+' :: r => (false, r)
      | r => (false, r)
    (spanDigits? rest).map fun p =>
      let n : Int := Nat.ofDigitChars 10 p.1 0
      (some (if negative then -n else n), p.2)
  | _ => some (none, cs)

/-- Read a number without its sign. -/
def readUnsigned? (negative : Bool) (cs : List Char) : Option (Json × List Char) := do
  let (whole, rest) ← spanDigits? cs
  if whole.head? == some '0' && whole.length != 1 then none
  let (fraction, rest) ← readFraction? rest
  let (exponent, rest) ← readExponent? rest
  some (Numeral.value ⟨negative, whole, fraction, exponent⟩, rest)

def readNumber? : List Char → Option (Json × List Char)
  | '-' :: rest => readUnsigned? true rest
  | cs => readUnsigned? false cs

/-! ## Values -/

/-- Read a string whose opening quotation mark is passed; its text is missing if a surrogate
stands alone. -/
def readString? (cs : List Char) : Option (Option String × List Char) :=
  (readUnits cs).map fun p => ((joinUnits? p.1).map String.ofList, p.2)

mutual

/-- Read a value that starts at the first character. -/
def readValue? : Nat → List Char → Option (Json × List Char)
  | 0, _ => none
  | fuel + 1, cs =>
    match cs with
    | 'n' :: 'u' :: 'l' :: 'l' :: rest => some (.null, rest)
    | 't' :: 'r' :: 'u' :: 'e' :: rest => some (.bool true, rest)
    | 'f' :: 'a' :: 'l' :: 's' :: 'e' :: rest => some (.bool false, rest)
    | '"' :: rest =>
      (readString? rest).map fun p => ((p.1.map Json.string).getD .unreadable, p.2)
    | '[' :: rest =>
      match skipBlanks rest with
      | ']' :: rest => some (.list [], rest)
      | rest => (readItems? fuel rest).map fun p => (.list p.1, p.2)
    | '{' :: rest =>
      match skipBlanks rest with
      | '}' :: rest => some (.object [], rest)
      | rest => (readMembers? fuel rest).map fun p => ((p.1.map Json.object).getD .unreadable, p.2)
    | cs => readNumber? cs

/-- Read the items of a list, from the first character of an item to the closing bracket. -/
def readItems? : Nat → List Char → Option (List Json × List Char)
  | 0, _ => none
  | fuel + 1, cs => do
    let (j, rest) ← readValue? fuel cs
    match skipBlanks rest with
    | ',' :: rest =>
      let (items, rest) ← readItems? fuel (skipBlanks rest)
      some (j :: items, rest)
    | ']' :: rest => some ([j], rest)
    | _ => none

/-- Read the members of an object, from the first character of a key to the closing brace. The
members are missing if the text of a key is. -/
def readMembers? : Nat → List Char → Option (Option (List (String × Json)) × List Char)
  | 0, _ => none
  | fuel + 1, cs => do
    let '"' :: rest := cs | none
    let (key, rest) ← readString? rest
    let ':' :: rest := skipBlanks rest | none
    let (j, rest) ← readValue? fuel (skipBlanks rest)
    match skipBlanks rest with
    | ',' :: rest =>
      let (members, rest) ← readMembers? fuel (skipBlanks rest)
      some ((key.bind fun k => members.map ((k, j) :: ·)), rest)
    | '}' :: rest => some (key.map fun k => [(k, j)], rest)
    | _ => none

end

/-- The value of a document, containers nested at most `maxDepth` deep. -/
def parse? (text : String) : Option Json :=
  let cs := skipBlanks text.toList
  match readValue? (2 * cs.length + 1) cs with
  | some (j, rest) => if (skipBlanks rest).isEmpty then some (limitDepth maxDepth j) else none
  | none => none

end VariantPlan.Json
