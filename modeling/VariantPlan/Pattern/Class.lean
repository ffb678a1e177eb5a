import VariantPlan.Pattern.Escape

/-!
# Classes of a pattern

A class is written between brackets: characters, ranges of them, named classes of ASCII between
colons, classes inside it, and the operators `&&`, `--` and `~~` between its parts. A caret at its
start negates it. Minus signs that come first stand for themselves, and so does a closing bracket
that comes first.

The reader keeps how many classes are open and where in the innermost one it is. It takes its
steps with a fuel; the length of the text gives enough.
-/

namespace VariantPlan.Pattern

/-- The classes of ASCII characters that have a name. -/
def asciiClassNames : List String :=
  ["alnum", "alpha", "ascii", "blank", "cntrl", "digit", "graph", "lower", "print", "punct",
    "space", "upper", "word", "xdigit"]

/-- Read a named class whose opening bracket is passed; tells whether it is negated. -/
def readAsciiClass? : List Char → Option (Bool × List Char)
  | ':' :: cs =>
    let (negated, cs) := match cs with
      | '^' :: rest => (true, rest)
      | cs => (false, cs)
    let name := cs.takeWhile (· != ':')
    match cs.drop name.length with
    | ':' :: ']' :: rest =>
      if asciiClassNames.contains (String.ofList name) then some (negated, rest) else none
    | _ => none
  | _ => none

/-- Pass over what may follow an opening bracket: a caret, where bytes are not meant. -/
def openClass? (s : Scope) (cs : List Char) : Option (List Char) :=
  match s.skip cs with
  | '^' :: rest => if s.unicode then some (s.skip rest) else none
  | cs => some cs

/-- Read one character or escape of a class. -/
def readItem? (s : Scope) : List Char → Option (Escape × List Char)
  | [] => none
  | '\\' :: rest => readEscape? s rest
  | c :: rest => some (.literal c, rest)

/-- The rest after the minus sign of a range, if what comes next is one. -/
def rangeRest? (s : Scope) : List Char → Option (List Char)
  | '-' :: rest =>
    match s.skip rest with
    | ']' :: _ | '-' :: _ => none
    | rest => some rest
  | _ => none

/-- Read one character, escape or range of a class. -/
def readRange? (s : Scope) (cs : List Char) : Option (List Char) := do
  let (first, rest) ← readItem? s cs
  if !first.fitsInClass s then none
  match rangeRest? s (s.skip rest) with
  | none => some rest
  | some rest =>
    let (last, rest) ← readItem? s rest
    if !last.fitsInClass s then none
    if (← first.char?) ≤ (← last.char?) then some rest else none

/-- Where in a class the reader is. -/
inductive ClassPlace where
  /-- Right after its start. -/
  | start
  /-- After minus signs at its start. -/
  | dashes
  /-- Among its items. -/
  | items
deriving DecidableEq

/-- Read on in a class inside `depth` others, to what follows the outermost one. -/
def readClass? (s : Scope) : Nat → Nat → ClassPlace → List Char → Option (List Char)
  | 0, _, _, _ => none
  | fuel + 1, depth, place, cs =>
    match place, s.skip cs with
    | _, [] => none
    | .start, ']' :: rest => if s.hasLiterals then readClass? s fuel depth .items rest else none
    | .start, '-' :: rest | .dashes, '-' :: rest =>
      if s.hasLiterals then readClass? s fuel depth .dashes rest else none
    | _, '[' :: rest =>
      match readAsciiClass? rest with
      | some (negated, rest) =>
        if s.hasLiterals && (s.unicode || !negated) then readClass? s fuel depth .items rest
        else none
      | none => (openClass? s rest).bind (readClass? s fuel (depth + 1) .start)
    | _, ']' :: rest =>
      match depth with
      | 0 => some rest
      | depth + 1 => readClass? s fuel depth .items rest
    | _, '&' :: '&' :: rest | _, '-' :: '-' :: rest | _, '~' :: '~' :: rest =>
      readClass? s fuel depth .items rest
    | _, cs => (readRange? s cs).bind (readClass? s fuel depth .items)

end VariantPlan.Pattern
