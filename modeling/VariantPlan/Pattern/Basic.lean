import VariantPlan.Pattern.Class
import VariantPlan.Text.Alphanumeric

/-!
# Patterns

A pattern describes texts: literals, a dot for any character, classes in brackets, places such as
the start of a line, alternatives between bars, groups in parentheses, and the repetitions `?`,
`*` and `+`, each perhaps with a question mark after it. Nothing is matched here; `isValid` tells
whether a text is a pattern.

A group may have a name, which no other group has, or flags. Flags without a colon set the scope
for the rest of the group around them. What is repeated must stand in the same group and
alternative. A count in braces is no repetition here, looking around is not known, and a dot needs
a pattern about characters.
-/

namespace VariantPlan.Pattern

/-- The place of a reader in a pattern. -/
structure Reading where
  scope : Scope
  /-- The scopes of the open groups, the innermost first, as they are after the group. -/
  outer : List Scope
  /-- Whether there is something before that can be repeated. -/
  repeatable : Bool
  /-- The names of groups. -/
  names : List (List Char)

namespace Reading

/-- The reader before a pattern. -/
def initial : Reading := ⟨.initial, [], false, []⟩

/-- The reader inside a group with a scope. -/
def enter (r : Reading) (scope : Scope) : Reading :=
  { r with scope, outer := r.scope :: r.outer, repeatable := false }

/-- The reader after something that can be repeated, if it `fits`. -/
def after? (r : Reading) (fits : Bool) (rest : List Char) : Option (Reading × List Char) :=
  if fits then some ({ r with repeatable := true }, rest) else none

end Reading

/-- Whether a character may stand in the name of a group, at its start or later. -/
def isNameChar (start : Bool) (c : Char) : Bool :=
  if start then c == '_' || Text.isAlphabetic c
  else c == '_' || c == '.' || c == '[' || c == ']' || Text.isAlphanumeric c

/-- Read the name of a group and its end. -/
def readName? (cs : List Char) : Option (List Char × List Char) :=
  let name := cs.takeWhile (· != '>')
  match name, cs.drop name.length with
  | first :: later, '>' :: rest =>
    if isNameChar true first && later.all (isNameChar false) then some (name, rest) else none
  | _, _ => none

/-- Read what follows an opening parenthesis. -/
def openGroup? (r : Reading) (cs : List Char) : Option (Reading × List Char) :=
  match cs with
  | '?' :: '=' :: _ | '?' :: '!' :: _ | '?' :: '<' :: '=' :: _ | '?' :: '<' :: '!' :: _ => none
  | '?' :: 'P' :: '<' :: rest | '?' :: '<' :: rest => do
    let (name, rest) ← readName? rest
    if r.names.contains name then none
    else some ({ r.enter r.scope with names := name :: r.names }, rest)
  | '?' :: rest => do
    match ← readFlags? [] false false r.scope rest with
    | (.here scope, rest) => some ({ r with scope, repeatable := false }, rest)
    | (.group scope, rest) => some (r.enter scope, rest)
  | cs => some (r.enter r.scope, cs)

/-- Pass over the mark of a repetition that may end early. -/
def dropLazy : List Char → List Char
  | '?' :: rest => rest
  | cs => cs

/-- Read one part of a pattern. -/
def step? (r : Reading) : List Char → Option (Reading × List Char)
  | [] => none
  | '(' :: rest => openGroup? r (r.scope.skip rest)
  | ')' :: rest =>
    match r.outer with
    | [] => none
    | scope :: outer => some ({ r with scope, outer, repeatable := true }, rest)
  | '|' :: rest => some ({ r with repeatable := false }, rest)
  | '[' :: rest => do
    let inside ← openClass? r.scope rest
    r.after? true (← readClass? r.scope (rest.length + 1) 0 .start inside)
  | '?' :: rest | '*' :: rest | '+' :: rest => r.after? r.repeatable (dropLazy rest)
  | '\x7b' :: _ => none
  | '\\' :: rest => do
    let (e, rest) ← readEscape? r.scope rest
    r.after? (e.fits r.scope) rest
  | '.' :: rest => r.after? r.scope.unicode rest
  | '^' :: rest | '$' :: rest => r.after? true rest
  | _ :: rest => r.after? r.scope.hasLiterals rest

/-- Whether the rest of a text completes a pattern, in a number of steps. -/
def completes : Nat → Reading → List Char → Bool
  | 0, _, _ => false
  | fuel + 1, r, cs =>
    match r.scope.skip cs with
    | [] => r.outer.isEmpty
    | cs =>
      match step? r cs with
      | some (r, rest) => completes fuel r rest
      | none => false

def isValid (cs : List Char) : Bool := completes (cs.length + 1) .initial cs

end VariantPlan.Pattern
