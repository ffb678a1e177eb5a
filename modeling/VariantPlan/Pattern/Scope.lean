import VariantPlan.Text.Blank

/-!
# Scopes of a pattern

How a part of a pattern is read depends on the flags that are set where it stands:

* **verbose**: blanks between the parts, and comments from a hash to the end of the line, do not
  count;
* **ignoresCase**: letters stand for both of their cases;
* **unicode**: the pattern is about characters; without it, it is about bytes.

The other flags say what a pattern matches and not how it is read. Case pairs and classes of
letters are known for bytes only, so a scope about characters that ignores case has no literals.
-/

namespace VariantPlan.Pattern

/-- The flags that are set where a part of a pattern stands. -/
structure Scope where
  verbose : Bool
  ignoresCase : Bool
  unicode : Bool
deriving DecidableEq

namespace Scope

/-- The scope in which a pattern begins. -/
def initial : Scope := ⟨false, false, true⟩

/-- Whether literals and classes can be used. -/
def hasLiterals (s : Scope) : Bool := !(s.ignoresCase && s.unicode)

/-- Set a flag or clear it. -/
def setFlag? (s : Scope) (value : Bool) : Char → Option Scope
  | 'x' => some { s with verbose := value }
  | 'i' => some { s with ignoresCase := value }
  | 'u' => some { s with unicode := value }
  | 'm' | 's' | 'U' | 'R' => some s
  | _ => none

/-! ## Blanks -/

/-- Drop blanks and comments; `comment` tells whether the text begins inside one. -/
def skipBlanks (comment : Bool) : List Char → List Char
  | [] => []
  | c :: rest =>
    if comment then skipBlanks (c != '\n') rest
    else if Text.isBlank c then skipBlanks false rest
    else if c = '#' then skipBlanks true rest
    else c :: rest

/-- Drop what does not count before the next part. -/
def skip (s : Scope) (cs : List Char) : List Char := if s.verbose then skipBlanks false cs else cs

end Scope

/-! ## Flags -/

/-- What a list of flags begins. -/
inductive FlagUse where
  /-- The rest of the group around it. -/
  | here (scope : Scope)
  /-- A group of its own. -/
  | group (scope : Scope)
deriving DecidableEq

/-- Read flags up to a colon or a closing parenthesis. A minus sign clears the flags after it; it
may stand once and not at the end, and no flag stands twice. -/
def readFlags? (seen : List Char) (cleared dangling : Bool) (s : Scope) :
    List Char → Option (FlagUse × List Char)
  | [] => none
  | ':' :: rest => if dangling then none else some (.group s, rest)
  | ')' :: rest => if dangling || seen.isEmpty then none else some (.here s, rest)
  | '-' :: rest => if cleared then none else readFlags? seen true true s rest
  | c :: rest =>
    if seen.contains c then none
    else (s.setFlag? (!cleared) c).bind fun s => readFlags? (c :: seen) cleared false s rest

end VariantPlan.Pattern
