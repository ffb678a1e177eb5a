import VariantPlan.Pattern.Scope
import VariantPlan.Text.Hexadecimal

/-!
# Escapes of a pattern

A backslash gives the character after it another meaning. Marks and controls of ASCII stand for
themselves, some letters for a control, for a place between characters or for a class of
characters, and `x`, `u` and `U` for the character with the number of two, four or eight
hexadecimal digits. No other letter, and no digit, may be escaped.
-/

namespace VariantPlan.Pattern

/-- What an escape stands for. -/
inductive Escape where
  | literal (c : Char)
  /-- A literal by two digits, which is a byte where the pattern is about bytes. -/
  | byte (c : Char)
  /-- A class of characters, or what is not in it. -/
  | shorthand (negated : Bool)
  /-- A place between characters, perhaps at the edge of a word. -/
  | place (ofWord : Bool)
deriving DecidableEq

/-- Whether an escape can be used outside brackets. The classes and the words of a pattern about
characters are not known, and a pattern about bytes must not match half a character. -/
def Escape.fits (s : Scope) : Escape → Bool
  | .literal _ => s.hasLiterals
  | .byte c => s.hasLiterals && (s.unicode || c.toNat < 128)
  | .shorthand negated => !s.unicode && !negated
  | .place ofWord => !ofWord || !s.unicode

/-- Whether an escape can be used in brackets, where a byte must be one of ASCII. -/
def Escape.fitsInClass (s : Scope) : Escape → Bool
  | .literal c | .byte c => s.hasLiterals && (s.unicode || c.toNat < 128)
  | .shorthand negated => !s.unicode && !negated
  | .place _ => false

/-- The character of a literal. -/
def Escape.char? : Escape → Option Char
  | .literal c | .byte c => some c
  | _ => none

/-- Read a number of hexadecimal digits. -/
def readDigits? (s : Scope) : Nat → Nat → List Char → Option (Nat × List Char)
  | 0, value, cs => some (value, cs)
  | n + 1, value, cs =>
    match s.skip cs with
    | [] => none
    | c :: rest => (Text.hexValue? c).bind fun d => readDigits? s n (16 * value + d) rest

/-- Read the character with a number of so many digits. -/
def readNumbered? (s : Scope) (digits : Nat) (cs : List Char) : Option (Char × List Char) := do
  let (n, rest) ← readDigits? s digits 0 cs
  if h : n.isValidChar then some (Char.ofNatAux n h, rest) else none

/-- What an escaped letter stands for without digits. -/
def letterEscape? : Char → Option Escape
  | 'a' => some (.literal '\x07')
  | 'f' => some (.literal '\x0c')
  | 'n' => some (.literal '\n')
  | 'r' => some (.literal '\r')
  | 't' => some (.literal '\t')
  | 'v' => some (.literal '\x0b')
  | 'd' | 's' | 'w' => some (.shorthand false)
  | 'D' | 'S' | 'W' => some (.shorthand true)
  | 'A' | 'z' => some (.place false)
  | 'b' | 'B' | '<' | '>' => some (.place true)
  | _ => none

def readEscape? (s : Scope) : List Char → Option (Escape × List Char)
  | [] => none
  | 'x' :: rest => (readNumbered? s 2 rest).map fun p => (.byte p.1, p.2)
  | 'u' :: rest => (readNumbered? s 4 rest).map fun p => (.literal p.1, p.2)
  | 'U' :: rest => (readNumbered? s 8 rest).map fun p => (.literal p.1, p.2)
  | c :: rest =>
    match letterEscape? c with
    | some e => some (e, rest)
    | none => if c.toNat < 128 && !c.isAlphanum then some (.literal c, rest) else none

end VariantPlan.Pattern
