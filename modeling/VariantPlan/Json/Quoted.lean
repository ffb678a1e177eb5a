import VariantPlan.Text.Hexadecimal

/-!
# Quoted texts

A text is written between quotation marks. Only the quotation mark, the backslash and the
characters below U+0020 are escaped, the usual ones by a letter and the others by four hexadecimal
digits. All other characters stand for themselves.

A quoted text is read in two steps. **Code units** come first: each plain character gives its
code point, each escape the number that it names. The units are then **joined**: a high surrogate
followed by a low one is one character, and a surrogate alone makes the text unreadable.

Main result: `readUnits_quoted` (a written text reads back as the code points of its characters).
-/

namespace VariantPlan.Json

/-! ## Writing -/

/-- The written form of one character inside quotation marks. -/
def escape (c : Char) : List Char :=
  if c = '"' then ['\\', '"']
  else if c = '\\' then ['\\', '\\']
  else if c = '\x08' then ['\\', 'b']
  else if c = '\x0c' then ['\\', 'f']
  else if c = '\n' then ['\\', 'n']
  else if c = '\r' then ['\\', 'r']
  else if c = '\t' then ['\\', 't']
  else if c.toNat < 0x20 then
    ['\\', 'u', '0', '0', Nat.digitChar (c.toNat / 16), Nat.digitChar (c.toNat % 16)]
  else [c]

/-- A text between quotation marks. -/
def quoted (cs : List Char) : List Char := '"' :: (cs.flatMap escape ++ ['"'])

/-! ## Reading -/

/-- The number that four hexadecimal digits name. -/
def codeUnit? (a b c d : Char) : Option Nat := do
  let a ← Text.hexValue? a
  let b ← Text.hexValue? b
  let c ← Text.hexValue? c
  let d ← Text.hexValue? d
  some (((a * 16 + b) * 16 + c) * 16 + d)

/-- The code point that a single letter after a backslash names. -/
def letterEscape? (c : Char) : Option Nat :=
  match c with
  | '"' => some 0x22
  | '\\' => some 0x5C
  | '/' => some 0x2F
  | 'b' => some 0x08
  | 'f' => some 0x0C
  | 'n' => some 0x0A
  | 'r' => some 0x0D
  | 't' => some 0x09
  | _ => none

/-- The code units up to the closing quotation mark, and what follows it. -/
def readUnits : List Char → Option (List Nat × List Char)
  | [] => none
  | '"' :: rest => some ([], rest)
  | '\\' :: 'u' :: a :: b :: c :: d :: rest => do
    let u ← codeUnit? a b c d
    let (us, rest) ← readUnits rest
    some (u :: us, rest)
  | '\\' :: c :: rest => do
    let u ← letterEscape? c
    let (us, rest) ← readUnits rest
    some (u :: us, rest)
  | c :: rest =>
    if c.toNat < 0x20 then none
    else do
      let (us, rest) ← readUnits rest
      some (c.toNat :: us, rest)

/-- Whether a code unit is the first half of a surrogate pair. -/
def isHighSurrogate (u : Nat) : Bool := 0xD800 ≤ u && u < 0xDC00

/-- Whether a code unit is the second half of a surrogate pair. -/
def isLowSurrogate (u : Nat) : Bool := 0xDC00 ≤ u && u < 0xE000

/-- The characters that code units make, unless a surrogate stands alone. -/
def joinUnits? : List Nat → Option (List Char)
  | [] => some []
  | [u] => if isHighSurrogate u || isLowSurrogate u then none else some [Char.ofNat u]
  | u :: v :: rest =>
    if isHighSurrogate u then
      if isLowSurrogate v then
        (joinUnits? rest).map (Char.ofNat (0x10000 + (u - 0xD800) * 0x400 + (v - 0xDC00)) :: ·)
      else none
    else if isLowSurrogate u then none
    else (joinUnits? (v :: rest)).map (Char.ofNat u :: ·)

/-! ## Reading what was written -/

theorem readUnits_escape (c : Char) (rest : List Char) :
    readUnits (escape c ++ rest) = (readUnits rest).map fun p => (c.toNat :: p.1, p.2) := by
  unfold escape
  repeat' split
  all_goals try (subst_vars; simp [readUnits, letterEscape?]; cases readUnits rest <;> rfl)
  next h =>
    have h₁ := Text.hexValue?_digitChar (n := c.toNat / 16) (by omega)
    have h₂ := Text.hexValue?_digitChar (n := c.toNat % 16) (by omega)
    have h₃ : Text.hexValue? '0' = some 0 := by decide
    simp only [List.cons_append, List.nil_append, readUnits, codeUnit?, h₁, h₂, h₃]
    cases readUnits rest with
    | none => rfl
    | some p =>
      simp only [Option.bind_eq_bind, Option.bind_some, Option.map_some, Option.some.injEq]
      congr 2
      omega
  next hq hb _ _ _ _ _ h =>
    rw [List.cons_append, List.nil_append, readUnits]
    · rw [if_neg h]
      cases readUnits rest <;> rfl
    all_goals simp_all

/-- A written text reads back as the code points of its characters. -/
theorem readUnits_quoted (cs rest : List Char) :
    readUnits (cs.flatMap escape ++ '"' :: rest) = some (cs.map Char.toNat, rest) := by
  induction cs with
  | nil => simp [readUnits]
  | cons c cs ih =>
    rw [List.flatMap_cons, List.append_assoc, readUnits_escape, ih]
    rfl

end VariantPlan.Json
