import VariantPlan.Version.Basic

/-!
# Version constraints

A requirement admits any version, the versions from a floor on, or one version exactly. A
pre-release satisfies none of the bounded forms, since their bounds are releases, and build labels
do not count.
-/

namespace VariantPlan

/-- Which versions of a package are acceptable. -/
inductive VersionConstraint where
  /-- Every version. -/
  | any
  /-- The releases from the given one on. -/
  | atLeast (major minor patch : UInt64)
  /-- The given release. -/
  | exactly (major minor patch : UInt64)
deriving DecidableEq

namespace VersionConstraint

/-! ## Written form -/

def chars : VersionConstraint → List Char
  | .any => ['*']
  | .atLeast major minor patch => '>' :: '=' :: (Version.release major minor patch).chars
  | .exactly major minor patch => '=' :: (Version.release major minor patch).chars

def text (c : VersionConstraint) : String := String.ofList c.chars

/-- The three numbers of a bound. -/
def readBound? (cs : List Char) : Option (UInt64 × UInt64 × UInt64) := do
  let [major, minor, patch] := cs.splitOn '.' | none
  let major ← Version.readNumber? major
  let minor ← Version.readNumber? minor
  let patch ← Version.readNumber? patch
  some (major, minor, patch)

/-- Drop the spaces at both ends. -/
def stripSpaces (cs : List Char) : List Char :=
  ((cs.dropWhile (· == ' ')).reverse.dropWhile (· == ' ')).reverse

/-- A constraint in its written form, spaces allowed around the operator and at the end. -/
def ofChars? (cs : List Char) : Option VersionConstraint :=
  match stripSpaces cs with
  | ['*'] => some .any
  | '>' :: '=' :: rest => (readBound? (stripSpaces rest)).map fun (a, b, c) => .atLeast a b c
  | '=' :: rest => (readBound? (stripSpaces rest)).map fun (a, b, c) => .exactly a b c
  | _ => none

/-- A constraint in its written form. -/
def ofText? (s : String) : Option VersionConstraint := ofChars? s.toList

/-! ## Matching -/

def admits (c : VersionConstraint) (v : Version) : Bool :=
  v.pre.isEmpty && match c with
    | .any => true
    | .atLeast major minor patch => !v.precedes (Version.release major minor patch)
    | .exactly major minor patch => v.major == major && v.minor == minor && v.patch == patch

end VersionConstraint

end VariantPlan
