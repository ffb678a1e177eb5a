import VariantPlan.Text.Letter
import VariantPlan.Variant.Error

/-!
# Compilers

A compiler is known by its **family**, its version and the C++ standard it is set to, if that is
reported. Families are compared in normal form: small letters, words joined by hyphens.

A compiler reports one to three numbers as its version; the missing ones are zero.
-/

namespace VariantPlan

/-- A compiler as the toolchain reports it. -/
structure Compiler where
  family : String
  version : Version
  standard : Option CppStandard
deriving DecidableEq

namespace Compiler

/-! ## Families -/

/-- The family in small letters, its words joined by hyphens. -/
def normalizeFamily (s : String) : String :=
  String.ofList (['-'].intercalate ((Text.words s.toList).map (·.map Char.toLower)))

/-- The families that are treated like MSVC. -/
def msvcFamilies : List String := ["msvc", "visual-studio"]

/-- The first version of each known family that supports the required standard. -/
def minimumVersions : List (String × Version) :=
  [("gcc", .release 9 0 0), ("clang", .release 9 0 0), ("apple-clang", .release 9 0 0),
    ("msvc", .release 192 0 0), ("visual-studio", .release 14 0 0)]

/-- The first version of a family that supports the required standard, if the family is known. -/
def minimumVersion? (family : String) : Option Version := minimumVersions.lookup family

/-- Whether a compiler is treated like MSVC. -/
def isMsvcClass (c : Compiler) : Bool := msvcFamilies.contains c.family

/-! ## Versions -/

/-- One number of a reported version. -/
def readPart (raw : String) (part : List Char) : Except ConfigError UInt64 :=
  match Text.read? Text.wordBound part with
  | some n => .ok (UInt64.ofNat n)
  | none => .error (.invalidVersion "compiler.version" raw (.notANumber (String.ofList part)))

def readVersion (raw : String) : Except ConfigError Version :=
  let parts := (Text.trim raw.toList).splitOn '.'
  if 3 < parts.length then .error (.invalidVersion "compiler.version" raw .tooManyParts)
  else do
    let numbers ← parts.mapM (readPart raw)
    return .release (numbers.getD 0 0) (numbers.getD 1 0) (numbers.getD 2 0)

def readStandard (raw : String) : Except ConfigError CppStandard :=
  match CppStandard.ofText? raw with
  | some s => .ok s
  | none => .error (.invalidVersion "compiler.cppstd" raw .notAStandard)

/-! ## Compilers -/

/-- The compiler with the given family, version and standard texts. -/
def ofTexts (family version : String) (standard : Option String) : Except ConfigError Compiler := do
  let version ← readVersion version
  let standard ← match standard with
    | none => pure none
    | some s => some <$> readStandard s
  return ⟨normalizeFamily family, version, standard⟩

/-- The family and the version of a compiler, as a report names it. -/
def text (c : Compiler) : String := c.family ++ " " ++ c.version.text

end Compiler

end VariantPlan
