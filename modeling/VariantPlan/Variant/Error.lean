import VariantPlan.Compiler.Standard
import VariantPlan.Variant.Backend
import VariantPlan.Version.Basic

/-!
# Configuration errors

Why a variant cannot be built from what its caller gave, or why it is not valid. An error keeps
its cause as data; `ConfigError.message` is the one place that puts it into words.
-/

namespace VariantPlan

/-- What is wrong with the text of a version or standard. -/
inductive VersionFault where
  /-- There are more than three parts between dots. -/
  | tooManyParts
  /-- A part is no number of 64 bits. -/
  | notANumber (part : String)
  /-- The text names no C++ standard. -/
  | notAStandard
deriving DecidableEq

def VersionFault.message : VersionFault → String
  | .tooManyParts => "expected one to three dot-separated numbers"
  | .notANumber part => "'" ++ part ++ "' is not a number"
  | .notAStandard => "expected a two-digit standard such as 17 or gnu17"

/-- The standard that every variant needs. -/
def requiredStandard : CppStandard := CppStandard.cpp17

/-- Why a configuration is refused. -/
inductive ConfigError where
  /-- A field got a text that names none of its values. -/
  | unknownValue (field value : String) (expected : List String)
  /-- There is no option or setting of that name, or a token does not have the form of one. -/
  | unknownOption (option : String)
  /-- A setting that has no default was not made. -/
  | missingSetting (setting : String)
  /-- A version or standard cannot be read. -/
  | invalidVersion (field value : String) (fault : VersionFault)
  /-- The compiler is set to a standard before the required one. -/
  | standardTooLow (family : String) (version : Version) (observed : CppStandard)
  /-- The compiler comes before the first version that supports the required standard. -/
  | compilerTooOld (family : String) (version minimum : Version)
  /-- The threading backend has no runtime on the target system. -/
  | noThreadRuntime (threading : Threading)
deriving DecidableEq

namespace ConfigError

/-- The fields whose combination has no runtime. -/
def runtimeFields : String := "os, threading"

/-- Why a threading backend cannot be used. -/
def runtimeReason (threading : Threading) : String :=
  "threading=" ++ Choice.name threading ++ " has no Emscripten runtime"

/-- The values a field takes, as a diagnostic lists them. -/
def expectedText (expected : List String) : String := String.intercalate ", " expected

def message : ConfigError → String
  | .unknownValue field value expected =>
    "unknown value '" ++ value ++ "' for " ++ field ++ " (expected one of: " ++
      expectedText expected ++ ")"
  | .unknownOption option => "unknown option '" ++ option ++ "'"
  | .missingSetting setting => "missing required setting '" ++ setting ++ "'"
  | .invalidVersion field value fault =>
    "invalid " ++ field ++ " '" ++ value ++ "': " ++ fault.message
  | .standardTooLow family version observed =>
    "compiler " ++ family ++ " " ++ version.text ++ " reports compiler.cppstd=" ++ observed.text ++
      " but C++" ++ requiredStandard.text ++ " is required"
  | .compilerTooOld family version minimum =>
    "compiler " ++ family ++ " " ++ version.text ++ " is older than " ++ minimum.text ++
      ", the minimum supporting C++" ++ requiredStandard.text
  | .noThreadRuntime threading =>
    "options " ++ runtimeFields ++ " cannot be combined: " ++ runtimeReason threading

end ConfigError

/-- The value of a field that a text names exactly. -/
def Choice.read {α : Type} [Choice α] (field value : String) : Except ConfigError α :=
  match Choice.ofName? value with
  | some a => .ok a
  | none => .error (.unknownValue field value (Choice.names α))

end VariantPlan
