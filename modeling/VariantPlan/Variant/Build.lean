import VariantPlan.Choice

/-!
# Build settings

The **build type** of a compiled library, the request for **position-independent code** and the
**generator** settings of the toolchain.
-/

namespace VariantPlan

/-- How a library is compiled. -/
inductive BuildType where
  | debug
  | release
  | relWithDebInfo
  | minSizeRel
deriving DecidableEq

instance : Choice BuildType where
  all := [.debug, .release, .relWithDebInfo, .minSizeRel]
  name
    | .debug => "Debug"
    | .release => "Release"
    | .relWithDebInfo => "RelWithDebInfo"
    | .minSizeRel => "MinSizeRel"

/-- The request for position-independent code. It does not apply to shared builds, to MSVC-class
compilers and to Windows, which is not the same as being turned off. -/
inductive Fpic where
  | enabled
  | disabled
  | notApplicable
deriving DecidableEq

instance : Choice Fpic where
  all := [.enabled, .disabled, .notApplicable]
  name
    | .enabled => "enabled"
    | .disabled => "disabled"
    | .notApplicable => "not_applicable"

namespace Fpic

/-- The request that a flag expresses. -/
def ofFlag (requested : Bool) : Fpic := if requested then .enabled else .disabled

/-- Whether there is a request at all. -/
def isApplicable : Fpic → Bool
  | .notApplicable => false
  | _ => true

end Fpic

/-- Toolchain settings that MSVC-class compilers do not take. -/
structure Generator where
  platform : Option String
  toolset : Option String
deriving DecidableEq

namespace Generator

def unset : Generator := ⟨none, none⟩

def isUnset (g : Generator) : Bool := g.platform.isNone && g.toolset.isNone

end Generator

end VariantPlan
