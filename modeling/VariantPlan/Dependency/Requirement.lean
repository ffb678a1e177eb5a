import VariantPlan.Choice
import VariantPlan.Dependency.Package
import VariantPlan.SortedMap
import VariantPlan.Variant.Value

/-!
# Requirements

A requirement asks for a package in certain versions, says what it is needed for, and hands options
on to it. **Forcing** an option overrides whatever value it had.

Main result: `option?_force` (forcing changes that option and no other).
-/

namespace VariantPlan

/-- What a requirement is needed for. -/
inductive RequirementKind where
  /-- It is linked into the library or its consumers. -/
  | library
  /-- It runs at build time only. -/
  | tool
  /-- The tests are built with it. -/
  | test
deriving DecidableEq

instance : Choice RequirementKind where
  all := [.library, .tool, .test]
  name
    | .library => "library"
    | .tool => "tool"
    | .test => "test"

/-- The need for a package. -/
structure Requirement where
  name : String
  constraint : VersionConstraint
  kind : RequirementKind
  options : SortedMap String OptionValue
deriving DecidableEq

namespace Requirement

/-- The need for a known package, with options from its caller. -/
def ofPackage (p : Package) (kind : RequirementKind) (options : SortedMap String OptionValue) :
    Requirement :=
  ⟨p.name, p.constraint, kind, options⟩

/-- Give an option a value, whatever value it had. -/
def force (r : Requirement) (key : String) (value : OptionValue) : Requirement :=
  { r with options := r.options.insert key value }

/-- The value that is handed on for an option. -/
def option? (r : Requirement) (key : String) : Option OptionValue := r.options.get? key

theorem option?_force (r : Requirement) (key key' : String) (value : OptionValue) :
    (r.force key value).option? key' = if key' = key then some value else r.option? key' :=
  SortedMap.get?_insert ..

end Requirement

end VariantPlan
