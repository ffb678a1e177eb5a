import VariantPlan.Variant.Validation

/-!
# Identities

The identity of a package is what two builds must share to be interchangeable. The settings of the
compilation count only where something is compiled; generator settings never do.
-/

namespace VariantPlan

/-- What identifies a package. -/
structure Identity where
  geometry : Geometry
  optimizer : Optimizer
  threading : Threading
  headerOnly : Bool
  jsBindings : Bool
  tests : Bool
  pythonVersion : String
  system : System
  shared : Option Bool
  fpic : Option Fpic
  buildType : Option BuildType
  compiler : Option Compiler
  dependencyOptions : DependencyOptions
deriving DecidableEq

namespace ValidVariant

/-- A setting of the compilation, if something is compiled. -/
def ifCompiled {α : Type} (v : ValidVariant) (setting : α) : Option α :=
  if v.headerOnly then none else some setting

def identity (v : ValidVariant) : Identity where
  geometry := v.geometry
  optimizer := v.optimizer
  threading := v.threading
  headerOnly := v.headerOnly
  jsBindings := v.jsBindings
  tests := v.tests
  pythonVersion := v.pythonVersion
  system := v.system
  shared := v.ifCompiled v.shared
  fpic := v.ifCompiled v.fpic
  buildType := v.ifCompiled v.buildType
  compiler := v.ifCompiled v.compiler
  dependencyOptions := v.dependencyOptions

end ValidVariant

end VariantPlan
