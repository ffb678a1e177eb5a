import VariantPlan.Compiler.Basic
import VariantPlan.SortedMap
import VariantPlan.Variant.Build
import VariantPlan.Variant.Platform
import VariantPlan.Variant.Value

/-!
# Variants

A variant is one configuration of the package: the backends, the linkage, the platform and the
compiler it is built with, and the options its caller hands on to dependencies. Everything that a
build plan holds follows from the variant and the host.
-/

namespace VariantPlan

/-- Options for dependencies, by the name of the dependency and then of the option. -/
abbrev DependencyOptions : Type := SortedMap String (SortedMap String OptionValue)

/-- One configuration of the package. -/
structure Variant where
  geometry : Geometry
  optimizer : Optimizer
  threading : Threading
  shared : Bool
  fpic : Fpic
  headerOnly : Bool
  jsBindings : Bool
  tests : Bool
  pythonVersion : String
  system : System
  compiler : Compiler
  buildType : BuildType
  generator : Generator
  dependencyOptions : DependencyOptions
deriving DecidableEq

namespace Variant

/-- A variant from which others are made by changing some of its fields. -/
def sample : Variant where
  geometry := .clipper
  optimizer := .nlopt
  threading := .std
  shared := true
  fpic := .notApplicable
  headerOnly := false
  jsBindings := false
  tests := false
  pythonVersion := "3.9"
  system := .linux
  compiler := ⟨"gcc", .release 12 0 0, none⟩
  buildType := .release
  generator := .unset
  dependencyOptions := .empty

/-- Whether position-independent code is a question at all: it is for static libraries that are
not built by an MSVC-class compiler or for Windows. -/
def fpicApplies (v : Variant) : Bool :=
  !v.shared && !v.compiler.isMsvcClass && v.system != .windows

/-- Whether a shared library is built. A header-only package builds none. -/
def buildsShared (v : Variant) : Bool := v.shared && !v.headerOnly

/-- The variant without a request for position-independent code where there is no question. -/
def settleFpic (v : Variant) : Variant :=
  { v with fpic := if v.fpicApplies then v.fpic else .notApplicable }

theorem settleFpic_settleFpic (v : Variant) : v.settleFpic.settleFpic = v.settleFpic := by
  have h : v.settleFpic.settleFpic.fpic = v.settleFpic.fpic := by
    show (if v.fpicApplies then (if v.fpicApplies then v.fpic else .notApplicable)
      else .notApplicable) = if v.fpicApplies then v.fpic else Fpic.notApplicable
    cases v.fpicApplies <;> rfl
  exact congrArg (fun f => { v with fpic := f }) h

end Variant

end VariantPlan
