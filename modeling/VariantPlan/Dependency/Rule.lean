import VariantPlan.Dependency.Requirement
import VariantPlan.Variant.Validation

/-!
# Dependency rules

Requirements are worked out by **rules**, applied in order. What a rule does is a list of actions
that depends on the variant alone: require a package, force an option of a required package, force
an option of everything required so far.

A package is required once. The first time, it takes the options that the caller has for it; later
rules may force options over them. At the end the caller is warned of options for packages that
are not required.
-/

namespace VariantPlan

/-! ## Actions -/

/-- One effect of a rule. -/
inductive RuleAction where
  | require (package : Package)
  | force (package : Package) (key : String) (value : OptionValue)
  | forceAll (key : String) (value : OptionValue)
deriving DecidableEq

/-- The event of a package that becomes required. -/
def requiringEvent (p : Package) : Event where
  severity := .debug
  stage := .resolution
  message := "requiring"
  fields := [("dependency", .quoted p.name), ("constraint", .shown p.constraint.text)]

def isRequired (name : String) (rs : List Requirement) : Bool := rs.any fun r => r.name == name

/-- Carry out an action on the requirements so far. -/
def RuleAction.apply (seeds : DependencyOptions) (rs : List Requirement) :
    RuleAction → Logged (List Requirement)
  | .require p =>
    if isRequired p.name rs then pure rs
    else do
      Logged.log (requiringEvent p)
      return rs ++ [.ofPackage p .library (seeds.getD p.name .empty)]
  | .force p key value =>
    pure (rs.map fun r => if r.name == p.name then r.force key value else r)
  | .forceAll key value => pure (rs.map (·.force key value))

/-! ## Rules -/

/-- A named list of actions, given by the variant. -/
structure DependencyRule where
  name : String
  actions : Variant → List RuleAction

namespace DependencyRule

/-- Boost is used for its headers only, by the Python that the variant asks for. -/
def boostActions (v : Variant) : List RuleAction :=
  [.require .boost, .force .boost "header_only" (.flag true),
    .force .boost "python_version" (.text v.pythonVersion)]

/-- The geometry backend; Clipper needs Boost beside it. -/
def geometry : DependencyRule where
  name := "geometries"
  actions v :=
    match v.geometry with
    | .clipper => .require .clipper :: boostActions v
    | .boost => boostActions v
    | .eigen => [.require .eigen]

/-- The optimizer backend. -/
def optimizer : DependencyRule where
  name := "optimizer"
  actions v :=
    match v.optimizer with
    | .nlopt => [.require .nlopt]
    | .optimlib => [.require .armadillo]

/-- The runtime of the threading backend, if it has one of its own. -/
def threading : DependencyRule where
  name := "threading"
  actions v :=
    match v.threading with
    | .tbb => [.require .oneTbb]
    | .omp => [.require .llvmOpenmp]
    | .std | .none => []

/-- The logging library. -/
def logging : DependencyRule where
  name := "logging"
  actions _ := [.require .spdlog]

/-- Everything required follows the linkage of the package, and is shared under a header-only
one. -/
def linkage : DependencyRule where
  name := "linkage"
  actions v := [.forceAll "shared" (.flag (v.headerOnly || v.shared))]

/-- The rules, in the order of their application. -/
def all : List DependencyRule := [geometry, optimizer, threading, logging, linkage]

def event (r : DependencyRule) : Event where
  severity := .debug
  stage := .resolution
  message := "applying dependency rule"
  fields := [("rule", .quoted r.name)]

def apply (v : Variant) (rs : List Requirement) (r : DependencyRule) :
    Logged (List Requirement) := do
  Logged.log r.event
  (r.actions v).foldlM (RuleAction.apply v.dependencyOptions) rs

end DependencyRule

/-! ## Resolution -/

namespace ValidVariant

/-- What the build needs beside the libraries: the build system, and the test framework if tests
are built. -/
def toolRequirements (v : ValidVariant) : List Requirement :=
  .ofPackage .cmake .tool .empty ::
    if v.tests then
      [.ofPackage .catch2 .test (v.dependencyOptions.getD Package.catch2.name .empty)]
    else []

/-- The requirements that the rules lead to, with the events of working them out. -/
def applyRules (v : ValidVariant) : Logged (List Requirement) :=
  DependencyRule.all.foldlM (DependencyRule.apply v.toVariant) []

/-- The libraries that a variant requires, in the order in which rules ask for them. -/
def requirements (v : ValidVariant) : List Requirement := v.applyRules.value

/-- The names under which the caller has options that nothing required takes. -/
def ignoredNames (v : ValidVariant) : List String :=
  v.dependencyOptions.keys.filter fun name =>
    !isRequired name (v.requirements ++ v.toolRequirements)

/-- The warning of options that nothing required takes. -/
def ignoredEvent (name : String) : Event where
  severity := .warn
  stage := .resolution
  message := "ignoring options for a dependency this configuration does not require"
  fields := [("dependency", .shown name)]

/-- Work out the required libraries, and warn of options that nothing takes. -/
def resolve (v : ValidVariant) : Logged (List Requirement) :=
  ⟨v.requirements, v.applyRules.events ++ v.ignoredNames.map ignoredEvent⟩

end ValidVariant

end VariantPlan
