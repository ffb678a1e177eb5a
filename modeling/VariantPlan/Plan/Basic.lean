import VariantPlan.Dependency.Rule
import VariantPlan.Path
import VariantPlan.Plan.Artifact
import VariantPlan.Plan.Assets
import VariantPlan.Plan.Layout

/-!
# Build plans

A plan is what a build needs to know: what to require, what the artifact is called, where things
are installed, which headers of other backends to remove from the installed tree, which files to
expect, and the variables of the build system. It follows from a valid variant and the host.

**Planning** logs the events of working out the requirements and tells about the finished plan.
**Resolving** validates first; a variant that is not valid is its only failure.

Main results: `value_plan` (planning is a function of the variant and the host) and
`value_resolvePlan`.
-/

namespace VariantPlan

/-- A set of names, kept in order. -/
abbrev NameSet : Type := SortedMap String Unit

/-- The set of the given names. -/
def NameSet.ofNames (names : List String) : NameSet := .ofList (names.map (·, ()))

/-- What a build needs to know. -/
structure BuildPlan where
  /-- The libraries to require. -/
  dependencies : List Requirement
  /-- The tools and test frameworks to require. -/
  tools : List Requirement
  artifact : Artifact
  /-- The libraries of the system to link. -/
  systemLibraries : NameSet
  layout : Layout
  /-- What to remove from the installed tree. -/
  prunedPaths : PathSet
  /-- The files to expect. -/
  assets : Option AssetManifest
  /-- The variables of the build system. -/
  cacheVariables : SortedMap String String

/-- The plan that asks for nothing. -/
def BuildPlan.empty : BuildPlan where
  dependencies := []
  tools := []
  artifact := ⟨"", "", "", []⟩
  systemLibraries := .empty
  layout := ⟨[], [], []⟩
  prunedPaths := .empty
  assets := none
  cacheVariables := .empty

/-! ## Parts of a plan -/

namespace Variant

def systemLibraries (v : Variant) : NameSet :=
  .ofNames (if v.threading == .std && v.system.linksPthread then ["pthread"] else [])

/-- The header directories of the backends that a variant does not use. -/
def prunedPaths (v : Variant) : PathSet :=
  let geometries := (Choice.all : List Geometry).filter (· != v.geometry)
  let optimizers := (Choice.all : List Optimizer).filter (· != v.optimizer)
  .ofList (geometries.map (fun g => ⟨Product.geometryDir (Choice.name g)⟩) ++
    optimizers.map (fun o => ⟨Product.optimizerDir (Choice.name o)⟩))

def switchText (on : Bool) : String := if on then "ON" else "OFF"

def cacheVariables (v : Variant) : SortedMap String String :=
  .ofList [
    ("HEADER_ONLY", switchText v.headerOnly),
    ("BUILD_SHARED_LIBS", switchText v.buildsShared),
    ("ENABLE_TESTING", switchText v.tests),
    ("GEOMETRIES", Choice.name v.geometry),
    ("OPTIMIZER", Choice.name v.optimizer),
    ("THREADING", Choice.name v.threading),
    ("WITH_JS_BINDINGS", switchText v.jsBindings)]

end Variant

/-! ## Planning -/

def countText (n : Nat) : String := String.ofList (Text.digits n)

namespace ValidVariant

/-- The plan of a variant on a host. -/
def planOn (v : ValidVariant) (host : Host) : BuildPlan where
  dependencies := v.requirements
  tools := v.toolRequirements
  artifact := v.artifact
  systemLibraries := v.systemLibraries
  layout := v.layout host
  prunedPaths := v.prunedPaths
  assets := v.assets?
  cacheVariables := v.cacheVariables

/-- The event of a finished plan. -/
def plannedEvent (v : ValidVariant) (p : BuildPlan) : Event where
  severity := .info
  stage := .planning
  message := "resolved build plan"
  fields := [
    ("geometries", .shown (Choice.name v.geometry)),
    ("optimizer", .shown (Choice.name v.optimizer)),
    ("threading", .shown (Choice.name v.threading)),
    ("os", .shown (Choice.name v.system)),
    ("dependencies", .shown (countText p.dependencies.length)),
    ("pruned", .shown (countText p.prunedPaths.size))]

/-- Plan a variant on a host, and tell about it. -/
def plan (v : ValidVariant) (host : Host) : Logged BuildPlan :=
  ⟨v.planOn host, v.resolve.events ++ [v.plannedEvent (v.planOn host)]⟩

theorem value_plan (v : ValidVariant) (host : Host) : (v.plan host).value = v.planOn host := rfl

end ValidVariant

/-! ## Resolving -/

/-- Why there is no plan. -/
inductive PlanError where
  /-- The variant is not valid. -/
  | config (cause : ConfigError)
deriving DecidableEq

def PlanError.message : PlanError → String
  | .config cause => "configuration error: " ++ cause.message

namespace Variant

/-- Validate a variant and plan it on a host. -/
def resolvePlan (v : Variant) (host : Host) : Logged (Except PlanError BuildPlan) := do
  match ← v.validate with
  | .error e => return .error (.config e)
  | .ok valid => return .ok (← valid.plan host)

/-- The plan of a valid variant, or the fault of an invalid one. -/
theorem value_resolvePlan (v : Variant) (host : Host) :
    (v.resolvePlan host).value =
      match v.validate? with
      | .error e => .error (.config e)
      | .ok valid => .ok (valid.planOn host) := by
  unfold resolvePlan
  rw [Logged.value_bind]
  show Logged.value (match v.validate? with | .error _ => _ | .ok _ => _) = _
  cases v.validate? <;> rfl

end Variant

end VariantPlan
