import Mathlib.Tactic.SplitIfs
import VariantPlan.Variant.Builder

/-!
# Steps as assignments

What a building step does can be told without regard to the builder: it fails with an error, or it
makes one **assignment**, a field with the value that it gets. The arms of a step are held against
this reading one by one, and from there on a step that fails leaves the builder exactly as it was,
and one that succeeds changes what its assignment says and nothing else.

Main results: `Builder.step_eq` (a step is its assignment), and `Builder.run_cons_of_error` and
`Builder.run_cons_of_ok` (what a step means for the steps after it).
-/

namespace VariantPlan

/-! ## Assignments -/

/-- A field of a builder with the value it gets. -/
inductive Assignment where
  | geometry (value : Geometry)
  | optimizer (value : Optimizer)
  | threading (value : Threading)
  | shared (value : Bool)
  | fpic (value : Bool)
  | headerOnly (value : Bool)
  | jsBindings (value : Bool)
  | tests (value : Bool)
  | pythonVersion (value : String)
  | system (value : System)
  | buildType (value : BuildType)
  | compilerFamily (value : String)
  | compilerVersion (value : String)
  | standard (value : String)
  | platform (value : String)
  | toolset (value : String)
  /-- An option of a dependency. -/
  | dependency (name key : String) (value : OptionValue)
  /-- The system to be taken if none was chosen. -/
  | defaultSystem (value : System)
deriving DecidableEq

namespace Assignment

/-- The assignment that an option's key and value make. -/
def ofOption (key : String) (value : OptionValue) : Except ConfigError Assignment :=
  if key = "geometries" then .geometry <$> Choice.read "geometries" value.asText
  else if key = "optimizer" then .optimizer <$> Choice.read "optimizer" value.asText
  else if key = "threading" then .threading <$> Choice.read "threading" value.asText
  else if key = "shared" then .shared <$> value.asFlag "shared"
  else if key = "fPIC" ∨ key = "fpic" then .fpic <$> value.asFlag "fPIC"
  else if key = "header_only" then .headerOnly <$> value.asFlag "header_only"
  else if key = "with_js_bindings" then .jsBindings <$> value.asFlag "with_js_bindings"
  else if key = "tests" then .tests <$> value.asFlag "tests"
  else if key = "python_version" then .ok (.pythonVersion value.asText)
  else .error (.unknownOption key)

/-- The assignment that a setting's key and value make. -/
def ofSetting (key value : String) : Except ConfigError Assignment :=
  if key = "os" then .system <$> Builder.readSystem value
  else if key = "build_type" then .buildType <$> Choice.read "build_type" value
  else if key = "compiler" then .ok (.compilerFamily value)
  else if key = "compiler.version" then .ok (.compilerVersion value)
  else if key = "compiler.cppstd" then .ok (.standard value)
  else if key = "compiler.generator_platform" then .ok (.platform value)
  else if key = "compiler.toolset" then .ok (.toolset value)
  else .error (.unknownOption key)

/-- The assignment that an option token makes. -/
def ofOptionToken (token : String) : Except ConfigError Assignment := do
  let (key, value) ← Builder.splitToken token
  match Text.cutText? ':' key with
  | some (name, key) => return .dependency name key (.ofToken value)
  | none => ofOption key (.ofToken value)

/-- The assignment that a setting token makes. -/
def ofSettingToken (token : String) : Except ConfigError Assignment := do
  let (key, value) ← Builder.splitToken token
  ofSetting key value

end Assignment

/-- The assignment that a step makes. -/
def BuildStep.assignment : BuildStep → Except ConfigError Assignment
  | .option key value => Assignment.ofOption key value
  | .setting key value => Assignment.ofSetting key value
  | .dependencyOption name key value => .ok (.dependency name key value)
  | .optionToken token => Assignment.ofOptionToken token
  | .settingToken token => Assignment.ofSettingToken token
  | .defaultSystem value => .ok (.defaultSystem value)

namespace Builder

/-- Give a field its value. -/
def assign (b : Builder) : Assignment → Builder
  | .geometry x => { b with geometry := x }
  | .optimizer x => { b with optimizer := x }
  | .threading x => { b with threading := x }
  | .shared x => { b with shared := x }
  | .fpic x => { b with fpic := x }
  | .headerOnly x => { b with headerOnly := x }
  | .jsBindings x => { b with jsBindings := x }
  | .tests x => { b with tests := x }
  | .pythonVersion x => { b with pythonVersion := x }
  | .system x => { b with system := some x }
  | .buildType x => { b with buildType := x }
  | .compilerFamily x => { b with compilerFamily := some x }
  | .compilerVersion x => { b with compilerVersion := some x }
  | .standard x => { b with standard := some x }
  | .platform x => { b with generator := { b.generator with platform := some x } }
  | .toolset x => { b with generator := { b.generator with toolset := some x } }
  | .dependency name key x => b.withDependencyOption name key x
  | .defaultSystem x => b.withDefaultSystem x

/-! ## Steps -/

/-- The outcome of an assignment that may have failed to be read, and the builder after it. -/
def after (b : Builder) : Except ConfigError Assignment → Except ConfigError Unit × Builder
  | .ok a => (.ok (), b.assign a)
  | .error e => (.error e, b)

variable {b : Builder} {s : BuildStep} {steps : List BuildStep} {a : Assignment} {e : ConfigError}

theorem run_read {α : Type} (value : Except ConfigError α) {next : α → Change}
    {make : α → Except ConfigError Assignment} (h : ∀ x, (next x).run.run b = b.after (make x)) :
    (ExceptT.run (liftM value >>= next)).run b = b.after (value >>= make) := by
  cases value with
  | error e => rfl
  | ok x => exact h x

theorem run_write {α : Type} (value : Except ConfigError α) {place : Builder → α → Builder}
    {make : α → Assignment} (h : ∀ x, place b x = b.assign (make x)) :
    (write value place).run.run b = b.after (make <$> value) := by
  cases value with
  | error e => rfl
  | ok x =>
    show (Except.ok (), place b x) = (.ok (), b.assign (make x))
    rw [h]

theorem run_setOption (key : String) (value : OptionValue) :
    (setOption key value).run.run b = b.after (Assignment.ofOption key value) := by
  unfold setOption Assignment.ofOption
  split_ifs
  iterate 8 exact run_write _ fun _ => rfl
  · rfl
  · rfl

theorem run_setSetting (key value : String) :
    (setSetting key value).run.run b = b.after (Assignment.ofSetting key value) := by
  unfold setSetting Assignment.ofSetting
  split_ifs
  iterate 2 exact run_write _ fun _ => rfl
  all_goals rfl

theorem run_applyOptionToken (token : String) :
    (applyOptionToken token).run.run b = b.after (Assignment.ofOptionToken token) := by
  refine run_read (splitToken token) fun pair => ?_
  obtain ⟨key, value⟩ := pair
  dsimp only
  cases Text.cutText? ':' key with
  | none => exact run_setOption key (.ofToken value)
  | some names => rfl

theorem run_applySettingToken (token : String) :
    (applySettingToken token).run.run b = b.after (Assignment.ofSettingToken token) :=
  run_read (splitToken token) fun pair => run_setSetting pair.1 pair.2

/-- **A step is its assignment.** It fails and leaves the builder as it was, or it succeeds and
makes the assignment. -/
theorem step_eq (b : Builder) (s : BuildStep) : b.step s = b.after s.assignment := by
  cases s with
  | option key value => exact run_setOption key value
  | setting key value => exact run_setSetting key value
  | dependencyOption name key value => rfl
  | optionToken token => exact run_applyOptionToken token
  | settingToken token => exact run_applySettingToken token
  | defaultSystem value => rfl

theorem step_of_error (h : s.assignment = .error e) : b.step s = (.error e, b) := by
  rw [step_eq, h, after]

theorem step_of_ok (h : s.assignment = .ok a) : b.step s = (.ok (), b.assign a) := by
  rw [step_eq, h, after]

/-! ## Steps after one another -/

/-- A step that fails changes nothing for those after it. -/
theorem run_cons_of_error (h : s.assignment = .error e) : b.run (s :: steps) = b.run steps := by
  rw [run, List.foldl_cons, step_of_error h]
  rfl

theorem run_cons_of_ok (h : s.assignment = .ok a) :
    b.run (s :: steps) = (b.assign a).run steps := by
  rw [run, List.foldl_cons, step_of_ok h]
  rfl

theorem advance_eq (b : Builder) (s : BuildStep) : b.advance s = b.assign <$> s.assignment := by
  rw [advance, step_eq]
  cases s.assignment <;> rfl

theorem runAll_cons_of_error (h : s.assignment = .error e) :
    b.runAll (s :: steps) = .error e := by
  rw [runAll, List.foldlM_cons, advance_eq, h]
  rfl

theorem runAll_cons_of_ok (h : s.assignment = .ok a) :
    b.runAll (s :: steps) = (b.assign a).runAll steps := by
  rw [runAll, List.foldlM_cons, advance_eq, h]
  rfl

end Builder

end VariantPlan
