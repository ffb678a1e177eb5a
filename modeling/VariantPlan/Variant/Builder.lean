import VariantPlan.Text.Split
import VariantPlan.Variant.Basic

/-!
# Building variants

A builder starts from the defaults of the package and takes one **change** after another. A change
reads a value and puts it in its place; one that fails tells why and leaves a builder as well,
whatever it has done to it by then. A key `dependency:key` in an option token sets an option of a
dependency.

**Building** asks for the settings that have no default and reads the compiler's version and
standard, which are kept as texts until then.
-/

namespace VariantPlan

/-! ## Builders -/

/-- The values that a variant will be built from. -/
structure Builder where
  geometry : Geometry
  optimizer : Optimizer
  threading : Threading
  shared : Bool
  fpic : Bool
  headerOnly : Bool
  jsBindings : Bool
  tests : Bool
  pythonVersion : String
  system : Option System
  buildType : BuildType
  compilerFamily : Option String
  compilerVersion : Option String
  standard : Option String
  generator : Generator
  dependencyOptions : DependencyOptions
deriving DecidableEq

namespace Builder

/-- The defaults of the package. -/
def default : Builder where
  geometry := .clipper
  optimizer := .nlopt
  threading := .std
  shared := true
  fpic := true
  headerOnly := false
  jsBindings := false
  tests := false
  pythonVersion := "3.9"
  system := none
  buildType := .release
  compilerFamily := none
  compilerVersion := none
  standard := none
  generator := .unset
  dependencyOptions := .empty

/-! ## Changes -/

/-- Set an option of a dependency, beside those that it has. -/
def withDependencyOption (b : Builder) (name key : String) (value : OptionValue) : Builder :=
  let options := (b.dependencyOptions.getD name .empty).insert key value
  { b with dependencyOptions := b.dependencyOptions.insert name options }

/-- Take a system, unless one was chosen. -/
def withDefaultSystem (b : Builder) (system : System) : Builder :=
  { b with system := some (b.system.getD system) }

/-- A change of a builder. The builder goes on whether the change succeeds or fails. -/
abbrev Change : Type := ExceptT ConfigError (StateM Builder) Unit

/-- Read a value and put it in its place. -/
def write {α : Type} (value : Except ConfigError α) (place : Builder → α → Builder) : Change := do
  let x ← value
  modify fun b => place b x

def setOption (key : String) (value : OptionValue) : Change :=
  if key = "geometries" then
    write (Choice.read "geometries" value.asText) fun b x => { b with geometry := x }
  else if key = "optimizer" then
    write (Choice.read "optimizer" value.asText) fun b x => { b with optimizer := x }
  else if key = "threading" then
    write (Choice.read "threading" value.asText) fun b x => { b with threading := x }
  else if key = "shared" then write (value.asFlag "shared") fun b x => { b with shared := x }
  else if key = "fPIC" ∨ key = "fpic" then
    write (value.asFlag "fPIC") fun b x => { b with fpic := x }
  else if key = "header_only" then
    write (value.asFlag "header_only") fun b x => { b with headerOnly := x }
  else if key = "with_js_bindings" then
    write (value.asFlag "with_js_bindings") fun b x => { b with jsBindings := x }
  else if key = "tests" then write (value.asFlag "tests") fun b x => { b with tests := x }
  else if key = "python_version" then modify fun b => { b with pythonVersion := value.asText }
  else throw (.unknownOption key)

/-- The system that a setting names, in any letter case. -/
def readSystem (value : String) : Except ConfigError System :=
  match System.ofName? value with
  | some found => .ok found
  | none => .error (.unknownValue "os" value (Choice.names System))

def setSetting (key value : String) : Change :=
  if key = "os" then write (readSystem value) fun b x => { b with system := some x }
  else if key = "build_type" then
    write (Choice.read "build_type" value) fun b x => { b with buildType := x }
  else if key = "compiler" then modify fun b => { b with compilerFamily := some value }
  else if key = "compiler.version" then modify fun b => { b with compilerVersion := some value }
  else if key = "compiler.cppstd" then modify fun b => { b with standard := some value }
  else if key = "compiler.generator_platform" then
    modify fun b => { b with generator := { b.generator with platform := some value } }
  else if key = "compiler.toolset" then
    modify fun b => { b with generator := { b.generator with toolset := some value } }
  else throw (.unknownOption key)

/-- The key and the value of a token, without the blanks around them. -/
def splitToken (token : String) : Except ConfigError (String × String) :=
  match Text.cutText? '=' token with
  | some (key, value) =>
    let key := Text.trimmed key
    if key = "" then .error (.unknownOption token) else .ok (key, Text.trimmed value)
  | none => .error (.unknownOption token)

/-- Apply an option token: of the package, or of a dependency that its key names. -/
def applyOptionToken (token : String) : Change := do
  let (key, value) ← splitToken token
  match Text.cutText? ':' key with
  | some (name, key) => modify fun b => b.withDependencyOption name key (.ofToken value)
  | none => setOption key (.ofToken value)

def applySettingToken (token : String) : Change := do
  let (key, value) ← splitToken token
  setSetting key value

/-! ## Building -/

/-- The compiler that a builder's texts describe, which must name its family and version. -/
def compiler (b : Builder) : Except ConfigError Compiler :=
  match b.compilerFamily, b.compilerVersion with
  | none, _ => .error (.missingSetting "compiler")
  | some _, none => .error (.missingSetting "compiler.version")
  | some family, some version => Compiler.ofTexts family version b.standard

def build (b : Builder) : Except ConfigError Variant :=
  match b.system with
  | none => .error (.missingSetting "os")
  | some system => do
    let compiler ← b.compiler
    return Variant.settleFpic {
      geometry := b.geometry
      optimizer := b.optimizer
      threading := b.threading
      shared := b.shared
      fpic := .ofFlag b.fpic
      headerOnly := b.headerOnly
      jsBindings := b.jsBindings
      tests := b.tests
      pythonVersion := b.pythonVersion
      system := system
      compiler := compiler
      buildType := b.buildType
      generator := b.generator
      dependencyOptions := b.dependencyOptions }

end Builder

/-! ## Sessions -/

/-- A step of a building session. -/
inductive BuildStep where
  | option (key : String) (value : OptionValue)
  | setting (key value : String)
  | dependencyOption (name key : String) (value : OptionValue)
  | optionToken (token : String)
  | settingToken (token : String)
  | defaultSystem (value : System)
deriving DecidableEq

/-- The change that a step makes. -/
def BuildStep.change : BuildStep → Builder.Change
  | .option key value => Builder.setOption key value
  | .setting key value => Builder.setSetting key value
  | .dependencyOption name key value => modify fun b => b.withDependencyOption name key value
  | .optionToken token => Builder.applyOptionToken token
  | .settingToken token => Builder.applySettingToken token
  | .defaultSystem value => modify fun b => b.withDefaultSystem value

namespace Builder

/-- Make a step: its outcome, and the builder that it leaves. -/
def step (b : Builder) (s : BuildStep) : Except ConfigError Unit × Builder := s.change.run.run b

/-- Make steps in order, and go on from whatever builder each of them leaves. -/
def run (b : Builder) (steps : List BuildStep) : Builder := steps.foldl (fun b s => (b.step s).2) b

/-- Make a step, and give the builder up if it fails. -/
def advance (b : Builder) (s : BuildStep) : Except ConfigError Builder :=
  match b.step s with
  | (.ok (), b) => .ok b
  | (.error e, _) => .error e

/-- Make all steps in order, up to the first that fails. -/
def runAll (b : Builder) (steps : List BuildStep) : Except ConfigError Builder :=
  steps.foldlM advance b

end Builder

end VariantPlan
