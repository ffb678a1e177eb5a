import VariantPlan.CommandLine.Arguments
import VariantPlan.CommandLine.Failure
import VariantPlan.CommandLine.Report
import VariantPlan.Document.Request
import VariantPlan.Json.Parser
import VariantPlan.Packaging.Scan
import VariantPlan.Plan.Cache

/-!
# Running commands

A command reads its documents, builds a variant, and resolves, plans, or packages it. What it
needs of the file system are four operations, given as `Files`, so that a command is the same
program over the disk and over a tree.

A command gives a **result**: the lines that it prints on both channels and perhaps a failure.
The result of a run is the text of both channels and an exit code: 0, 1 for a failure, or 2 for
arguments that cannot be read.

Main results: `code_eq_zero_iff` (a run succeeds when its command does not fail) and
`run_of_stop`.
-/

namespace VariantPlan.CommandLine

/-- The operations on files that commands use. -/
structure Files (m : Type → Type) where
  readText : Path → m (Except IoError String)
  isDirectory : Path → m Bool
  removeTree : Path → m (Except IoError Unit)
  /-- The generated files in a directory below a root. -/
  scan : Path → String → m CollectOutcome

def Files.ofTree : Files (StateM FileTree) where
  readText p := return (← get).readText p
  isDirectory p := return (← get).isDirectory p
  removeTree p t := t.removeTree p
  scan root dir := return (← get).scan root dir

/-- What a command leaves to be printed. -/
structure Result where
  lines : List String
  errorLines : List String
  failure : Option Failure

namespace Result

/-- The result of a command that printed and succeeded. -/
def printed (lines : List String) : Result := ⟨lines, [], none⟩

/-- The result of a command that failed without printing. -/
def failed (f : Failure) : Result := ⟨[], [], some f⟩

end Result

/-! ## Building variants -/

/-- The variant of a request, with settings and options over it, on a system if none is chosen. -/
def buildVariant (system : Option System) (request : Request) (settings options : List String) :
    Except Failure Variant := do
  let b ← request.toBuilder.mapError .config
  let b ← settings.foldlM
    (fun b token => (b.advance (.settingToken token)).mapError (.invalidSetting token)) b
  let b ← options.foldlM
    (fun b token => (b.advance (.optionToken token)).mapError (.invalidOption token)) b
  (Builder.build (system.elim b b.withDefaultSystem)).mapError .config

/-- The event of a variant that was built from arguments. -/
def assembledEvent (v : Variant) : Event where
  severity := .debug
  stage := .command
  message := "assembled request"
  fields := [
    ("os", .shown (Choice.name v.system)),
    ("compiler", .shown v.compiler.text),
    ("geometries", .shown (Choice.name v.geometry)),
    ("optimizer", .shown (Choice.name v.optimizer)),
    ("threading", .shown (Choice.name v.threading)),
    ("header_only", .shown (if v.headerOnly then "true" else "false"))]

/-- The variants of the requests of a matrix, up to the first that cannot be built. -/
def buildMatrix (system : Option System) (index : Nat) :
    List Request → Except Failure (List Variant)
  | [] => .ok []
  | r :: rest => do
    let variant : Except ConfigError Variant := do
      let b ← r.toBuilder
      (system.elim b b.withDefaultSystem).build
    let v ← variant.mapError (.requestOfMatrix index)
    return v :: (← buildMatrix system (index + 1) rest)

/-! ## Commands -/

/-- Resolve a variant and print its plan. -/
def resolveVariant (host : Host) (format : OutputFormat) (v : Variant) : Logged Result := do
  match ← v.validate with
  | .error e => return .failed (.invalid e)
  | .ok valid =>
    let plan ← valid.plan host
    match format with
    | .json => return .printed [plan.toJson.indented]
    | .text => return .printed (planLines valid plan)

/-- Print the package id of a variant. -/
def identifyVariant (v : Variant) : Logged Result := do
  match ← v.validate with
  | .error e => return .failed (.invalid e)
  | .ok valid => return .printed [valid.packageId]

def matrixEvent (total failed unique : Nat) : Event where
  severity := .info
  stage := .matrix
  message := "resolved matrix"
  fields := [("variants", .shown (countText total)), ("failed", .shown (countText failed)),
    ("unique", .shown (countText unique))]

def planOfAnswer (a : PlanAnswer) : Except PlanError BuildPlan := a.map PlanInstance.plan

/-- Resolve the variants of a matrix and print all plans and errors. -/
def resolveVariants (host : Host) (format : OutputFormat) (vs : List Variant) : Logged Result := do
  let (cache, answers) ← PlanCache.empty.resolveMatrix host vs
  let answers := answers.map planOfAnswer
  let failed := (answers.filter fun a => !a.toBool).length
  Logged.log (matrixEvent answers.length failed cache.size)
  let failure := if failed = 0 then none else some (.variants failed answers.length)
  match format with
  | .json =>
    return ⟨[(Json.list (answers.mapIdx matrixEntry)).indented], [], failure⟩
  | .text =>
    let lines := (vs.zip answers).mapIdx fun i p =>
      match p.2 with
      | .ok plan => (some (plannedLine i p.1 plan), none)
      | .error e => (none, some (unplannedLine i p.1 e))
    return ⟨lines.filterMap Prod.fst, lines.filterMap Prod.snd, failure⟩

section Commands

variable {m : Type → Type} [Monad m] (files : Files m) (system : Option System)

def readDocument {α : Type} (kind : DocumentKind) (read : Json → Option α) (file : Path) :
    m (Except Failure α) := do
  match ← files.readText file with
  | .error e => return .error (.unreadable kind file e)
  | .ok text =>
    match (Json.parse? text).bind read with
    | some a => return .ok a
    | none => return .error (.malformed kind file)

/-- The variant that a source describes, and the event of having built it. -/
def assemble (source : VariantSource) : m (Logged (Except Failure Variant)) := do
  let request ← match source.request with
    | none => pure (.ok Request.empty)
    | some file => readDocument files .request Request.ofJson? file
  match request.bind fun r => buildVariant system r source.settings source.options with
  | .error e => return pure (.error e)
  | .ok v => return do
    Logged.log (assembledEvent v)
    return .ok v

/-- Build a variant and go on with it. -/
def withVariant (source : VariantSource) (go : Variant → Logged Result) : m (Logged Result) := do
  let assembled ← assemble files system source
  return do
    match ← assembled with
    | .error e => return .failed e
    | .ok v => go v

/-- Resolve a matrix of requests. -/
def runMatrix (file : Path) (host : Host) (format : OutputFormat) : m (Logged Result) := do
  match ← readDocument files .matrix (Json.list? Request.ofJson?) file with
  | .error e => return pure (.failed e)
  | .ok requests =>
    match buildMatrix system 0 requests with
    | .error e => return pure (.failed e)
    | .ok vs => return resolveVariants host format vs

/-- Prune an installed tree and check its generated files. -/
def package (root : Path) (format : OutputFormat) (p : BuildPlan) : m (Logged Result) := do
  let pruned ← p.prune files.removeTree root
  match pruned.value with
  | .error e => return ⟨.failed (.prune e), pruned.events⟩
  | .ok report =>
    let collected ← p.collect files.scan root
    return ⟨match collected.value with
      | .error e => .failed (.collect e)
      | .ok found =>
        match format with
        | .json => .printed [(packagedJson report found).indented]
        | .text => .printed (packagedLines root report found),
      pruned.events ++ collected.events⟩

/-- Resolve a variant and package an installed tree for it. -/
def runPrune (source : VariantSource) (root : Path) (format : OutputFormat) :
    m (Logged Result) := do
  if !(← files.isDirectory root) then return pure (.failed (.noRoot root))
  let assembled ← assemble files system source
  match assembled.value with
  | .error e => return ⟨.failed e, assembled.events⟩
  | .ok v =>
    let host : Host := ⟨!source.editable⟩
    let resolved := v.resolvePlan host
    match resolved.value with
    | .error e => return ⟨.failed (.plan e), assembled.events ++ resolved.events⟩
    | .ok plan =>
      let packaged ← package files root format plan
      return ⟨packaged.value, assembled.events ++ resolved.events ++ packaged.events⟩

def Command.run : Command → m (Logged Result)
  | .resolve source format =>
    withVariant files system source (resolveVariant ⟨!source.editable⟩ format)
  | .packageId source => withVariant files system source identifyVariant
  | .matrix file editable format => runMatrix files system file ⟨!editable⟩ format
  | .prune source root format => runPrune files system source root format
  | .info => return pure (.printed (infoLines system))

end Commands

/-! ## Runs -/

/-- What a run leaves on the two channels, and its exit code. -/
structure Output where
  code : Nat
  out : String
  err : String
deriving DecidableEq

namespace Output

/-- What is left of a result and its events. -/
def ofResult (filter : LogFilter) (r : Logged Result) : Output where
  code := if r.value.failure.isSome then 1 else 0
  out := unlines r.value.lines
  err := unlines (logLines filter r.events ++ r.value.errorLines) ++
    r.value.failure.elim "" Failure.report

/-- What is left of arguments that make no command. -/
def ofStop : Stop → Output
  | .help => ⟨0, unlines usageLines, ""⟩
  | .version => ⟨0, unlines [programText], ""⟩
  | .mistake => ⟨2, "", unlines usageLines⟩

theorem code_eq_zero_iff {filter : LogFilter} {r : Logged Result} :
    (ofResult filter r).code = 0 ↔ r.value.failure = none := by
  cases h : r.value.failure <;> simp [ofResult, h]

end Output

/-- Run the command that arguments make; `log` is the given log filter. -/
def run {m : Type → Type} [Monad m] (files : Files m) (system : Option System)
    (log : Option String) (args : List String) : m Output :=
  match readInvocation args with
  | .error stop => pure (.ofStop stop)
  | .ok invocation => do
    let result ← invocation.command.run files system
    return .ofResult (.choose invocation.verbose log) result

/-- Arguments that make no command leave everything alone. -/
theorem run_of_stop {m : Type → Type} [Monad m] (files : Files m) (system : Option System)
    (log : Option String) {args : List String} {stop : Stop}
    (h : readInvocation args = .error stop) :
    run files system log args = pure (.ofStop stop) := by
  simp only [run, h]

end VariantPlan.CommandLine
