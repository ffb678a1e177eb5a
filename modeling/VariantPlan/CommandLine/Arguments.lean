import VariantPlan.Path
import VariantPlan.Text.Split

/-!
# Command-line arguments

An argument list names a command, with options before and after its name. Which **flags** and
**fields** a command takes is its **syntax**. A flag stands alone; a field has a value, attached
(`--field=value`, `-fvalue`, `-f=value`) or as the next argument, which must not begin with a
hyphen unless it is a hyphen alone. Short flags may be written together. After `--` nothing is an
option.

Reading goes from left to right and stops at the first thing that decides: a request for help or
for the version, or a mistake.
-/

namespace VariantPlan.CommandLine

/-! ## Options -/

/-- An option without a value. -/
inductive Flag where
  | verbose
  | editable
  | help
  | version
deriving DecidableEq

/-- An option with a value. -/
inductive Field where
  | request
  | option
  | setting
  | root
  | format
deriving DecidableEq

def Flag.longName : Flag → String
  | .verbose => "verbose"
  | .editable => "editable"
  | .help => "help"
  | .version => "version"

def Flag.shortName? : Flag → Option Char
  | .verbose => some 'v'
  | .help => some 'h'
  | .version => some 'V'
  | .editable => none

def Field.longName : Field → String
  | .request => "request"
  | .option => "option"
  | .setting => "setting"
  | .root => "root"
  | .format => "format"

def Field.shortName? : Field → Option Char
  | .option => some 'o'
  | .setting => some 's'
  | _ => none

/-- What may stand among the arguments of a command. -/
structure ArgumentSyntax where
  flags : List Flag
  fields : List Field
  /-- Whether a file is named without an option. -/
  takesFile : Bool
deriving DecidableEq

/-- An option that a name stands for. -/
inductive Named where
  | flag (flag : Flag)
  | field (field : Field)

namespace ArgumentSyntax

/-- The option of a long name. -/
def long? (s : ArgumentSyntax) (name : String) : Option Named :=
  ((s.flags.find? fun f => f.longName == name).map .flag).or
    ((s.fields.find? fun f => f.longName == name).map .field)

/-- The option of a short name. -/
def short? (s : ArgumentSyntax) (name : Char) : Option Named :=
  ((s.flags.find? fun f => f.shortName? == some name).map .flag).or
    ((s.fields.find? fun f => f.shortName? == some name).map .field)

end ArgumentSyntax

/-! ## Values -/

/-- How a result is printed. -/
inductive OutputFormat where
  | text
  | json
deriving DecidableEq

def OutputFormat.ofName? (s : String) : Option OutputFormat :=
  if s = "text" then some .text else if s = "json" then some .json else none

/-- What the arguments of a command say. -/
structure Arguments where
  verbose : Bool
  editable : Bool
  request : Option Path
  options : List String
  settings : List String
  root : Option Path
  format : Option OutputFormat
  file : Option Path
deriving DecidableEq

/-- Arguments that say nothing. -/
def Arguments.empty : Arguments := ⟨false, false, none, [], [], none, none, none⟩

/-- Why reading stops before the end. -/
inductive Stop where
  | help
  | version
  | mistake
deriving DecidableEq

namespace Arguments

/-- Raise a flag, which may be raised once. -/
def raise (a : Arguments) : Flag → Except Stop Arguments
  | .verbose => if a.verbose then .error .mistake else .ok { a with verbose := true }
  | .editable => if a.editable then .error .mistake else .ok { a with editable := true }
  | .help => .error .help
  | .version => .error .version

/-- The path of a text that is not empty. -/
def readPath (s : String) : Except Stop Path := if s = "" then .error .mistake else .ok ⟨s⟩

/-- Give a field a value. Options and settings add up; the other fields get one value. -/
def give (a : Arguments) (field : Field) (value : String) : Except Stop Arguments :=
  match field with
  | .option => .ok { a with options := a.options ++ [value] }
  | .setting => .ok { a with settings := a.settings ++ [value] }
  | .request => do
    let path ← readPath value
    if a.request.isSome then .error .mistake else .ok { a with request := some path }
  | .root => do
    let path ← readPath value
    if a.root.isSome then .error .mistake else .ok { a with root := some path }
  | .format =>
    match OutputFormat.ofName? value with
    | none => .error .mistake
    | some format =>
      if a.format.isSome then .error .mistake else .ok { a with format := some format }

/-- Take an argument that is no option. -/
def take (s : ArgumentSyntax) (a : Arguments) (value : String) : Except Stop Arguments :=
  if s.takesFile && a.file.isNone then do
    let path ← readPath value
    .ok { a with file := some path }
  else .error .mistake

/-- Take arguments that are no options. -/
def takeAll (s : ArgumentSyntax) (a : Arguments) (values : List String) : Except Stop Arguments :=
  values.foldlM (take s) a

end Arguments

/-! ## Reading -/

/-- The form of one argument. -/
inductive ArgumentForm where
  /-- Two hyphens and nothing else. -/
  | escape
  /-- Two hyphens and a name, perhaps with a value. -/
  | long (name : String) (value : Option String)
  /-- A hyphen and short names. -/
  | short (names : List Char)
  | plain

def argumentForm (arg : String) : ArgumentForm :=
  match arg.toList with
  | ['-', '-'] => .escape
  | '-' :: '-' :: rest =>
    match Text.cut? '=' rest with
    | some (name, value) => .long (String.ofList name) (some (String.ofList value))
    | none => .long (String.ofList rest) none
  | '-' :: c :: rest => .short (c :: rest)
  | _ => .plain

/-- Whether an argument can be the value of the field before it. -/
def canBeValue (arg : String) : Bool :=
  match argumentForm arg with
  | .plain => true
  | _ => false

/-- Read short names written together; a field without an attached value is left pending. -/
def readShort (s : ArgumentSyntax) (a : Arguments) :
    List Char → Except Stop (Arguments × Option Field)
  | [] => .ok (a, none)
  | c :: rest =>
    match s.short? c with
    | none => .error .mistake
    | some (.flag flag) => do
      let a ← a.raise flag
      readShort s a rest
    | some (.field field) =>
      match rest with
      | [] => .ok (a, some field)
      | '=' :: value => do return (← a.give field (String.ofList value), none)
      | value => do return (← a.give field (String.ofList value), none)

/-- Read an option by its long name; a field without an attached value is left pending. -/
def readLong (s : ArgumentSyntax) (a : Arguments) (name : String) (value : Option String) :
    Except Stop (Arguments × Option Field) :=
  match s.long? name, value with
  | none, _ => .error .mistake
  | some (.flag _), some _ => .error .mistake
  | some (.flag flag), none => do return (← a.raise flag, none)
  | some (.field field), some value => do return (← a.give field value, none)
  | some (.field field), none => .ok (a, some field)

/-- Read the arguments of a command; `pending` is a field that still needs its value. -/
def readArguments (s : ArgumentSyntax) (a : Arguments) (pending : Option Field) :
    List String → Except Stop Arguments
  | [] => if pending.isSome then .error .mistake else .ok a
  | arg :: rest =>
    match pending with
    | some field =>
      if canBeValue arg then do
        let a ← a.give field arg
        readArguments s a none rest
      else .error .mistake
    | none =>
      match argumentForm arg with
      | .escape => a.takeAll s rest
      | .plain => do
        let a ← a.take s arg
        readArguments s a none rest
      | .short names => do
        let (a, pending) ← readShort s a names
        readArguments s a pending rest
      | .long name value => do
        let (a, pending) ← readLong s a name value
        readArguments s a pending rest

/-! ## Commands -/

/-- The name of a command. -/
inductive CommandName where
  | resolve
  | packageId
  | matrix
  | prune
  | info
deriving DecidableEq

namespace CommandName

/-- The command of a name. -/
def ofName? (s : String) : Option CommandName :=
  match s with
  | "resolve" => some .resolve
  | "package-id" => some .packageId
  | "matrix" => some .matrix
  | "prune" => some .prune
  | "info" => some .info
  | _ => none

def argumentSyntax : CommandName → ArgumentSyntax
  | .resolve => ⟨[.verbose, .editable, .help], [.request, .option, .setting, .format], false⟩
  | .packageId => ⟨[.verbose, .editable, .help], [.request, .option, .setting], false⟩
  | .matrix => ⟨[.verbose, .editable, .help], [.format], true⟩
  | .prune => ⟨[.verbose, .editable, .help], [.request, .option, .setting, .root, .format], false⟩
  | .info => ⟨[.verbose, .help], [], false⟩

end CommandName

/-- The options that may stand before the name of a command. -/
def leadingSyntax : ArgumentSyntax := ⟨[.verbose, .help, .version], [], false⟩

/-- Where the options of one variant come from. -/
structure VariantSource where
  request : Option Path
  options : List String
  settings : List String
  editable : Bool
deriving DecidableEq

/-- What is to be done. -/
inductive Command where
  | resolve (source : VariantSource) (format : OutputFormat)
  | packageId (source : VariantSource)
  | matrix (file : Path) (editable : Bool) (format : OutputFormat)
  | prune (source : VariantSource) (root : Path) (format : OutputFormat)
  | info
deriving DecidableEq

/-- What is to be done, and whether more is to be told about it. -/
structure Invocation where
  command : Command
  verbose : Bool
deriving DecidableEq

/-- The source that arguments describe. -/
def Arguments.source (a : Arguments) : VariantSource :=
  ⟨a.request, a.options, a.settings, a.editable⟩

/-- The command that a name and arguments make, unless something required is missing. -/
def CommandName.command (name : CommandName) (a : Arguments) : Except Stop Command :=
  let format := a.format.getD .text
  match name with
  | .resolve => .ok (.resolve a.source format)
  | .packageId => .ok (.packageId a.source)
  | .matrix =>
    match a.file with
    | some file => .ok (.matrix file a.editable format)
    | none => .error .mistake
  | .prune =>
    match a.root with
    | some root => .ok (.prune a.source root format)
    | none => .error .mistake
  | .info => .ok .info

/-- Why reading stops at a request for help on the named commands. -/
def readHelp : List String → Stop
  | [] => .help
  | [name] => if (CommandName.ofName? name).isSome || name == "help" then .help else .mistake
  | _ => .mistake

/-- Read a list of arguments from where `leading` options have been read. -/
def readInvocationFrom (leading : Arguments) : List String → Except Stop Invocation
  | [] => .error .mistake
  | arg :: rest =>
    match argumentForm arg with
    | .escape => .error .mistake
    | .short names => do
      let (leading, _) ← readShort leadingSyntax leading names
      readInvocationFrom leading rest
    | .long name value => do
      let (leading, _) ← readLong leadingSyntax leading name value
      readInvocationFrom leading rest
    | .plain =>
      if arg = "help" then .error (readHelp rest)
      else match CommandName.ofName? arg with
        | none => .error .mistake
        | some name => do
          let a ← readArguments name.argumentSyntax .empty none rest
          return ⟨← name.command a, leading.verbose || a.verbose⟩

def readInvocation (args : List String) : Except Stop Invocation := readInvocationFrom .empty args

end VariantPlan.CommandLine
