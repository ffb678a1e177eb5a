import VariantPlan.CommandLine.LogFilter
import VariantPlan.Document.Identity
import VariantPlan.Document.Plan
import VariantPlan.Packaging.Collect
import VariantPlan.Packaging.Prune
import VariantPlan.Text.Blank
import VariantPlan.Text.Hexadecimal
import VariantPlan.Text.Printable

/-!
# Reports

The texts that commands print, line by line: a headline with a mark, indented statements with a
label, and sections of marked entries. Log lines are texts as well: the severity in five columns,
the stage, the message and the fields.
-/

namespace VariantPlan.CommandLine

/-! ## Lines -/

/-- The lines of a text, each with its end. -/
def unlines (lines : List String) : String := String.join (lines.map (· ++ "\n"))

def successLine (s : String) : String := "✓ " ++ s

def failureLine (s : String) : String := "✗ " ++ s

/-- A statement under a headline. -/
def statementLine (label value : String) : String := "  " ++ label ++ ": " ++ value

/-- Items between commas, or a dash if there is no text at all. -/
def listText (items : List String) : String :=
  let joined := String.intercalate ", " items
  if joined = "" then "-" else joined

/-- The lines that open a section. -/
def sectionLines (title : String) : List String := ["", title ++ ":"]

def entryLine (mark entry : String) : String := "  " ++ mark ++ " " ++ entry

/-! ## Plans -/

/-- A requirement with the options that are handed on to it. -/
def requirementText (r : Requirement) : String :=
  let options := r.options.toList.map fun e => e.1 ++ "=" ++ e.2.asText
  let line := r.name ++ " " ++ r.constraint.text ++ " [" ++ Choice.name r.kind ++ "] " ++
    String.intercalate " " options
  String.ofList (Text.trimEnd line.toList)

def planLines (v : ValidVariant) (p : BuildPlan) : List String :=
  [successLine ("Resolved " ++ Product.name ++ " " ++ Product.version ++ " for " ++
      Choice.name v.system),
    statementLine "Package id" v.packageId,
    statementLine "Plan" p.fingerprint,
    statementLine "Library" p.artifact.fileName,
    statementLine "Defines" (String.intercalate " " p.artifact.defines),
    statementLine "System libs" (listText p.systemLibraries.keys),
    statementLine "Include dirs" (listText p.layout.includeDirs),
    statementLine "Lib dirs" (listText p.layout.libraryDirs),
    statementLine "Bin dirs" (listText p.layout.binaryDirs)] ++
  sectionLines "Requires" ++
  (p.dependencies ++ p.tools).map (fun r => entryLine "•" (requirementText r)) ++
  (if p.prunedPaths.toList.isEmpty then []
    else sectionLines "Pruned" ++ p.prunedPaths.toList.map fun path => entryLine "-" path.text) ++
  (match p.assets with
    | none => []
    | some manifest =>
      sectionLines "Assets" ++ manifest.expectedFiles.map fun file => entryLine "+" file)

/-! ## Matrices -/

/-- A variant of a matrix, by its place and its backends. -/
def variantText (index : Nat) (v : Variant) : String :=
  "[" ++ countText index ++ "] " ++ Choice.name v.system ++ " geometries=" ++
    Choice.name v.geometry ++ " optimizer=" ++ Choice.name v.optimizer ++ " threading=" ++
    Choice.name v.threading

/-- The line about a variant that has a plan. -/
def plannedLine (index : Nat) (v : Variant) (p : BuildPlan) : String :=
  successLine (variantText index v ++ " -> " ++ p.artifact.fileName ++ " (" ++
    countText p.dependencies.length ++ " deps)")

/-- The line about a variant that has none. -/
def unplannedLine (index : Nat) (v : Variant) (e : PlanError) : String :=
  failureLine (variantText index v ++ ": " ++ e.message)

/-- The entry of a variant in the document of a matrix. -/
def matrixEntry (index : Nat) : Except PlanError BuildPlan → Json
  | .ok p => .object [("index", .integer index), ("plan", p.toJson)]
  | .error e => .object [("index", .integer index), ("error", .string e.message)]

/-! ## Packaging -/

/-- The report of a packaged tree. -/
def packagedLines (root : Path) (r : PruneReport) (found : AssetDigests) : List String :=
  [successLine ("Pruned " ++ root.text),
    statementLine "Removed" (countText r.removed.length),
    statementLine "Already absent" (countText r.alreadyAbsent.length)] ++
  r.removed.map (fun path => entryLine "-" path.text) ++
  (if found.isEmpty then []
    else sectionLines "Assets" ++
      found.toList.map fun file => entryLine "✓" (file.1 ++ " " ++ file.2))

/-- The document of a packaged tree, its members sorted. -/
def packagedJson (r : PruneReport) (found : AssetDigests) : Json :=
  .object [
    ("assets", .object [("files", Json.ofMap .string found)]),
    ("pruned", .object [
      ("already_absent", Json.strings (r.alreadyAbsent.map Path.text)),
      ("removed", Json.strings (r.removed.map Path.text))])]

/-! ## The program -/

def programText : String := "nestrecipe 0.3.0"

/-- The report about the program and the system it runs on. -/
def infoLines (system : Option System) : List String :=
  [programText,
    statementLine "Recipe" (Product.name ++ " " ++ Product.version),
    statementLine "Host OS" (match system with
      | some s => Choice.name s
      | none => "unknown (pass -s os=<name>)")]

/-- How the program is called. -/
def usageLines : List String :=
  ["Usage: nestrecipe [-v] <resolve|package-id|matrix|prune|info> [options]",
    "  resolve, package-id, prune: [--request FILE] [-o KEY=VALUE] [-s KEY=VALUE] [--editable]",
    "  prune: --root DIR",
    "  matrix: FILE [--editable]",
    "  resolve, matrix, prune: [--format text|json]"]

/-! ## Log lines -/

/-- The form of a character between quotation marks; one that does not show on its own is given by
its number. -/
def quoteChar (c : Char) : List Char :=
  if c = '"' then ['\\', '"']
  else if c = '\\' then ['\\', '\\']
  else if c = '\n' then ['\\', 'n']
  else if c = '\r' then ['\\', 'r']
  else if c = '\t' then ['\\', 't']
  else if c.toNat = 0 then ['\\', '0']
  else if Text.isPrintable c then [c]
  else ['\\', 'u', '\x7b'] ++ Text.hexDigits c.toNat ++ ['\x7d']

def quoteText (s : String) : String :=
  String.ofList ('"' :: (s.toList.flatMap quoteChar ++ ['"']))

/-- The value of a field in a log line. -/
def fieldText : FieldValue → String
  | .shown s => s
  | .quoted s => quoteText s

/-- The name of a severity in five columns. -/
def severityText (s : Severity) : String :=
  String.ofList (List.replicate (5 - s.name.length) ' ') ++ s.name

def eventLine (e : Event) : String :=
  severityText e.severity ++ " " ++ e.stage.name ++ ": " ++ e.message ++
    String.join (e.fields.map fun f => " " ++ f.1 ++ "=" ++ fieldText f.2)

/-- The log lines of the events that a filter shows. -/
def logLines (f : LogFilter) (events : List Event) : List String :=
  (events.filter f.shows).map eventLine

end VariantPlan.CommandLine
