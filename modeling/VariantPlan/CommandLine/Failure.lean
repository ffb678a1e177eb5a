import VariantPlan.Packaging.Error
import VariantPlan.Plan.Basic

/-!
# Failures of commands

Why a command failed: a sentence, and the cause behind it where there is one.

Main result: `report_of_no_cause`.
-/

namespace VariantPlan.CommandLine

/-- A document that a command reads. -/
inductive DocumentKind where
  | request
  | matrix
deriving DecidableEq

def DocumentKind.name : DocumentKind → String
  | .request => "request"
  | .matrix => "matrix"

/-- Why a command failed. -/
inductive Failure where
  /-- A document cannot be read from its file. -/
  | unreadable (kind : DocumentKind) (file : Path) (cause : IoError)
  /-- A document is not what it should be. -/
  | malformed (kind : DocumentKind) (file : Path)
  /-- A variant cannot be built. -/
  | config (cause : ConfigError)
  | invalidSetting (token : String) (cause : ConfigError)
  | invalidOption (token : String) (cause : ConfigError)
  /-- A variant of a matrix cannot be built. -/
  | requestOfMatrix (index : Nat) (cause : ConfigError)
  /-- A variant is not valid. -/
  | invalid (cause : ConfigError)
  /-- There is no plan. -/
  | plan (cause : PlanError)
  /-- Some variants of a matrix have no plan. -/
  | variants (failed total : Nat)
  /-- The root of an installed tree is no directory. -/
  | noRoot (root : Path)
  | prune (cause : PackagingError)
  | collect (cause : PackagingError)
deriving DecidableEq

namespace Failure

/-- The failure in a sentence. -/
def message : Failure → String
  | .unreadable kind file _ => "Failed to read " ++ kind.name ++ ": " ++ file.text
  | .malformed kind file => "Failed to parse " ++ kind.name ++ ": " ++ file.text
  | .config cause => cause.message
  | .invalidSetting token _ => "Invalid setting: " ++ token
  | .invalidOption token _ => "Invalid option: " ++ token
  | .requestOfMatrix index cause => "Request " ++ countText index ++ ": " ++ cause.message
  | .invalid _ => "Invalid configuration"
  | .plan cause => cause.message
  | .variants failed total =>
    countText failed ++ " of " ++ countText total ++ " variants failed to resolve"
  | .noRoot root => "Package root is not a directory: " ++ root.text
  | .prune _ => "Failed to prune package tree"
  | .collect _ => "Failed to verify generated assets"

/-- What is behind a failure. -/
def cause? : Failure → Option String
  | .unreadable _ _ cause => some cause.message
  | .malformed _ _ => some "the document does not have the expected form"
  | .invalidSetting _ cause | .invalidOption _ cause | .invalid cause => some cause.message
  | .plan (.config cause) => some cause.message
  | .prune cause | .collect cause => some cause.message
  | .config _ | .requestOfMatrix _ _ | .variants _ _ | .noRoot _ => none

/-- A text with every line but the first indented. -/
def indentLines (s : String) : String :=
  String.ofList (s.toList.flatMap fun c => if c = '\n' then ['\n', ' ', ' ', ' ', ' '] else [c])

/-- The report of a failure, with its cause in a paragraph of its own. -/
def report (f : Failure) : String :=
  match f.cause? with
  | none => "Error: " ++ f.message ++ "\n"
  | some cause => "Error: " ++ f.message ++ "\n\nCaused by:\n    " ++ indentLines cause ++ "\n"

theorem report_of_no_cause {f : Failure} (h : f.cause? = none) :
    f.report = "Error: " ++ f.message ++ "\n" := by
  simp only [report, h]

end Failure

end VariantPlan.CommandLine
