import VariantPlan.Variant.Builder

/-!
# Requests

A request is the document form of a building session: options, settings and options of
dependencies, each under its key. It stands for the steps that make its options in key order, then
its settings, then the options of its dependencies.
-/

namespace VariantPlan

/-- The options and settings of one variant, as a document holds them. -/
structure Request where
  options : SortedMap String OptionValue
  settings : SortedMap String String
  dependencyOptions : DependencyOptions
deriving DecidableEq

namespace Request

def empty : Request := ⟨.empty, .empty, .empty⟩

/-- The steps that a request stands for. -/
def steps (r : Request) : List BuildStep :=
  r.options.toList.map (fun e => .option e.1 e.2) ++
    r.settings.toList.map (fun e => .setting e.1 e.2) ++
    r.dependencyOptions.toList.flatMap fun d =>
      d.2.toList.map fun e => .dependencyOption d.1 e.1 e.2

/-- The builder that a request leads to. -/
def toBuilder (r : Request) : Except ConfigError Builder := Builder.default.runAll r.steps

def toVariant (r : Request) : Except ConfigError Variant := do (← r.toBuilder).build

end Request

end VariantPlan
