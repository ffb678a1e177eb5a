import VariantPlan.Document.Variant
import VariantPlan.Variant.Request

/-!
# Requests as documents

The JSON form of a request is a record of three maps, each of which may be missing. The list form
of the record may be cut short.

Main result: `ofJson?_toJson` (a written request reads back).
-/

namespace VariantPlan.Request

def toJson (r : Request) : Json :=
  .object [
    ("options", Json.ofMap OptionValue.toJson r.options),
    ("settings", Json.ofMap .string r.settings),
    ("dependency_options", DependencyOptions.toJson r.dependencyOptions)]

/-- A request out of a record; what is missing is empty. -/
def ofJson? (j : Json) : Option Request := do
  let [options, settings, dependencyOptions] ←
    j.openRecord? ["options", "settings", "dependency_options"] | none
  some {
    options := ← Json.defaulted? (Json.map? OptionValue.ofJson?) .empty options
    settings := ← Json.defaulted? (Json.map? Json.string?) .empty settings
    dependencyOptions := ← Json.defaulted? DependencyOptions.ofJson? .empty dependencyOptions }

theorem ofJson?_toJson (r : Request) : ofJson? r.toJson = some r := by
  have h₁ : Json.map? OptionValue.ofJson? (Json.ofMap OptionValue.toJson r.options) =
      some r.options :=
    Json.map?_ofMap fun e _ => OptionValue.ofJson?_toJson e.2
  have h₂ : Json.map? Json.string? (Json.ofMap .string r.settings) = some r.settings :=
    Json.map?_ofMap fun _ _ => rfl
  have h₃ := DependencyOptions.ofJson?_toJson r.dependencyOptions
  show (do
    some { options := ← Json.map? OptionValue.ofJson? (Json.ofMap OptionValue.toJson r.options)
           settings := ← Json.map? Json.string? (Json.ofMap .string r.settings)
           dependencyOptions := ←
            DependencyOptions.ofJson? (DependencyOptions.toJson r.dependencyOptions) }) = some r
  rw [h₁, h₂, h₃]
  rfl

end VariantPlan.Request
