import VariantPlan.Json.Reader
import VariantPlan.Variant.Basic

/-!
# Variants as documents

The JSON forms of variants and their parts. A choice is written as its name, and may also be read
as an object whose one member has that name and is null. Versions and standards are texts. A
compiler, a generator, a host and a variant are records.

Reading keeps what the document says: it neither normalizes nor validates.

Main results: what is written reads back, as in `OptionValue.ofJson?_toJson` and
`DependencyOptions.ofJson?_toJson`.
-/

namespace VariantPlan

/-! ## Choices -/

namespace Choice

variable {α : Type} [Choice α]

/-- A choice as its name. -/
def toJson (a : α) : Json := .string (name a)

/-- A choice out of its name, or out of an object with its name as the only member, which is
null. -/
def ofJson? : Json → Option α
  | .string s => ofName? s
  | .object [(s, .null)] => ofName? s
  | _ => none

end Choice

theorem Choice.ofJson?_toJson {α : Type} [Choice α] (hall : ∀ a : α, a ∈ Choice.all)
    (hinj : ∀ a b : α, Choice.name a = Choice.name b → a = b) (a : α) :
    Choice.ofJson? (Choice.toJson a) = some a :=
  Choice.ofName?_name hall hinj a

/-! ## Option values -/

namespace OptionValue

/-- An option's value as a truth value or a text. -/
def toJson : OptionValue → Json
  | .flag b => .bool b
  | .text s => .string s

/-- An option's value out of a truth value or a text. -/
def ofJson? : Json → Option OptionValue
  | .bool b => some (.flag b)
  | .string s => some (.text s)
  | _ => none

theorem ofJson?_toJson (v : OptionValue) : ofJson? v.toJson = some v := by
  cases v <;> rfl

end OptionValue

namespace DependencyOptions

/-- Options of dependencies as a map of maps. -/
def toJson (d : DependencyOptions) : Json := Json.ofMap (Json.ofMap OptionValue.toJson) d

/-- Options of dependencies out of a map of maps. -/
def ofJson? (j : Json) : Option DependencyOptions := j.map? (Json.map? OptionValue.ofJson?)

theorem ofJson?_toJson (d : DependencyOptions) : ofJson? (toJson d) = some d :=
  Json.map?_ofMap fun _ _ => Json.map?_ofMap fun e _ => OptionValue.ofJson?_toJson e.2

end DependencyOptions

/-! ## Compilers -/

def Version.toJson (v : Version) : Json := .string v.text

def Version.ofJson? (j : Json) : Option Version := j.string?.bind Version.ofText?

def CppStandard.toJson (s : CppStandard) : Json := .string s.text

/-- A standard out of a text that names it. -/
def CppStandard.ofJson? (j : Json) : Option CppStandard := j.string?.bind CppStandard.ofText?

namespace Compiler

/-- A compiler as a record. -/
def toJson (c : Compiler) : Json :=
  .object [
    ("family", .string c.family),
    ("version", c.version.toJson),
    ("cppstd", Json.ofOption CppStandard.toJson c.standard)]

/-- A compiler out of a record; the standard may be missing. -/
def ofJson? (j : Json) : Option Compiler := do
  let [family, version, standard] ← j.record? ["family", "version", "cppstd"] | none
  some {
    family := ← Json.required? Json.string? family
    version := ← Json.required? Version.ofJson? version
    standard := ← Json.optional? CppStandard.ofJson? standard }

end Compiler

/-! ## Platforms -/

namespace Generator

/-- Generator settings as a record. -/
def toJson (g : Generator) : Json :=
  .object [
    ("generator_platform", Json.ofOption .string g.platform),
    ("toolset", Json.ofOption .string g.toolset)]

/-- Generator settings out of a record; each may be missing. -/
def ofJson? (j : Json) : Option Generator := do
  let [platform, toolset] ← j.record? ["generator_platform", "toolset"] | none
  some {
    platform := ← Json.optional? Json.string? platform
    toolset := ← Json.optional? Json.string? toolset }

theorem ofJson?_toJson (g : Generator) : ofJson? g.toJson = some g := by
  obtain ⟨platform, toolset⟩ := g
  cases platform <;> cases toolset <;> rfl

end Generator

namespace Host

/-- A host as a record. -/
def toJson (h : Host) : Json := .object [("in_local_cache", .bool h.inLocalCache)]

/-- A host out of a record. -/
def ofJson? (j : Json) : Option Host := do
  let [inLocalCache] ← j.record? ["in_local_cache"] | none
  some { inLocalCache := ← Json.required? Json.bool? inLocalCache }

end Host

/-! ## Variants -/

namespace Variant

/-- A variant as a record. -/
def toJson (v : Variant) : Json :=
  .object [
    ("geometries", Choice.toJson v.geometry),
    ("optimizer", Choice.toJson v.optimizer),
    ("threading", Choice.toJson v.threading),
    ("shared", .bool v.shared),
    ("fpic", Choice.toJson v.fpic),
    ("header_only", .bool v.headerOnly),
    ("with_js_bindings", .bool v.jsBindings),
    ("tests", .bool v.tests),
    ("python_version", .string v.pythonVersion),
    ("os", Choice.toJson v.system),
    ("compiler", v.compiler.toJson),
    ("build_type", Choice.toJson v.buildType),
    ("generator", v.generator.toJson),
    ("dependency_options", DependencyOptions.toJson v.dependencyOptions)]

/-- The members of a variant's record. -/
def members : List String :=
  ["geometries", "optimizer", "threading", "shared", "fpic", "header_only", "with_js_bindings",
    "tests", "python_version", "os", "compiler", "build_type", "generator", "dependency_options"]

/-- A variant out of a record. -/
def ofJson? (j : Json) : Option Variant := do
  let [geometry, optimizer, threading, shared, fpic, headerOnly, jsBindings, tests, pythonVersion,
    system, compiler, buildType, generator, dependencyOptions] ← j.record? members | none
  some {
    geometry := ← Json.required? Choice.ofJson? geometry
    optimizer := ← Json.required? Choice.ofJson? optimizer
    threading := ← Json.required? Choice.ofJson? threading
    shared := ← Json.required? Json.bool? shared
    fpic := ← Json.required? Choice.ofJson? fpic
    headerOnly := ← Json.required? Json.bool? headerOnly
    jsBindings := ← Json.required? Json.bool? jsBindings
    tests := ← Json.required? Json.bool? tests
    pythonVersion := ← Json.required? Json.string? pythonVersion
    system := ← Json.required? Choice.ofJson? system
    compiler := ← Json.required? Compiler.ofJson? compiler
    buildType := ← Json.required? Choice.ofJson? buildType
    generator := ← Json.required? Generator.ofJson? generator
    dependencyOptions := ← Json.required? DependencyOptions.ofJson? dependencyOptions }

end Variant

end VariantPlan
