import VariantPlan.Document.Fingerprint
import VariantPlan.Document.Variant
import VariantPlan.Plan.Basic

/-!
# Plans as documents

The JSON forms of requirements, asset manifests and build plans. Sets are written as lists in
their order. The fields of a published package may be any JSON, kept in canonical form.

The **fingerprint** of a plan is that of its document.
-/

namespace VariantPlan

/-! ## Requirements -/

def VersionConstraint.toJson (c : VersionConstraint) : Json := .string c.text

def VersionConstraint.ofJson? (j : Json) : Option VersionConstraint :=
  j.string?.bind VersionConstraint.ofText?

namespace Requirement

/-- A requirement as a record. -/
def toJson (r : Requirement) : Json :=
  .object [
    ("name", .string r.name),
    ("version_constraint", r.constraint.toJson),
    ("kind", Choice.toJson r.kind),
    ("propagated_options", Json.ofMap OptionValue.toJson r.options)]

/-- A requirement out of a record. -/
def ofJson? (j : Json) : Option Requirement := do
  let [name, constraint, kind, options] ←
    j.record? ["name", "version_constraint", "kind", "propagated_options"] | none
  some {
    name := ← Json.required? Json.string? name
    constraint := ← Json.required? VersionConstraint.ofJson? constraint
    kind := ← Json.required? Choice.ofJson? kind
    options := ← Json.required? (Json.map? OptionValue.ofJson?) options }

end Requirement

/-! ## Assets -/

namespace AssetManifest

/-- A manifest as a record. -/
def toJson (m : AssetManifest) : Json :=
  .object [
    ("asset_dir", .string m.assetDir),
    ("js_files", Json.strings m.scripts),
    ("wasm_files", Json.strings m.modules),
    ("type_decl_files", Json.strings m.declarations),
    ("package_json_fields", Json.ofMap id m.packageFields)]

/-- A manifest out of a record. -/
def ofJson? (j : Json) : Option AssetManifest := do
  let [assetDir, scripts, modules, declarations, packageFields] ←
    j.record? ["asset_dir", "js_files", "wasm_files", "type_decl_files", "package_json_fields"]
    | none
  some {
    assetDir := ← Json.required? Json.string? assetDir
    scripts := ← Json.required? (Json.list? Json.string?) scripts
    modules := ← Json.required? (Json.list? Json.string?) modules
    declarations := ← Json.required? (Json.list? Json.string?) declarations
    packageFields := ← Json.required? (Json.map? Json.canonical?) packageFields }

end AssetManifest

/-! ## Plans -/

def NameSet.toJson (s : NameSet) : Json := Json.strings s.keys

def NameSet.ofJson? (j : Json) : Option NameSet := (j.list? Json.string?).map NameSet.ofNames

def PathSet.toJson (s : PathSet) : Json := Json.strings (s.toList.map Path.text)

/-- A set of paths out of a list; of equal paths the first one counts. -/
def PathSet.ofJson? (j : Json) : Option PathSet :=
  (j.list? Json.string?).map fun l => PathSet.ofList (l.map Path.mk)

namespace BuildPlan

/-- A plan as a record. -/
def toJson (p : BuildPlan) : Json :=
  .object [
    ("dependencies", .list (p.dependencies.map Requirement.toJson)),
    ("tool_requirements", .list (p.tools.map Requirement.toJson)),
    ("defines", Json.strings p.artifact.defines),
    ("system_libs", NameSet.toJson p.systemLibraries),
    ("library_name", .string p.artifact.libraryName),
    ("extension", .string p.artifact.extension),
    ("file_name", .string p.artifact.fileName),
    ("includedirs", Json.strings p.layout.includeDirs),
    ("libdirs", Json.strings p.layout.libraryDirs),
    ("bindirs", Json.strings p.layout.binaryDirs),
    ("pruned_paths", p.prunedPaths.toJson),
    ("asset_metadata", Json.ofOption AssetManifest.toJson p.assets),
    ("cache_variables", Json.ofMap .string p.cacheVariables)]

/-- The members of a plan's record. -/
def members : List String :=
  ["dependencies", "tool_requirements", "defines", "system_libs", "library_name", "extension",
    "file_name", "includedirs", "libdirs", "bindirs", "pruned_paths", "asset_metadata",
    "cache_variables"]

/-- A plan out of a record; the asset manifest may be missing. -/
def ofJson? (j : Json) : Option BuildPlan := do
  let [dependencies, tools, defines, systemLibraries, libraryName, extension, fileName,
    includeDirs, libraryDirs, binaryDirs, prunedPaths, assets, cacheVariables] ←
    j.record? members | none
  some {
    dependencies := ← Json.required? (Json.list? Requirement.ofJson?) dependencies
    tools := ← Json.required? (Json.list? Requirement.ofJson?) tools
    artifact := {
      libraryName := ← Json.required? Json.string? libraryName
      extension := ← Json.required? Json.string? extension
      fileName := ← Json.required? Json.string? fileName
      defines := ← Json.required? (Json.list? Json.string?) defines }
    systemLibraries := ← Json.required? NameSet.ofJson? systemLibraries
    layout := {
      includeDirs := ← Json.required? (Json.list? Json.string?) includeDirs
      libraryDirs := ← Json.required? (Json.list? Json.string?) libraryDirs
      binaryDirs := ← Json.required? (Json.list? Json.string?) binaryDirs }
    prunedPaths := ← Json.required? PathSet.ofJson? prunedPaths
    assets := ← Json.optional? AssetManifest.ofJson? assets
    cacheVariables := ← Json.required? (Json.map? Json.string?) cacheVariables }

def fingerprint (p : BuildPlan) : String := p.toJson.fingerprint

end BuildPlan

end VariantPlan
