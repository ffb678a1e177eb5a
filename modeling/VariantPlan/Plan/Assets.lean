import VariantPlan.Json.Reader
import VariantPlan.Plan.Product
import VariantPlan.Variant.Basic

/-!
# Generated assets

A build for the web, or one with bindings, generates a script, a binary module and type
declarations. The **manifest** predicts these files, which are checked after the build, and holds
the fields under which the bindings are published.

Main result: `assets?_eq_none_iff` (which variants generate nothing).
-/

namespace VariantPlan

/-- The files that a build generates, and how they are published. -/
structure AssetManifest where
  /-- The directory of the files. -/
  assetDir : String
  /-- The scripts. -/
  scripts : List String
  /-- The binary modules. -/
  modules : List String
  /-- The type declarations. -/
  declarations : List String
  /-- The fields of the published package. -/
  packageFields : SortedMap String Json

/-- The predicted files: scripts, then binary modules, then type declarations. -/
def AssetManifest.expectedFiles (m : AssetManifest) : List String :=
  m.scripts ++ m.modules ++ m.declarations

/-- The manifest of the bindings. -/
def AssetManifest.ofBindings : AssetManifest where
  assetDir := Product.assetDir
  scripts := [Product.assetFile "js"]
  modules := [Product.assetFile "wasm"]
  declarations := [Product.assetFile "d.ts"]
  packageFields := .ofList [
    ("name", .string Product.bindingsName),
    ("version", .string Product.version),
    ("main", .string (Product.assetFile "js")),
    ("types", .string (Product.assetFile "d.ts")),
    ("files", Json.strings (["js", "wasm", "d.ts"].map Product.assetFile)),
    ("config", .object [(Product.bindingsDirKey, .string Product.assetDir)])]

namespace Variant

def generatesAssets (v : Variant) : Bool :=
  !v.headerOnly && (v.system == .emscripten || v.jsBindings)

def assets? (v : Variant) : Option AssetManifest :=
  if v.generatesAssets then some .ofBindings else none

/-- A header-only package generates nothing, and neither does a native one without bindings. -/
theorem assets?_eq_none_iff {v : Variant} :
    v.assets? = none ↔ v.headerOnly = true ∨ v.system ≠ .emscripten ∧ v.jsBindings = false := by
  unfold assets? generatesAssets
  cases v.headerOnly <;> simp

end Variant

end VariantPlan
