import VariantPlan.Plan.Product
import VariantPlan.Text.Letter
import VariantPlan.Variant.Basic

/-!
# Layouts

Where consumers find headers, libraries and programs. A header-only package has headers only. An
installed package keeps its libraries in one directory; a package consumed from its checkout has
them in the build tree of its build type. Builds for the web add the directory of the generated
bindings to the programs.

Main result: `layout_of_headerOnly`.
-/

namespace VariantPlan

/-- The directories of a package, relative to its root. -/
structure Layout where
  includeDirs : List String
  libraryDirs : List String
  binaryDirs : List String
deriving DecidableEq

namespace Variant

def libraryDir (v : Variant) (host : Host) : String :=
  if host.inLocalCache then Product.libraryDir
  else "cmake-build-" ++ Text.lower (Choice.name v.buildType)

/-- The directories of the programs. -/
def binaryDirs (v : Variant) : List String :=
  if v.system == .emscripten then [Product.binaryDir, Product.assetDir] else [Product.binaryDir]

def layout (v : Variant) (host : Host) : Layout :=
  if v.headerOnly then ⟨[Product.includeDir], [], []⟩
  else ⟨[Product.includeDir], [v.libraryDir host], v.binaryDirs⟩

theorem layout_of_headerOnly {v : Variant} (h : v.headerOnly = true) (host : Host) :
    v.layout host = ⟨[Product.includeDir], [], []⟩ := by
  rw [layout, if_pos h]

end Variant

end VariantPlan
