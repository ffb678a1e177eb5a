import VariantPlan.Plan.Product
import VariantPlan.Variant.Basic

/-!
# Artifacts

The compiled artifact of a variant: the name it links under, the extension and name of its file,
and the preprocessor definitions that tell consumers which backends were chosen. The variant shows
in the definitions; in the file's name it shows only as a debug marker, which a compiled static
debug build for Windows carries.

Main results: `extension_artifact` and `fileName_artifact` (the parts of the file's name).
-/

namespace VariantPlan

/-- The names of a compiled artifact and the definitions for its consumers. -/
structure Artifact where
  libraryName : String
  extension : String
  fileName : String
  defines : List String
deriving DecidableEq

def System.libraryExtension (system : System) (shared : Bool) : String :=
  match system, shared with
  | .windows, true => "dll"
  | .windows, false => "lib"
  | _, false => "a"
  | system, true => if system.isApple then "dylib" else "so"

/-- The name of the file that holds a library. -/
def System.libraryFile (system : System) (name extension : String) : String :=
  if system == .windows then name ++ "." ++ extension else "lib" ++ name ++ "." ++ extension

namespace Variant

/-- Whether the artifact carries the debug marker. -/
def hasDebugMarker (v : Variant) : Bool :=
  !v.headerOnly && v.buildType == .debug && v.system == .windows && !v.buildsShared

def libraryName (v : Variant) : String :=
  if v.hasDebugMarker then Product.libraryName ++ "d" else Product.libraryName

def defines (v : Variant) : List String :=
  ["GEOMETRIES_" ++ Choice.name v.geometry, "OPTIMIZERS_" ++ Choice.name v.optimizer,
    "THREADING_" ++ Choice.name v.threading]

def artifact (v : Variant) : Artifact where
  libraryName := v.libraryName
  extension := v.system.libraryExtension v.buildsShared
  fileName := v.system.libraryFile v.libraryName (v.system.libraryExtension v.buildsShared)
  defines := v.defines

theorem extension_artifact (v : Variant) :
    v.artifact.extension = v.system.libraryExtension v.buildsShared := rfl

theorem fileName_artifact (v : Variant) :
    v.artifact.fileName = v.system.libraryFile v.artifact.libraryName v.artifact.extension := rfl

end Variant

end VariantPlan
