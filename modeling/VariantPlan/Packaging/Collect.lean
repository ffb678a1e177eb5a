import VariantPlan.Packaging.Error
import VariantPlan.Plan.Basic

/-!
# Collecting generated assets

After a build the directory of the generated files is scanned, and every file that the plan
predicts must be among what was found. Files beyond the predicted ones are kept with a warning.

Scanning is an operation of the surroundings, a step in a monad `m`; it gives the generated files
with their digests, by path.

Main result: `collect_of_no_assets` (a plan without a manifest collects nothing).
-/

namespace VariantPlan

/-- The generated files, each with the digest of its content, by the path from the root. -/
abbrev AssetDigests : Type := SortedMap String String

/-- The outcome of looking for generated files. -/
abbrev CollectOutcome : Type := Logged (Except PackagingError AssetDigests)

namespace AssetManifest

def missing? (m : AssetManifest) (found : AssetDigests) : Option String :=
  m.expectedFiles.find? fun file => !found.contains file

/-- The warning of files beyond the predicted ones. -/
def extraEvent (extra : Nat) : Event where
  severity := .warn
  stage := .collection
  message := "asset directory holds files beyond the expected bindings"
  fields := [("extra", .shown (countText extra))]

/-- Hold what was found against the prediction. -/
def check (m : AssetManifest) (found : AssetDigests) : CollectOutcome :=
  match m.missing? found with
  | some file => pure (.error (.missingAsset file))
  | none =>
    let extra := found.size - m.expectedFiles.length
    ⟨.ok found, if extra = 0 then [] else [extraEvent extra]⟩

end AssetManifest

/-! ## Collecting -/

variable {m : Type → Type} [Monad m]

/-- Look for the files that a plan predicts below a root. A plan without a manifest has none. -/
def BuildPlan.collect (scan : Path → String → m CollectOutcome) (root : Path) (p : BuildPlan) :
    m CollectOutcome :=
  match p.assets with
  | none => pure (pure (.ok .empty))
  | some manifest => do
    let scanned ← scan root manifest.assetDir
    return do
      match ← scanned with
      | .ok found => manifest.check found
      | .error e => return .error e

theorem collect_of_no_assets {p : BuildPlan} (h : p.assets = none)
    (scan : Path → String → m CollectOutcome) (root : Path) :
    p.collect scan root = pure (pure (.ok .empty)) := by
  simp only [BuildPlan.collect, h]

end VariantPlan
