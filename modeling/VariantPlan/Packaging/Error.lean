import VariantPlan.Path
import VariantPlan.Tree.Error

/-!
# Packaging errors

Why the packaging of an installed tree failed. Planning is not affected, so the caller may try
packaging again.
-/

namespace VariantPlan

/-- Why packaging failed. -/
inductive PackagingError where
  /-- A path could not be removed, for another reason than its absence. -/
  | prune (path : Path) (cause : IoError)
  /-- The directory of the generated files could not be read. -/
  | scan (path : Path) (cause : String)
  /-- A predicted file is not there. -/
  | missingAsset (file : String)
deriving DecidableEq

/-- The error in words. -/
def PackagingError.message : PackagingError → String
  | .prune path cause => "failed to prune " ++ path.text ++ ": " ++ cause.message
  | .scan path cause => "failed to scan assets in " ++ path.text ++ ": " ++ cause
  | .missingAsset file => "expected generated asset " ++ file ++ " was not produced"

end VariantPlan
