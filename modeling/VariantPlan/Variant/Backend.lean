import VariantPlan.Choice

/-!
# Backends

The three backends a variant chooses: the **geometry** library that the headers are compiled
against, the numerical **optimizer**, and the **threading** runtime of the placement strategies.
-/

namespace VariantPlan

/-- The geometry backend. -/
inductive Geometry where
  | clipper
  | boost
  | eigen
deriving DecidableEq

instance : Choice Geometry where
  all := [.clipper, .boost, .eigen]
  name
    | .clipper => "clipper"
    | .boost => "boost"
    | .eigen => "eigen"

/-- The optimizer backend. -/
inductive Optimizer where
  | nlopt
  | optimlib
deriving DecidableEq

instance : Choice Optimizer where
  all := [.nlopt, .optimlib]
  name
    | .nlopt => "nlopt"
    | .optimlib => "optimlib"

/-- The threading backend. -/
inductive Threading where
  | std
  | tbb
  | omp
  | none
deriving DecidableEq

instance : Choice Threading where
  all := [.std, .tbb, .omp, .none]
  name
    | .std => "std"
    | .tbb => "tbb"
    | .omp => "omp"
    | .none => "none"

/-- Whether the backend needs a runtime library of its own. -/
def Threading.needsRuntime : Threading → Bool
  | .tbb | .omp => true
  | .std | .none => false

end VariantPlan
