import VariantPlan.Version.Constraint

/-!
# Known packages

The packages that a variant can require, each with its name and the versions it must have.
-/

namespace VariantPlan

/-- A package that can be required. -/
inductive Package where
  | clipper
  | boost
  | eigen
  | nlopt
  | armadillo
  | oneTbb
  | llvmOpenmp
  | spdlog
  | cmake
  | catch2
deriving DecidableEq

namespace Package

def name : Package → String
  | .clipper => "clipper"
  | .boost => "boost"
  | .eigen => "eigen"
  | .nlopt => "nlopt"
  | .armadillo => "armadillo"
  | .oneTbb => "onetbb"
  | .llvmOpenmp => "llvm-openmp"
  | .spdlog => "spdlog"
  | .cmake => "cmake"
  | .catch2 => "catch2"

def constraint : Package → VersionConstraint
  | .clipper => .atLeast 6 4 2
  | .boost => .exactly 1 70 0
  | .eigen => .atLeast 3 3 7
  | .nlopt => .atLeast 2 7 0
  | .armadillo => .atLeast 10 5 0
  | .oneTbb => .atLeast 2021 3 0
  | .llvmOpenmp => .atLeast 12 0 1
  | .spdlog => .atLeast 1 8 5
  | .cmake => .atLeast 3 16 2
  | .catch2 => .atLeast 2 13 6

def all : List Package :=
  [.clipper, .boost, .eigen, .nlopt, .armadillo, .oneTbb, .llvmOpenmp, .spdlog, .cmake, .catch2]

def ofName? (s : String) : Option Package := all.find? fun p => p.name == s

theorem name_inj {a b : Package} (h : a.name = b.name) : a = b := by
  revert h
  cases a <;> cases b <;> decide

end Package

end VariantPlan
