/-!
# Choices

A choice is a finite type whose values have names: the backends, the operating systems, the build
types. The list of all values fixes both their order and the order in which a diagnostic names
them.

Main result: `ofName?_name` (a name leads back to its value, provided names differ).
-/

namespace VariantPlan

/-- A finite type of named values. -/
class Choice (α : Type) where
  /-- Every value, in order. -/
  all : List α
  /-- The name of a value. -/
  name : α → String

namespace Choice

variable {α : Type} [Choice α]

/-- The names of all values, in order. -/
def names (α : Type) [Choice α] : List String := (all : List α).map name

/-- The value with exactly the given name. -/
def ofName? (s : String) : Option α := all.find? fun a => name a == s

/-- The place of a value among all values. -/
def rank [BEq α] (a : α) : Nat := all.idxOf a

/-- A name leads back to its value where all values are listed and their names differ. -/
theorem ofName?_name (hall : ∀ a : α, a ∈ all) (hinj : ∀ a b : α, name a = name b → a = b) (a : α) :
    ofName? (name a) = some a := by
  cases h : ofName? (α := α) (name a) with
  | none => exact absurd (List.find?_eq_none.1 h a (hall a)) (by simp)
  | some b => rw [hinj b a (by simpa using List.find?_some h)]

end Choice

end VariantPlan
