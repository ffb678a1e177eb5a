import VariantPlan.Text.Blank
import VariantPlan.Text.Numeral

/-!
# C++ standards

A standard is named by the last two digits of its year, with `gnu` in front for the dialect. The
years run from 1990 to 2089, so `98` comes before `11`, and standards are ordered by the year and
then with the plain standard before its dialect.

Main results: `ofChars?_chars` (a written standard reads back) and `compare_eq_iff` (only equal
standards compare equal).
-/

namespace VariantPlan

/-- A C++ standard. -/
structure CppStandard where
  /-- The last two digits of the year. -/
  level : Fin 100
  /-- Whether the GNU dialect is meant. -/
  gnu : Bool
deriving DecidableEq

namespace CppStandard

/-- The year a standard denotes. -/
def year (s : CppStandard) : Nat :=
  if 90 ≤ s.level.val then 1900 + s.level.val else 2000 + s.level.val

instance : Ord CppStandard where
  compare a b := (compare a.year b.year).then (compare a.gnu b.gnu)

def precedes (a b : CppStandard) : Bool := compare a b == .lt

def chars (s : CppStandard) : List Char :=
  if s.gnu then 'g' :: 'n' :: 'u' :: Text.twoDigits s.level.val else Text.twoDigits s.level.val

def text (s : CppStandard) : String := String.ofList s.chars

/-- The standard whose level a numeral gives. -/
def ofNumeral? (gnu : Bool) (cs : List Char) : Option CppStandard :=
  (Text.read? 100 cs).bind fun n => if h : n < 100 then some ⟨⟨n, h⟩, gnu⟩ else none

/-- The standard that a text without blanks at its ends names. -/
def ofChars? : List Char → Option CppStandard
  | 'g' :: 'n' :: 'u' :: rest => ofNumeral? true rest
  | cs => ofNumeral? false cs

/-- The standard that a text names, blanks around it allowed. -/
def ofText? (s : String) : Option CppStandard := ofChars? (Text.trim s.toList)

/-- The plain standard of 2017. -/
def cpp17 : CppStandard := ⟨17, false⟩

theorem ofChars?_chars (s : CppStandard) : ofChars? s.chars = some s := by
  have h : ∀ n : Fin 100, ∀ b : Bool, ofChars? (chars ⟨n, b⟩) = some ⟨n, b⟩ := by decide
  exact h s.level s.gnu

theorem year_inj {a b : CppStandard} (h : a.year = b.year) : a.level = b.level := by
  have ha := a.level.isLt
  have hb := b.level.isLt
  unfold year at h
  ext
  split at h <;> split at h <;> omega

theorem compare_eq_iff {a b : CppStandard} : compare a b = .eq ↔ a = b := by
  constructor
  · intro h
    obtain ⟨hy, hg⟩ := Ordering.then_eq_eq.1 h
    obtain ⟨la, ga⟩ := a
    obtain ⟨lb, gb⟩ := b
    have := year_inj (Std.LawfulEqCmp.eq_of_compare hy)
    have := Std.LawfulEqCmp.eq_of_compare hg
    simp_all
  · rintro rfl
    exact Ordering.then_eq_eq.2 ⟨Std.compare_self, Std.compare_self⟩

end CppStandard

end VariantPlan
