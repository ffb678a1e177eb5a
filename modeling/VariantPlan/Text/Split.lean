/-!
# Cutting a text at a separator

Main results: `cut?_eq_some_iff` (a cut is at the first separator and loses nothing but it) and
`cut?_eq_none_iff`.
-/

namespace VariantPlan.Text

variable {α : Type} [DecidableEq α]

/-- The parts before and after the first `sep`. -/
def cut? (sep : α) : List α → Option (List α × List α)
  | [] => none
  | c :: rest =>
    if c = sep then some ([], rest)
    else (cut? sep rest).map fun p => (c :: p.1, p.2)

/-- The parts of a text before and after the first `sep`. -/
def cutText? (sep : Char) (s : String) : Option (String × String) :=
  (cut? sep s.toList).map fun p => (String.ofList p.1, String.ofList p.2)

theorem cut?_eq_none_iff {sep : α} {l : List α} : cut? sep l = none ↔ sep ∉ l := by
  induction l with
  | nil => simp [cut?]
  | cons c r ih =>
    by_cases h : c = sep
    · simp [cut?, h]
    · simp [cut?, h, ih, Ne.symm h]

theorem cut?_eq_some_iff {sep : α} {l a b : List α} :
    cut? sep l = some (a, b) ↔ l = a ++ sep :: b ∧ sep ∉ a := by
  induction l generalizing a with
  | nil => simp [cut?]
  | cons c r ih =>
    by_cases h : c = sep
    · subst h
      cases a with
      | nil => simp [cut?, eq_comm]
      | cons x a => simp [cut?]; grind
    · cases a with
      | nil => simp [cut?, h]
      | cons x a =>
        simp only [cut?, h, if_false, Option.map_eq_some_iff, Prod.mk.injEq, List.cons.injEq,
          List.cons_append, List.mem_cons, not_or]
        constructor
        · rintro ⟨⟨a', b'⟩, h', ⟨rfl, rfl⟩, rfl⟩
          obtain ⟨rfl, hn⟩ := ih.1 h'
          exact ⟨⟨rfl, rfl⟩, fun e => h e.symm, hn⟩
        · rintro ⟨⟨rfl, rfl⟩, _, hn⟩
          exact ⟨(a, b), ih.2 ⟨rfl, hn⟩, ⟨rfl, rfl⟩, rfl⟩

/-- The parts between the separators, empty ones included. -/
def splitText (sep : Char) (s : String) : List String :=
  (s.toList.splitOn sep).map String.ofList

end VariantPlan.Text
