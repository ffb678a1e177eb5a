import VariantPlan.Text.Blank

/-!
# Words between separators

The parts of a text between separators hold no separator. The words of a text are its maximal runs
of characters that are no blanks, and they are found letter by letter: a blank at the start is
dropped, and any other character is a word of its own or begins the next word.

Main results: `eq_false_of_mem_splitOnP`, `words_cons_of_blank`, `words_cons_of_not_blank` and
`words_eq_nil_iff`.
-/

namespace VariantPlan.Text

variable {c : Char} {cs : List Char}

/-- No part between separators holds a separator. -/
theorem eq_false_of_mem_splitOnP {α : Type} {p : α → Bool} {cs w : List α} {c : α}
    (hw : w ∈ cs.splitOnP p) (hc : c ∈ w) : p c = false := by
  induction cs generalizing w with
  | nil =>
    rw [List.splitOnP_nil, List.mem_singleton] at hw
    subst hw
    cases hc
  | cons d cs ih =>
    rw [List.splitOnP_cons_eq_if_modifyHead] at hw
    split at hw
    next hd =>
      rcases List.mem_cons.1 hw with rfl | hw
      · cases hc
      · exact ih hw hc
    next hd =>
      -- The first part of the rest is continued to the left by a character that does not separate.
      obtain ⟨first, rest, hparts⟩ := List.exists_cons_of_ne_nil (List.splitOnP_ne_nil p cs)
      rw [hparts, List.modifyHead_cons] at hw
      rcases List.mem_cons.1 hw with rfl | hw
      · rcases List.mem_cons.1 hc with rfl | hc
        · exact Bool.eq_false_iff.2 hd
        · exact ih (hparts ▸ List.mem_cons_self) hc
      · exact ih (hparts ▸ List.mem_cons_of_mem _ hw) hc

theorem not_isBlank_of_mem_words {w : List Char} (hw : w ∈ words cs) (hc : c ∈ w) :
    isBlank c = false := eq_false_of_mem_splitOnP (List.mem_filter.1 hw).1 hc

theorem words_eq_singleton (hne : cs ≠ []) (h : ∀ c ∈ cs, isBlank c = false) :
    words cs = [cs] := by
  rw [words, List.splitOnP_eq_singleton h]
  simp [hne]

theorem words_cons_of_blank (h : isBlank c = true) (cs : List Char) :
    words (c :: cs) = words cs := by
  rw [words, List.splitOnP_cons_eq_if_modifyHead, if_pos h, List.filter_cons_of_neg (by simp),
    words]

/-- A character that is no blank is a word of its own before a blank and at the end, and otherwise
begins the next word. -/
theorem words_cons_of_not_blank (h : isBlank c = false) (cs : List Char) :
    words (c :: cs) = if cs.head?.all isBlank then [c] :: words cs
      else (words cs).modifyHead (c :: ·) := by
  rw [words, List.splitOnP_cons_eq_if_modifyHead, if_neg (by simp [h])]
  cases cs with
  | nil => rfl
  | cons d cs =>
    cases hd : isBlank d with
    | true =>
      rw [words_cons_of_blank hd, List.splitOnP_cons_eq_if_modifyHead, if_pos hd, List.head?_cons,
        Option.all_some, if_pos hd]
      rfl
    | false =>
      obtain ⟨first, rest, hparts⟩ :=
        List.exists_cons_of_ne_nil (List.splitOnP_ne_nil isBlank cs)
      rw [words, List.splitOnP_cons_eq_if_modifyHead, if_neg (by simp [hd]), hparts,
        List.head?_cons, Option.all_some, if_neg (by simp [hd])]
      rfl

theorem words_eq_nil_iff : words cs = [] ↔ ∀ c ∈ cs, isBlank c = true := by
  induction cs with
  | nil => simp [words]
  | cons c cs ih =>
    rw [List.forall_mem_cons]
    cases hc : isBlank c with
    | true => rw [words_cons_of_blank hc, ih, and_iff_right rfl]
    | false =>
      refine iff_of_false (fun hwords => ?_) fun h => by cases h.1
      rw [words_cons_of_not_blank hc] at hwords
      split at hwords
      next => cases hwords
      next hhead =>
        -- The next character begins a word, to which this one belongs.
        rw [List.modifyHead_eq_nil_iff, ih] at hwords
        cases cs with
        | nil => exact hhead rfl
        | cons d cs => exact hhead (hwords d List.mem_cons_self)

/-- A text is taken apart at the first character with a property. -/
theorem exists_first {p : Char → Bool} (h : ∃ c ∈ cs, p c = true) :
    ∃ before c after, cs = before ++ c :: after ∧ p c = true ∧ ∀ d ∈ before, p d = false := by
  obtain ⟨c, hc⟩ := Option.isSome_iff_exists.1 (List.find?_isSome.2 h)
  obtain ⟨hp, before, after, rfl, hbefore⟩ := List.find?_eq_some_iff_append.1 hc
  exact ⟨before, c, after, rfl, hp, fun d hd => by simpa using hbefore d hd⟩

end VariantPlan.Text
