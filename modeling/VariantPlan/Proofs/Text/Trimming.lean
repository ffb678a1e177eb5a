import Mathlib.Data.List.TakeWhile
import VariantPlan.Text.Blank

/-!
# Texts without the blanks around them

The **core** of a text is what is left between the blanks at its start and the blanks at its end: it
neither starts nor ends with a blank. A text of blanks has the empty core. Every text has one core,
and trimming finds it.

Main results: `trim_eq_iff`, `trim_eq_self_iff`, `isBare_append_cons` and `IsCore.mem_iff`.
-/

namespace VariantPlan.Text

variable {cs core : List Char}

/-- A text neither starts nor ends with a blank. -/
structure IsBare (cs : List Char) : Prop where
  head : ∀ c ∈ cs.head?, isBlank c = false
  last : ∀ c ∈ cs.getLast?, isBlank c = false

/-- A text has nothing but blanks around its core. -/
structure IsCore (core cs : List Char) : Prop extends IsBare core where
  padded : ∃ before after, cs = before ++ (core ++ after) ∧ (∀ c ∈ before, isBlank c = true) ∧
    ∀ c ∈ after, isBlank c = true

theorem dropWhile_eq_self {p : Char → Bool} (h : ∀ c ∈ cs.head?, p c = false) :
    cs.dropWhile p = cs := by
  cases cs with
  | nil => rfl
  | cons c cs => rw [List.dropWhile_cons_of_neg (by simp [h c rfl])]

theorem IsBare.head_append (h : IsBare core) {after : List Char} (hne : core ≠ []) :
    ∀ c ∈ (core ++ after).head?, isBlank c = false := by
  obtain ⟨d, core, rfl⟩ := List.exists_cons_of_ne_nil hne
  exact h.head

theorem IsCore.trim_eq (h : IsCore core cs) : trim cs = core := by
  obtain ⟨before, after, rfl, hbefore, hafter⟩ := h.padded
  have hreverse : ∀ c ∈ after.reverse, isBlank c = true := fun c hc =>
    hafter c (List.mem_reverse.1 hc)
  rw [trim, trimStart, List.dropWhile_append_of_pos hbefore, trimEnd]
  by_cases hne : core = []
  · -- Of a text of blanks nothing is left at the start already.
    subst hne
    rw [List.nil_append, List.dropWhile_eq_nil_iff.2 hafter]
    rfl
  · have hhead : ∀ c ∈ core.reverse.head?, isBlank c = false := by
      rw [List.head?_reverse]
      exact h.last
    rw [dropWhile_eq_self (h.head_append hne), List.reverse_append,
      List.dropWhile_append_of_pos hreverse, dropWhile_eq_self hhead, List.reverse_reverse]

theorem isCore_trim (cs : List Char) : IsCore (trim cs) cs := by
  have hstart : cs.takeWhile isBlank ++ trimStart cs = cs := List.takeWhile_append_dropWhile
  have hend : trim cs ++ ((trimStart cs).reverse.takeWhile isBlank).reverse = trimStart cs := by
    rw [trim, trimEnd, ← List.reverse_append, List.takeWhile_append_dropWhile,
      List.reverse_reverse]
  refine ⟨⟨fun c hc => ?_, fun c hc => ?_⟩, cs.takeWhile isBlank,
    ((trimStart cs).reverse.takeWhile isBlank).reverse, ?_, fun c hc => ?_, fun c hc => ?_⟩
  · have hc' : c ∈ (trimStart cs).head? := by
      rw [← hend, List.head?_append, Option.mem_def.1 hc]
      rfl
    have hnot := List.head?_dropWhile_not isBlank cs
    rw [← trimStart, Option.mem_def.1 hc'] at hnot
    simpa using hnot
  · rw [trim, trimEnd, List.getLast?_reverse] at hc
    have hnot := List.head?_dropWhile_not isBlank (trimStart cs).reverse
    rw [Option.mem_def.1 hc] at hnot
    simpa using hnot
  · rw [hend, hstart]
  · exact List.mem_takeWhile_imp hc
  · exact List.mem_takeWhile_imp (List.mem_reverse.1 hc)

/-- A text has one core, and trimming finds it. -/
theorem trim_eq_iff : trim cs = core ↔ IsCore core cs := by
  constructor
  · rintro rfl
    exact isCore_trim cs
  · exact IsCore.trim_eq

theorem trim_eq_self_iff : trim cs = cs ↔ IsBare cs := by
  rw [trim_eq_iff]
  refine ⟨IsCore.toIsBare, fun h => ⟨h, [], [], ?_, nofun, nofun⟩⟩
  rw [List.nil_append, List.append_nil]

instance (cs : List Char) : Decidable (IsBare cs) := decidable_of_iff _ trim_eq_self_iff

theorem trimmed_eq_self {s : String} (h : IsBare s.toList) : trimmed s = s := by
  rw [trimmed, trim_eq_self_iff.2 h, String.ofList_toList]

/-- A text is bare if a character in it is no blank, nor is one at either end. -/
theorem isBare_append_cons {c : Char} {before after : List Char} (hc : isBlank c = false)
    (hbefore : ∀ d ∈ before.head?, isBlank d = false)
    (hafter : ∀ d ∈ after.getLast?, isBlank d = false) : IsBare (before ++ c :: after) := by
  constructor
  · cases before with
    | nil =>
      rintro d ⟨rfl⟩
      exact hc
    | cons => exact hbefore
  · intro d hd
    rw [List.getLast?_append, List.getLast?_cons, Option.some_or, Option.mem_some_iff] at hd
    subst hd
    cases hlast : after.getLast? with
    | none => exact hc
    | some last => exact hafter last hlast

/-- A bare text with a character in it has no blank at either end. -/
theorem IsBare.of_append_cons {c : Char} {before after : List Char}
    (h : IsBare (before ++ c :: after)) :
    (∀ d ∈ before.head?, isBlank d = false) ∧ ∀ d ∈ after.getLast?, isBlank d = false := by
  refine ⟨fun d hd => h.head d ?_, fun d hd => h.last d ?_⟩
  · rw [List.head?_append, Option.mem_def.1 hd]
    rfl
  · rw [List.getLast?_append, List.getLast?_cons, Option.mem_def.1 hd]
    rfl

/-- The characters of a text that are no blanks are in its core. -/
theorem IsCore.mem_iff (h : IsCore core cs) {c : Char} (hc : isBlank c = false) :
    c ∈ core ↔ c ∈ cs := by
  obtain ⟨before, after, rfl, hbefore, hafter⟩ := h.padded
  have hpad {pad : List Char} (hblank : ∀ c ∈ pad, isBlank c = true) : c ∉ pad := by
    intro hmem
    rw [hblank c hmem] at hc
    cases hc
  simp [hpad hbefore, hpad hafter]

end VariantPlan.Text
