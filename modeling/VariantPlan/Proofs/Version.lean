import VariantPlan.Compiler.Standard
import VariantPlan.Version.Constraint

/-!
# Written versions

The written forms of versions, constraints and standards read back. A version is cut at its first
plus sign and then at its first hyphen; numbers hold neither, and labels hold hyphens only behind
the cut. Its labels are cut at dots, which stand in none of them.

Main results: `Version.ofText?_text`, `VersionConstraint.ofText?_text` and
`CppStandard.ofText?_text`.
-/

namespace VariantPlan

/-! ## Texts without blanks -/

namespace Text

theorem dropWhile_both_eq_self {p : Char → Bool} {cs : List Char} (h : ∀ c ∈ cs, p c = false) :
    ((cs.dropWhile p).reverse.dropWhile p).reverse = cs := by
  have hdrop : ∀ l : List Char, (∀ c ∈ l, p c = false) → l.dropWhile p = l := by
    intro l hl
    cases l with
    | nil => rfl
    | cons c l => rw [List.dropWhile_cons_of_neg (by simp [hl c])]
  rw [hdrop cs h, hdrop cs.reverse fun c hc => h c (List.mem_reverse.1 hc), List.reverse_reverse]

theorem trim_eq_self {cs : List Char} (h : ∀ c ∈ cs, isBlank c = false) : trim cs = cs :=
  dropWhile_both_eq_self h

theorem not_isBlank_of_graphic {c : Char} (h₁ : 33 ≤ c.toNat) (h₂ : c.toNat ≤ 126) :
    isBlank c = false := by
  simp only [isBlank, isWithin, blankRanges, List.any_cons, List.any_nil, Bool.or_false,
    Bool.or_eq_false_iff, Bool.and_eq_false_iff, decide_eq_false_iff_not]
  omega

theorem not_isBlank_of_isDigit {c : Char} (h : c.isDigit = true) : isBlank c = false := by
  have hc : 48 ≤ c.toNat ∧ c.toNat ≤ 57 := by
    simp only [Char.isDigit, ge_iff_le, Bool.and_eq_true, decide_eq_true_eq] at h
    exact h
  exact not_isBlank_of_graphic (by omega) (by omega)

/-! ## Parts between separators -/

theorem mem_intercalate {α : Type} {c sep : α} {ls : List (List α)}
    (h : c ∈ [sep].intercalate ls) : c = sep ∨ ∃ l ∈ ls, c ∈ l := by
  induction ls with
  | nil => simp at h
  | cons l ls ih =>
    cases ls with
    | nil =>
      rw [List.intercalate_singleton] at h
      exact .inr ⟨l, List.mem_cons_self, h⟩
    | cons k ls =>
      rw [List.intercalate_cons_cons, List.append_assoc, List.mem_append, List.mem_append,
        List.mem_singleton] at h
      rcases h with h | h | h
      · exact .inr ⟨l, List.mem_cons_self, h⟩
      · exact .inl h
      · exact (ih h).imp_right fun ⟨m, hm, hc⟩ => ⟨m, List.mem_cons_of_mem _ hm, hc⟩

end Text

/-! ## Labels between dots -/

/-- Items written between dots, none of which holds a dot, are read one by one. -/
theorem mapM_splitOn_intercalate {α : Type} {write : α → List Char}
    {read : List Char → Option α} (hread : ∀ a, read (write a) = some a)
    (hdot : ∀ a, '.' ∉ write a) {l : List α} (hl : l ≠ []) :
    ((['.'].intercalate (l.map write)).splitOn '.').mapM read = some l := by
  have hdots : ∀ cs ∈ l.map write, '.' ∉ cs := by
    intro cs hcs
    obtain ⟨a, -, rfl⟩ := List.mem_map.1 hcs
    exact hdot a
  have hcomp : read ∘ write = fun a => pure a := by
    funext a
    exact hread a
  rw [List.splitOn_intercalate '.' hdots (by simpa using hl), List.mapM_map, hcomp, List.mapM_pure,
    List.map_id']
  rfl

namespace Version

theorem not_mem_labelText {c mark : Char} (hm : c ≠ mark) (hdot : c ≠ '.')
    {labels : List (List Char)} (h : ∀ l ∈ labels, c ∉ l) : c ∉ labelText mark labels := by
  unfold labelText
  split
  · exact List.not_mem_nil
  · rw [List.mem_cons, not_or]
    refine ⟨hm, fun hc => ?_⟩
    rcases Text.mem_intercalate hc with hc | ⟨l, hl, hc⟩
    · exact hdot hc
    · exact h l hl hc

/-- The text in front of a mark, and the labels between dots behind it. -/
def readMarked? {α : Type} (mark : Char) (read : List Char → Option α) (cs : List Char) :
    Option (List Char × List α) :=
  match Text.cut? mark cs with
  | none => some (cs, [])
  | some (front, back) => ((back.splitOn '.').mapM read).map (front, ·)

/-- Labels behind a mark are found again, and so is what stands in front of it. -/
theorem readMarked?_labelText {α : Type} {mark : Char} {write : α → List Char}
    {read : List Char → Option α} (hread : ∀ a, read (write a) = some a)
    (hdot : ∀ a, '.' ∉ write a) {front : List Char} (hfront : mark ∉ front) (l : List α) :
    readMarked? mark read (front ++ labelText mark (l.map write)) = some (front, l) := by
  cases l with
  | nil =>
    have hcut : Text.cut? mark front = none := Text.cut?_eq_none_iff.2 hfront
    show readMarked? mark read (front ++ []) = _
    rw [List.append_nil, readMarked?, hcut]
  | cons a l =>
    have hcut : Text.cut? mark (front ++ labelText mark ((a :: l).map write)) =
        some (front, ['.'].intercalate ((a :: l).map write)) :=
      Text.cut?_eq_some_iff.2 ⟨rfl, hfront⟩
    rw [readMarked?, hcut]
    simp only [mapM_splitOn_intercalate hread hdot (List.cons_ne_nil a l), Option.map_some]

/-- A version is read from its end: build labels, pre-release labels, numbers. -/
theorem ofChars?_eq_bind (cs : List Char) :
    ofChars? cs = (readMarked? '+' readLabel? cs).bind fun p =>
      (readMarked? '-' readPreLabel? p.1).bind fun q => (do
        let [major, minor, patch] := q.1.splitOn '.' | none
        let major ← readNumber? major
        let minor ← readNumber? minor
        let patch ← readNumber? patch
        some ⟨major, minor, patch, q.2, p.2⟩) := by
  unfold ofChars? readMarked?
  cases Text.cut? '+' cs with
  | none =>
    simp only [Option.bind_eq_bind, Option.bind_some]
    cases Text.cut? '-' cs with
    | none => rfl
    | some q => rfl
  | some p =>
    simp only [Option.bind_eq_bind, Option.bind_map, Function.comp_def]
    cases (p.2.splitOn '.').mapM readLabel? with
    | none => rfl
    | some build =>
      simp only [Option.bind_some]
      cases Text.cut? '-' p.1 with
      | none => rfl
      | some q =>
        refine Eq.trans ?_ Option.bind_map.symm
        rfl

/-! ## Parts of a version -/

theorem not_mem_digits {c : Char} (hc : c.isDigit = false) (n : Nat) : c ∉ Text.digits n := by
  intro h
  have hd := List.all_eq_true.1 (Text.all_isDigit_digits n) c h
  rw [hc] at hd
  cases hd

theorem not_mem_label {c : Char} (hc : isLabelChar c = false) (l : Label) : c ∉ l.chars := by
  intro h
  have hl := List.all_eq_true.1 l.allowed c h
  rw [hc] at hl
  cases hl

theorem not_mem_preLabel {c : Char} (hc : isLabelChar c = false) (l : PreLabel) :
    c ∉ l.chars := by
  cases l with
  | number n =>
    refine not_mem_digits ?_ n
    simp only [isLabelChar, Char.isAlphanum, Bool.or_eq_false_iff] at hc
    exact hc.1.2
  | word l _ => exact not_mem_label hc l

theorem readNumber?_digits (n : UInt64) : readNumber? (Text.digits n.toNat) = some n := by
  have hn : n.toNat < Text.wordBound := n.toNat_lt
  have hfilter : (some n.toNat).filter (· < Text.wordBound) = some n.toNat := by
    simp [Option.filter, hn]
  rw [readNumber?, Text.not_leadingZero_digits, Text.readDigits?_digits, hfilter]
  simp

theorem readLabel?_chars (l : Label) : readLabel? l.chars = some l :=
  dif_pos ⟨l.nonempty, l.allowed⟩

theorem all_isLabelChar_digits (n : Nat) : (Text.digits n).all isLabelChar = true := by
  refine List.all_eq_true.2 fun c hc => ?_
  have hd := List.all_eq_true.1 (Text.all_isDigit_digits n) c hc
  simp [isLabelChar, Char.isAlphanum, hd]

theorem readPreLabel?_chars (l : PreLabel) : readPreLabel? l.chars = some l := by
  cases l with
  | number n =>
    have hl : readLabel? (Text.digits n) =
        some ⟨Text.digits n, Text.digits_ne_nil n, all_isLabelChar_digits n⟩ :=
      dif_pos ⟨Text.digits_ne_nil n, all_isLabelChar_digits n⟩
    show readPreLabel? (Text.digits n) = _
    rw [readPreLabel?, hl, Option.bind_eq_bind, Option.bind_some,
      dif_neg (by simp [Text.all_isDigit_digits]), Text.not_leadingZero_digits,
      Text.readDigits?_digits]
    rfl
  | word l hl =>
    show readPreLabel? l.chars = _
    rw [readPreLabel?, readLabel?_chars, Option.bind_eq_bind, Option.bind_some, dif_pos hl]

theorem splitOn_coreText (v : Version) :
    v.coreText.splitOn '.' =
      [Text.digits v.major.toNat, Text.digits v.minor.toNat, Text.digits v.patch.toNat] := by
  have hdot : ∀ n, '.' ∉ Text.digits n := not_mem_digits rfl
  rw [coreText, List.splitOn_append_cons_self_of_not_mem (hdot _),
    List.splitOn_append_cons_self_of_not_mem (hdot _), List.splitOn_eq_singleton (hdot _)]

theorem not_mem_coreText {c : Char} (hc : c.isDigit = false) (hdot : c ≠ '.') (v : Version) :
    c ∉ v.coreText := by
  simp [coreText, not_mem_digits hc, hdot]

/-! ## Versions -/

theorem ofChars?_chars (v : Version) : ofChars? v.chars = some v := by
  have hpre : '-' ∉ v.coreText := not_mem_coreText rfl (by decide) v
  have hbuild : '+' ∉ v.coreText ++ labelText '-' (v.pre.map PreLabel.chars) := by
    rw [List.mem_append, not_or]
    refine ⟨not_mem_coreText rfl (by decide) v, not_mem_labelText (by decide) (by decide) ?_⟩
    intro l hl
    obtain ⟨p, -, rfl⟩ := List.mem_map.1 hl
    exact not_mem_preLabel rfl p
  rw [ofChars?_eq_bind, chars, readMarked?_labelText readLabel?_chars (not_mem_label rfl) hbuild,
    Option.bind_some, readMarked?_labelText readPreLabel?_chars (not_mem_preLabel rfl) hpre,
    Option.bind_some]
  simp only [splitOn_coreText, readNumber?_digits]
  rfl

theorem ofText?_text (v : Version) : ofText? v.text = some v := by
  rw [ofText?, text, String.toList_ofList, ofChars?_chars]

end Version

/-! ## Constraints -/

namespace VersionConstraint

theorem stripSpaces_of_not_mem {cs : List Char} (h : ' ' ∉ cs) : stripSpaces cs = cs :=
  Text.dropWhile_both_eq_self fun _ hc => beq_false_of_ne fun e => h (e ▸ hc)

theorem chars_release (major minor patch : UInt64) :
    (Version.release major minor patch).chars = (Version.release major minor patch).coreText := by
  simp [Version.chars, Version.release, Version.labelText]

theorem not_mem_release (major minor patch : UInt64) :
    ' ' ∉ (Version.release major minor patch).chars := by
  rw [chars_release]
  exact Version.not_mem_coreText rfl (by decide) _

theorem readBound?_release (major minor patch : UInt64) :
    readBound? (Version.release major minor patch).chars = some (major, minor, patch) := by
  rw [readBound?, chars_release, Version.splitOn_coreText]
  simp only [Version.release, Version.readNumber?_digits]
  rfl

theorem ofText?_text (c : VersionConstraint) : ofText? c.text = some c := by
  have hspace : ' ' ∉ c.chars := by
    cases c with
    | any => decide
    | atLeast major minor patch | exactly major minor patch =>
      simp [chars, not_mem_release major minor patch]
  rw [ofText?, text, String.toList_ofList, ofChars?, stripSpaces_of_not_mem hspace]
  cases c with
  | any => rfl
  | atLeast major minor patch | exactly major minor patch =>
    simp only [chars, stripSpaces_of_not_mem (not_mem_release major minor patch),
      readBound?_release]
    rfl

end VersionConstraint

/-! ## Standards -/

namespace CppStandard

theorem not_isBlank_of_mem_chars (s : CppStandard) :
    ∀ c ∈ s.chars, Text.isBlank c = false := by
  have htwo : ∀ c ∈ Text.twoDigits s.level.val, c.isDigit = true := by
    unfold Text.twoDigits
    have hd := List.all_eq_true.1 (Text.all_isDigit_digits s.level.val)
    split
    · exact List.forall_mem_cons.2 ⟨rfl, hd⟩
    · exact hd
  intro c hc
  unfold chars at hc
  split at hc
  · simp only [List.mem_cons] at hc
    rcases hc with rfl | rfl | rfl | hc
    · decide
    · decide
    · decide
    · exact Text.not_isBlank_of_isDigit (htwo c hc)
  · exact Text.not_isBlank_of_isDigit (htwo c hc)

theorem ofText?_text (s : CppStandard) : ofText? s.text = some s := by
  rw [ofText?, text, String.toList_ofList, Text.trim_eq_self s.not_isBlank_of_mem_chars,
    ofChars?_chars]

end CppStandard

end VariantPlan
