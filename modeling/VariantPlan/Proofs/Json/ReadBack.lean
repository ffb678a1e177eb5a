import Mathlib.Data.List.TakeDrop
import VariantPlan.Json.Parser
import VariantPlan.Proofs.Json.Written

/-!
# Reading written JSON

Every text of a value with plain scalars reads back as that value, up to the depth that documents
may have. Both written forms are such texts, also with a line break behind them.

A text ends where a **delimiter** stands: a blank, a comma, a closing bracket or brace, or the end
of the document. This matters for numbers only, which would otherwise go on. The reader's fuel is no
obstacle, since every step of it passes over at least one character of the text.

Main results: `readsBack_of_writes` (every text of a part is read), `parse?_of_writes` with its
cases `parse?_compact` and `parse?_indented`, and `eq_of_compact_eq` (the compact text determines
the value).
-/

namespace VariantPlan.Json

/-! ## Delimiters -/

/-- What may follow the text of a value. -/
def Delimited (rest : List Char) : Prop :=
  ∀ c ∈ rest.head?, isGapChar c = true ∨ c = ',' ∨ c = ']' ∨ c = '}'

theorem delimited_nil : Delimited [] := by
  intro c hc
  cases hc

theorem delimited_cons {c : Char} {rest : List Char}
    (h : isGapChar c = true ∨ c = ',' ∨ c = ']' ∨ c = '}') : Delimited (c :: rest) := by
  intro d hd
  rwa [← Option.some.inj hd]

/-- Gaps keep what follows them from being part of the text. -/
theorem Gap.delimited_append {gap rest : List Char} (hgap : Gap gap) (hrest : Delimited rest) :
    Delimited (gap ++ rest) := by
  cases gap with
  | nil => exact hrest
  | cons c gap => exact delimited_cons (.inl (hgap c List.mem_cons_self))

theorem Delimited.ne {c : Char} {rest : List Char} (h : Delimited (c :: rest)) :
    c.isDigit = false ∧ c ≠ '.' ∧ c ≠ 'e' ∧ c ≠ 'E' := by
  have hc := h c rfl
  simp only [isGapChar, Bool.or_eq_true, beq_iff_eq] at hc
  rcases hc with (((rfl | rfl) | rfl) | rfl) | rfl | rfl | rfl <;> decide

/-! ## Numbers -/

theorem spanDigits?_append {ds rest : List Char} (hne : ds ≠ []) (hds : ds.all Char.isDigit = true)
    (hrest : Delimited rest) : spanDigits? (ds ++ rest) = some (ds, rest) := by
  have hstop : rest.takeWhile Char.isDigit = [] ∧ rest.dropWhile Char.isDigit = rest := by
    cases rest with
    | nil => exact ⟨rfl, rfl⟩
    | cons c rest => simp [hrest.ne.1]
  have hall := List.all_eq_true.1 hds
  unfold spanDigits?
  rw [List.span_eq_takeWhile_dropWhile, List.takeWhile_append_of_pos hall,
    List.dropWhile_append_of_pos hall, hstop.1, hstop.2, List.append_nil]
  simp [hne]

theorem readFraction?_of_delimited {rest : List Char} (h : Delimited rest) :
    readFraction? rest = some ([], rest) := by
  unfold readFraction?
  split
  next => exact absurd rfl h.ne.2.1
  next => rfl

theorem readExponent?_of_delimited {rest : List Char} (h : Delimited rest) :
    readExponent? rest = some (none, rest) := by
  unfold readExponent?
  split
  next => exact absurd rfl h.ne.2.2.1
  next => exact absurd rfl h.ne.2.2.2
  next => rfl

theorem readUnsigned?_digits (negative : Bool) (n : Nat) {rest : List Char} (h : Delimited rest) :
    readUnsigned? negative (Text.digits n ++ rest) =
      some (Numeral.value ⟨negative, Text.digits n, [], none⟩, rest) := by
  unfold readUnsigned?
  rw [spanDigits?_append (Text.digits_ne_nil n) (Text.all_isDigit_digits n) h]
  simp only [Option.bind_eq_bind, Option.bind_some, Text.not_leadingZero_digits,
    readFraction?_of_delimited h, readExponent?_of_delimited h]
  rfl

theorem readNumber?_integerText {n : Int} (hn : fitsWord n = true) {rest : List Char}
    (h : Delimited rest) : readNumber? (integerText n ++ rest) = some (.integer n, rest) := by
  have hvalue : Numeral.value ⟨decide (n < 0), Text.digits n.natAbs, [], none⟩ = .integer n := by
    rw [Numeral.value, Numeral.integer?_digits hn]
  unfold integerText
  by_cases hneg : n < 0
  · rw [if_pos hneg, List.cons_append, readNumber?, readUnsigned?_digits true n.natAbs h,
      ← hvalue, decide_eq_true hneg]
  · have hread := readUnsigned?_digits false n.natAbs h
    obtain ⟨c, cs, hcs, hc⟩ := Text.exists_digits_eq_cons n.natAbs
    rw [if_neg hneg, ← hvalue, decide_eq_false hneg, ← hread, hcs, List.cons_append]
    unfold readNumber?
    split
    next heq =>
      cases heq
      cases hc
    next => rfl

/-! ## Strings -/

theorem isSurrogate_toNat (c : Char) :
    isHighSurrogate c.toNat = false ∧ isLowSurrogate c.toNat = false := by
  have hc : c.toNat < 0xD800 ∨ 0xDFFF < c.toNat ∧ c.toNat < 0x110000 := c.valid
  unfold isHighSurrogate isLowSurrogate
  simp only [Bool.and_eq_false_iff, decide_eq_false_iff_not]
  omega

theorem joinUnits?_map_toNat (cs : List Char) : joinUnits? (cs.map Char.toNat) = some cs := by
  induction cs with
  | nil => rfl
  | cons c cs ih =>
    have hc := isSurrogate_toNat c
    cases cs with
    | nil => simp [joinUnits?, hc.1, hc.2]
    | cons d cs =>
      rw [List.map_cons, List.map_cons] at *
      simp only [joinUnits?, hc.1, hc.2]
      rw [ih]
      simp

/-- A written string reads back, once its opening quotation mark is passed. -/
theorem readString?_flatMap_escape (s : String) (rest : List Char) :
    readString? (s.toList.flatMap escape ++ '"' :: rest) = some (some s, rest) := by
  rw [readString?, readUnits_quoted, Option.map_some, joinUnits?_map_toNat, Option.map_some,
    String.ofList_toList]

/-! ## Beginnings -/

/-- Whether the text of a value can begin with a character. -/
def isStart (c : Char) : Bool := c.isDigit || ['n', 't', 'f', '"', '[', '{', '-'].contains c

theorem ne_of_isStart {c d : Char} (hc : isStart c = true) (hd : isStart d = false) : c ≠ d := by
  rintro rfl
  rw [hc] at hd
  cases hd

theorem isGapChar_of_isStart {c : Char} (hc : isStart c = true) : isGapChar c = false := by
  have h₁ := ne_of_isStart hc (d := ' ') rfl
  have h₂ := ne_of_isStart hc (d := '\n') rfl
  have h₃ := ne_of_isStart hc (d := '\t') rfl
  have h₄ := ne_of_isStart hc (d := '\r') rfl
  simp [isGapChar, h₁, h₂, h₃, h₄]

theorem skipBlanks_gap {gap : List Char} (hgap : Gap gap) {c : Char} (hc : isGapChar c = false)
    (cs : List Char) : skipBlanks (gap ++ c :: cs) = c :: cs := by
  show (gap ++ c :: cs).dropWhile isGapChar = c :: cs
  rw [List.dropWhile_append_of_pos hgap, List.dropWhile_cons_of_neg (by simp [hc])]

theorem exists_integerText_eq_cons (n : Int) :
    ∃ c cs, integerText n = c :: cs ∧ (c = '-' ∨ c.isDigit = true) := by
  unfold integerText
  split
  · exact ⟨'-', _, rfl, .inl rfl⟩
  · obtain ⟨c, cs, hcs, hc⟩ := Text.exists_digits_eq_cons n.natAbs
    exact ⟨c, cs, hcs, .inr hc⟩

theorem exists_scalarText_eq_cons {j : Json} (hs : j.isScalar = true) (hj : Plain j) :
    ∃ c cs, scalarText j = c :: cs ∧ isStart c = true := by
  cases j with
  | bool b => cases b <;> exact ⟨_, _, rfl, rfl⟩
  | integer n =>
    obtain ⟨c, cs, hcs, rfl | hc⟩ := exists_integerText_eq_cons n
    · exact ⟨_, _, hcs, rfl⟩
    · exact ⟨_, _, hcs, by simp [isStart, hc]⟩
  | double | unreadable => cases hj
  | list | object => cases hs
  | _ => exact ⟨_, _, rfl, rfl⟩

theorem exists_eq_cons_of_writes {j : Json} {cs : List Char} (h : Writes (.value j) cs) :
    ∃ c cs', cs = c :: cs' ∧ isStart c = true := by
  cases h with
  | scalar hs hj => exact exists_scalarText_eq_cons hs hj
  | _ => exact ⟨_, _, rfl, rfl⟩

theorem skipBlanks_gap_value {gap cs : List Char} {j : Json} (hgap : Gap gap)
    (h : Writes (.value j) cs) (rest : List Char) :
    skipBlanks (gap ++ (cs ++ rest)) = cs ++ rest := by
  obtain ⟨c, cs, rfl, hc⟩ := exists_eq_cons_of_writes h
  exact skipBlanks_gap hgap (isGapChar_of_isStart hc) _

theorem skipBlanks_gap_member {gap cs : List Char} {k : String} {j : Json} (hgap : Gap gap)
    (h : Writes (.member k j) cs) (rest : List Char) :
    skipBlanks (gap ++ (cs ++ rest)) = cs ++ rest := by
  cases h with
  | colon => exact skipBlanks_gap hgap rfl _

/-- Every part has characters, which pay for the step that reads it. -/
theorem length_pos_of_writes {part : Part} {cs : List Char} (h : Writes part cs) :
    0 < cs.length := by
  cases h with
  | scalar hs hj =>
    obtain ⟨c, cs, hcs, -⟩ := exists_scalarText_eq_cons hs hj
    rw [hcs]
    exact Nat.succ_pos _
  | noItem | item | noMember | member =>
    rw [List.length_append, List.length_cons]
    omega
  | _ => exact Nat.succ_pos _

theorem delimited_items {items : List Json} {tail : List Char} (h : Writes (.items items) tail)
    (rest : List Char) : Delimited (tail ++ rest) := by
  cases h with
  | noItem hgap | item hgap =>
    rw [List.append_assoc]
    exact hgap.delimited_append (delimited_cons (by simp))

theorem delimited_members {members : List (String × Json)} {tail : List Char}
    (h : Writes (.members members) tail) (rest : List Char) : Delimited (tail ++ rest) := by
  cases h with
  | noMember hgap | member hgap =>
    rw [List.append_assoc]
    exact hgap.delimited_append (delimited_cons (by simp))

/-! ## Scalars -/

theorem readValue?_of_number {c : Char} (hc : c = '-' ∨ c.isDigit = true) (fuel : Nat)
    (cs : List Char) : readValue? (fuel + 1) (c :: cs) = readNumber? (c :: cs) := by
  have hne : ∀ d : Char, d ≠ '-' → d.isDigit = false → c ≠ d := by
    rintro d hd hd' rfl
    rcases hc with hc | hc
    · exact hd hc
    · rw [hd'] at hc
      cases hc
  have h₁ := hne 'n' (by decide) rfl
  have h₂ := hne 't' (by decide) rfl
  have h₃ := hne 'f' (by decide) rfl
  have h₄ := hne '"' (by decide) rfl
  have h₅ := hne '[' (by decide) rfl
  have h₆ := hne '{' (by decide) rfl
  rw [readValue?] <;> simp [h₁, h₂, h₃, h₄, h₅, h₆]

theorem readValue?_scalarText {j : Json} (hs : j.isScalar = true) (hj : Plain j) (fuel : Nat)
    {rest : List Char} (hrest : Delimited rest) :
    readValue? (fuel + 1) (scalarText j ++ rest) = some (j, rest) := by
  cases j with
  | null => rfl
  | bool b => cases b <;> rfl
  | integer n =>
    have hread := readNumber?_integerText hj hrest
    obtain ⟨c, cs, hcs, hc⟩ := exists_integerText_eq_cons n
    show readValue? (fuel + 1) (integerText n ++ rest) = _
    rw [hcs, List.cons_append] at hread ⊢
    rw [readValue?_of_number hc, hread]
  | string s =>
    show readValue? (fuel + 1) ('"' :: (s.toList.flatMap escape ++ ['"'] ++ rest)) = _
    rw [List.append_assoc, List.cons_append, List.nil_append, readValue?,
      readString?_flatMap_escape]
    rfl
  | double | unreadable => cases hj
  | list | object => cases hs

/-! ## Steps of the reader -/

/-- Read on behind an item: further items or the end of the list. -/
def readItemTail? (fuel : Nat) (cs : List Char) : Option (List Json × List Char) :=
  match skipBlanks cs with
  | ',' :: rest => readItems? fuel (skipBlanks rest)
  | ']' :: rest => some ([], rest)
  | _ => none

/-- Read on behind a member: further members or the end of the object. -/
def readMemberTail? (fuel : Nat) (cs : List Char) :
    Option (Option (List (String × Json)) × List Char) :=
  match skipBlanks cs with
  | ',' :: rest => readMembers? fuel (skipBlanks rest)
  | '}' :: rest => some (some [], rest)
  | _ => none

theorem readItems?_of_readValue? {fuel : Nat} {cs rest rest' : List Char} {j : Json}
    {items : List Json} (hj : readValue? fuel cs = some (j, rest))
    (htail : readItemTail? fuel rest = some (items, rest')) :
    readItems? (fuel + 1) cs = some (j :: items, rest') := by
  unfold readItemTail? at htail
  split at htail
  next heq =>
    rw [readItems?, hj]
    simp only [Option.bind_eq_bind, Option.bind_some, heq, htail]
  next heq =>
    cases htail
    rw [readItems?, hj]
    simp only [Option.bind_eq_bind, Option.bind_some, heq]
  next => cases htail

theorem readMembers?_of_readValue? {fuel : Nat} {k : String} {j : Json}
    {gap cs rest rest' : List Char} {members : List (String × Json)} (hgap : Gap gap)
    (hj : readValue? fuel (skipBlanks cs) = some (j, rest))
    (htail : readMemberTail? fuel rest = some (some members, rest')) :
    readMembers? (fuel + 1) (quoted k.toList ++ (gap ++ ':' :: cs)) =
      some (some ((k, j) :: members), rest') := by
  show readMembers? (fuel + 1) ('"' :: (k.toList.flatMap escape ++ ['"'] ++ _)) = _
  rw [List.append_assoc, List.cons_append, List.nil_append, readMembers?]
  unfold readMemberTail? at htail
  split at htail
  next heq =>
    simp only [readString?_flatMap_escape, Option.bind_eq_bind, Option.bind_some,
      skipBlanks_gap hgap (c := ':') rfl, hj, heq, htail]
    rfl
  next heq =>
    cases htail
    simp only [readString?_flatMap_escape, Option.bind_eq_bind, Option.bind_some,
      skipBlanks_gap hgap (c := ':') rfl, hj, heq]
    rfl
  next => cases htail

section

variable {fuel : Nat} {gap cs rest : List Char} (hgap : Gap gap)

include hgap

theorem readValue?_emptyList :
    readValue? (fuel + 1) ('[' :: (gap ++ ']' :: rest)) = some (.list [], rest) := by
  rw [readValue?, skipBlanks_gap hgap (c := ']') rfl]
  rfl

theorem readValue?_emptyObject :
    readValue? (fuel + 1) ('{' :: (gap ++ '}' :: rest)) = some (.object [], rest) := by
  rw [readValue?, skipBlanks_gap hgap (c := '}') rfl]
  rfl

/-- The items of a list begin where no blank is and no closing bracket. -/
theorem readValue?_bracket {j : Json} (h : Writes (.value j) cs) :
    readValue? (fuel + 1) ('[' :: (gap ++ (cs ++ rest))) =
      (readItems? fuel (cs ++ rest)).map fun p => (.list p.1, p.2) := by
  obtain ⟨c, cs, rfl, hc⟩ := exists_eq_cons_of_writes h
  rw [readValue?, List.cons_append, skipBlanks_gap hgap (isGapChar_of_isStart hc)]
  split
  next heq => exact absurd (List.cons.inj heq).1 (ne_of_isStart hc rfl)
  next => rfl

/-- The members of an object begin with a key. -/
theorem readValue?_brace {k : String} {j : Json} (h : Writes (.member k j) cs) :
    readValue? (fuel + 1) ('{' :: (gap ++ (cs ++ rest))) =
      (readMembers? fuel (cs ++ rest)).map fun p =>
        ((p.1.map Json.object).getD .unreadable, p.2) := by
  rw [readValue?, skipBlanks_gap_member hgap h]
  cases h with
  | colon => rfl

end

/-! ## Texts -/

/-- A text of a part is read as the part, if there is fuel for its length: values and members up to
the delimiter after them, and what stands behind an item or a member up to the end of its
container. -/
def ReadsBack : Part → List Char → Prop
  | .value j, cs => ∀ fuel rest, cs.length ≤ fuel → Delimited rest →
    readValue? fuel (cs ++ rest) = some (j, rest)
  | .items items, tail => ∀ fuel rest, tail.length ≤ fuel →
    readItemTail? fuel (tail ++ rest) = some (items, rest)
  | .member k j, cs => ∀ fuel rest, cs.length ≤ fuel + 1 → Delimited rest → ∀ members rest',
    readMemberTail? fuel rest = some (some members, rest') →
      readMembers? (fuel + 1) (cs ++ rest) = some (some ((k, j) :: members), rest')
  | .members members, tail => ∀ fuel rest, tail.length ≤ fuel →
    readMemberTail? fuel (tail ++ rest) = some (some members, rest)

/-- **The reader takes every text of a part.** -/
theorem readsBack_of_writes {part : Part} {cs : List Char} (h : Writes part cs) :
    ReadsBack part cs := by
  induction h with
  | scalar hs hj =>
    intro fuel rest hfuel hrest
    have hlength := length_pos_of_writes (.scalar hs hj)
    obtain ⟨fuel, rfl⟩ : ∃ f, fuel = f + 1 := ⟨fuel - 1, by omega⟩
    exact readValue?_scalarText hs hj fuel hrest
  | emptyList hgap =>
    intro fuel rest hfuel _
    have hlength := length_pos_of_writes (.emptyList hgap)
    obtain ⟨fuel, rfl⟩ : ∃ f, fuel = f + 1 := ⟨fuel - 1, by omega⟩
    rw [List.cons_append, List.append_assoc]
    exact readValue?_emptyList hgap
  | emptyObject hgap =>
    intro fuel rest hfuel _
    have hlength := length_pos_of_writes (.emptyObject hgap)
    obtain ⟨fuel, rfl⟩ : ∃ f, fuel = f + 1 := ⟨fuel - 1, by omega⟩
    rw [List.cons_append, List.append_assoc]
    exact readValue?_emptyObject hgap
  | list hgap hj htail ihj ihtail =>
    intro fuel rest hfuel _
    have hlength := length_pos_of_writes hj
    have hlength' := length_pos_of_writes htail
    -- The opening bracket pays for the call that reads the items.
    simp only [List.length_cons, List.length_append] at hfuel
    obtain ⟨fuel, rfl⟩ : ∃ f, fuel = f + 2 := ⟨fuel - 2, by omega⟩
    have hread := readItems?_of_readValue?
      (ihj fuel _ (by omega) (delimited_items htail rest)) (ihtail fuel rest (by omega))
    rw [List.cons_append, List.append_assoc, List.append_assoc, readValue?_bracket hgap hj, hread]
    rfl
  | object hgap hmember htail ihmember ihtail =>
    intro fuel rest hfuel _
    have hlength := length_pos_of_writes hmember
    have hlength' := length_pos_of_writes htail
    simp only [List.length_cons, List.length_append] at hfuel
    obtain ⟨fuel, rfl⟩ : ∃ f, fuel = f + 2 := ⟨fuel - 2, by omega⟩
    have hread := ihmember fuel _ (by omega) (delimited_members htail rest) _ _
      (ihtail fuel rest (by omega))
    rw [List.cons_append, List.append_assoc, List.append_assoc, readValue?_brace hgap hmember,
      hread]
    rfl
  | noItem hgap =>
    intro fuel rest _
    rw [readItemTail?, List.append_assoc, List.cons_append, skipBlanks_gap hgap (c := ']') rfl]
    rfl
  | item hgap hgap' hj htail ihj ihtail =>
    intro fuel rest hfuel
    have hlength := length_pos_of_writes hj
    have hlength' := length_pos_of_writes htail
    simp only [List.length_cons, List.length_append] at hfuel
    obtain ⟨fuel, rfl⟩ : ∃ f, fuel = f + 1 := ⟨fuel - 1, by omega⟩
    have hread := readItems?_of_readValue?
      (ihj fuel _ (by omega) (delimited_items htail rest)) (ihtail fuel rest (by omega))
    rw [readItemTail?, List.append_assoc, List.cons_append, skipBlanks_gap hgap (c := ',') rfl]
    simp only [List.append_assoc, skipBlanks_gap_value hgap' hj, hread]
  | colon hgap hgap' hj ihj =>
    intro fuel rest hfuel hrest members rest' htail
    simp only [quoted, List.length_cons, List.length_append] at hfuel
    rw [List.append_assoc, List.append_assoc, List.cons_append, List.append_assoc]
    refine readMembers?_of_readValue? hgap ?_ htail
    rw [skipBlanks_gap_value hgap' hj, ihj fuel rest (by omega) hrest]
  | noMember hgap =>
    intro fuel rest _
    rw [readMemberTail?, List.append_assoc, List.cons_append, skipBlanks_gap hgap (c := '}') rfl]
    rfl
  | member hgap hgap' hmember htail ihmember ihtail =>
    intro fuel rest hfuel
    have hlength := length_pos_of_writes hmember
    have hlength' := length_pos_of_writes htail
    simp only [List.length_cons, List.length_append] at hfuel
    obtain ⟨fuel, rfl⟩ : ∃ f, fuel = f + 1 := ⟨fuel - 1, by omega⟩
    have hread := ihmember fuel _ (by omega) (delimited_members htail rest) _ _
      (ihtail fuel rest (by omega))
    rw [readMemberTail?, List.append_assoc, List.cons_append, skipBlanks_gap hgap (c := ',') rfl]
    simp only [List.append_assoc, skipBlanks_gap_member hgap' hmember, hread]

/-! ## Documents -/

/-- **A text reads back** as its value, if the depth is allowed, also with blanks around it. -/
theorem parse?_of_writes {j : Json} {cs : List Char} (h : Writes (.value j) cs)
    (hdepth : Within Plain maxDepth j) {before after : List Char} (hbefore : Gap before)
    (hafter : Gap after) : parse? (String.ofList (before ++ (cs ++ after))) = some j := by
  have hrest : Delimited after := by
    rw [← List.append_nil after]
    exact hafter.delimited_append delimited_nil
  have hread := readsBack_of_writes h (2 * (cs ++ after).length + 1) after
    (by rw [List.length_append]; omega) hrest
  have hblank : skipBlanks after = [] := by
    rw [← List.append_nil after]
    exact List.dropWhile_append_of_pos hafter
  rw [parse?, String.toList_ofList, skipBlanks_gap_value hbefore h, hread]
  simp only [hblank, limitDepth_eq_self hdepth, List.isEmpty_nil, if_true]

theorem parse?_compact {j : Json} (h : Within Plain maxDepth j) : parse? j.compact = some j := by
  have hread := parse?_of_writes (Printer.compact.writes h 0) h gap_nil gap_nil
  rwa [List.nil_append, List.append_nil] at hread

/-- The indented form of a value, as reports print it on its own, reads back. -/
theorem parse?_indented {j : Json} (h : Within Plain maxDepth j) :
    parse? (j.indented ++ "\n") = some j := by
  have hread := parse?_of_writes (Printer.indented.writes h 0) h gap_nil (gap_newline 0)
  rwa [List.nil_append, String.ofList_append] at hread

theorem eq_of_compact_eq {i j : Json} (hi : Within Plain maxDepth i) (hj : Within Plain maxDepth j)
    (h : i.compact = j.compact) : i = j := by
  have hread := parse?_compact hi
  rw [h, parse?_compact hj] at hread
  exact (Option.some.inj hread).symm

end VariantPlan.Json
