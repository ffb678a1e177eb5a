import VariantPlan.Proofs.Json.ReadBack

/-!
# Values that compare equal

Values are compared part by part, and numbers with a binary point by what they count: zero is the
same with both signs. In **normal form** no zero has a sign. Values compare equal if and only if
they have one normal form.

Values **agree** if they compare equal but for texts, where any texts that are alike in a given way
count as the same. However freely that way is chosen, compact texts tell values that agree apart,
because each part is cut off in the same place: a text ends at its quotation mark, and a negative
zero begins with its sign.

Main results: `same_iff_normalize_eq`, and `Agree.eq_of_compact_eq` (values that agree are the same
if their compact texts are).
-/

namespace VariantPlan

namespace Binary64

/-- Two numbers count the same, and have the same sign unless they are zero. -/
def Same (x y : Binary64) : Prop := x.units = y.units ∧ (x.units = 0 ∨ x.negative = y.negative)

/-- The number, without a sign if it is zero. -/
def normalize (x : Binary64) : Binary64 := if x.units = 0 then ⟨false, 0⟩ else x

theorem normalize_eq_iff {x y : Binary64} : x.normalize = y.normalize ↔ x.Same y := by
  obtain ⟨s, m⟩ := x
  obtain ⟨t, n⟩ := y
  unfold normalize Same
  by_cases hm : m = 0 <;> by_cases hn : n = 0 <;> simp [hm, hn, and_comm, eq_comm]

theorem normalize_normalize (x : Binary64) : x.normalize.normalize = x.normalize := by
  unfold normalize
  by_cases h : x.units = 0 <;> simp [h]

end Binary64

namespace Json

/-! ## Agreement -/

/-- Two values have the same parts, but for texts that are alike and the signs of zeros. -/
inductive Agree (alike : String → String → Prop) : Json → Json → Prop where
  | refl (j : Json) : Agree alike j j
  | double {x y : Binary64} (h : x.Same y) : Agree alike (.double x) (.double y)
  | string {s t : String} (h : alike s t) : Agree alike (.string s) (.string t)
  | list {l m : List Json} (hlength : l.length = m.length)
    (h : ∀ p ∈ l.zip m, Agree alike p.1 p.2) : Agree alike (.list l) (.list m)
  | object {l m : List (String × Json)} (hkeys : l.map Prod.fst = m.map Prod.fst)
    (h : ∀ p ∈ l.zip m, Agree alike p.1.2 p.2.2) : Agree alike (.object l) (.object m)

/-- Two values compare equal. -/
def Same (i j : Json) : Prop := Agree Eq i j

theorem Agree.mono {alike alike' : String → String → Prop} (h : ∀ s t, alike s t → alike' s t)
    {i j : Json} (hagree : Agree alike i j) : Agree alike' i j := by
  induction hagree with
  | refl j => exact .refl j
  | double hsame => exact .double hsame
  | string halike => exact .string (h _ _ halike)
  | list hlength _ ih => exact .list hlength ih
  | object hkeys _ ih => exact .object hkeys ih

/-! ## Normal form -/

mutual

/-- The value with every zero without a sign. -/
def normalize : Json → Json
  | .double x => .double x.normalize
  | .list items => .list (normalizeItems items)
  | .object members => .object (normalizeMembers members)
  | .null => .null
  | .bool b => .bool b
  | .integer n => .integer n
  | .string s => .string s
  | .unreadable => .unreadable

/-- The normal forms of list items. -/
def normalizeItems : List Json → List Json
  | [] => []
  | j :: rest => normalize j :: normalizeItems rest

/-- The normal forms of object members, under their keys. -/
def normalizeMembers : List (String × Json) → List (String × Json)
  | [] => []
  | (k, j) :: rest => (k, normalize j) :: normalizeMembers rest

end

mutual

theorem normalize_normalize : ∀ j : Json, j.normalize.normalize = j.normalize
  | .double x => congrArg double x.normalize_normalize
  | .list items => congrArg list (normalizeItems_normalizeItems items)
  | .object members => congrArg object (normalizeMembers_normalizeMembers members)
  | .null | .bool _ | .integer _ | .string _ | .unreadable => rfl

theorem normalizeItems_normalizeItems :
    ∀ l : List Json, normalizeItems (normalizeItems l) = normalizeItems l
  | [] => rfl
  | j :: l => congrArg₂ List.cons (normalize_normalize j) (normalizeItems_normalizeItems l)

theorem normalizeMembers_normalizeMembers :
    ∀ l : List (String × Json), normalizeMembers (normalizeMembers l) = normalizeMembers l
  | [] => rfl
  | (k, j) :: l => congrArg₂ (fun i l => (k, i) :: l) (normalize_normalize j)
      (normalizeMembers_normalizeMembers l)

end

theorem normalizeItems_eq_of_zip {l m : List Json} (hlength : l.length = m.length)
    (h : ∀ p ∈ l.zip m, p.1.normalize = p.2.normalize) : normalizeItems l = normalizeItems m := by
  induction l generalizing m with
  | nil => rw [List.eq_nil_of_length_eq_zero hlength.symm]
  | cons i l ih =>
    cases m with
    | nil => cases hlength
    | cons j m =>
      rw [List.zip_cons_cons, List.forall_mem_cons] at h
      rw [normalizeItems, normalizeItems, h.1, ih (Nat.succ.inj hlength) h.2]

theorem normalizeMembers_eq_of_zip {l m : List (String × Json)}
    (hkeys : l.map Prod.fst = m.map Prod.fst)
    (h : ∀ p ∈ l.zip m, p.1.2.normalize = p.2.2.normalize) :
    normalizeMembers l = normalizeMembers m := by
  induction l generalizing m with
  | nil => rw [List.map_eq_nil_iff.1 hkeys.symm]
  | cons i l ih =>
    cases m with
    | nil => cases hkeys
    | cons j m =>
      rw [List.zip_cons_cons, List.forall_mem_cons] at h
      rw [List.map_cons, List.map_cons, List.cons.injEq] at hkeys
      rw [normalizeMembers, normalizeMembers, hkeys.1, h.1, ih hkeys.2 h.2]

theorem Same.normalize_eq {i j : Json} (h : Same i j) : i.normalize = j.normalize := by
  induction h with
  | refl => rfl
  | double h => rw [normalize, normalize, Binary64.normalize_eq_iff.2 h]
  | string h => rw [h]
  | list hlength _ ih => rw [normalize, normalize, normalizeItems_eq_of_zip hlength ih]
  | object hkeys _ ih => rw [normalize, normalize, normalizeMembers_eq_of_zip hkeys ih]

mutual

theorem same_of_normalize_eq : ∀ (i j : Json), i.normalize = j.normalize → Same i j
  | .double x, j, h => by
    cases j with
    | double y => exact .double (Binary64.normalize_eq_iff.1 (double.inj h))
    | _ => cases h
  | .list l, j, h => by
    cases j with
    | list m =>
      obtain ⟨hlength, hitems⟩ := same_of_normalizeItems_eq l m (list.inj h)
      exact .list hlength hitems
    | _ => cases h
  | .object l, j, h => by
    cases j with
    | object m =>
      obtain ⟨hkeys, hmembers⟩ := same_of_normalizeMembers_eq l m (object.inj h)
      exact .object hkeys hmembers
    | _ => cases h
  | .null, j, h | .bool _, j, h | .integer _, j, h | .string _, j, h | .unreadable, j, h => by
    cases j <;> cases h
    exact .refl _

theorem same_of_normalizeItems_eq : ∀ l m : List Json, normalizeItems l = normalizeItems m →
    l.length = m.length ∧ ∀ p ∈ l.zip m, Same p.1 p.2
  | [], [], _ => ⟨rfl, List.forall_mem_nil _⟩
  | i :: l, j :: m, h => by
    obtain ⟨hhead, htail⟩ := List.cons.inj h
    obtain ⟨hlength, hitems⟩ := same_of_normalizeItems_eq l m htail
    exact ⟨congrArg Nat.succ hlength,
      List.forall_mem_cons.2 ⟨same_of_normalize_eq i j hhead, hitems⟩⟩

theorem same_of_normalizeMembers_eq : ∀ l m : List (String × Json),
    normalizeMembers l = normalizeMembers m →
    l.map Prod.fst = m.map Prod.fst ∧ ∀ p ∈ l.zip m, Same p.1.2 p.2.2
  | [], [], _ => ⟨rfl, List.forall_mem_nil _⟩
  | (k, i) :: l, (k', j) :: m, h => by
    obtain ⟨hhead, htail⟩ := List.cons.inj h
    obtain ⟨hkey, hvalue⟩ := Prod.mk.inj hhead
    obtain ⟨hkeys, hmembers⟩ := same_of_normalizeMembers_eq l m htail
    exact ⟨congrArg₂ List.cons hkey hkeys,
      List.forall_mem_cons.2 ⟨same_of_normalize_eq i j hvalue, hmembers⟩⟩

end

/-- **Values compare equal if and only if they have one normal form.** -/
theorem same_iff_normalize_eq {i j : Json} : Same i j ↔ i.normalize = j.normalize :=
  ⟨Same.normalize_eq, same_of_normalize_eq i j⟩

/-! ## Compact texts -/

/-- The compact texts of two values, followed by anything, are the same only if the values are. -/
def ToldApart (i j : Json) : Prop :=
  ∀ r s : List Char, compactText i ++ r = compactText j ++ s → i = j ∧ r = s

theorem toldApart_refl (j : Json) : ToldApart j j := fun _ _ h => ⟨rfl, List.append_cancel_left h⟩

/-- Two numbers that count the same are told apart by their signs. -/
theorem toldApart_double {x y : Binary64} (h : x.Same y) : ToldApart (.double x) (.double y) := by
  obtain ⟨sign, m⟩ := x
  obtain ⟨sign', n⟩ := y
  obtain ⟨hunits, hzero⟩ := h
  simp only at hunits hzero
  subst hunits
  by_cases hsign : sign = sign'
  · subst hsign
    exact toldApart_refl _
  · obtain rfl := hzero.resolve_right hsign
    have hpositive : compactText (.double ⟨false, 0⟩) = ['0', '.', '0'] := by decide
    have hnegative : compactText (.double ⟨true, 0⟩) = ['-', '0', '.', '0'] := by decide
    intro r s htext
    cases sign <;> cases sign'
    · exact absurd rfl hsign
    · rw [hpositive, hnegative] at htext
      exact absurd (List.cons.inj htext).1 (by decide)
    · rw [hpositive, hnegative] at htext
      exact absurd (List.cons.inj htext).1 (by decide)
    · exact absurd rfl hsign

theorem toldApart_string (s t : String) : ToldApart (.string s) (.string t) := by
  intro r r' h
  have hcompact (s : String) (r : List Char) : compactText (.string s) ++ r =
      '"' :: (s.toList.flatMap escape ++ '"' :: r) := by
    simp [compactText, scalarText, quoted]
  rw [hcompact, hcompact, List.cons.injEq] at h
  have hread := congrArg readString? h.2
  rw [readString?_flatMap_escape, readString?_flatMap_escape, Option.some.injEq, Prod.mk.injEq,
    Option.some.injEq] at hread
  exact ⟨congrArg Json.string hread.1, hread.2⟩

theorem eq_of_compactItems_append {l m : List Json} (hlength : l.length = m.length)
    (h : ∀ p ∈ l.zip m, ToldApart p.1 p.2) {r s : List Char}
    (htext : compactItems l ++ r = compactItems m ++ s) : l = m ∧ r = s := by
  induction l generalizing m with
  | nil =>
    obtain rfl := List.eq_nil_of_length_eq_zero hlength.symm
    exact ⟨rfl, List.append_cancel_left htext⟩
  | cons i l ih =>
    cases m with
    | nil => cases hlength
    | cons j m =>
      rw [List.zip_cons_cons, List.forall_mem_cons] at h
      simp only [compactItems, List.cons_append, List.append_assoc, List.cons.injEq, true_and]
        at htext
      have hhead : ToldApart i j := h.1
      obtain ⟨rfl, hrest⟩ := hhead _ _ htext
      obtain ⟨rfl, rfl⟩ := ih (Nat.succ.inj hlength) h.2 hrest
      exact ⟨rfl, rfl⟩

theorem eq_of_compactMembers_append {l m : List (String × Json)}
    (hkeys : l.map Prod.fst = m.map Prod.fst) (h : ∀ p ∈ l.zip m, ToldApart p.1.2 p.2.2)
    {r s : List Char} (htext : compactMembers l ++ r = compactMembers m ++ s) :
    l = m ∧ r = s := by
  induction l generalizing m with
  | nil =>
    obtain rfl := List.map_eq_nil_iff.1 hkeys.symm
    exact ⟨rfl, List.append_cancel_left htext⟩
  | cons i l ih =>
    cases m with
    | nil => cases hkeys
    | cons j m =>
      obtain ⟨k, i⟩ := i
      obtain ⟨k', j⟩ := j
      obtain ⟨hkey, htail⟩ := List.cons.inj hkeys
      have hkey : k = k' := hkey
      subst hkey
      rw [List.zip_cons_cons, List.forall_mem_cons] at h
      simp only [compactMembers, List.cons_append, List.append_assoc, List.cons.injEq, true_and,
        List.append_cancel_left_eq] at htext
      have hhead : ToldApart i j := h.1
      obtain ⟨rfl, hrest⟩ := hhead _ _ htext
      obtain ⟨rfl, rfl⟩ := ih htail h.2 hrest
      exact ⟨rfl, rfl⟩

/-- A list with items is written as its items behind a comma, with a bracket in its place. -/
theorem toldApart_list {l m : List Json} (hlength : l.length = m.length)
    (h : ∀ p ∈ l.zip m, ToldApart p.1 p.2) : ToldApart (.list l) (.list m) := by
  intro r s htext
  cases l with
  | nil =>
    obtain rfl := List.eq_nil_of_length_eq_zero hlength.symm
    exact ⟨rfl, List.append_cancel_left htext⟩
  | cons i l =>
    cases m with
    | nil => cases hlength
    | cons j m =>
      have hitems : compactItems (i :: l) ++ r = compactItems (j :: m) ++ s :=
        congrArg (',' :: ·) (List.cons.inj htext).2
      exact (eq_of_compactItems_append hlength h hitems).imp_left (congrArg Json.list)

theorem toldApart_object {l m : List (String × Json)} (hkeys : l.map Prod.fst = m.map Prod.fst)
    (h : ∀ p ∈ l.zip m, ToldApart p.1.2 p.2.2) : ToldApart (.object l) (.object m) := by
  intro r s htext
  cases l with
  | nil =>
    obtain rfl := List.map_eq_nil_iff.1 hkeys.symm
    exact ⟨rfl, List.append_cancel_left htext⟩
  | cons i l =>
    cases m with
    | nil => cases hkeys
    | cons j m =>
      have hmembers : compactMembers (i :: l) ++ r = compactMembers (j :: m) ++ s :=
        congrArg (',' :: ·) (List.cons.inj htext).2
      exact (eq_of_compactMembers_append hkeys h hmembers).imp_left (congrArg Json.object)

/-- **The compact texts of values that agree tell them apart**, whatever follows. -/
theorem Agree.toldApart {alike : String → String → Prop} {i j : Json} (h : Agree alike i j) :
    ToldApart i j := by
  induction h with
  | refl j => exact toldApart_refl j
  | double h => exact toldApart_double h
  | string => exact toldApart_string _ _
  | list hlength _ ih => exact toldApart_list hlength ih
  | object hkeys _ ih => exact toldApart_object hkeys ih

/-- Values that agree are the same if their compact texts are. -/
theorem Agree.eq_of_compact_eq {alike : String → String → Prop} {i j : Json} (h : Agree alike i j)
    (htext : i.compact = j.compact) : i = j := by
  have hchars : compactText i ++ [] = compactText j ++ [] := by
    rw [List.append_nil, List.append_nil]
    exact String.ofList_inj.1 htext
  exact (h.toldApart [] [] hchars).1

end Json

end VariantPlan
