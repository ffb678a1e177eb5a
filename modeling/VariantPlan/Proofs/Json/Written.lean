import VariantPlan.Json.Printer
import VariantPlan.Proofs.Json.Nesting

/-!
# Texts of values

A value has many texts, which differ in the **gaps**: blanks may stand around every bracket, comma
and colon. `Writes part cs` holds if `cs` is a text of a **part** of a document, with plain scalars
in their one written form. The parts are those that a reader takes one by one: values, members, and
what stands behind an item or a member up to the end of its container.

A **printer** chooses the gaps. The compact and the indented form are two of them.

Main result: `Printer.writes` (what a printer writes is a text of the value).
-/

namespace VariantPlan.Json

/-! ## Gaps -/

/-- The blanks that may stand between the parts of a document. -/
def isGapChar (c : Char) : Bool := c == ' ' || c == '\n' || c == '\t' || c == '\r'

/-- Blanks and nothing else. -/
def Gap (cs : List Char) : Prop := ∀ c ∈ cs, isGapChar c = true

theorem gap_nil : Gap [] := List.forall_mem_nil _

theorem gap_space : Gap [' '] := by
  intro c hc
  rw [List.mem_singleton.1 hc]
  rfl

theorem gap_newline (depth : Nat) : Gap (newline depth) := by
  intro c hc
  rcases List.mem_cons.1 hc with rfl | hc
  · rfl
  · rw [List.eq_of_mem_replicate hc]
    rfl

/-! ## Texts -/

/-- A part of a document with a text of its own. -/
inductive Part where
  | value (j : Json)
  /-- The items after the first one of a list, up to the closing bracket. -/
  | items (items : List Json)
  | member (key : String) (j : Json)
  /-- The members after the first one of an object, up to the closing brace. -/
  | members (members : List (String × Json))

/-- A text of a part whose scalars are plain. -/
inductive Writes : Part → List Char → Prop
  | scalar {j : Json} : j.isScalar = true → Plain j → Writes (.value j) (scalarText j)
  | emptyList {gap : List Char} : Gap gap → Writes (.value (.list [])) ('[' :: (gap ++ [']']))
  | list {j : Json} {items : List Json} {gap cs tail : List Char} : Gap gap →
    Writes (.value j) cs → Writes (.items items) tail →
    Writes (.value (.list (j :: items))) ('[' :: (gap ++ (cs ++ tail)))
  | emptyObject {gap : List Char} : Gap gap → Writes (.value (.object [])) ('{' :: (gap ++ ['}']))
  | object {k : String} {j : Json} {members : List (String × Json)} {gap cs tail : List Char} :
    Gap gap → Writes (.member k j) cs → Writes (.members members) tail →
    Writes (.value (.object ((k, j) :: members))) ('{' :: (gap ++ (cs ++ tail)))
  | noItem {gap : List Char} : Gap gap → Writes (.items []) (gap ++ [']'])
  | item {j : Json} {items : List Json} {gap gap' cs tail : List Char} : Gap gap → Gap gap' →
    Writes (.value j) cs → Writes (.items items) tail →
    Writes (.items (j :: items)) (gap ++ ',' :: (gap' ++ (cs ++ tail)))
  | colon {k : String} {j : Json} {gap gap' cs : List Char} : Gap gap → Gap gap' →
    Writes (.value j) cs → Writes (.member k j) (quoted k.toList ++ (gap ++ ':' :: (gap' ++ cs)))
  | noMember {gap : List Char} : Gap gap → Writes (.members []) (gap ++ ['}'])
  | member {k : String} {j : Json} {members : List (String × Json)} {gap gap' cs tail : List Char} :
    Gap gap → Gap gap' → Writes (.member k j) cs → Writes (.members members) tail →
    Writes (.members ((k, j) :: members)) (gap ++ ',' :: (gap' ++ (cs ++ tail)))

/-! ## Printers -/

/-- A way to write values, by the gaps that it leaves: one in front of what stands at a depth, and
one behind colons. -/
structure Printer where
  line : Nat → List Char
  colon : List Char
  gap_line : ∀ depth, Gap (line depth)
  gap_colon : Gap colon
  /-- A value that stands at a depth. -/
  text : Nat → Json → List Char
  /-- The items after the first one of a list at a depth, and the closing bracket. -/
  items : Nat → List Json → List Char
  /-- The members after the first one of an object at a depth, and the closing brace. -/
  members : Nat → List (String × Json) → List Char
  text_scalar : ∀ depth j, j.isScalar = true → text depth j = scalarText j
  text_emptyList : ∀ depth, text depth (.list []) = ['[', ']']
  text_list : ∀ depth j rest, text depth (.list (j :: rest)) =
    '[' :: (line (depth + 1) ++ (text (depth + 1) j ++ items depth rest))
  text_emptyObject : ∀ depth, text depth (.object []) = ['{', '}']
  text_object : ∀ depth k j rest, text depth (.object ((k, j) :: rest)) =
    '{' :: (line (depth + 1) ++ ((quoted k.toList ++ ':' :: (colon ++ text (depth + 1) j)) ++
      members depth rest))
  items_nil : ∀ depth, items depth [] = line depth ++ [']']
  items_cons : ∀ depth j rest, items depth (j :: rest) =
    ',' :: (line (depth + 1) ++ (text (depth + 1) j ++ items depth rest))
  members_nil : ∀ depth, members depth [] = line depth ++ ['}']
  members_cons : ∀ depth k j rest, members depth ((k, j) :: rest) =
    ',' :: (line (depth + 1) ++ ((quoted k.toList ++ ':' :: (colon ++ text (depth + 1) j)) ++
      members depth rest))

namespace Printer

variable (p : Printer) {n : Nat}

theorem writes_items {items : List Json} (h : ∀ j ∈ items, Writes (.value j) (p.text (n + 1) j)) :
    Writes (.items items) (p.items n items) := by
  induction items with
  | nil =>
    rw [p.items_nil]
    exact .noItem (p.gap_line n)
  | cons j items ih =>
    rw [p.items_cons]
    exact .item gap_nil (p.gap_line _) (h j List.mem_cons_self)
      (ih fun i hi => h i (List.mem_cons_of_mem _ hi))

theorem writes_member (k : String) {j : Json} (h : Writes (.value j) (p.text n j)) :
    Writes (.member k j) (quoted k.toList ++ ':' :: (p.colon ++ p.text n j)) :=
  .colon gap_nil p.gap_colon h

theorem writes_members {members : List (String × Json)}
    (h : ∀ m ∈ members, Writes (.value m.2) (p.text (n + 1) m.2)) :
    Writes (.members members) (p.members n members) := by
  induction members with
  | nil =>
    rw [p.members_nil]
    exact .noMember (p.gap_line n)
  | cons m members ih =>
    rw [p.members_cons]
    exact .member gap_nil (p.gap_line _) (p.writes_member m.1 (h m List.mem_cons_self))
      (ih fun i hi => h i (List.mem_cons_of_mem _ hi))

/-- What a printer writes of a value with plain scalars is a text of it. -/
theorem writes {depth : Nat} {j : Json} (h : Within Plain depth j) (n : Nat) :
    Writes (.value j) (p.text n j) := by
  induction h generalizing n with
  | scalar hs hj =>
    rw [p.text_scalar n _ hs]
    exact .scalar hs hj
  | @list _ items _ ih =>
    cases items with
    | nil =>
      rw [p.text_emptyList]
      exact .emptyList gap_nil
    | cons j items =>
      rw [p.text_list]
      exact .list (p.gap_line _) (ih j List.mem_cons_self _)
        (p.writes_items fun i hi => ih i (List.mem_cons_of_mem _ hi) _)
  | @object _ members _ ih =>
    cases members with
    | nil =>
      rw [p.text_emptyObject]
      exact .emptyObject gap_nil
    | cons m members =>
      rw [p.text_object]
      exact .object (p.gap_line _) (p.writes_member m.1 (ih m List.mem_cons_self _))
        (p.writes_members fun i hi => ih i (List.mem_cons_of_mem _ hi) _)

/-- The compact form leaves no gaps. -/
def compact : Printer where
  line _ := []
  colon := []
  gap_line _ := gap_nil
  gap_colon := gap_nil
  text _ := compactText
  items _ := compactItems
  members _ := compactMembers
  text_scalar _ j h := by cases j <;> first | rfl | cases h
  text_emptyList _ := rfl
  text_list _ _ _ := rfl
  text_emptyObject _ := rfl
  text_object _ _ _ _ := by simp [compactText]
  items_nil _ := rfl
  items_cons _ _ _ := rfl
  members_nil _ := rfl
  members_cons _ _ _ _ := by simp [compactMembers]

/-- The indented form begins a line for everything that stands in a container. -/
def indented : Printer where
  line := newline
  colon := [' ']
  gap_line := gap_newline
  gap_colon := gap_space
  text := indentedText
  items := indentedItems
  members := indentedMembers
  text_scalar _ j h := by cases j <;> first | rfl | cases h
  text_emptyList _ := rfl
  text_list _ _ _ := by simp [indentedText]
  text_emptyObject _ := rfl
  text_object _ _ _ _ := by simp [indentedText]
  items_nil _ := rfl
  items_cons _ _ _ := by simp [indentedItems]
  members_nil _ := rfl
  members_cons _ _ _ _ := by simp [indentedMembers]

end Printer

end VariantPlan.Json
