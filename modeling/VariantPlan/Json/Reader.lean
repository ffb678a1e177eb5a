import VariantPlan.Json.Basic

/-!
# Reading data out of JSON values

Readers of the parts of a value: scalars, lists, maps and records. All give nothing where the
value does not fit.

A **record** is an object with known members, or the list of all their values in order. Members
that are not known are passed over, a known member that occurs twice is refused, and each reader
of a record decides which members may be missing.

Main results: `list?_list`, `map?_ofMap` and `optional?_ofOption` (what was written reads back).
-/

namespace VariantPlan.Json

variable {α : Type}

def bool? : Json → Option Bool
  | .bool b => some b
  | _ => none

def string? : Json → Option String
  | .string s => some s
  | _ => none

/-- A list, every item read by `read`. -/
def list? (read : Json → Option α) : Json → Option (List α)
  | .list items => items.mapM read
  | _ => none

/-- A map, every value read by `read`; of members with one key the last one counts. -/
def map? (read : Json → Option α) : Json → Option (SortedMap String α)
  | .object members =>
    (members.mapM fun m => (read m.2).map fun v => (m.1, v)).map SortedMap.ofList
  | _ => none

def nullable? (read : Json → Option α) : Json → Option (Option α)
  | .null => some none
  | j => (read j).map some

/-! ## Records -/

/-- The value of a known member; nothing if it occurs twice. -/
def member? (members : List (String × Json)) (name : String) : Option (Option Json) :=
  match members.filter fun m => m.1 == name with
  | [] => some none
  | [m] => some (some m.2)
  | _ => none

/-- The values of the known members of a record, each possibly missing. -/
def record? (names : List String) : Json → Option (List (Option Json))
  | .object members => names.mapM (member? members)
  | .list items => if items.length = names.length then some (items.map some) else none
  | _ => none

/-- The values of the known members of a record whose list form may be cut short. -/
def openRecord? (names : List String) : Json → Option (List (Option Json))
  | .object members => names.mapM (member? members)
  | .list items =>
    if items.length ≤ names.length then
      some (items.map some ++ List.replicate (names.length - items.length) none)
    else none
  | _ => none

/-- A member that must be there. -/
def required? (read : Json → Option α) (member : Option Json) : Option α := member.bind read

/-- A member that may be null or missing. -/
def optional? (read : Json → Option α) : Option Json → Option (Option α)
  | none => some none
  | some j => nullable? read j

/-- A member with a value for the case that it is missing. -/
def defaulted? (read : Json → Option α) (fallback : α) : Option Json → Option α
  | none => some fallback
  | some j => read j

/-! ## Writing -/

def strings (l : List String) : Json := .list (l.map .string)

/-- A map as an object, its members by key. -/
def ofMap (write : α → Json) (m : SortedMap String α) : Json :=
  .object (m.toList.map fun e => (e.1, write e.2))

/-- A value that may be missing, written as null if it is. -/
def ofOption (write : α → Json) : Option α → Json
  | none => .null
  | some a => write a

/-! ## Reading what was written -/

theorem mapM_eq_some_map {β : Type} {f : α → Option β} {g : α → β} {l : List α}
    (h : ∀ a ∈ l, f a = some (g a)) : l.mapM f = some (l.map g) := by
  induction l with
  | nil => rfl
  | cons a l ih =>
    rw [List.mapM_cons, h a List.mem_cons_self, ih fun b hb => h b (List.mem_cons_of_mem _ hb)]
    rfl

theorem list?_list {read : Json → Option α} {write : α → Json} {l : List α}
    (h : ∀ a ∈ l, read (write a) = some a) : list? read (.list (l.map write)) = some l := by
  show (l.map write).mapM read = some l
  rw [List.mapM_map, Function.comp_def, mapM_eq_some_map h, List.map_id']

theorem list?_strings (l : List String) : list? string? (strings l) = some l :=
  list?_list fun _ _ => rfl

theorem map?_ofMap {read : Json → Option α} {write : α → Json} {m : SortedMap String α}
    (h : ∀ e ∈ m.toList, read (write e.2) = some e.2) : map? read (ofMap write m) = some m := by
  have hentry : ∀ e ∈ m.toList, (read (write e.2)).map (fun v => (e.1, v)) = some e := by
    intro e he
    rw [h e he, Option.map_some]
  show ((m.toList.map fun e => (e.1, write e.2)).mapM
    fun e => (read e.2).map fun v => (e.1, v)).map SortedMap.ofList = some m
  rw [List.mapM_map, Function.comp_def, mapM_eq_some_map hentry, List.map_id', Option.map_some,
    SortedMap.ofList_toList]

/-- A value that may be missing reads back where it does when there and is not written as null. -/
theorem optional?_ofOption {read : Json → Option α} {write : α → Json} {a : Option α}
    (h : ∀ b ∈ a, read (write b) = some b) (hn : ∀ b ∈ a, write b ≠ .null) :
    optional? read (some (ofOption write a)) = some a := by
  cases a with
  | none => rfl
  | some a =>
    show nullable? read (write a) = some (some a)
    unfold nullable?
    split
    next e => exact absurd e (hn a rfl)
    next => rw [h a rfl, Option.map_some]

end VariantPlan.Json
