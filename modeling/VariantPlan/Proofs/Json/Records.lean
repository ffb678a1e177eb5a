import VariantPlan.Json.Reader
import VariantPlan.Proofs.Json.Nesting

/-!
# Records

How records are found again. An object whose keys are the known members of a record, in order, has
exactly its values as the members. A member that may be null may as well be missing. Whatever a
reader finds is a part of what it reads, and so nested less deeply.

Main results: `record?_object`, `Within.of_record?` and `list?_string?_eq_some_iff`.
-/

namespace VariantPlan.Json

variable {α : Type}

/-! ## Reading step by step -/

theorem bind_eq_some_of {β : Type} {x : Option α} {f : α → Option β} {a : α} {b : β}
    (hx : x = some a) (hf : f a = some b) : (x >>= f) = some b := by
  rw [hx]
  exact hf

theorem required?_eq_some {read : Json → Option α} {j : Json} {a : α} (h : read j = some a) :
    required? read (some j) = some a := h

theorem exists_of_mem_mapM {β : Type} {f : α → Option β} {l : List α} {l' : List β}
    (h : l.mapM f = some l') {b : β} (hb : b ∈ l') : ∃ a ∈ l, f a = some b := by
  induction l generalizing l' with
  | nil =>
    obtain rfl := Option.some.inj h
    cases hb
  | cons a l ih =>
    rw [List.mapM_cons] at h
    obtain ⟨b', hb', h⟩ := Option.bind_eq_some_iff.1 h
    obtain ⟨l'', hl'', h⟩ := Option.bind_eq_some_iff.1 h
    obtain rfl := Option.some.inj h
    rcases List.mem_cons.1 hb with rfl | hb
    · exact ⟨a, List.mem_cons_self, hb'⟩
    · obtain ⟨a', ha', hf⟩ := ih hl'' hb
      exact ⟨a', List.mem_cons_of_mem _ ha', hf⟩

theorem list?_string?_eq_some_iff {j : Json} {l : List String} :
    list? string? j = some l ↔ j = strings l := by
  constructor
  · intro h
    cases j with
    | list items =>
      refine congrArg Json.list ?_
      change items.mapM string? = some l at h
      induction items generalizing l with
      | nil =>
        obtain rfl := Option.some.inj h
        rfl
      | cons i items ih =>
        rw [List.mapM_cons] at h
        obtain ⟨s, hs, h⟩ := Option.bind_eq_some_iff.1 h
        obtain ⟨l', hl', h⟩ := Option.bind_eq_some_iff.1 h
        obtain rfl := Option.some.inj h
        cases i with
        | string s' =>
          obtain rfl := Option.some.inj hs
          rw [List.map_cons, ih hl']
        | null | bool | integer | double | list | object | unreadable => cases hs
    | null | bool | integer | double | string | object | unreadable => cases h
  · rintro rfl
    exact list?_strings l

/-! ## Members -/

theorem filter_key_eq_nil {members : List (String × Json)} {name : String}
    (h : name ∉ members.map Prod.fst) : members.filter (fun m => m.1 == name) = [] := by
  refine List.filter_eq_nil_iff.2 fun m hm => ?_
  rw [beq_iff_eq]
  intro e
  exact h (List.mem_map.2 ⟨m, hm, e⟩)

theorem member?_of_mem {members : List (String × Json)} (hd : (members.map Prod.fst).Nodup)
    {m : String × Json} (hm : m ∈ members) : member? members m.1 = some (some m.2) := by
  have hfilter : members.filter (fun n => n.1 == m.1) = [m] := by
    induction members with
    | nil => cases hm
    | cons n members ih =>
      rw [List.map_cons, List.nodup_cons] at hd
      rcases List.mem_cons.1 hm with rfl | hm
      · rw [List.filter_cons, if_pos (beq_self_eq_true _), filter_key_eq_nil hd.1]
      · have hne : ¬(n.1 == m.1) = true := by
          rw [beq_iff_eq]
          intro e
          exact hd.1 (List.mem_map.2 ⟨m, hm, e.symm⟩)
        rw [List.filter_cons, if_neg hne, ih hd.2 hm]
  rw [member?, hfilter]

theorem record?_object {names : List String} {members : List (String × Json)}
    (hn : members.map Prod.fst = names) (hd : names.Nodup) :
    record? names (.object members) = some (members.map fun m => some m.2) := by
  subst hn
  show (members.map Prod.fst).mapM (member? members) = _
  rw [List.mapM_map]
  exact mapM_eq_some_map fun m hm => member?_of_mem hd hm

theorem exists_mem_of_member? {members : List (String × Json)} {name : String} {j : Json}
    (h : member? members name = some (some j)) : ∃ m ∈ members, m.2 = j := by
  unfold member? at h
  split at h
  · cases h
  next m hm =>
    have hmem : m ∈ members.filter fun n => n.1 == name := by
      rw [hm]
      exact List.mem_singleton_self m
    exact ⟨m, (List.mem_filter.1 hmem).1, Option.some.inj (Option.some.inj h)⟩
  · cases h

theorem member?_of_not_mem {members : List (String × Json)} {name : String}
    (h : name ∉ members.map Prod.fst) : member? members name = some none := by
  rw [member?, filter_key_eq_nil h]

theorem member?_append_self {members : List (String × Json)} {name : String}
    (h : name ∉ members.map Prod.fst) (j : Json) :
    member? (members ++ [(name, j)]) name = some (some j) := by
  have hfilter : [(name, j)].filter (fun m => m.1 == name) = [(name, j)] := by
    rw [List.filter_cons, if_pos (beq_self_eq_true _), List.filter_nil]
  rw [member?, List.filter_append, filter_key_eq_nil h, hfilter, List.nil_append]

theorem member?_append_of_ne {members : List (String × Json)} {name key : String} {j : Json}
    (h : key ≠ name) : member? (members ++ [(key, j)]) name = member? members name := by
  have hfilter : [(key, j)].filter (fun m => m.1 == name) = [] :=
    filter_key_eq_nil fun e => h (List.mem_singleton.1 e).symm
  unfold member?
  rw [List.filter_append, hfilter, List.append_nil]

/-! ## Nesting -/

variable {ok : Json → Prop} {depth : Nat} {j : Json}

/-- The members of a record are parts of it. -/
theorem Within.of_record? (h : Within ok (depth + 1) j) {names : List String}
    {values : List (Option Json)} (hr : record? names j = some values) :
    ∀ i, some i ∈ values → Within ok depth i := by
  intro i hi
  cases j with
  | object members =>
    obtain ⟨name, -, hname⟩ := exists_of_mem_mapM hr hi
    obtain ⟨m, hm, rfl⟩ := exists_mem_of_member? hname
    exact h.members m hm
  | list items =>
    change (if items.length = names.length then some (items.map some) else none) = _ at hr
    split at hr
    · obtain rfl := Option.some.inj hr
      obtain ⟨k, hk, e⟩ := List.mem_map.1 hi
      obtain rfl := Option.some.inj e
      exact h.items k hk
    · cases hr
  | null | bool | integer | double | string | unreadable => cases hr

/-- The values of a map are read from its members. -/
theorem exists_mem_of_map? {read : Json → Option α} {m : SortedMap String α}
    (h : map? read j = some m) : ∃ members, j = .object members ∧
      ∃ l : List (String × α), m = .ofList l ∧
        ∀ e ∈ l, ∃ n ∈ members, read n.2 = some e.2 := by
  cases j with
  | object members =>
    obtain ⟨l, hl, rfl⟩ := Option.map_eq_some_iff.1 h
    refine ⟨members, rfl, l, rfl, fun e he => ?_⟩
    obtain ⟨n, hn, hread⟩ := exists_of_mem_mapM hl he
    obtain ⟨v, hv, rfl⟩ := Option.map_eq_some_iff.1 hread
    exact ⟨n, hn, hv⟩
  | null | bool | integer | double | string | list | unreadable => cases h

end VariantPlan.Json
