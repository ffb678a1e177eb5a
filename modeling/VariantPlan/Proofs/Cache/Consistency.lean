import Mathlib.Data.List.Dedup
import VariantPlan.Plan.SharedCache
import VariantPlan.Proofs.Sets

/-!
# Consistent caches

The map of a shared cache is free while a plan is worked out, so between two steps of a caller
anything can happen. What holds at every point of a run is that the cache is **consistent**: keys
and addresses belong together, a cell is busy exactly while one caller works for it, and an answer
was read from the filled cell of its key.

Every step moves one caller. It leaves the cells as they are, or makes one, or changes one that is
the caller's own or nobody's, so that all other callers still fit.

Main results: `Step.consistent` (what a step preserves), `Consistent.exists_step` (nobody waits for
ever) and `Consistent.length_cells` (the number of cells).
-/

namespace VariantPlan

theorem getElem?_set_of_eq_some {α : Type} {l : List α} {i : Nat} {x : α} (h : l[i]? = some x)
    (y : α) (j : Nat) : (l.set i y)[j]? = if j = i then some y else l[j]? := by
  have hlt : i < l.length := (List.getElem?_eq_some_iff.1 h).1
  rw [List.getElem?_set]
  by_cases hij : i = j
  · rw [if_pos hij, if_pos hlt, if_pos hij.symm]
  · rw [if_neg hij, if_neg (Ne.symm hij)]

namespace SharedCache

variable {s s' : SharedCache} {i : Nat} {action : Action}

/-! ## Consistency -/

/-- What holds of a caller at a place: it has the address of its key's cell, which is busy with it
while it works, and it read its answer from there. -/
def Fits (s : SharedCache) (i : Nat) : Caller → Prop
  | .asking _ => True
  | .holding key a => (key, a) ∈ s.slots
  | .working key a => (key, a) ∈ s.slots ∧ s.cells[a]? = some (.busy i)
  | .answered key answer => ∃ a, (key, a) ∈ s.slots ∧ s.cells[a]? = some (.filled answer)

/-- What holds of a cache and its callers between any two steps. -/
structure Consistent (s : SharedCache) : Prop where
  /-- The cells are those that the map leads to, in the order of their making. -/
  addresses : s.slots.map Prod.snd = List.range s.cells.length
  distinct : (s.slots.map Prod.fst).Nodup
  callers : ∀ (i : Nat) (c : Caller), s.callers[i]? = some c → s.Fits i c
  /-- Somebody works for a busy cell. -/
  busy : ∀ a i : Nat, s.cells[a]? = some (.busy i) →
    ∃ key, s.callers[i]? = some (.working key a)
  /-- The keys of the map are those of the callers that took their first step. -/
  fetched : ∀ key, key ∈ s.slots.map Prod.fst ↔
    ∃ (i : Nat) (c : Caller), s.callers[i]? = some c ∧ c.fetched? = some key

/-- Callers still fit when cells are added, and when a cell changes that is neither filled nor busy
with them. -/
theorem Fits.mono {c : Caller} (h : s.Fits i c) (hslots : ∀ p ∈ s.slots, p ∈ s'.slots)
    (hcells : ∀ (a : Nat) (x : Cell), s.cells[a]? = some x →
      x = .busy i ∨ (∃ answer, x = .filled answer) → s'.cells[a]? = some x) : s'.Fits i c := by
  cases c with
  | asking key => trivial
  | holding key a => exact hslots _ h
  | working key a => exact ⟨hslots _ h.1, hcells a _ h.2 (.inl rfl)⟩
  | answered key answer =>
    obtain ⟨a, ha, hfilled⟩ := h
    exact ⟨a, hslots _ ha, hcells a _ hfilled (.inr ⟨answer, rfl⟩)⟩

namespace Consistent

variable (h : s.Consistent) {key key' : PlanKey} {a b : Nat}

include h

theorem address_unique (ha : (key, a) ∈ s.slots) (hb : (key, b) ∈ s.slots) : a = b :=
  congrArg Prod.snd (List.inj_on_of_nodup_map h.distinct ha hb rfl)

theorem key_unique (hk : (key, a) ∈ s.slots) (hk' : (key', a) ∈ s.slots) : key = key' := by
  have hnodup : (s.slots.map Prod.snd).Nodup := h.addresses ▸ List.nodup_range
  exact congrArg Prod.fst (List.inj_on_of_nodup_map hnodup hk hk' rfl)

theorem lt_of_mem (ha : (key, a) ∈ s.slots) : a < s.cells.length := by
  rw [← List.mem_range, ← h.addresses]
  exact List.mem_map_of_mem ha

theorem lookup_eq_some_iff : s.slots.lookup key = some a ↔ (key, a) ∈ s.slots :=
  lookup_eq_some_iff_mem h.distinct

end Consistent

theorem consistent_start (number : Nat) (keys : List PlanKey) :
    (start number keys).Consistent := by
  have hasking (i : Nat) (c : Caller) (hc : (start number keys).callers[i]? = some c) :
      ∃ key, c = .asking key := by
    obtain ⟨key, -, rfl⟩ := List.mem_map.1 (List.mem_of_getElem? hc)
    exact ⟨key, rfl⟩
  refine ⟨rfl, .nil, ?_, ?_, ?_⟩
  · intro i c hc
    obtain ⟨_, rfl⟩ := hasking i c hc
    trivial
  · intro a i hc
    cases hc
  · intro key
    refine ⟨fun hm => absurd hm List.not_mem_nil, ?_⟩
    rintro ⟨i, c, hc, hk⟩
    obtain ⟨_, rfl⟩ := hasking i c hc
    cases hk

/-! ## What a step preserves -/

section Steps

variable (h : s.Consistent) {key : PlanKey} {a : Nat}

/-- Who took the first step stays who took it when a caller that took it takes another one. -/
theorem exists_fetched_set_iff {c c' : Caller} (hc : s.callers[i]? = some c)
    (hk : c.fetched? = c'.fetched?) {k : PlanKey} :
    (∃ (j : Nat) (d : Caller), (s.callers.set i c')[j]? = some d ∧ d.fetched? = some k) ↔
      ∃ (j : Nat) (d : Caller), s.callers[j]? = some d ∧ d.fetched? = some k := by
  constructor
  · rintro ⟨j, d, hd, hdk⟩
    rw [getElem?_set_of_eq_some hc] at hd
    split at hd
    next hj =>
      cases hd
      exact ⟨i, c, hc, hk.trans hdk⟩
    next => exact ⟨j, d, hd, hdk⟩
  · rintro ⟨j, d, hd, hdk⟩
    by_cases hj : j = i
    · subst hj
      obtain rfl : c = d := Option.some.inj (hc.symm.trans hd)
      exact ⟨j, c', by rw [getElem?_set_of_eq_some hc, if_pos rfl], hk.symm.trans hdk⟩
    · exact ⟨j, d, by rw [getElem?_set_of_eq_some hc, if_neg hj, hd], hdk⟩

include h

/-- A caller that moves on while the cells stay as they are. -/
theorem Consistent.move {c e : Caller} (hc : s.callers[i]? = some c)
    (hidle : ∀ key a, c ≠ .working key a) (hk : c.fetched? = e.fetched?) (hfits : s.Fits i e) :
    Consistent { s with callers := s.callers.set i e } where
  addresses := h.addresses
  distinct := h.distinct
  callers j d hd := by
    rw [getElem?_set_of_eq_some hc] at hd
    split at hd
    next hj =>
      cases hd
      exact hj ▸ hfits
    next => exact h.callers j d hd
  busy b j hb := by
    obtain ⟨key, hkey⟩ := h.busy b j hb
    have hj : j ≠ i := by
      rintro rfl
      exact hidle key b (Option.some.inj (hc.symm.trans hkey))
    exact ⟨key, by rw [getElem?_set_of_eq_some hc, if_neg hj, hkey]⟩
  fetched k := (h.fetched k).trans (exists_fetched_set_iff hc hk).symm

/-- A caller that moves on while a cell that was its own or nobody's changes. -/
theorem Consistent.setCell {c e : Caller} {x y : Cell} (hc : s.callers[i]? = some c)
    (hx : s.cells[a]? = some x) (hopen : ∀ answer, x ≠ .filled answer)
    (hown : ∀ j, x = .busy j → j = i) (hleft : ∀ key b, c = .working key b → b = a)
    (hbusy : ∀ j, y = .busy j → j = i ∧ ∃ key, e = .working key a)
    (hk : c.fetched? = e.fetched?)
    (hfits : Fits { s with cells := s.cells.set a y, callers := s.callers.set i e } i e) :
    Consistent { s with cells := s.cells.set a y, callers := s.callers.set i e } where
  addresses := by rw [List.length_set, h.addresses]
  distinct := h.distinct
  callers j d hd := by
    rw [getElem?_set_of_eq_some hc] at hd
    split at hd
    next hj =>
      cases hd
      exact hj ▸ hfits
    next hj =>
      refine (h.callers j d hd).mono (fun _ hp => hp) fun b z hz hcase => ?_
      -- The cell that changes is not another caller's: it was its own caller's or nobody's.
      have hb : b ≠ a := by
        rintro rfl
        obtain rfl : x = z := Option.some.inj (hx.symm.trans hz)
        rcases hcase with hcase | ⟨answer, hcase⟩
        · exact hj (hown j hcase)
        · exact hopen answer hcase
      rw [getElem?_set_of_eq_some hx, if_neg hb, hz]
  busy b j hb := by
    rw [getElem?_set_of_eq_some hx] at hb
    split at hb
    next heq =>
      obtain ⟨rfl, key, rfl⟩ := hbusy j (Option.some.inj hb)
      exact ⟨key, by rw [getElem?_set_of_eq_some hc, if_pos rfl, heq]⟩
    next hne =>
      obtain ⟨key, hkey⟩ := h.busy b j hb
      -- The caller that moves on leaves no cell busy but the one that changes.
      have hj : j ≠ i := by
        rintro rfl
        exact hne (hleft key b (Option.some.inj (hc.symm.trans hkey)))
      exact ⟨key, by rw [getElem?_set_of_eq_some hc, if_neg hj, hkey]⟩
  fetched k := (h.fetched k).trans (exists_fetched_set_iff hc hk).symm

theorem Consistent.fetch (hc : s.callers[i]? = some (.asking key)) :
    (s.fetch i key).Consistent := by
  -- With this caller, the keys that a first step was taken for are those before and its own.
  have hothers {c' : Caller} (hk : c'.fetched? = some key) (k : PlanKey) :
      (∃ (j : Nat) (d : Caller), (s.callers.set i c')[j]? = some d ∧ d.fetched? = some k) ↔
        k = key ∨ k ∈ s.slots.map Prod.fst := by
    rw [h.fetched]
    constructor
    · rintro ⟨j, d, hd, hdk⟩
      rw [getElem?_set_of_eq_some hc] at hd
      split at hd
      next =>
        cases hd
        exact .inl (Option.some.inj (hdk.symm.trans hk))
      next => exact .inr ⟨j, d, hd, hdk⟩
    · rintro (rfl | ⟨j, d, hd, hdk⟩)
      · exact ⟨i, c', by rw [getElem?_set_of_eq_some hc, if_pos rfl], hk⟩
      · have hj : j ≠ i := by
          rintro rfl
          cases hd.symm.trans hc
          cases hdk
        exact ⟨j, d, by rw [getElem?_set_of_eq_some hc, if_neg hj, hd], hdk⟩
  -- The caller worked for no cell before, so whoever did still does.
  have hbusy {c' : Caller} (b j : Nat) (hb : s.cells[b]? = some (.busy j)) :
      ∃ k, (s.callers.set i c')[j]? = some (.working k b) := by
    obtain ⟨k, hk⟩ := h.busy b j hb
    have hj : j ≠ i := by
      rintro rfl
      cases hk.symm.trans hc
    exact ⟨k, by rw [getElem?_set_of_eq_some hc, if_neg hj, hk]⟩
  unfold SharedCache.fetch
  split
  next address hfound =>
    -- The key has its cell already, and no cell changes.
    have hmem := h.lookup_eq_some_iff.1 hfound
    refine ⟨h.addresses, h.distinct, ?_, fun b j => hbusy b j, fun k => ?_⟩
    · intro j d hd
      rw [getElem?_set_of_eq_some hc] at hd
      split at hd
      next =>
        cases hd
        exact hmem
      next => exact h.callers j d hd
    · rw [hothers rfl]
      refine ⟨.inr, ?_⟩
      rintro (rfl | hk)
      · exact List.mem_map_of_mem hmem
      · exact hk
  next hnone =>
    -- The key gets a vacant cell behind the others.
    have hnew : key ∉ s.slots.map Prod.fst := by
      intro hk
      obtain ⟨⟨k, b⟩, hp, rfl⟩ := List.mem_map.1 hk
      rw [h.lookup_eq_some_iff.2 hp] at hnone
      cases hnone
    refine ⟨?_, ?_, ?_, ?_, fun k => ?_⟩
    · rw [List.map_append, h.addresses, List.length_append, List.length_singleton,
        List.range_succ, List.map_singleton]
    · rw [List.map_append, List.map_singleton]
      exact List.nodup_append.2 ⟨h.distinct, List.nodup_singleton _, fun k hk k' hk' hkk => by
        obtain rfl : k' = key := List.mem_singleton.1 hk'
        exact hnew (hkk ▸ hk)⟩
    · intro j d hd
      rw [getElem?_set_of_eq_some hc] at hd
      split at hd
      next =>
        cases hd
        exact List.mem_append_right _ List.mem_cons_self
      next =>
        refine (h.callers j d hd).mono (fun _ hp => List.mem_append_left _ hp) fun b z hz _ => ?_
        exact (List.getElem?_append_left (List.getElem?_eq_some_iff.1 hz).1).trans hz
    · intro b j hb
      rw [List.getElem?_append] at hb
      split at hb
      next => exact hbusy b j hb
      next => simp [List.getElem?_singleton] at hb
    · rw [hothers rfl, List.map_append, List.mem_append, List.map_singleton, List.mem_singleton,
        or_comm]

theorem Consistent.enter (hc : s.callers[i]? = some (.holding key a))
    (ha : s.cells[a]? = some .vacant) : (s.enter i key a).Consistent := by
  unfold SharedCache.enter
  refine h.setCell hc ha ?_ ?_ ?_ ?_ rfl ?_
  · intro answer hanswer
    cases hanswer
  · intro j hj
    cases hj
  · intro k b hb
    cases hb
  · rintro j hj
    cases hj
    exact ⟨rfl, key, rfl⟩
  · exact ⟨h.callers i _ hc, by rw [getElem?_set_of_eq_some ha, if_pos rfl]⟩

theorem Consistent.fill (hc : s.callers[i]? = some (.working key a)) :
    (s.fill i key a).Consistent := by
  obtain ⟨hmem, ha⟩ := h.callers i _ hc
  have hset (answer : PlanAnswer) : Consistent { s with
      cells := s.cells.set a (.filled answer), callers := s.callers.set i (.holding key a) } := by
    refine h.setCell hc ha ?_ ?_ ?_ ?_ rfl hmem
    · intro answer' hanswer
      cases hanswer
    · intro j hj
      cases hj
      rfl
    · intro k b hb
      cases hb
      rfl
    · intro j hj
      cases hj
  -- The number of the next instance is no concern of consistency.
  obtain ⟨haddresses, hdistinct, hcallers, hbusy, hfetched⟩ := hset (s.outcome key).2
  exact ⟨haddresses, hdistinct, hcallers, hbusy, hfetched⟩

theorem Consistent.read {answer : PlanAnswer} (hc : s.callers[i]? = some (.holding key a))
    (ha : s.cells[a]? = some (.filled answer)) : (s.read i key answer).Consistent := by
  unfold SharedCache.read
  refine h.move hc ?_ rfl ⟨a, h.callers i _ hc, ha⟩
  intro k b hb
  cases hb

theorem Step.consistent (hstep : Step s i action s') : s'.Consistent := by
  cases hstep with
  | fetch caller => exact h.fetch caller
  | enter caller cell => exact h.enter caller cell
  | fill caller => exact h.fill caller
  | read caller cell => exact h.read caller cell

/-- As long as somebody waits for an answer, somebody can take a step. -/
theorem Consistent.exists_step {c : Caller} (hc : s.callers[i]? = some c)
    (hwait : ∀ key answer, c ≠ .answered key answer) :
    ∃ (j : Nat) (action : Action) (s' : SharedCache), Step s j action s' := by
  cases c with
  | asking key => exact ⟨i, _, _, .fetch hc⟩
  | working key a => exact ⟨i, _, _, .fill hc⟩
  | answered key answer => exact absurd rfl (hwait key answer)
  | holding key a =>
    have hlt := h.lt_of_mem (h.callers i _ hc)
    have hcell : s.cells[a]? = some s.cells[a] := List.getElem?_eq_getElem hlt
    cases hx : s.cells[a] with
    | vacant => exact ⟨i, _, _, .enter hc (hx ▸ hcell)⟩
    | filled answer => exact ⟨i, _, _, .read hc (hx ▸ hcell)⟩
    | busy j =>
      -- The caller waits for another one, which works for the cell.
      obtain ⟨k, hk⟩ := h.busy a j (hx ▸ hcell)
      exact ⟨j, _, _, .fill hk⟩

end Steps

/-! ## The number of cells -/

theorem Consistent.length_cells (h : s.Consistent) :
    s.slots.length = (s.callers.filterMap Caller.fetched?).dedup.length ∧
      s.cells.length = s.slots.length := by
  have hperm : (s.slots.map Prod.fst).Perm (s.callers.filterMap Caller.fetched?).dedup := by
    refine (List.perm_ext_iff_of_nodup h.distinct (List.nodup_dedup _)).2 fun key => ?_
    rw [h.fetched, List.mem_dedup, List.mem_filterMap]
    constructor
    · rintro ⟨i, c, hc, hk⟩
      exact ⟨c, List.mem_of_getElem? hc, hk⟩
    · rintro ⟨c, hc, hk⟩
      obtain ⟨i, hi⟩ := List.getElem?_of_mem hc
      exact ⟨i, c, hi, hk⟩
  have hlength := congrArg List.length h.addresses
  rw [List.length_map, List.length_range] at hlength
  exact ⟨by rw [← hperm.length_eq, List.length_map], hlength.symm⟩

end SharedCache

end VariantPlan
