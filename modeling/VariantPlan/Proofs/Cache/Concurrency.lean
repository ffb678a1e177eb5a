import VariantPlan.Proofs.Cache.Consistency
import VariantPlan.Proofs.Cache.Session

/-!
# Plans are computed once

However the steps of concurrent callers interleave, each key is resolved at most once, and all that
ask for it get one answer.

A shared cache **represents** a sequential one if its filled cells hold what the sequential one
holds. The step that fills a cell asks the sequential cache for the key, and no other step asks it
for anything, so after a run the cells hold what a cache holds that was asked for the same keys one
after another, in the order in which the cells were filled. The answers are therefore those of a
sequential cache, about which all is known.

Main results: `Step.represents` (what a step preserves), `Run.represents` (a run is a sequential
session), `Run.count_enter` (a resolution starts at most once) and `plans_computed_once`.
-/

namespace VariantPlan

namespace SharedCache

variable {s s' : SharedCache} {i : Nat} {action : Action}

/-! ## Cells stay -/

theorem Step.lookup_slots (hstep : Step s i action s') {key : PlanKey} {a : Nat}
    (h : s.slots.lookup key = some a) : s'.slots.lookup key = some a := by
  cases hstep with
  | @fetch k caller =>
    unfold SharedCache.fetch
    split
    next => exact h
    next => rw [List.lookup_append, h, Option.some_or]
  | enter caller cell => exact h
  | fill caller => exact h
  | read caller cell => exact h

theorem Step.filled_cells (hstep : Step s i action s') (hs : s.Consistent) {a : Nat}
    {answer : PlanAnswer} (h : s.cells[a]? = some (.filled answer)) :
    s'.cells[a]? = some (.filled answer) := by
  cases hstep with
  | @fetch k caller =>
    unfold SharedCache.fetch
    split
    next => exact h
    next => exact (List.getElem?_append_left (List.getElem?_eq_some_iff.1 h).1).trans h
  | @enter k b caller cell =>
    have hne : a ≠ b := by
      rintro rfl
      cases h.symm.trans cell
    exact (getElem?_set_of_eq_some cell _ a).trans (by rw [if_neg hne, h])
  | @fill k b caller =>
    have cell := (hs.callers i _ caller).2
    have hne : a ≠ b := by
      rintro rfl
      cases h.symm.trans cell
    exact (getElem?_set_of_eq_some cell _ a).trans (by rw [if_neg hne, h])
  | read caller cell => exact h

theorem Step.map_key_callers (hstep : Step s i action s') :
    s'.callers.map Caller.key = s.callers.map Caller.key := by
  have hset {c d : Caller} (hc : s.callers[i]? = some c) (hk : d.key = c.key) :
      (s.callers.set i d).map Caller.key = s.callers.map Caller.key := by
    refine List.ext_getElem? fun j => ?_
    rw [List.getElem?_map, List.getElem?_map, getElem?_set_of_eq_some hc]
    split
    next hj => rw [hj, hc, Option.map_some, Option.map_some, hk]
    next => rfl
  cases hstep with
  | @fetch k caller =>
    unfold SharedCache.fetch
    split
    next => exact hset caller rfl
    next => exact hset caller rfl
  | enter caller cell => exact hset caller rfl
  | fill caller => exact hset caller rfl
  | read caller cell => exact hset caller rfl

/-! ## The sequential cache -/

open PlanCache (planOf)

/-- A cache keeps for each key what the key's cell is filled with. -/
structure Represents (s : SharedCache) (c : PlanCache) : Prop where
  get? : ∀ key answer, c.get? key = some answer ↔
    ∃ a : Nat, (key, a) ∈ s.slots ∧ s.cells[a]? = some (.filled answer)
  nextNumber : c.nextNumber = s.nextNumber

/-- The keys that a step asks a sequential cache for. -/
def Action.asks : Action → List PlanKey
  | .fill key => [key]
  | _ => []

theorem represents_start (number : Nat) (keys : List PlanKey) :
    (start number keys).Represents (.emptyFrom number) where
  get? key answer := by
    constructor
    · intro h
      cases h
    · rintro ⟨a, ha, -⟩
      cases ha
  nextNumber := rfl

section Represents

variable {c : PlanCache} (h : s.Represents c)

include h

theorem Represents.fetch {key : PlanKey} : (s.fetch i key).Represents c := by
  unfold SharedCache.fetch
  split
  next => exact ⟨h.get?, h.nextNumber⟩
  next =>
    refine ⟨fun k answer => (h.get? k answer).trans ?_, h.nextNumber⟩
    constructor
    · rintro ⟨a, ha, hcell⟩
      exact ⟨a, List.mem_append_left _ ha,
        (List.getElem?_append_left (List.getElem?_eq_some_iff.1 hcell).1).trans hcell⟩
    · rintro ⟨a, ha, hcell⟩
      rw [List.getElem?_append] at hcell
      split at hcell
      next hlt =>
        rcases List.mem_append.1 ha with ha | ha
        · exact ⟨a, ha, hcell⟩
        · obtain ⟨rfl, rfl⟩ := Prod.mk.inj (List.mem_singleton.1 ha)
          omega
      next => simp [List.getElem?_singleton] at hcell

theorem Represents.enter {key : PlanKey} {a : Nat} (ha : s.cells[a]? = some .vacant) :
    (s.enter i key a).Represents c := by
  refine ⟨fun k answer => (h.get? k answer).trans ?_, h.nextNumber⟩
  refine exists_congr fun b => and_congr_right fun _ => ?_
  show _ ↔ (s.cells.set a (.busy i))[b]? = _
  rw [getElem?_set_of_eq_some ha]
  split
  next hb => simp [hb, ha]
  next => rfl

theorem Represents.fill (hs : s.Consistent) {key : PlanKey} {a : Nat}
    (hc : s.callers[i]? = some (.working key a)) : (s.fill i key a).Represents (c.after key) := by
  obtain ⟨hmem, hbusy⟩ := hs.callers i _ hc
  -- The cell is still busy, so the cache has no answer for the key yet.
  have hnew : c.get? key = none := by
    cases hget : c.get? key with
    | none => rfl
    | some answer =>
      obtain ⟨b, hb, hfilled⟩ := (h.get? key answer).1 hget
      obtain rfl := hs.address_unique hmem hb
      cases hbusy.symm.trans hfilled
  have hstore : (s.outcome key).2 = (c.resolve key).value.2 ∧
      (s.outcome key).1.nextNumber = (c.resolve key).value.1.nextNumber := by
    rw [PlanCache.value_resolve_of_new hnew, outcome, ← h.nextNumber]
    exact PlanCache.store_emptyFrom ..
  -- The filled cell answers for its key; every other key has a cell of its own.
  refine ⟨fun k answer => ?_, hstore.2.symm⟩
  show _ ↔ ∃ b : Nat,
    (k, b) ∈ s.slots ∧ (s.cells.set a (.filled (s.outcome key).2))[b]? = some (.filled answer)
  rw [PlanCache.get?_after, PlanCache.answer, ← hstore.1]
  split
  next hk =>
    subst hk
    constructor
    · intro heq
      cases heq
      exact ⟨a, hmem, by rw [getElem?_set_of_eq_some hbusy, if_pos rfl]⟩
    · rintro ⟨b, hb, hfilled⟩
      obtain rfl := hs.address_unique hmem hb
      rw [getElem?_set_of_eq_some hbusy, if_pos rfl] at hfilled
      cases hfilled
      rfl
  next hk =>
    refine (h.get? k answer).trans (exists_congr fun b => and_congr_right fun hb => ?_)
    have hne : b ≠ a := by
      rintro rfl
      exact hk (hs.key_unique hb hmem)
    rw [getElem?_set_of_eq_some hbusy, if_neg hne]

theorem Step.represents (hs : s.Consistent) (hstep : Step s i action s') :
    s'.Represents (c.afterAll action.asks) := by
  cases hstep with
  | fetch caller => exact h.fetch
  | enter caller cell => exact h.enter cell
  | fill caller => exact h.fill hs caller
  | read caller cell => exact ⟨h.get?, h.nextNumber⟩

end Represents

/-! ## Entered cells -/

/-- The resolution of a key has started: its cell is not vacant any more. -/
def Entered (s : SharedCache) (key : PlanKey) : Prop :=
  ∃ (a : Nat) (x : Cell), (key, a) ∈ s.slots ∧ s.cells[a]? = some x ∧ x ≠ .vacant

section Entered

variable {key : PlanKey} {a : Nat}

theorem Entered.setCell {x y : Cell} (h : s.Entered key) (ha : s.cells[a]? = some x)
    (hy : y ≠ .vacant) (nextNumber : Nat) (callers : List Caller) :
    Entered { s with cells := s.cells.set a y, nextNumber, callers } key := by
  obtain ⟨b, z, hb, hz, hvacant⟩ := h
  by_cases hab : b = a
  · exact ⟨b, y, hb, by rw [getElem?_set_of_eq_some ha, if_pos hab], hy⟩
  · exact ⟨b, z, hb, by rw [getElem?_set_of_eq_some ha, if_neg hab, hz], hvacant⟩

variable (hs : s.Consistent)

include hs

theorem Step.entered (hstep : Step s i action s') (h : s.Entered key) : s'.Entered key := by
  cases hstep with
  | @fetch k caller =>
    obtain ⟨a, x, ha, hx, hvacant⟩ := h
    unfold SharedCache.fetch
    split
    next => exact ⟨a, x, ha, hx, hvacant⟩
    next =>
      exact ⟨a, x, List.mem_append_left _ ha,
        (List.getElem?_append_left (List.getElem?_eq_some_iff.1 hx).1).trans hx, hvacant⟩
  | enter caller cell => exact h.setCell cell (fun hy => by cases hy) _ _
  | fill caller =>
    exact h.setCell (hs.callers i _ caller).2 (fun hy => by cases hy) _ _
  | read caller cell => exact h

/-- The step that starts the resolution of a key is the first one to do so. -/
theorem Step.entered_of_enter (hstep : Step s i (.enter key) s') :
    ¬s.Entered key ∧ s'.Entered key := by
  cases hstep with
  | @enter _ a caller cell =>
    have hmem := hs.callers i _ caller
    constructor
    · rintro ⟨b, x, hb, hx, hvacant⟩
      obtain rfl := hs.address_unique hmem hb
      exact hvacant (Option.some.inj (hx.symm.trans cell))
    · exact ⟨a, .busy i, hmem, by rw [SharedCache.enter, getElem?_set_of_eq_some cell, if_pos rfl],
        fun hy => by cases hy⟩

end Entered

/-! ## Runs -/

def actions (trace : List (Nat × Action)) : List Action := trace.map Prod.snd

theorem actions_concat (trace : List (Nat × Action)) (i : Nat) (action : Action) :
    actions (trace ++ [(i, action)]) = actions trace ++ [action] := List.map_append

namespace Run

variable {trace : List (Nat × Action)} (hrun : Run s trace s')

include hrun

theorem map_key_callers : s'.callers.map Caller.key = s.callers.map Caller.key := by
  induction hrun with
  | refl => rfl
  | step run hstep ih => exact hstep.map_key_callers.trans ih

theorem lookup_slots {key : PlanKey} {a : Nat} (h : s.slots.lookup key = some a) :
    s'.slots.lookup key = some a := by
  induction hrun with
  | refl => exact h
  | step run hstep ih => exact hstep.lookup_slots ih

variable (hs : s.Consistent)

include hs

theorem consistent : s'.Consistent := by
  induction hrun with
  | refl => exact hs
  | step run hstep ih => exact hstep.consistent ih

theorem filled_cells {a : Nat} {answer : PlanAnswer} (h : s.cells[a]? = some (.filled answer)) :
    s'.cells[a]? = some (.filled answer) := by
  induction hrun with
  | refl => exact h
  | step run hstep ih => exact hstep.filled_cells (run.consistent hs) ih

/-- **A run is a sequential session.** After a run the filled cells hold what a cache holds that
was asked for their keys one after another. -/
theorem represents {c : PlanCache} (h : s.Represents c) :
    s'.Represents (c.afterAll ((actions trace).flatMap Action.asks)) := by
  induction hrun with
  | refl => exact h
  | step run hstep ih =>
    rw [actions_concat, List.flatMap_append, List.flatMap_singleton, PlanCache.afterAll_append]
    exact hstep.represents ih (run.consistent hs)

/-- The resolution of a key starts at most once, and its cell is not vacant afterwards. -/
theorem count_enter {key : PlanKey} :
    (actions trace).count (.enter key) ≤ 1 ∧
      ((actions trace).count (.enter key) ≠ 0 → s'.Entered key) := by
  induction hrun with
  | refl => exact ⟨Nat.zero_le _, fun hne => absurd rfl hne⟩
  | @step trace s₁ s₂ i action run hstep ih =>
    have hs₁ := run.consistent hs
    rw [actions_concat, List.count_append, List.count_singleton]
    split
    next heq =>
      obtain rfl : action = .enter key := beq_iff_eq.1 heq
      obtain ⟨hbefore, hafter⟩ := hstep.entered_of_enter hs₁
      -- Who enters finds the cell free, so nobody entered before.
      have hzero : (actions trace).count (.enter key) = 0 :=
        Decidable.not_not.1 fun hne => hbefore (ih.2 hne)
      exact ⟨by omega, fun _ => hafter⟩
    next => exact ⟨ih.1, fun hne => hstep.entered hs₁ (ih.2 hne)⟩

end Run

/-! ## Computed once -/

/-- **Plans are computed once.** Take any number of callers, each with a key, and any run of them
on a cache that starts without cells. Then

* the cell of a key stays its cell whatever comes, and once filled it stays as it is;
* the resolution of a key starts at most once;
* callers with one key that have an answer have the same one, with the same instance of a plan or
  the same error, and it is what resolving the key gives;
* callers answer for the keys they came with;
* there are as many cells as distinct keys whose callers took a first step. -/
theorem plans_computed_once {number : Nat} {keys : List PlanKey} {trace : List (Nat × Action)}
    (hrun : Run (start number keys) trace s) :
    (∀ (later : List (Nat × Action)) (s' : SharedCache), Run s later s' →
      ∀ (key : PlanKey) (a : Nat), s.slots.lookup key = some a →
        s'.slots.lookup key = some a ∧
        ∀ answer, s.cells[a]? = some (.filled answer) → s'.cells[a]? = some (.filled answer)) ∧
    (∀ key, (actions trace).count (.enter key) ≤ 1) ∧
    (∀ (i j : Nat) (key : PlanKey) (x y : PlanAnswer),
      s.callers[i]? = some (.answered key x) → s.callers[j]? = some (.answered key y) →
        x = y ∧ planOf x = (key.variant.resolvePlan key.host).value) ∧
    s.callers.map Caller.key = keys ∧
    s.slots.length = (s.callers.filterMap Caller.fetched?).dedup.length ∧
    s.cells.length = s.slots.length := by
  have hstart := consistent_start number keys
  have hs := hrun.consistent hstart
  have hrep := hrun.represents hstart (represents_start number keys)
  have hfaithful := (PlanCache.faithful_emptyFrom number).afterAll
    ((actions trace).flatMap Action.asks)
  refine ⟨fun later s' hlater key a ha => ?_, fun key => ?_, fun i j key x y hx hy => ?_, ?_,
    hs.length_cells⟩
  · exact ⟨hlater.lookup_slots ha, fun answer => hlater.filled_cells hs⟩
  · exact (hrun.count_enter hstart).1
  · have hkx := (hrep.get? key x).2 (hs.callers i _ hx)
    have hky := (hrep.get? key y).2 (hs.callers j _ hy)
    exact ⟨Option.some.inj (hkx.symm.trans hky), hfaithful.answers key x hkx⟩
  · rw [hrun.map_key_callers, start, List.map_map]
    exact List.map_id' keys

/-- Two callers with one key: both have the address of its cell before the first one enters it. They
answer with one instance. -/
theorem plans_computed_once_two_callers :
    ∃ (key : PlanKey) (trace : List (Nat × Action)) (s : SharedCache) (x : PlanInstance),
      Run (start 7 [key, key]) trace s ∧ (actions trace).count (.enter key) = 1 ∧
      s.callers = [.answered key (.ok x), .answered key (.ok x)] ∧ x.number = 7 ∧
      s.cells.length = 1 ∧ (∀ key', (actions trace).count (.enter key') ≤ 1) := by
  let eigen : Variant := { Variant.sample with geometry := .eigen }
  let key : PlanKey := ⟨eigen, .cached⟩
  let a : ValidVariant := ⟨eigen, by decide, rfl⟩
  have hrun : Run (start 7 [key, key])
      [(0, .fetch key), (1, .fetch key), (1, .enter key), (1, .fill key), (0, .read key),
        (1, .read key)] _ :=
    (((((Run.refl.step (.fetch rfl)).step (.fetch rfl)).step (.enter rfl rfl)).step
      (.fill rfl)).step (.read rfl rfl)).step (.read rfl rfl)
  have h := plans_computed_once hrun
  exact ⟨key, _, _, ⟨7, a.planOn .cached⟩, hrun, rfl, rfl, rfl, h.2.2.2.2.2, h.2.1⟩

end SharedCache

end VariantPlan
