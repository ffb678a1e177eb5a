import Mathlib.Data.List.Dedup
import Mathlib.Data.List.Perm.Subperm
import VariantPlan.Plan.Cache

/-!
# Sessions with a plan cache

A session is a list of calls on one cache. A call asks for one plan or for the plans of a whole
matrix, whose elements may be worked out in any order; each answer goes to the place of its
element.

**Theorem (`session_refines_resolution`).** Whatever was asked before, a request is answered as if
the variant were resolved alone. Two plans are one instance when their keys are equal. The size of
the cache is the number of distinct keys so far. The order in which a matrix is worked out shows
nowhere but in the numbers of instances.

A cache only grows, so the answer that a request got is the answer that the cache keeps for its key
at the end (`answers_session`). A session is therefore described by its last cache alone, and what
each request preserves (`Faithful.after`) says what that cache holds.
-/

namespace VariantPlan

namespace PlanCache

/-- The plan or the error of an answer, whichever instance the plan is. -/
def planOf (a : PlanAnswer) : Except PlanError BuildPlan := a.map PlanInstance.plan

/-- The keys of a cache, the latest first. -/
def keys (c : PlanCache) : List PlanKey := c.entries.map Prod.fst

variable {c : PlanCache} {key : PlanKey}

theorem isSome_get?_iff {k : PlanKey} : (c.get? k).isSome = true ↔ k ∈ c.keys := by
  rw [get?, List.lookup_isSome_iff, keys, List.mem_map]
  constructor
  · rintro ⟨p, hp, hk⟩
    exact ⟨p, hp, (beq_iff_eq.1 hk).symm⟩
  · rintro ⟨p, hp, rfl⟩
    exact ⟨p, hp, beq_self_eq_true _⟩

/-! ## Storing -/

section Store

variable (c key) (r : Except PlanError BuildPlan)

theorem keys_store : (c.store key r).1.keys = key :: c.keys := by
  cases r <;> rfl

theorem planOf_store : planOf (c.store key r).2 = r := by
  cases r <;> rfl

theorem get?_store (k : PlanKey) :
    (c.store key r).1.get? k = if k = key then some (c.store key r).2 else c.get? k := by
  by_cases hk : k = key
  · subst hk
    cases r <;> simp [store, get?]
  · cases r <;> simp [store, get?, List.lookup_cons, beq_eq_false_iff_ne.2 hk, hk]

theorem nextNumber_le_store : c.nextNumber ≤ (c.store key r).1.nextNumber := by
  cases r with
  | error e => exact Nat.le_refl _
  | ok plan => exact Nat.le_succ _

/-- Only the number of the next instance matters for what is stored. -/
theorem store_emptyFrom : ((emptyFrom c.nextNumber).store key r).2 = (c.store key r).2 ∧
    ((emptyFrom c.nextNumber).store key r).1.nextNumber = (c.store key r).1.nextNumber := by
  cases r <;> exact ⟨rfl, rfl⟩

variable {c key r}

/-- A stored plan is the next instance, and its number is not given again. -/
theorem number_of_store_eq_ok {x : PlanInstance} (h : (c.store key r).2 = .ok x) :
    x.number = c.nextNumber ∧ x.number < (c.store key r).1.nextNumber := by
  cases r with
  | error e => cases h
  | ok plan =>
    cases h
    exact ⟨rfl, Nat.lt_succ_self _⟩

end Store

/-! ## One request -/

/-- The cache after a request. -/
def after (c : PlanCache) (key : PlanKey) : PlanCache := (c.resolve key).value.1

/-- The answer to a request. -/
def answer (c : PlanCache) (key : PlanKey) : PlanAnswer := (c.resolve key).value.2

theorem after_of_cached {a : PlanAnswer} (h : c.get? key = some a) : c.after key = c := by
  rw [after, resolve_of_cached h, Logged.value_pure]

theorem answer_of_cached {a : PlanAnswer} (h : c.get? key = some a) : c.answer key = a := by
  rw [answer, resolve_of_cached h, Logged.value_pure]

theorem value_resolve_of_new (h : c.get? key = none) :
    (c.resolve key).value = c.store key (key.variant.resolvePlan key.host).value := by
  simp only [resolve, h]
  rfl

theorem get?_after (k : PlanKey) :
    (c.after key).get? k = if k = key then some (c.answer key) else c.get? k := by
  cases h : c.get? key with
  | some a =>
    rw [after_of_cached h, answer_of_cached h]
    by_cases hk : k = key
    · rw [if_pos hk, hk, h]
    · rw [if_neg hk]
  | none =>
    rw [after, answer, value_resolve_of_new h]
    exact get?_store ..

theorem get?_after_of_eq_some {k : PlanKey} {a : PlanAnswer} (h : c.get? k = some a) :
    (c.after key).get? k = some a := by
  rw [get?_after]
  by_cases hk : k = key
  · subst hk
    rw [if_pos rfl, answer_of_cached h]
  · rw [if_neg hk, h]

theorem mem_keys_after {k : PlanKey} : k ∈ (c.after key).keys ↔ k = key ∨ k ∈ c.keys := by
  rw [← isSome_get?_iff, ← isSome_get?_iff, get?_after]
  by_cases hk : k = key <;> simp [hk]

/-! ## What every request preserves -/

/-- A cache keeps what resolving gives, once for each key, and different keys never share an
instance. -/
structure Faithful (c : PlanCache) : Prop where
  distinct : c.keys.Nodup
  answers : ∀ key a, c.get? key = some a → planOf a = (key.variant.resolvePlan key.host).value
  below : ∀ key x, c.get? key = some (.ok x) → x.number < c.nextNumber
  apart : ∀ key key' x y, c.get? key = some (.ok x) → c.get? key' = some (.ok y) →
    x.number = y.number → key = key'

theorem faithful_emptyFrom (start : Nat) : (emptyFrom start).Faithful where
  distinct := .nil
  answers _ _ h := by cases h
  below _ _ h := by cases h
  apart _ _ _ _ h := by cases h

theorem Faithful.after (h : c.Faithful) (key : PlanKey) : (c.after key).Faithful := by
  cases hnew : c.get? key with
  | some a =>
    rw [after_of_cached hnew]
    exact h
  | none =>
    have hkey : key ∉ c.keys := fun hk => by simp [← isSome_get?_iff, hnew] at hk
    rw [PlanCache.after, value_resolve_of_new hnew]
    have hle := nextNumber_le_store c key (key.variant.resolvePlan key.host).value
    have hnext : ∀ x, (c.store key (key.variant.resolvePlan key.host).value).2 = .ok x →
        x.number = c.nextNumber ∧ _ := fun x => number_of_store_eq_ok
    refine ⟨?_, ?_, ?_, ?_⟩
    · rw [keys_store]
      exact h.distinct.cons hkey
    · intro k a hk
      rw [get?_store] at hk
      split at hk
      next heq =>
        cases hk
        rw [planOf_store, heq]
      next => exact h.answers k a hk
    · intro k x hk
      rw [get?_store] at hk
      split at hk
      next => exact (hnext x (Option.some.inj hk)).2
      next => exact Nat.lt_of_lt_of_le (h.below k x hk) hle
    · -- A new instance has the next number, which no kept instance has.
      intro k k' x y hk hk' hxy
      rw [get?_store] at hk hk'
      split at hk <;> split at hk'
      next hk₁ hk₂ => rw [hk₁, hk₂]
      next =>
        have := (hnext x (Option.some.inj hk)).1
        have := h.below k' y hk'
        omega
      next =>
        have := (hnext y (Option.some.inj hk')).1
        have := h.below k x hk
        omega
      next => exact h.apart k k' x y hk hk' hxy

/-! ## Many requests -/

/-- The cache after requests, one after another. -/
def afterAll (c : PlanCache) (asked : List PlanKey) : PlanCache := asked.foldl after c

theorem afterAll_cons (k : PlanKey) (asked : List PlanKey) :
    c.afterAll (k :: asked) = (c.after k).afterAll asked := rfl

theorem afterAll_append (asked asked' : List PlanKey) :
    c.afterAll (asked ++ asked') = (c.afterAll asked).afterAll asked' := List.foldl_append

theorem Faithful.afterAll (h : c.Faithful) (asked : List PlanKey) :
    (c.afterAll asked).Faithful := by
  induction asked generalizing c with
  | nil => exact h
  | cons k asked ih => exact ih (h.after k)

theorem get?_afterAll_of_eq_some {k : PlanKey} {a : PlanAnswer} (h : c.get? k = some a)
    (asked : List PlanKey) : (c.afterAll asked).get? k = some a := by
  induction asked generalizing c with
  | nil => exact h
  | cons k' asked ih => exact ih (get?_after_of_eq_some h)

theorem mem_keys_afterAll {k : PlanKey} {asked : List PlanKey} :
    k ∈ (c.afterAll asked).keys ↔ k ∈ asked ∨ k ∈ c.keys := by
  induction asked generalizing c with
  | nil => simp [afterAll]
  | cons k' asked ih =>
    rw [afterAll_cons, ih, mem_keys_after, List.mem_cons]
    tauto

theorem Faithful.size_eq (h : c.Faithful) {asked : List PlanKey}
    (hmem : ∀ k, k ∈ c.keys ↔ k ∈ asked) : c.size = asked.dedup.length := by
  have hperm : c.keys.Perm asked.dedup :=
    (List.perm_ext_iff_of_nodup h.distinct asked.nodup_dedup).2 fun k => by
      rw [hmem, List.mem_dedup]
  rw [size, ← hperm.length_eq, keys, List.length_map]

end PlanCache

/-! ## Calls -/

/-- A call on a cache. -/
inductive CacheCall where
  /-- A call for the plan of one variant. -/
  | single (key : PlanKey)
  /-- A call for the plans of a matrix on one host, and the places of its elements in the order in
  which they are worked out. -/
  | matrix (host : Host) (variants : List Variant) (order : List Nat)
    (complete : order.Perm (List.range variants.length))

namespace PlanCache

/-- Answer the request at a place of a list, and put the answer into that place. -/
def answerAt (asked : List PlanKey) (s : PlanCache × List (Option PlanAnswer)) (i : Nat) :
    PlanCache × List (Option PlanAnswer) :=
  match asked[i]? with
  | some key => (s.1.after key, s.2.set i (some (s.1.answer key)))
  | none => s

/-- Answer a call: the cache that it leaves, and an answer for each element in its place. -/
def call (c : PlanCache) : CacheCall → PlanCache × List (Option PlanAnswer)
  | .single key => (c.after key, [some (c.answer key)])
  | .matrix host variants order _ =>
    order.foldl (answerAt (variants.map (⟨·, host⟩))) (c, variants.map fun _ => none)

/-- Answer calls, one after another: the cache that they leave, and the answers of each. -/
def session (c : PlanCache) : List CacheCall → PlanCache × List (List (Option PlanAnswer))
  | [] => (c, [])
  | first :: calls =>
    let (c, answers) := c.call first
    let (c, rest) := session c calls
    (c, answers :: rest)

end PlanCache

namespace CacheCall

/-- The keys that a call asks for, in their places. -/
def keys : CacheCall → List PlanKey
  | .single key => [key]
  | .matrix host variants _ _ => variants.map (⟨·, host⟩)

/-- The keys that a call asks for, in the order in which they are worked out. -/
def worked : CacheCall → List PlanKey
  | .single key => [key]
  | .matrix host variants order _ =>
    order.filterMap fun i => (variants.map (PlanKey.mk · host))[i]?

/-- A call for a matrix whose elements are worked out in their order. -/
def inOrder (host : Host) (variants : List Variant) : CacheCall :=
  .matrix host variants (List.range variants.length) (.refl _)

/-- The elements of a call, each in a call of its own. -/
def oneByOne (call : CacheCall) : List CacheCall := call.keys.map .single

theorem filterMap_range (l : List PlanKey) : (List.range l.length).filterMap (l[·]?) = l := by
  induction l with
  | nil => rfl
  | cons k l ih =>
    rw [List.length_cons, List.range_succ_eq_map, List.filterMap_cons, List.filterMap_map]
    exact congrArg (k :: ·) ih

/-- Every element of a call is worked out once. -/
theorem worked_perm (call : CacheCall) : call.worked.Perm call.keys := by
  cases call with
  | single key => exact .refl _
  | matrix host variants order complete =>
    refine (complete.filterMap _).trans ?_
    rw [← List.length_map (PlanKey.mk · host), filterMap_range]
    exact .refl _

theorem keys_oneByOne (call : CacheCall) : call.oneByOne.flatMap keys = call.keys := by
  rw [oneByOne, List.flatMap_map]
  exact List.flatMap_singleton' call.keys

end CacheCall

namespace PlanCache

variable {c : PlanCache}

theorem fst_answerAt (asked : List PlanKey) (s : PlanCache × List (Option PlanAnswer)) (i : Nat) :
    (answerAt asked s i).1 = s.1.afterAll (asked[i]?).toList := by
  unfold answerAt
  cases asked[i]? <;> rfl

theorem fst_foldl_answerAt (asked : List PlanKey) (s : PlanCache × List (Option PlanAnswer))
    (order : List Nat) : (order.foldl (answerAt asked) s).1 =
      s.1.afterAll (order.filterMap (asked[·]?)) := by
  induction order generalizing s with
  | nil => rfl
  | cons i order ih =>
    rw [List.foldl_cons, ih, fst_answerAt, ← afterAll_append, List.filterMap_cons]
    cases asked[i]? <;> rfl

theorem length_foldl_answerAt (asked : List PlanKey) (s : PlanCache × List (Option PlanAnswer))
    (order : List Nat) : (order.foldl (answerAt asked) s).2.length = s.2.length := by
  induction order generalizing s with
  | nil => rfl
  | cons i order ih =>
    rw [List.foldl_cons, ih, answerAt]
    split
    next => exact List.length_set
    next => rfl

/-- A place whose turn came holds what the cache keeps for its key at the end; the other places
are as they were. -/
theorem getElem?_foldl_answerAt {asked : List PlanKey} {answers : List (Option PlanAnswer)}
    {order : List Nat} {i : Nat} {key : PlanKey} (hkey : asked[i]? = some key)
    (hlen : answers.length = asked.length) :
    (order.foldl (answerAt asked) (c, answers)).2[i]? =
      if i ∈ order then some ((order.foldl (answerAt asked) (c, answers)).1.get? key)
      else answers[i]? := by
  induction order generalizing c answers with
  | nil => rfl
  | cons j order ih =>
    rw [List.foldl_cons]
    cases hj : asked[j]? with
    | none =>
      have hij : i ≠ j := by
        rintro rfl
        rw [hkey] at hj
        cases hj
      have hstay : answerAt asked (c, answers) j = (c, answers) := by simp only [answerAt, hj]
      rw [hstay, ih hlen]
      simp [hij]
    | some k =>
      have hstep : answerAt asked (c, answers) j =
          (c.after k, answers.set j (some (c.answer k))) := by simp only [answerAt, hj]
      rw [hstep, ih (by rw [List.length_set, hlen])]
      by_cases hi : i ∈ order
      · rw [if_pos hi, if_pos (List.mem_cons_of_mem _ hi)]
      · rw [if_neg hi]
        by_cases hij : i = j
        · -- The answer was put here at this step, and the cache keeps it from then on.
          subst hij
          obtain rfl : key = k := Option.some.inj (hkey.symm.trans hj)
          have hlt : i < answers.length := by
            rw [hlen]
            exact (List.getElem?_eq_some_iff.1 hkey).1
          have hkept : (c.after key).get? key = some (c.answer key) := by
            rw [get?_after, if_pos rfl]
          rw [if_pos List.mem_cons_self, fst_foldl_answerAt, get?_afterAll_of_eq_some hkept,
            List.getElem?_set, if_pos rfl, if_pos hlt]
        · rw [if_neg (by simp [hij, hi]), List.getElem?_set, if_neg (Ne.symm hij)]

/-! ## Sessions -/

theorem fst_call (call : CacheCall) : (c.call call).1 = c.afterAll call.worked := by
  cases call with
  | single key => rfl
  | matrix host variants order complete => exact fst_foldl_answerAt ..

theorem snd_call (call : CacheCall) :
    (c.call call).2 = call.keys.map (c.call call).1.get? := by
  cases call with
  | single key =>
    rw [call, CacheCall.keys, List.map_singleton, get?_after, if_pos rfl]
  | matrix host variants order complete =>
    refine List.ext_getElem? fun i => ?_
    have hlen : (variants.map fun _ => (none : Option PlanAnswer)).length =
        (variants.map (PlanKey.mk · host)).length := by simp
    rw [List.getElem?_map]
    cases hkey : (variants.map (PlanKey.mk · host))[i]? with
    | some key =>
      have hi : i ∈ order := by
        have hlt := (List.getElem?_eq_some_iff.1 hkey).1
        exact complete.mem_iff.2 (List.mem_range.2 (by simpa using hlt))
      rw [CacheCall.keys, hkey]
      exact (getElem?_foldl_answerAt hkey hlen).trans (if_pos hi)
    | none =>
      have hlast := length_foldl_answerAt (variants.map (PlanKey.mk · host))
        (c, variants.map fun _ => none) order
      have hbeyond := List.getElem?_eq_none_iff.1 hkey
      rw [CacheCall.keys, hkey, Option.map_none, List.getElem?_eq_none_iff]
      rwa [← hlen, ← hlast] at hbeyond

theorem fst_session (calls : List CacheCall) :
    (c.session calls).1 = c.afterAll (calls.flatMap CacheCall.worked) := by
  induction calls generalizing c with
  | nil => rfl
  | cons call calls ih =>
    rw [List.flatMap_cons, afterAll_append, ← fst_call]
    exact ih

theorem mem_keys_session {start : Nat} {calls : List CacheCall} {k : PlanKey} :
    k ∈ ((emptyFrom start).session calls).1.keys ↔ k ∈ calls.flatMap CacheCall.keys := by
  rw [fst_session, mem_keys_afterAll]
  simp [keys, emptyFrom, (CacheCall.worked_perm _).mem_iff]

/-- A session answers every request with what its last cache keeps for the key. -/
theorem answers_session (calls : List CacheCall) :
    (c.session calls).2 = calls.map fun call => call.keys.map (c.session calls).1.get? := by
  induction calls generalizing c with
  | nil => rfl
  | cons call calls ih =>
    show (c.call call).2 :: ((c.call call).1.session calls).2 = _
    rw [ih, List.map_cons]
    refine congrArg (· :: _) ?_
    rw [snd_call]
    refine List.map_congr_left fun k hk => ?_
    have hmem : k ∈ (c.call call).1.keys := by
      rw [fst_call, mem_keys_afterAll, (CacheCall.worked_perm call).mem_iff]
      exact .inl hk
    obtain ⟨a, ha⟩ := Option.isSome_iff_exists.1 (isSome_get?_iff.2 hmem)
    refine ha.trans (Eq.symm ?_)
    show ((c.call call).1.session calls).1.get? k = some a
    rw [fst_session]
    exact get?_afterAll_of_eq_some ha _

theorem flatten_answers_session (calls : List CacheCall) :
    (c.session calls).2.flatten = (calls.flatMap CacheCall.keys).map (c.session calls).1.get? := by
  rw [answers_session, List.map_flatMap, List.flatMap_def]

theorem faithful_session (start : Nat) (calls : List CacheCall) :
    ((emptyFrom start).session calls).1.Faithful := by
  rw [fst_session]
  exact (faithful_emptyFrom start).afterAll _

/-- A matrix that is worked out in the order of its elements is resolved as a whole. -/
theorem call_inOrder (host : Host) (variants : List Variant) :
    c.call (.inOrder host variants) =
      ((c.resolveMatrix host variants).value.1,
        (c.resolveMatrix host variants).value.2.map some) := by
  -- Each variant is worked out in turn, and later ones change no answer.
  have hmatrix : (c.resolveMatrix host variants).value.1 =
        c.afterAll (variants.map (PlanKey.mk · host)) ∧
      (c.resolveMatrix host variants).value.2.map some =
        (variants.map (PlanKey.mk · host)).map (c.resolveMatrix host variants).value.1.get? := by
    induction variants generalizing c with
    | nil => exact ⟨rfl, rfl⟩
    | cons v variants ih =>
      obtain ⟨hcache, hanswers⟩ := ih (c := c.after ⟨v, host⟩)
      have hkept : (c.after ⟨v, host⟩).get? ⟨v, host⟩ = some (c.answer ⟨v, host⟩) := by
        rw [get?_after, if_pos rfl]
      refine ⟨hcache, ?_⟩
      show some (c.answer ⟨v, host⟩) ::
          ((c.after ⟨v, host⟩).resolveMatrix host variants).value.2.map some =
        ((c.after ⟨v, host⟩).resolveMatrix host variants).value.1.get? ⟨v, host⟩ ::
          (variants.map (PlanKey.mk · host)).map
            ((c.after ⟨v, host⟩).resolveMatrix host variants).value.1.get?
      rw [hanswers, hcache, get?_afterAll_of_eq_some hkept]
  have hworked : (CacheCall.inOrder host variants).worked = variants.map (PlanKey.mk · host) := by
    rw [CacheCall.inOrder, CacheCall.worked, ← List.length_map (PlanKey.mk · host),
      CacheCall.filterMap_range]
  have hcache : (c.call (.inOrder host variants)).1 = (c.resolveMatrix host variants).value.1 := by
    rw [fst_call, hworked, hmatrix.1]
  refine Prod.ext hcache ?_
  rw [snd_call, hcache, hmatrix.2]
  rfl

/-! ## Sharing -/

/-- Two places of a list of answers hold one instance. -/
def Shares (answers : List (Option PlanAnswer)) (i j : Nat) : Prop :=
  ∃ x y : PlanInstance, answers[i]? = some (some (.ok x)) ∧ answers[j]? = some (some (.ok y)) ∧
    x.number = y.number

/-- Two lists hold the same plans and errors, and share instances at the same places. -/
structure Alike (answers answers' : List (Option PlanAnswer)) : Prop where
  plans : answers.map (Option.map planOf) = answers'.map (Option.map planOf)
  shares : ∀ i j, Shares answers i j ↔ Shares answers' i j

section Faithful

variable {asked : List PlanKey} (h : c.Faithful)

include h

theorem Faithful.map_planOf (hmem : ∀ k ∈ asked, k ∈ c.keys) :
    (asked.map c.get?).map (Option.map planOf) =
      asked.map fun k => some (k.variant.resolvePlan k.host).value := by
  rw [List.map_map]
  refine List.map_congr_left fun k hk => ?_
  obtain ⟨a, ha⟩ := Option.isSome_iff_exists.1 (isSome_get?_iff.2 (hmem k hk))
  rw [Function.comp_apply, ha, Option.map_some, h.answers k a ha]

/-- Places of plans hold one instance when they have one key. -/
theorem Faithful.number_eq_iff {i j : Nat} {x y : PlanInstance}
    (hx : (asked.map c.get?)[i]? = some (some (.ok x)))
    (hy : (asked.map c.get?)[j]? = some (some (.ok y))) :
    x.number = y.number ↔ asked[i]? = asked[j]? := by
  rw [List.getElem?_map] at hx hy
  obtain ⟨k, hk, hkx⟩ := Option.map_eq_some_iff.1 hx
  obtain ⟨k', hk', hky⟩ := Option.map_eq_some_iff.1 hy
  rw [hk, hk', Option.some.injEq]
  constructor
  · exact h.apart k k' x y hkx hky
  · rintro rfl
    cases hkx.symm.trans hky
    rfl

theorem Faithful.shares_iff (hmem : ∀ k ∈ asked, k ∈ c.keys) {i j : Nat} :
    Shares (asked.map c.get?) i j ↔ asked[i]? = asked[j]? ∧
      ∃ k plan, asked[i]? = some k ∧ (k.variant.resolvePlan k.host).value = .ok plan := by
  constructor
  · rintro ⟨x, y, hx, hy, hxy⟩
    refine ⟨(h.number_eq_iff hx hy).1 hxy, ?_⟩
    rw [List.getElem?_map] at hx
    obtain ⟨k, hk, hkx⟩ := Option.map_eq_some_iff.1 hx
    exact ⟨k, x.plan, hk, (h.answers k _ hkx).symm⟩
  · rintro ⟨hij, k, plan, hk, hplan⟩
    obtain ⟨a, ha⟩ := Option.isSome_iff_exists.1
      (isSome_get?_iff.2 (hmem k (List.mem_of_getElem? hk)))
    have hok := (h.answers k a ha).trans hplan
    cases a with
    | error e => cases hok
    | ok x =>
      have hi : (asked.map c.get?)[i]? = some (some (.ok x)) := by
        rw [List.getElem?_map, hk, Option.map_some, ha]
      have hj : (asked.map c.get?)[j]? = some (some (.ok x)) := by
        rw [List.getElem?_map, ← hij, hk, Option.map_some, ha]
      exact ⟨x, x, hi, hj, rfl⟩

end Faithful

/-- Sessions that ask for the same keys, in whatever calls and whatever order of work, give the
same answers and leave caches of the same size. -/
theorem alike_of_keys_eq {start : Nat} {calls calls' : List CacheCall}
    (h : calls.flatMap CacheCall.keys = calls'.flatMap CacheCall.keys) :
    Alike ((emptyFrom start).session calls).2.flatten
        ((emptyFrom start).session calls').2.flatten ∧
      ((emptyFrom start).session calls).1.size = ((emptyFrom start).session calls').1.size := by
  have hfaithful := faithful_session start
  have hmem (calls : List CacheCall) : ∀ k ∈ calls.flatMap CacheCall.keys,
      k ∈ ((emptyFrom start).session calls).1.keys := fun _ => mem_keys_session.2
  refine ⟨⟨?_, fun i j => ?_⟩, ?_⟩
  · rw [flatten_answers_session, flatten_answers_session,
      (hfaithful calls).map_planOf (hmem calls), (hfaithful calls').map_planOf (hmem calls'), h]
  · rw [flatten_answers_session, flatten_answers_session,
      (hfaithful calls).shares_iff (hmem calls), (hfaithful calls').shares_iff (hmem calls'), h]
  · rw [(hfaithful calls).size_eq fun _ => mem_keys_session,
      (hfaithful calls').size_eq fun _ => mem_keys_session, h]

/-! ## The cache against plain resolution -/

/-- **A cache refines plain resolution.** In every session with a cache that starts without keys:

* each request is answered, in its place, with the plan or the error of resolving its variant on
  its host alone;
* two plans are one instance if and only if they were asked for by one key;
* the size is the number of distinct keys so far, it never falls, and the cache is empty until the
  first key;
* asking for the elements of every call one by one gives the same plans and errors, shared alike,
  and a cache of the same size;
* a matrix worked out in the order of its elements is what `resolveMatrix` makes of it. -/
theorem session_refines_resolution (start : Nat) (calls : List CacheCall) :
    ((emptyFrom start).session calls).2.map (List.map (Option.map planOf)) =
      calls.map (fun call => call.keys.map fun k =>
        some (k.variant.resolvePlan k.host).value) ∧
    (∀ (i j : Nat) (x y : PlanInstance),
      ((emptyFrom start).session calls).2.flatten[i]? = some (some (.ok x)) →
      ((emptyFrom start).session calls).2.flatten[j]? = some (some (.ok y)) →
      (x.number = y.number ↔
        (calls.flatMap CacheCall.keys)[i]? = (calls.flatMap CacheCall.keys)[j]?)) ∧
    (((emptyFrom start).session calls).1.size = (calls.flatMap CacheCall.keys).dedup.length ∧
      (∀ more, ((emptyFrom start).session calls).1.size ≤
        ((emptyFrom start).session (calls ++ more)).1.size) ∧
      (((emptyFrom start).session calls).1.isEmpty = true ↔
        calls.flatMap CacheCall.keys = [])) ∧
    (Alike ((emptyFrom start).session calls).2.flatten
        ((emptyFrom start).session (calls.flatMap CacheCall.oneByOne)).2.flatten ∧
      ((emptyFrom start).session calls).1.size =
        ((emptyFrom start).session (calls.flatMap CacheCall.oneByOne)).1.size) ∧
    (∀ (c : PlanCache) (host : Host) (variants : List Variant),
      c.call (.inOrder host variants) = ((c.resolveMatrix host variants).value.1,
        (c.resolveMatrix host variants).value.2.map some)) := by
  have hfaithful := faithful_session start
  have hsize (calls : List CacheCall) : ((emptyFrom start).session calls).1.size =
      (calls.flatMap CacheCall.keys).dedup.length :=
    (hfaithful calls).size_eq fun _ => mem_keys_session
  refine ⟨?_, ?_, ⟨hsize calls, fun more => ?_, ?_⟩, ?_, fun c => call_inOrder⟩
  · rw [answers_session, List.map_map]
    refine List.map_congr_left fun call hcall => ?_
    refine (hfaithful calls).map_planOf fun k hk => ?_
    exact mem_keys_session.2 (List.mem_flatMap.2 ⟨call, hcall, hk⟩)
  · intro i j x y hx hy
    rw [flatten_answers_session] at hx hy
    exact (hfaithful calls).number_eq_iff hx hy
  · rw [hsize, hsize, List.flatMap_append]
    refine (List.subperm_of_subset (List.nodup_dedup _) fun k hk => ?_).length_le
    exact List.mem_dedup.2 (List.mem_append_left _ (List.mem_dedup.1 hk))
  · -- A cache is empty if it has no keys, so if nothing was asked for.
    have hzero : ((emptyFrom start).session calls).1.isEmpty = true ↔
        ((emptyFrom start).session calls).1.size = 0 := by
      rw [isEmpty, size, List.isEmpty_iff, List.length_eq_zero_iff]
    rw [hzero, hsize, List.length_eq_zero_iff, List.dedup_eq_nil]
  · refine alike_of_keys_eq ?_
    rw [List.flatMap_assoc]
    exact List.flatMap_congr fun call _ => call.keys_oneByOne.symm

/-- A variant that fails, a matrix with a repeated element that is worked out backwards, and the
repeated element again: three keys, and one instance for the three requests for one key. -/
theorem session_refines_resolution_matrix :
    ∃ (old : PlanKey) (eigen boost : Variant) (calls : List CacheCall),
      calls.flatMap CacheCall.keys =
        [old, ⟨eigen, .cached⟩, ⟨boost, .cached⟩, ⟨eigen, .cached⟩, ⟨eigen, .cached⟩] ∧
      ((emptyFrom 0).session calls).1.size = 3 ∧
      (∃ x y : PlanInstance, ((emptyFrom 0).session calls).2.flatten[1]? = some (some (.ok x)) ∧
        ((emptyFrom 0).session calls).2.flatten[4]? = some (some (.ok y)) ∧
        x.number = y.number) ∧
      (∃ x y : PlanInstance, ((emptyFrom 0).session calls).2.flatten[2]? = some (some (.ok x)) ∧
        ((emptyFrom 0).session calls).2.flatten[3]? = some (some (.ok y)) ∧
        x.number ≠ y.number) := by
  let eigen : Variant := { Variant.sample with geometry := .eigen }
  let boost : Variant := { eigen with geometry := .boost }
  let old : PlanKey := ⟨{ eigen with compiler := ⟨"gcc", .release 5 0 0, none⟩ }, .cached⟩
  let calls : List CacheCall := [.single old,
    .matrix .cached [eigen, boost, eigen] [2, 1, 0] (by decide), .single ⟨eigen, .cached⟩]
  let a : ValidVariant := ⟨eigen, by decide, rfl⟩
  let b : ValidVariant := ⟨boost, by decide, rfl⟩
  have h := session_refines_resolution 0 calls
  refine ⟨old, eigen, boost, calls, rfl, h.2.2.1.1.trans (by decide), ?_, ?_⟩
  · refine ⟨⟨0, a.planOn .cached⟩, ⟨0, a.planOn .cached⟩, rfl, rfl, ?_⟩
    exact (h.2.1 1 4 _ _ rfl rfl).2 rfl
  · refine ⟨⟨1, b.planOn .cached⟩, ⟨0, a.planOn .cached⟩, rfl, rfl, ?_⟩
    exact mt (h.2.1 2 3 _ _ rfl rfl).1 (by decide)

end PlanCache

end VariantPlan
