import VariantPlan.Plan.Basic

/-!
# The plan cache

A cache answers a request for the plan of a variant on a host. The first request for a key works
the answer out and keeps it, a failure too; later requests for it get what was kept. A plan that
is handed out is an **instance** with a number of its own, so whether two answers are one shared
plan can be told from their numbers.

Entries are never dropped. Operations:

* **resolve**: answer one request;
* **resolveMatrix**: answer a list of requests in order.

Main result: `resolve_of_cached` (a kept answer comes back and nothing changes).
-/

namespace VariantPlan

/-- A plan that is handed out, under the number of its instance. -/
structure PlanInstance where
  number : Nat
  plan : BuildPlan

/-- What a cache is asked for: a variant as it was built, and a host. -/
structure PlanKey where
  variant : Variant
  host : Host
deriving DecidableEq

/-- The answer to a request. -/
abbrev PlanAnswer : Type := Except PlanError PlanInstance

/-- The answers that were worked out, by key. -/
structure PlanCache where
  /-- The keys with their answers, the latest first. -/
  entries : List (PlanKey × PlanAnswer)
  /-- The number of the next instance. -/
  nextNumber : Nat

namespace PlanCache

/-- The cache without answers, numbering instances from `number` on. -/
def emptyFrom (number : Nat) : PlanCache := ⟨[], number⟩

def empty : PlanCache := emptyFrom 0

def size (c : PlanCache) : Nat := c.entries.length

def isEmpty (c : PlanCache) : Bool := c.entries.isEmpty

def get? (c : PlanCache) (key : PlanKey) : Option PlanAnswer := c.entries.lookup key

/-- The event of a key without an answer. -/
def missEvent (key : PlanKey) : Event where
  severity := .debug
  stage := .caching
  message := "plan cache miss"
  fields := [("os", .shown (Choice.name key.variant.system))]

/-- Keep what was worked out for a new key; a plan becomes the next instance. -/
def store (c : PlanCache) (key : PlanKey) : Except PlanError BuildPlan → PlanCache × PlanAnswer
  | .ok plan =>
    let answer := .ok ⟨c.nextNumber, plan⟩
    (⟨(key, answer) :: c.entries, c.nextNumber + 1⟩, answer)
  | .error e => (⟨(key, .error e) :: c.entries, c.nextNumber⟩, .error e)

/-- Answer a request. -/
def resolve (c : PlanCache) (key : PlanKey) : Logged (PlanCache × PlanAnswer) :=
  match c.get? key with
  | some answer => pure (c, answer)
  | none => do
    Logged.log (missEvent key)
    return c.store key (← key.variant.resolvePlan key.host)

/-- Answer requests for variants on one host, in order. -/
def resolveMatrix (c : PlanCache) (host : Host) :
    List Variant → Logged (PlanCache × List PlanAnswer)
  | [] => pure (c, [])
  | v :: rest => do
    let (c, answer) ← c.resolve ⟨v, host⟩
    let (c, answers) ← resolveMatrix c host rest
    return (c, answer :: answers)

/-- A kept answer comes back and nothing changes. -/
theorem resolve_of_cached {c : PlanCache} {key : PlanKey} {answer : PlanAnswer}
    (h : c.get? key = some answer) : c.resolve key = pure (c, answer) := by
  simp only [resolve, h]

end PlanCache

end VariantPlan
