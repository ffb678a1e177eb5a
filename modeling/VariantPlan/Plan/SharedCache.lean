import VariantPlan.Plan.Cache

/-!
# A plan cache with concurrent callers

Several callers ask one cache for plans at the same time. A key has a **cell**, which is made for
the first caller that asks for the key and is found under its address by the others. The first
caller that finds the cell vacant works the answer out; whoever comes meanwhile waits until the
cell is filled, and then all read the answer from it.

A caller takes one **step** at a time, and the steps of different callers come in any order:

* **fetch** gets the address of the key's cell, which is made if there is none, while nobody else
  looks at the map from keys to addresses;
* **enter** finds the cell vacant and makes it busy, the answer being worked out from then on;
* **fill** puts the answer into the cell;
* **read** takes the answer from a filled cell.

A caller at a busy cell has no step. A **run** is a list of steps with the callers that take them.
-/

namespace VariantPlan

/-- How far the initialization of a cell has come. -/
inductive Cell where
  | vacant
  /-- A caller works the answer out. -/
  | busy (caller : Nat)
  | filled (answer : PlanAnswer)

/-- How far a caller has come. -/
inductive Caller where
  | asking (key : PlanKey)
  /-- The caller has the address of the key's cell. -/
  | holding (key : PlanKey) (address : Nat)
  /-- The caller works out what is to be put into the cell. -/
  | working (key : PlanKey) (address : Nat)
  | answered (key : PlanKey) (answer : PlanAnswer)

namespace Caller

/-- The key that a caller asks for. -/
def key : Caller → PlanKey
  | asking key | holding key _ | working key _ | answered key _ => key

/-- The key of a caller that took its first step. -/
def fetched? : Caller → Option PlanKey
  | asking _ => none
  | holding key _ | working key _ | answered key _ => some key

end Caller

/-- A cache and those who use it. -/
structure SharedCache where
  /-- The addresses of the cells, by key. -/
  slots : List (PlanKey × Nat)
  /-- The cells, by address. -/
  cells : List Cell
  /-- The number of the next instance. -/
  nextNumber : Nat
  callers : List Caller

namespace SharedCache

/-- Callers before a cache without cells, none of which took a step. -/
def start (number : Nat) (keys : List PlanKey) : SharedCache := ⟨[], [], number, keys.map .asking⟩

/-- Fetch the cell of a key, or insert a vacant one. -/
def fetch (s : SharedCache) (i : Nat) (key : PlanKey) : SharedCache :=
  match s.slots.lookup key with
  | some address => { s with callers := s.callers.set i (.holding key address) }
  | none =>
    { s with
      slots := s.slots ++ [(key, s.cells.length)]
      cells := s.cells ++ [.vacant]
      callers := s.callers.set i (.holding key s.cells.length) }

/-- Start to work out what is to be put into a cell. -/
def enter (s : SharedCache) (i : Nat) (key : PlanKey) (address : Nat) : SharedCache :=
  { s with
    cells := s.cells.set address (.busy i)
    callers := s.callers.set i (.working key address) }

/-- What working out the answer for a key comes to, in a cache that numbers instances alike. -/
def outcome (s : SharedCache) (key : PlanKey) : PlanCache × PlanAnswer :=
  (PlanCache.emptyFrom s.nextNumber).store key (key.variant.resolvePlan key.host).value

/-- Put what was worked out into a cell; a plan becomes the next instance. -/
def fill (s : SharedCache) (i : Nat) (key : PlanKey) (address : Nat) : SharedCache :=
  { s with
    cells := s.cells.set address (.filled (s.outcome key).2)
    nextNumber := (s.outcome key).1.nextNumber
    callers := s.callers.set i (.holding key address) }

/-- Take an answer. -/
def read (s : SharedCache) (i : Nat) (key : PlanKey) (answer : PlanAnswer) : SharedCache :=
  { s with callers := s.callers.set i (.answered key answer) }

/-! ## Steps and runs -/

/-- What a step does, and for which key. -/
inductive Action where
  | fetch (key : PlanKey)
  /-- The resolution of the key starts. -/
  | enter (key : PlanKey)
  | fill (key : PlanKey)
  | read (key : PlanKey)
deriving DecidableEq

/-- The steps that a caller can take. -/
inductive Step (s : SharedCache) (i : Nat) : Action → SharedCache → Prop where
  | fetch {key : PlanKey} (caller : s.callers[i]? = some (.asking key)) :
    Step s i (.fetch key) (s.fetch i key)
  | enter {key : PlanKey} {address : Nat} (caller : s.callers[i]? = some (.holding key address))
    (cell : s.cells[address]? = some .vacant) : Step s i (.enter key) (s.enter i key address)
  | fill {key : PlanKey} {address : Nat} (caller : s.callers[i]? = some (.working key address)) :
    Step s i (.fill key) (s.fill i key address)
  | read {key : PlanKey} {address : Nat} {answer : PlanAnswer}
    (caller : s.callers[i]? = some (.holding key address))
    (cell : s.cells[address]? = some (.filled answer)) : Step s i (.read key) (s.read i key answer)

/-- Steps of the callers, in any order. -/
inductive Run (s : SharedCache) : List (Nat × Action) → SharedCache → Prop where
  | refl : Run s [] s
  | step {trace : List (Nat × Action)} {s' s'' : SharedCache} {i : Nat} {action : Action}
    (run : Run s trace s') (step : Step s' i action s'') : Run s (trace ++ [(i, action)]) s''

end SharedCache

end VariantPlan
