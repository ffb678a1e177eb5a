import VariantPlan.Packaging.Error
import VariantPlan.Plan.Basic

/-!
# Pruning

The paths that a plan prunes are removed from the installed tree one after another, in the order
of the set. A path that does not exist counts as absent; any other failure ends the pass and
leaves the remaining paths alone.

Removing is an operation of the surroundings: a step in a monad `m`, which may be the file system
or a model of it.

Main results: `prunePaths_cons` (the pass, path by path), and `prunePaths_run_cons` (the same over
a state).
-/

namespace VariantPlan

/-- What a pass has done, in its order. -/
structure PruneReport where
  removed : List Path
  alreadyAbsent : List Path
deriving DecidableEq

namespace PruneReport

/-- The report of a pass over no path. -/
def empty : PruneReport := ⟨[], []⟩

/-- Tell that a path was removed before all else. -/
def withRemoved (r : PruneReport) (p : Path) : PruneReport := { r with removed := p :: r.removed }

/-- Tell that a path was absent before all else. -/
def withAbsent (r : PruneReport) (p : Path) : PruneReport :=
  { r with alreadyAbsent := p :: r.alreadyAbsent }

end PruneReport

/-! ## The pass -/

/-- The event of one path. -/
def pathEvent (message : String) (path : Path) : Event where
  severity := .debug
  stage := .pruning
  message := message
  fields := [("path", .quoted path.text)]

/-- The event of a pass that came to its end. -/
def prunedEvent (r : PruneReport) : Event where
  severity := .info
  stage := .pruning
  message := "pruning complete"
  fields := [("removed", .shown (countText r.removed.length)),
    ("absent", .shown (countText r.alreadyAbsent.length))]

/-- The outcome of a pass. -/
abbrev PruneOutcome : Type := Logged (Except PackagingError PruneReport)

/-- Log an event before an outcome, and add to its report. -/
def PruneOutcome.after (e : Event) (add : PruneReport → PruneReport) (o : PruneOutcome) :
    PruneOutcome :=
  ⟨o.value.map add, e :: o.events⟩

section Pass

variable {m : Type → Type} [Monad m] (remove : Path → m (Except IoError Unit)) (root : Path)

/-- Remove paths below a root, up to the first that cannot be removed. -/
def prunePaths : List Path → m PruneOutcome
  | [] => pure (pure (.ok .empty))
  | p :: rest => do
    match ← remove (root.join p) with
    | .ok () =>
      return .after (pathEvent "pruned" (root.join p)) (·.withRemoved p) (← prunePaths rest)
    | .error e =>
      if e.kind = .notFound then
        return .after (pathEvent "already absent" (root.join p)) (·.withAbsent p)
          (← prunePaths rest)
      else return pure (.error (.prune (root.join p) e))

/-- Tell about a pass that came to its end. -/
def PruneOutcome.finish (o : PruneOutcome) : PruneOutcome :=
  match o.value with
  | .ok r => ⟨.ok r, o.events ++ [prunedEvent r]⟩
  | .error _ => o

/-- Remove what a plan prunes from the tree below a root. -/
def BuildPlan.prune (p : BuildPlan) : m PruneOutcome := do
  return (← prunePaths remove root p.prunedPaths.toList).finish

/-- The first path is asked for first, and its answer decides whether the pass goes on. -/
theorem prunePaths_cons (p : Path) (rest : List Path) :
    prunePaths remove root (p :: rest) = (do
      match ← remove (root.join p) with
      | .ok () =>
        return .after (pathEvent "pruned" (root.join p)) (·.withRemoved p)
          (← prunePaths remove root rest)
      | .error e =>
        if e.kind = .notFound then
          return .after (pathEvent "already absent" (root.join p)) (·.withAbsent p)
            (← prunePaths remove root rest)
        else return pure (.error (.prune (root.join p) e))) := rfl

end Pass

/-- Where removing changes a state, the answer of one removal decides how a pass goes on. -/
theorem prunePaths_run_cons {σ : Type} (remove : Path → StateM σ (Except IoError Unit))
    (root p : Path) (paths : List Path) (s : σ) :
    prunePaths remove root (p :: paths) s =
      match remove (root.join p) s with
      | (.ok (), s') =>
        (.after (pathEvent "pruned" (root.join p)) (·.withRemoved p)
          (prunePaths remove root paths s').1, (prunePaths remove root paths s').2)
      | (.error e, s') =>
        if e.kind = .notFound then
          (.after (pathEvent "already absent" (root.join p)) (·.withAbsent p)
            (prunePaths remove root paths s').1, (prunePaths remove root paths s').2)
        else (pure (.error (.prune (root.join p) e)), s') := by
  have hbind (next : Except IoError Unit → StateM σ PruneOutcome) :
      (remove (root.join p) >>= next) s =
        next (remove (root.join p) s).1 (remove (root.join p) s).2 := rfl
  rw [prunePaths_cons, hbind]
  obtain ⟨answer, s'⟩ := remove (root.join p) s
  cases answer with
  | ok u => rfl
  | error e =>
    by_cases he : e.kind = .notFound
    · simp only [he, if_true]
      rfl
    · simp only [he, if_false]
      rfl

end VariantPlan
