/-!
# Log events

Every stage tells what it does as a list of events beside its result. An event has a severity, the
stage that it comes from, a message and fields. How much of it is shown is decided where events are
printed.

Main results: `Logged.value_bind` and `Logged.events_bind` (running one logged step after another
runs the values and joins the events), `Logged.value_foldlM` and `Logged.forall_mem_events_foldlM`
(the same for a list of steps).
-/

namespace VariantPlan

/-- How grave an event is, the gravest first. -/
inductive Severity where
  | error
  | warn
  | info
  | debug
  | trace
deriving DecidableEq

namespace Severity

def rank : Severity → Nat
  | .error => 0
  | .warn => 1
  | .info => 2
  | .debug => 3
  | .trace => 4

def name : Severity → String
  | .error => "ERROR"
  | .warn => "WARN"
  | .info => "INFO"
  | .debug => "DEBUG"
  | .trace => "TRACE"

end Severity

/-- The stage that an event comes from. -/
inductive Stage where
  | validation
  | resolution
  | planning
  | caching
  | pruning
  | collection
  | command
  | matrix
deriving DecidableEq

/-- The name under which a stage logs. -/
def Stage.name : Stage → String
  | .validation => "nestrecipe_lib::validate"
  | .resolution => "nestrecipe_lib::deps"
  | .planning => "nestrecipe_lib::plan"
  | .caching => "nestrecipe_lib::cache"
  | .pruning => "nestrecipe_lib::package::prune"
  | .collection => "nestrecipe_lib::package::assets"
  | .command => "nestrecipe::cmd"
  | .matrix => "nestrecipe::cmd::matrix"

/-- The value of an event's field. -/
inductive FieldValue where
  /-- A value that is shown as it is. -/
  | shown (text : String)
  /-- A text that is shown between quotation marks in log lines. -/
  | quoted (text : String)
deriving DecidableEq

/-- The text of a field's value, without quotation marks. -/
def FieldValue.text : FieldValue → String
  | .shown s => s
  | .quoted s => s

/-- Something that a stage tells about its work. -/
structure Event where
  severity : Severity
  stage : Stage
  message : String
  fields : List (String × FieldValue)
deriving DecidableEq

def Event.isWarning (e : Event) : Bool := e.severity == .warn

/-! ## Logged results -/

/-- A result with the events of the work that led to it. -/
structure Logged (α : Type) where
  value : α
  events : List Event

namespace Logged

instance : Monad Logged where
  pure a := ⟨a, []⟩
  bind x f := ⟨(f x.value).value, x.events ++ (f x.value).events⟩

def log (e : Event) : Logged Unit := ⟨(), [e]⟩

variable {α β : Type}

@[simp]
theorem value_pure (a : α) : (pure a : Logged α).value = a := rfl

@[simp]
theorem value_bind (x : Logged α) (f : α → Logged β) : (x >>= f).value = (f x.value).value := rfl

@[simp]
theorem events_bind (x : Logged α) (f : α → Logged β) :
    (x >>= f).events = x.events ++ (f x.value).events := rfl

theorem value_foldlM (f : β → α → Logged β) (b : β) (l : List α) :
    (l.foldlM f b).value = l.foldl (fun b a => (f b a).value) b := by
  induction l generalizing b with
  | nil => rfl
  | cons a l ih => rw [List.foldlM_cons, value_bind, ih, List.foldl_cons]

theorem forall_mem_events_foldlM {p : Event → Prop} {f : β → α → Logged β}
    (h : ∀ b a, ∀ e ∈ (f b a).events, p e) (b : β) (l : List α) :
    ∀ e ∈ (l.foldlM f b).events, p e := by
  induction l generalizing b with
  | nil =>
    intro e he
    cases he
  | cons a l ih =>
    intro e he
    rw [List.foldlM_cons, events_bind, List.mem_append] at he
    rcases he with he | he
    · exact h b a e he
    · exact ih _ e he

end Logged

end VariantPlan
