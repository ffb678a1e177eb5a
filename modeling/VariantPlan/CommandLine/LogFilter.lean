import VariantPlan.Log.Event
import VariantPlan.Pattern.Basic
import VariantPlan.Text.Blank
import VariantPlan.Text.Letter
import VariantPlan.Text.Numeral
import VariantPlan.Text.Split

/-!
# Log filters

A filter says which events are shown. It is a list of **directives** between commas, each with a
**level** and perhaps a **target**, the start of the names of the stages it is about:

* `level` alone is about all stages;
* `target=level`, or `target` alone for every level;
* `target[span]=level`, where a field may be asked for as `[{field}]`; a directive with the name
  of a span, or with a value for a field, shows no event by itself.

The value of a field is a number or a pattern. Of the directives that are about an event the most
specific one decides, the one with the longest target; an event that no directive is about is not
shown. Of two directives about the same events the later one counts. A text that cannot be read as
a filter makes none.

The marks of a directive are looked for in its text without the blanks at its ends, by their
places in bytes, and its parts are then taken from those places of the text as it is written. So
blanks at the end count as a part of what comes last, and blanks at the start shift every part.
-/

namespace VariantPlan.CommandLine

/-- Up to which severity events are shown; nothing is shown without one. -/
abbrev Threshold : Type := Option Severity

/-- Whether a threshold lets an event of a severity through. -/
def admits (threshold : Threshold) (severity : Severity) : Bool :=
  threshold.any fun s => severity.rank ≤ s.rank

/-- One directive of a filter. -/
structure Directive where
  /-- How the names of stages must begin. -/
  target : Option String
  /-- A field that events must have. -/
  field : Option String
  threshold : Threshold
  /-- Whether only spans are meant. -/
  spansOnly : Bool
deriving DecidableEq

/-- The directives of a filter, in written order. -/
abbrev LogFilter : Type := List Directive

/-! ## Deciding -/

namespace Directive

/-- Whether an event has a field; its message is one. -/
def hasField (e : Event) (name : String) : Bool :=
  name == "message" || e.fields.any fun f => f.1 == name

def isAbout (d : Directive) (e : Event) : Bool :=
  !d.spansOnly && (d.target.all fun t => t.toList.isPrefixOf e.stage.name.toList) &&
    d.field.all (hasField e)

/-- How specific a directive is: first by the length of its target, then by its field. -/
def specificity (d : Directive) : Nat × Nat :=
  (match d.target with | some t => t.length + 1 | none => 0, if d.field.isSome then 1 else 0)

/-- Whether `d` decides rather than `best`, which comes before it. -/
def overrides (d best : Directive) : Bool :=
  match compareLex (compareOn Prod.fst) (compareOn Prod.snd) d.specificity best.specificity with
  | .lt => false
  | .gt => true
  | .eq => (compare (d.field.getD "") (best.field.getD "")).isGE

end Directive

namespace LogFilter

/-- The directive that decides about an event. -/
def decisive? (f : LogFilter) (e : Event) : Option Directive :=
  (f.filter (·.isAbout e)).foldl
    (fun best d => match best with
      | none => some d
      | some b => if d.overrides b then some d else some b)
    none

def shows (f : LogFilter) (e : Event) : Bool :=
  match f.decisive? e with
  | some d => admits d.threshold e.severity
  | none => false

/-- The filter that is about all stages. -/
def ofThreshold (s : Severity) : LogFilter := [⟨none, none, some s, false⟩]

end LogFilter

/-! ## Reading -/

/-- The threshold that a level names, by name in any letter case or by number. -/
def readThreshold? (cs : List Char) : Option Threshold :=
  match Text.read? Text.wordBound cs with
  | some 0 => some none
  | some 1 => some (some .error)
  | some 2 => some (some .warn)
  | some 3 => some (some .info)
  | some 4 => some (some .debug)
  | some 5 => some (some .trace)
  | some _ => none
  | none =>
    match Text.lower (String.ofList cs) with
    | "off" => some none
    | "error" => some (some .error)
    | "warn" => some (some .warn)
    | "info" => some (some .info)
    | "debug" => some (some .debug)
    | "trace" => some (some .trace)
    | _ => none

/-- The threshold after an equals sign; without a level every event is meant. -/
def readLevel? (cs : List Char) : Option Threshold :=
  if cs.isEmpty then some (some .trace) else readThreshold? cs

def byteSize : List Char → Nat
  | [] => 0
  | c :: rest => c.utf8Size + byteSize rest

/-- The part of a text between two places, counted in bytes; `place` is where the text begins. -/
def between (start stop place : Nat) : List Char → List Char
  | [] => []
  | c :: rest =>
    let rest' := between start stop (place + c.utf8Size) rest
    if start ≤ place ∧ place < stop then c :: rest' else rest'

/-- Whether a directive may begin with a character. -/
def startsDirective (c : Char) : Bool :=
  c == '-' || c == ':' || c == '_' || Text.isAlphanumeric c

/-- Whether the value of a field can be asked for. -/
def isFieldValue (cs : List Char) : Bool := Text.isNumber cs || Pattern.isValid cs

/-- Ask for a field by its name and perhaps its value, the first two parts between equals signs. -/
def withField? (d : Directive) (cs : List Char) : Option Directive :=
  match cs.splitOn '=' with
  | name :: value :: _ =>
    if isFieldValue value then some { d with field := some (String.ofList name), spansOnly := true }
    else none
  | _ => if cs.isEmpty then none else some { d with field := some (String.ofList cs) }

/-- What a reader of a directive is in the middle of, with the place where it started. -/
inductive DirectivePart where
  /-- Nothing yet. -/
  | nothing
  /-- A level or a target. -/
  | front (start : Nat)
  /-- The name of a span. -/
  | span (start : Nat)
  /-- A field. -/
  | field (start : Nat)
  /-- What follows a field. -/
  | fieldEnd
  /-- What follows a closing bracket. -/
  | bracketEnd
  /-- The level after an equals sign. -/
  | level (start : Nat)
deriving DecidableEq

/-- Read one character at a place; `cut` gives the text between two places. -/
def readDirectiveChar? (cut : Nat → Nat → List Char) (d : Directive) (part : DirectivePart)
    (place : Nat) (c : Char) : Option (Directive × DirectivePart) :=
  let next := place + c.utf8Size
  match part, c with
  | .nothing, '[' => some (d, .span next)
  | .nothing, c => if startsDirective c then some (d, .front place) else none
  | .front start, '=' =>
    some ({ d with target := some (String.ofList (cut start place)) }, .level next)
  | .front start, '[' =>
    some ({ d with target := some (String.ofList (cut start place)) }, .span next)
  | .span _, ']' => some ({ d with spansOnly := true }, .bracketEnd)
  | .span start, '\x7b' =>
    some ({ d with spansOnly := !(cut start place).isEmpty }, .field next)
  | .field start, '\x7d' => (withField? d (cut start place)).map fun d => (d, .fieldEnd)
  | .fieldEnd, ']' => some (d, .bracketEnd)
  | .fieldEnd, _ => none
  | .bracketEnd, '=' => some (d, .level next)
  | .bracketEnd, _ => none
  | part, _ => some (d, part)

/-- Read the characters of a directive from a place on. -/
def readDirectiveFrom? (cut : Nat → Nat → List Char) (d : Directive) (part : DirectivePart)
    (place : Nat) : List Char → Option (Directive × DirectivePart)
  | [] => some (d, part)
  | c :: rest =>
    (readDirectiveChar? cut d part place c).bind fun (d, part) =>
      readDirectiveFrom? cut d part (place + c.utf8Size) rest

/-- The directive about all events. -/
def Directive.all : Directive := ⟨none, none, some .trace, false⟩

def readDirective? (cs : List Char) : Option Directive := do
  let cut (start stop : Nat) := between start stop 0 cs
  let toEnd (start : Nat) := cut start (byteSize cs)
  match ← readDirectiveFrom? cut .all .nothing 0 (Text.trim cs) with
  | (d, .front start) =>
    match readLevel? (toEnd start) with
    | some threshold => some { d with threshold }
    | none => some { d with target := some (String.ofList (toEnd start)) }
  | (d, .level start) => some { d with threshold := ← readLevel? (toEnd start) }
  | (d, .bracketEnd) => some d
  | _ => none

def LogFilter.ofText? (s : String) : Option LogFilter :=
  ((s.toList.splitOn ',').filter (! ·.isEmpty)).mapM readDirective?

/-- The filter in use: the given one if it can be read, or a plain level. -/
def LogFilter.choose (verbose : Bool) (given : Option String) : LogFilter :=
  (given.bind ofText?).getD (ofThreshold (if verbose then .debug else .warn))

end VariantPlan.CommandLine
