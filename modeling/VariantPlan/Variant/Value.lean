import VariantPlan.Text.Letter
import VariantPlan.Variant.Error

/-!
# Option values

The value of an option is a truth value or a text. A truth value written as a text is `True` or
`False`, and a text is read as a truth value in any letter case.
-/

namespace VariantPlan

/-- The value of an option. -/
inductive OptionValue where
  | flag (value : Bool)
  | text (value : String)
deriving DecidableEq

namespace OptionValue

/-- The truth value that a text names in any letter case. -/
def readFlag? (s : String) : Option Bool :=
  if Text.lower s = "true" then some true
  else if Text.lower s = "false" then some false
  else none

/-- The value that a command-line text gives. -/
def ofToken (s : String) : OptionValue :=
  match readFlag? s with
  | some b => .flag b
  | none => .text s

def asText : OptionValue → String
  | .flag true => "True"
  | .flag false => "False"
  | .text s => s

def asFlag (field : String) : OptionValue → Except ConfigError Bool
  | .flag b => .ok b
  | .text s =>
    match readFlag? s with
    | some b => .ok b
    | none => .error (.unknownValue field s ["True", "False"])

/-- Truth values come before texts, and false before true. -/
def order : OptionValue → OptionValue → Ordering
  | .flag a, .flag b => compare a b
  | .flag _, .text _ => .lt
  | .text _, .flag _ => .gt
  | .text a, .text b => compare a b

instance : Ord OptionValue := ⟨order⟩

end OptionValue

end VariantPlan
