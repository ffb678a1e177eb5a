import VariantPlan.Choice
import VariantPlan.Text.Letter

/-!
# Platforms

The operating system a variant is built for, and what is known of the place it is consumed from.
-/

namespace VariantPlan

/-- The operating system a variant is built for. -/
inductive System where
  | linux
  | macos
  | ios
  | freeBsd
  | android
  | windows
  | emscripten
deriving DecidableEq

instance : Choice System where
  all := [.linux, .macos, .ios, .freeBsd, .android, .windows, .emscripten]
  name
    | .linux => "Linux"
    | .macos => "Macos"
    | .ios => "iOS"
    | .freeBsd => "FreeBSD"
    | .android => "Android"
    | .windows => "Windows"
    | .emscripten => "Emscripten"

namespace System

/-- The system with the given name in any letter case. -/
def ofName? (s : String) : Option System :=
  (Choice.all : List System).find? fun system => Text.sameLetters (Choice.name system) s

/-- Whether dynamic libraries are Mach-O files. -/
def isApple : System → Bool
  | .macos | .ios => true
  | _ => false

/-- Whether the standard threads of the system live in a library of their own. -/
def linksPthread : System → Bool
  | .linux | .freeBsd | .macos => true
  | _ => false

end System

/-- What is known of the place a package is consumed from. -/
structure Host where
  /-- The package is served from an installed package cache, not from an editable checkout. -/
  inLocalCache : Bool
deriving DecidableEq

namespace Host

/-- A package served from the package cache. -/
def cached : Host := ⟨true⟩

/-- A package consumed from its source checkout. -/
def editable : Host := ⟨false⟩

end Host

end VariantPlan
