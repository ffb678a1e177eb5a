import VariantPlan.Tree.Basic
import VariantPlan.Tree.Error

/-!
# Walking a tree

A path is walked component by component from the working directory, or from the root if it is
absolute. Where something is a directory the walk goes on inside it, and where it is a symbolic
link at the place that its target leads to; `maxLinks` links may be met in one walk. Whether a
link is followed with few steps left is up to the caller. A trailing slash is a step of its own:
it asks for a directory, and so a link before it is not at the very end.

A walk **stops** at the end of its steps, or before it at the first thing that is no directory.
What that means is decided by the operation: `find` looks for something that exists, while a
file may be made where nothing stands.
-/

namespace VariantPlan

/-- How many links may be met in one walk. -/
def maxLinks : Nat := 40

/-- How many bytes the name of an entry may have. -/
def maxNameSize : Nat := 255

/-- How many bytes a path may have. -/
def maxPathSize : Nat := 4095

namespace Path

/-- Whether a path holds the character that ends a path for the system. -/
def hasNul (p : Path) : Bool := p.text.toList.contains '\x00'

/-- Why a path cannot be walked at all. -/
def fault? (p : Path) : Option IoError :=
  if p.hasNul then some .nulInPath
  else if p.text = "" then some (.ofKind .notFound)
  else if maxPathSize < p.text.utf8ByteSize then some (.ofKind .invalidFilename)
  else none

/-- The directory from which a path is walked. -/
def startFrom (p : Path) (dir : Location) : Location := if p.isAbsolute then [] else dir

/-- The name of the entry that a path ends in, unless it ends in a special component. -/
def entryName? (p : Path) : Option String :=
  match p.parts.getLast? with
  | some (.entry name) => some name
  | _ => none

end Path

/-- A step of a walk. -/
inductive Step where
  | component (c : Component)
  /-- The slash at the end of a path. -/
  | slash
deriving DecidableEq

def Path.steps (p : Path) : List Step :=
  p.parts.map .component ++ if p.hasTrailingSlash then [.slash] else []

/-- Where a walk stops. -/
structure Stop where
  loc : Location
  /-- What stands there. -/
  entry : Option Entry
  /-- The steps that are left. -/
  rest : List Step
deriving DecidableEq

/-- What a walk stops at, if it exists and no steps are left. -/
def Stop.found (s : Stop) : Except IoError (Location × Entry) :=
  match s.entry with
  | none => .error (.ofKind .notFound)
  | some e => if s.rest.isEmpty then .ok (s.loc, e) else .error (.ofKind .notADirectory)

namespace FileTree

/-- What a name stands for in a directory. -/
def lookup (t : FileTree) (dir : Location) (name : String) : Except IoError (Option Entry) :=
  if maxNameSize < name.utf8ByteSize then .error (.ofKind .invalidFilename)
  else .ok (t.entryAt? (dir ++ [name]))

/-- Walk steps from a directory. A link is followed by `onLink`, unless `stops` holds of the steps
left after it. -/
def descend (t : FileTree) (stops : List Step → Bool)
    (onLink : Location → Path → List Step → Except IoError Stop) :
    Location → List Step → Except IoError Stop
  | dir, [] => .ok ⟨dir, some .directory, []⟩
  | dir, .slash :: rest => descend t stops onLink dir rest
  | _, .component .root :: rest => descend t stops onLink [] rest
  | dir, .component .current :: rest => descend t stops onLink dir rest
  | dir, .component .parent :: rest => descend t stops onLink dir.dropLast rest
  | dir, .component (.entry name) :: rest =>
    match t.lookup dir name with
    | .error e => .error e
    | .ok (some .directory) => descend t stops onLink (dir ++ [name]) rest
    | .ok (some (.link target)) =>
      if stops rest then .ok ⟨dir ++ [name], some (.link target), rest⟩
      else onLink dir target rest
    | .ok entry => .ok ⟨dir ++ [name], entry, rest⟩

/-- Walk steps from a directory, following at most the given number of links. -/
def walk (t : FileTree) (stops : List Step → Bool) :
    Nat → Location → List Step → Except IoError Stop
  | 0, dir, steps => t.descend stops (fun _ _ _ => .error (.ofKind .filesystemLoop)) dir steps
  | links + 1, dir, steps =>
    t.descend stops
      (fun dir target rest => walk t stops links (target.startFrom dir) (target.steps ++ rest))
      dir steps

/-- Where steps lead from the place that a path starts from. -/
def locate (t : FileTree) (stops : List Step → Bool) (p : Path) (steps : List Step) :
    Except IoError Stop :=
  match p.fault? with
  | some e => .error e
  | none => t.walk stops maxLinks (p.startFrom t.workingDir) steps

/-- What a path leads to; a link at its end is followed if `follow` holds. -/
def find (t : FileTree) (follow : Bool) (p : Path) : Except IoError (Location × Entry) := do
  (← t.locate (fun rest => rest.isEmpty && !follow) p p.steps).found

def isDirectory (t : FileTree) (p : Path) : Bool :=
  match t.find true p with
  | .ok (_, .directory) => true
  | _ => false

/-! ## The end of a path -/

/-- The directory that the components of a path before its last one lead to. -/
def findParent (t : FileTree) (p : Path) : Except IoError Location := do
  match ← (← t.locate (fun _ => false) p (p.parts.dropLast.map .component)).found with
  | (loc, .directory) => .ok loc
  | _ => .error (.ofKind .notADirectory)

/-- The location that the name at the end of a path stands for, and what is there; a path that
ends in a special component fails with the kind `special`. -/
def findSlot (t : FileTree) (p : Path) (special : IoErrorKind) :
    Except IoError (Location × Option Entry) := do
  let dir ← t.findParent p
  match p.entryName? with
  | some name => return (dir ++ [name], ← t.lookup dir name)
  | none => .error (.ofKind special)

/-! ## The last component -/

variable {t : FileTree} {stops : List Step → Bool} {dir : Location} {name : String}
  {onLink : Location → Path → List Step → Except IoError Stop}

theorem lookup_eq_ok (h : name.utf8ByteSize ≤ maxNameSize) :
    t.lookup dir name = .ok (t.entryAt? (dir ++ [name])) := by
  rw [lookup, if_neg (by omega)]

end FileTree

end VariantPlan
