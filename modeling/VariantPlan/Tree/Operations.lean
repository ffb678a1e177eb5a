import VariantPlan.Digest.Sha256
import VariantPlan.Tree.Walk

/-!
# Operations on files

The operations of a file system on a tree, by path. Each gives the tree that it leaves, changed or
not, and its outcome.

* **unlink** removes a file or a link; **removeDirectory** removes an empty directory;
  **removeTree** removes whatever a path leads to. A link is removed itself, not what it names.
* **makeDirectory** and **makeLink** put one entry into a directory that is there;
  **makeDirectories** makes the directories above as well.
* **overwrite** gives a file a content, through a link at the end of the path; **writeFile** makes
  the directories above it first.
* **readFile** and **digestFile** look at the bytes of a file, **readText** at its text, and
  **openDirectory** at a directory.
* **entriesFrom** lists what is in a directory, with their kinds.

Main result: `removeTree_of_find_error` (what a path does not lead to is left to `unlink`).
-/

namespace VariantPlan.FileTree

/-- The outcome of an operation and the tree it leaves. -/
abbrev Change : Type := Except IoError Unit × FileTree

/-- An operation that fails and changes nothing. -/
def refuse (t : FileTree) (kind : IoErrorKind) : Change := (.error (.ofKind kind), t)

/-! ## Removing -/

/-- Remove a file or a link. -/
def unlink (t : FileTree) (p : Path) : Change :=
  match t.findSlot p .isADirectory with
  | .error e => (.error e, t)
  | .ok (_, none) => t.refuse .notFound
  | .ok (_, some .directory) => t.refuse .isADirectory
  | .ok (loc, some _) =>
    if p.hasTrailingSlash then t.refuse .notADirectory else (.ok (), t.erase loc)

/-- Why a directory cannot be removed by a path that ends in no name. -/
def removalFault (p : Path) : IoErrorKind :=
  match p.parts.getLast? with
  | some .current => .invalidInput
  | some .parent => .directoryNotEmpty
  | _ => .resourceBusy

/-- Remove an empty directory. -/
def removeDirectory (t : FileTree) (p : Path) : Change :=
  match t.findSlot p (removalFault p) with
  | .error e => (.error e, t)
  | .ok (_, none) => t.refuse .notFound
  | .ok (loc, some .directory) =>
    if (t.below loc).isEmpty then (.ok (), t.erase loc) else t.refuse .directoryNotEmpty
  | .ok (_, some _) => t.refuse .notADirectory

/-- Remove what is below a directory, and then the directory by its path. That the path leads
nowhere any more counts as success. -/
def removeContents (t : FileTree) (p : Path) (dir : Location) : Change :=
  match (t.clear dir).removeDirectory p with
  | (.error e, t) => if e.kind = .notFound then (.ok (), t) else (.error e, t)
  | done => done

/-- Remove what a path leads to, a directory with all that is below it. -/
def removeTree (t : FileTree) (p : Path) : Change :=
  match t.find true p with
  | .ok (dir, .directory) =>
    match t.find false p with
    | .ok (_, .link _) => t.unlink p
    | _ => t.removeContents p dir
  | _ => t.unlink p

/-- What a path does not lead to is left to `unlink`, which tells why it cannot be removed. -/
theorem removeTree_of_find_error {t : FileTree} {p : Path} {e : IoError}
    (h : t.find true p = .error e) : t.removeTree p = t.unlink p := by
  simp only [removeTree, h]

/-! ## Creating -/

def makeDirectory (t : FileTree) (p : Path) : Change :=
  match t.findSlot p .alreadyExists with
  | .error e => (.error e, t)
  | .ok (_, some _) => t.refuse .alreadyExists
  | .ok (loc, none) => (.ok (), t.place loc .directory)

/-- Count a failure as success where a path leads to a directory. -/
def settle (p : Path) : Change → Change
  | (.error e, t) => if t.isDirectory p then (.ok (), t) else (.error e, t)
  | done => done

/-- Make the first of the given directories, and before it, where one is missing, the others. -/
def makeNested (t : FileTree) : List Path → Change
  | [] => (.ok (), t)
  | p :: above =>
    match t.makeDirectory p with
    | (.ok (), t) => (.ok (), t)
    | (.error e, t) =>
      if e.kind = .notFound then
        match t.makeNested above with
        | (.ok (), t) => settle p (t.makeDirectory p)
        | failed => failed
      else settle p (.error e, t)

/-- Make a directory and those above it. -/
def makeDirectories (t : FileTree) (p : Path) : Change := t.makeNested (p :: p.ancestors)

/-- Give a file a content, whether it is there or not. A link is written through. -/
def overwrite (t : FileTree) (p : Path) (content : List UInt8) : Change :=
  if p.hasTrailingSlash then
    match t.findParent p with
    | .error e => (.error e, t)
    | .ok _ => t.refuse .isADirectory
  else
    match t.locate (· == [.slash]) p p.steps with
    | .error e => (.error e, t)
    | .ok ⟨_, some .directory, _⟩ | .ok ⟨_, _, [.slash]⟩ => t.refuse .isADirectory
    | .ok ⟨loc, _, []⟩ => (.ok (), t.place loc (.file content))
    | .ok ⟨_, none, _⟩ => t.refuse .notFound
    | .ok ⟨_, some _, _⟩ => t.refuse .notADirectory

/-- Write a file, in place of one that is there, and make the directories above it. -/
def writeFile (t : FileTree) (p : Path) (content : List UInt8) : Change :=
  match t.makeNested p.ancestors with
  | (.ok (), t) => t.overwrite p content
  | failed => failed

/-- Make a link in a directory that is there. -/
def makeLink (t : FileTree) (p target : Path) : Change :=
  if p.hasNul then (.error .nulInPath, t)
  else
    match target.fault? with
    | some e => (.error e, t)
    | none =>
      match t.findSlot p .alreadyExists with
      | .error e => (.error e, t)
      | .ok (_, some _) => t.refuse .alreadyExists
      | .ok (loc, none) =>
        if p.hasTrailingSlash then t.refuse .notFound else (.ok (), t.place loc (.link target))

/-! ## Reading -/

def readFile (t : FileTree) (p : Path) : Except IoError (List UInt8) := do
  match ← t.find true p with
  | (_, .file content) => .ok content
  | (_, .directory) => .error (.ofKind .isADirectory)
  | (_, .link _) => .error (.ofKind .filesystemLoop)

/-- The text that bytes encode. -/
def decodeText (bytes : List UInt8) : Except IoError String :=
  match String.fromUTF8? ⟨bytes.toArray⟩ with
  | some s => .ok s
  | none => .error (.ofKind .invalidData)

def readText (t : FileTree) (p : Path) : Except IoError String := do decodeText (← t.readFile p)

def digestFile (t : FileTree) (p : Path) : Except IoError String :=
  Digest.ofBytes <$> t.readFile p

/-- Open a directory to read what it holds. -/
def openDirectory (t : FileTree) (p : Path) : Except IoError Unit := do
  match ← t.find true p with
  | (_, .directory) => .ok ()
  | _ => .error (.ofKind .notADirectory)

/-! ## Listing -/

/-- A directory with all that is below it, by the names that lead there from it. -/
def within (t : FileTree) (dir : Location) : List (Location × EntryKind) :=
  ([], .directory) :: (t.below dir).map fun e => (e.1, e.2.kind)

/-- What stands at a path or below it, by the names that lead there. A link to a directory stands
for what is in it, and any other link for nothing. -/
def entriesFrom (t : FileTree) (start : Path) : Except IoError (List (Location × EntryKind)) := do
  match ← t.find false start with
  | (_, .file _) => return [([], .file)]
  | (dir, .directory) => return t.within dir
  | (_, .link _) =>
    match ← t.find true start with
    | (dir, .directory) => return t.within dir
    | _ => return []

def locationText (loc : Location) : String := String.intercalate "/" loc

/-- One line about an entry: its kind, its path, and the target of a link. -/
def entryLine (loc : Location) : Entry → String
  | .directory => "d " ++ locationText loc
  | .file _ => "f " ++ locationText loc
  | .link target => "l " ++ locationText loc ++ " -> " ++ target.text

/-- A line about each entry below a location, in the order of their paths as texts. -/
def listing (t : FileTree) (dir : Location) : List String :=
  ((t.below dir).mergeSort fun a b => (compare (locationText a.1) (locationText b.1)).isLE).map
    fun e => entryLine e.1 e.2

end VariantPlan.FileTree
