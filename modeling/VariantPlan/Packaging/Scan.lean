import VariantPlan.Packaging.Collect
import VariantPlan.Tree.Operations

/-!
# Scanning for generated assets

A scan walks from a directory on, in the order of the paths, and looks at every entry by its path: a
directory is opened, and a generated file, whose path ends in a known extension, is digested. Both
may fail, and the first failure ends the scan. A link at the very start is followed if it leads to a
directory; links further down are passed over.

What a scan needs are three operations of the surroundings, steps in a monad `m`: the walk tells
what there is, and each entry is opened or read on its own.

Main result: `isGenerated_iff` (which paths count).
-/

namespace VariantPlan

/-- The extensions of generated files. -/
def generatedSuffixes : List String := [".js", ".wasm", ".d.ts"]

def isGenerated (path : String) : Bool :=
  generatedSuffixes.any fun suffix => suffix.toList.isSuffixOf path.toList

theorem isGenerated_iff {path : String} :
    isGenerated path = true ↔ ∃ suffix ∈ generatedSuffixes, suffix.toList <:+ path.toList := by
  simp [isGenerated]

/-- The event of a generated file. -/
def foundEvent (path digest : String) : Event where
  severity := .debug
  stage := .collection
  message := "found generated asset"
  fields := [("asset", .shown path), ("sha256", .shown digest)]

/-- The failure of a walk at a path. -/
def walkError (start path : Path) (e : IoError) : PackagingError :=
  .scan start ("IO error for operation on " ++ path.text ++ ": " ++ e.message)

/-- The operations that a scan uses. -/
structure ScanOperations (m : Type → Type) where
  /-- What stands at a path or below it, by the names that lead there from it, in order. -/
  entriesFrom : Path → m (Except IoError (List (Location × EntryKind)))
  openDirectory : Path → m (Except IoError Unit)
  digestFile : Path → m (Except IoError String)

namespace ScanOperations

variable {m : Type → Type} [Monad m] (operations : ScanOperations m) (root start : Path)

/-- The path of an entry that a walk comes to. -/
def entryPath (names : Location) : Path := names.foldl (fun p name => p.join ⟨name⟩) start

/-- Look at one entry. A generated file gives its path from the root and its digest. -/
def visit (names : Location) : EntryKind → m (Except PackagingError (Option (String × String)))
  | .link => pure (.ok none)
  | .directory => do
    match ← operations.openDirectory (entryPath start names) with
    | .ok () => return .ok none
    | .error e => return .error (walkError start (entryPath start names) e)
  | .file => do
    let path := Path.joinedText (root.componentsBelow (entryPath start names))
    if isGenerated path then
      match ← operations.digestFile (entryPath start names) with
      | .ok digest => return .ok (some (path, digest))
      | .error e => return .error (.scan (entryPath start names) e.message)
    else return .ok none

/-- Look at entries, up to the first that fails. -/
def visitAll : List (Location × EntryKind) →
    m (Logged (Except PackagingError (List (String × String))))
  | [] => pure (pure (.ok []))
  | e :: rest => do
    match ← visit operations root start e.1 e.2 with
    | .error failure => return pure (.error failure)
    | .ok none => visitAll rest
    | .ok (some found) => do
      let outcome ← visitAll rest
      return ⟨outcome.value.map (found :: ·), foundEvent found.1 found.2 :: outcome.events⟩

def scan (root : Path) (dir : String) : m CollectOutcome := do
  let start := root.join ⟨dir⟩
  match ← operations.entriesFrom start with
  | .error e => return pure (.error (walkError start start e))
  | .ok entries => do
    let outcome ← visitAll operations root start entries
    return ⟨outcome.value.map .ofList, outcome.events⟩

end ScanOperations

namespace FileTree

/-- The operations of a scan over a tree. -/
def scanOperations (t : FileTree) : ScanOperations Id where
  entriesFrom := t.entriesFrom
  openDirectory := t.openDirectory
  digestFile := t.digestFile

def scan (t : FileTree) (root : Path) (dir : String) : CollectOutcome :=
  Id.run (t.scanOperations.scan root dir)

end FileTree

end VariantPlan
