import VariantPlan.CommandLine.Run

/-!
# The program

The command line over the disk. Commands are those of `CommandLine.run`; here the operations that
they need are carried out, and what a run leaves is written to the two channels.
-/

namespace VariantPlan.CommandLine

/-! ## Operations on the disk -/

/-- The kinds of failures by the numbers that the system gives them. -/
def kindOfNumber : Nat → Option IoErrorKind
  | 2 => some .notFound
  | 17 => some .alreadyExists
  | 20 => some .notADirectory
  | 21 => some .isADirectory
  | 22 => some .invalidInput
  | 36 => some .invalidFilename
  | 39 => some .directoryNotEmpty
  | 40 => some .filesystemLoop
  | _ => none

/-- The number of a failure, which may be given as a negative number of 32 bits. -/
def failureNumber (code : UInt32) : Nat := min code.toNat (UInt32.size - code.toNat)

/-- The failure with a number, or with a text if the number is not known. -/
def failureOf (code : UInt32) (details : String) : IoError :=
  match kindOfNumber (failureNumber code) with
  | some kind => .ofKind kind
  | none => ⟨.other "Other", details⟩

/-- The failure of an operation on the disk. -/
def ioErrorOf : IO.Error → IoError
  | .noFileOrDirectory _ _ _ => .ofKind .notFound
  | .inappropriateType _ code details => failureOf code details
  | .invalidArgument _ code details => failureOf code details
  | e => ⟨.other "Other", toString e⟩

/-- Carry out an operation, and give its failure as a value. -/
def attempt {α : Type} (action : IO α) : IO (Except IoError α) := do
  try return .ok (← action)
  catch e => return .error (ioErrorOf e)

def readBytes (p : Path) : IO (List UInt8) := return (← IO.FS.readBinFile p.text).toList

/-- What a path leads to; a link at its end is followed or taken itself. -/
def typeOf (followed : Bool) (p : Path) : IO IO.FS.FileType := do
  let entry : IO.FS.DirEntry := ⟨".", p.text⟩
  let found ← if followed then entry.path.metadata else entry.path.symlinkMetadata
  return found.type

/-- The names in a directory. -/
def namesIn (p : Path) : IO (List String) := do
  let dir ← IO.FS.realPath p.text
  return (← dir.readDir).toList.map (·.fileName)

def isDirectoryOnDisk (p : Path) : IO Bool := do
  return (← attempt (typeOf true p)) matches .ok .dir

/-- Remove what a path leads to; a link is removed itself. -/
partial def removeFromDisk (p : Path) : IO Unit := do
  if (← typeOf false p) matches .dir then
    for name in ← namesIn p do
      removeFromDisk (p.join ⟨name⟩)
    IO.FS.removeDir p.text
  else IO.FS.removeFile p.text

/-- What is below a directory of the disk, in the order of the names. A directory that cannot be
read holds nothing here, and an entry whose kind cannot be told counts as a directory: the scan
opens both and learns why. -/
partial def entriesBelow (p : Path) (above : Location) : IO (List (Location × EntryKind)) := do
  let names := ((← attempt (namesIn p)).toOption.getD []).mergeSort fun a b => (compare a b).isLE
  let mut entries := []
  for name in names do
    let inner := above ++ [name]
    match ← attempt (typeOf false (p.join ⟨name⟩)) with
    | .ok .file => entries := entries ++ [(inner, .file)]
    | .ok .dir | .error _ =>
      entries := entries ++ (inner, .directory) :: (← entriesBelow (p.join ⟨name⟩) inner)
    | .ok _ => entries := entries ++ [(inner, .link)]
  return entries

/-- What stands at a path of the disk or below it. -/
def entriesOnDisk (start : Path) : IO (List (Location × EntryKind)) := do
  match ← typeOf false start with
  | .file => return [([], .file)]
  | .dir => return ([], .directory) :: (← entriesBelow start [])
  | _ =>
    if (← typeOf true start) matches .dir then
      return ([], .directory) :: (← entriesBelow start [])
    else return []

/-- The operations of a scan on the disk. -/
def scanOnDisk : ScanOperations IO where
  entriesFrom p := attempt (entriesOnDisk p)
  openDirectory p := attempt do discard (namesIn p)
  digestFile p := attempt do return Digest.ofBytes (← readBytes p)

def Files.onDisk : Files IO where
  readText p := do
    match ← attempt (readBytes p) with
    | .ok bytes => return FileTree.decodeText bytes
    | .error e => return .error e
  isDirectory := isDirectoryOnDisk
  removeTree p := attempt (removeFromDisk p)
  scan := scanOnDisk.scan

end VariantPlan.CommandLine

/-- Run the command that the arguments name. -/
def main (args : List String) : IO UInt32 := do
  let log ← IO.getEnv "NESTRECIPE_LOG"
  let output ← VariantPlan.CommandLine.run .onDisk (some .linux) log args
  IO.print output.out
  IO.eprint output.err
  return UInt32.ofNat output.code
