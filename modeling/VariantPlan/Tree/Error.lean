/-!
# Errors of file operations

An error has a kind, which callers decide by, and a text, which they show. The kinds that the
system reports have a fixed text with their number.
-/

namespace VariantPlan

/-- What went wrong in a file operation. -/
inductive IoErrorKind where
  | notFound
  | notADirectory
  | isADirectory
  | alreadyExists
  | directoryNotEmpty
  | resourceBusy
  | invalidInput
  /-- A name or a path that is too long. -/
  | invalidFilename
  | filesystemLoop
  | invalidData
  /-- A kind without a meaning of its own here. -/
  | other (name : String)
deriving DecidableEq

namespace IoErrorKind

def name : IoErrorKind → String
  | .notFound => "NotFound"
  | .notADirectory => "NotADirectory"
  | .isADirectory => "IsADirectory"
  | .alreadyExists => "AlreadyExists"
  | .directoryNotEmpty => "DirectoryNotEmpty"
  | .resourceBusy => "ResourceBusy"
  | .invalidInput => "InvalidInput"
  | .invalidFilename => "InvalidFilename"
  | .filesystemLoop => "FilesystemLoop"
  | .invalidData => "InvalidData"
  | .other name => name

/-- The kinds that have a name of their own. -/
def known : List IoErrorKind :=
  [.notFound, .notADirectory, .isADirectory, .alreadyExists, .directoryNotEmpty, .resourceBusy,
    .invalidInput, .invalidFilename, .filesystemLoop, .invalidData]

/-- The kind of a name. -/
def ofName (s : String) : IoErrorKind := (known.find? fun k => k.name == s).getD (.other s)

/-- What the system says about a kind. -/
def systemText : IoErrorKind → String
  | .notFound => "No such file or directory (os error 2)"
  | .notADirectory => "Not a directory (os error 20)"
  | .isADirectory => "Is a directory (os error 21)"
  | .alreadyExists => "File exists (os error 17)"
  | .directoryNotEmpty => "Directory not empty (os error 39)"
  | .resourceBusy => "Device or resource busy (os error 16)"
  | .invalidInput => "Invalid argument (os error 22)"
  | .invalidFilename => "File name too long (os error 36)"
  | .filesystemLoop => "Too many levels of symbolic links (os error 40)"
  | .invalidData => "stream did not contain valid UTF-8"
  | .other name => name

end IoErrorKind

/-- The failure of a file operation. -/
structure IoError where
  kind : IoErrorKind
  message : String
deriving DecidableEq

/-- The failure that the system reports for a kind. -/
def IoError.ofKind (kind : IoErrorKind) : IoError := ⟨kind, kind.systemText⟩

/-- The failure of a path that holds the character that ends a path for the system. -/
def IoError.nulInPath : IoError := ⟨.invalidInput, "file name contained an unexpected NUL byte"⟩

end VariantPlan
