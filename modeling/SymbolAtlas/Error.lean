import SymbolAtlas.CursorKind
import SymbolAtlas.Location

/-! Everything that can be wrong with an input, and the words for it. -/

namespace SymbolAtlas

inductive NodeSort where
  | cursor
  | type
deriving DecidableEq, Repr

def NodeSort.name : NodeSort → String
  | cursor => "cursor"
  | type => "type"

inductive SnapshotDefect where
  | noCursors
  | wrongRoot (found : CursorKind)
  | outOfRange (sort : NodeSort) (index owner : Nat)
  | unknownTypeKind (name : String)
  | cycle (sort : NodeSort) (index : Nat)
deriving DecidableEq, Repr

def SnapshotDefect.message : SnapshotDefect → String
  | noCursors => "snapshot has no cursors"
  | wrongRoot found => "cursor 0 must be a TranslationUnit, found " ++ found.name
  | outOfRange sort index owner =>
    sort.name ++ " " ++ toString index ++ " referenced from " ++ toString owner ++
      " is out of range"
  | unknownTypeKind name => "unknown type kind `" ++ name ++ "`"
  | cycle sort index => sort.name ++ " " ++ toString index ++ " is part of a reference cycle"

inductive ConfigDefect where
  | zeroDepth
  | emptyName
  | emptyInputPath (project : String)
deriving DecidableEq, Repr

def ConfigDefect.message : ConfigDefect → String
  | zeroDepth => "max_depth must be > 0"
  | emptyName => "project name must not be empty"
  | emptyInputPath project => "input with empty path in project `" ++ project ++ "`"

inductive ReadFailure where
  | notFound
  | notADirectory
  | isADirectory
  | nameTooLong
  | nulInName
  | notText
  | denied (reason : String)
deriving DecidableEq, Repr

def ReadFailure.message : ReadFailure → String
  | notFound => "No such file or directory (os error 2)"
  | notADirectory => "Not a directory (os error 20)"
  | isADirectory => "Is a directory (os error 21)"
  | nameTooLong => "File name too long (os error 36)"
  | nulInName => "file name contained an unexpected NUL byte"
  | notText => "stream did not contain valid UTF-8"
  | denied reason => reason

/-- The most bytes in a path, and in one name of it. -/
def pathLimit : Nat := 4095

def nameLimit : Nat := 255

def ReadFailure.ofPath? (path : Path) : Option ReadFailure :=
  if path.text.toList.contains '\x00' then some .nulInName
  else if pathLimit < path.text.utf8ByteSize then some .nameTooLong
  else if path.isEmpty then some .notFound
  else none

inductive Error where
  | missingParent (name : String) (location : Location)
  | unmappedTypeKind (code : Int32)
  | snapshot (defect : SnapshotDefect)
  | invalidConfig (defect : ConfigDefect)
  | read (failure : ReadFailure)
  | json
  | toml
deriving DecidableEq, Repr

namespace Error

def isFatal : Error → Bool
  | missingParent _ _ | unmappedTypeKind _ => true
  | _ => false

def message : Error → String
  | missingParent name location =>
    "Missing parent symbol for `" ++ name ++ "` at " ++ location.describe
  | unmappedTypeKind code => "Unmapped type kind: " ++ toString code.toInt
  | snapshot defect => "Snapshot error: " ++ defect.message
  | invalidConfig defect => "Invalid configuration: " ++ defect.message
  | read failure => "IO error: " ++ failure.message
  | json => "JSON error: the text does not describe what is expected"
  | toml => "Config parse error: the text does not describe a project"

end Error

end SymbolAtlas
