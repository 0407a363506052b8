import SymbolAtlas.Error
import SymbolAtlas.Path

/-! A small tree of directories and text files, as seen from its top directory.
What lies outside of it does not exist, apart from the directories above, and
cannot be made. -/

namespace SymbolAtlas

/-- Where something is: the names from the top down. -/
abbrev Place := List String

inductive FileTree.Entry where
  | directory
  | file (text : String)
deriving DecidableEq, Repr

/-- What is at each place; of two entries for one place the first counts. -/
structure FileTree where
  entries : List (Place × FileTree.Entry) := []
deriving DecidableEq, Repr, Inhabited

namespace FileTree

/-- The top is a directory without an entry of its own. -/
def entry? (tree : FileTree) (place : Place) : Option Entry :=
  if place = [] then some .directory else tree.entries.lookup place

def put (tree : FileTree) (place : Place) (entry : Entry) : FileTree :=
  { tree with entries := (place, entry) :: tree.entries }

def enter (tree : FileTree) (place : Place) : Except ReadFailure Place :=
  match tree.entry? place with
  | some .directory => .ok place
  | some (.file _) => .error .notADirectory
  | none => .error .notFound

/-- What a path leads to when it is followed from a directory: a place inside
the tree, or none for the directories above the top. -/
def follow (tree : FileTree) : Option Place → List Path.Component →
    Except ReadFailure (Option Place)
  | place, [] => .ok place
  | _, .root :: rest => follow tree none rest
  | place, .current :: rest => follow tree place rest
  | none, .parent :: rest => follow tree none rest
  | some place, .parent :: rest => do
    let inside ← tree.enter place
    if inside = [] then follow tree none rest else follow tree (some inside.dropLast) rest
  | none, .name name :: _ =>
    if nameLimit < name.utf8ByteSize then .error .nameTooLong else .error .notFound
  | some place, .name name :: rest => do
    let inside ← tree.enter place
    if nameLimit < name.utf8ByteSize then throw .nameTooLong
    follow tree (some (inside ++ [name])) rest

def locate (tree : FileTree) (path : Path) : Except ReadFailure (Option Place) :=
  match ReadFailure.ofPath? path with
  | some failure => .error failure
  | none => tree.follow (some []) path.components

def wantsDirectory (path : Path) : Bool :=
  match (segments '/' path.text.toList).getLast? with
  | some piece => piece = [] ∨ piece = ['.']
  | none => false

def read (tree : FileTree) (path : Path) : Except ReadFailure String := do
  match ← tree.locate path with
  | none => throw .isADirectory
  | some place =>
    match tree.entry? place with
    | some .directory => throw .isADirectory
    | some (.file text) => if wantsDirectory path then throw .notADirectory else return text
    | none => throw .notFound

/-- Makes the directories that are missing on the way from a place, up to the
first one that cannot be. -/
def makeDirectories (tree : FileTree) (place : Place) : List Path.Component → FileTree
  | [] => tree
  | .root :: _ => tree
  | .current :: rest => makeDirectories tree place rest
  | .parent :: rest => if place = [] then tree else makeDirectories tree place.dropLast rest
  | .name name :: rest =>
    let inside := place ++ [name]
    match tree.entry? inside with
    | some .directory => makeDirectories tree inside rest
    | some (.file _) => tree
    | none =>
      if nameLimit < name.utf8ByteSize then tree
      else makeDirectories (tree.put inside .directory) inside rest

def makeParent (tree : FileTree) (path : Path) : FileTree :=
  match path.parent? with
  | some above =>
    if (ReadFailure.ofPath? above).isNone then tree.makeDirectories [] above.components else tree
  | none => tree

/-- Puts a file at a path, once its directory is made. Nothing more changes if
the path leads to no place for a file. -/
def write (tree : FileTree) (path : Path) (text : String) : FileTree :=
  let tree := tree.makeParent path
  match tree.locate path with
  | .ok (some place) =>
    if tree.entry? place = some .directory ∨ wantsDirectory path then tree
    else tree.put place (.file text)
  | _ => tree

end FileTree

end SymbolAtlas
