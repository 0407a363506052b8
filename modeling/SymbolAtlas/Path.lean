/-! File paths as written, with the component view that decides when two
spellings name the same file. Nothing here looks at a file system. -/

namespace SymbolAtlas

/-- The pieces of a text between separators; one more than there are separators. -/
def segments (separator : Char) : List Char → List (List Char)
  | [] => [[]]
  | c :: cs =>
    if c = separator then [] :: segments separator cs
    else
      match segments separator cs with
      | [] => [[c]]
      | piece :: pieces => (c :: piece) :: pieces

/-- A path, kept exactly as it was written. -/
structure Path where
  text : String
deriving DecidableEq, Repr, Inhabited

namespace Path

inductive Component where
  | root
  | current
  | parent
  | name (text : String)
deriving DecidableEq, Repr

namespace Component

def rank : Component → Nat
  | .root => 0
  | .current => 1
  | .parent => 2
  | .name _ => 3

def text : Component → String
  | .name text => text
  | _ => ""

/-- Root, then `.`, then `..`, then names in the order of their text. -/
def compare : Component → Component → Ordering :=
  compareLex (compareOn rank) (compareOn text)

instance : Std.TransCmp compare :=
  inferInstanceAs (Std.TransCmp (compareLex (compareOn rank) (compareOn text)))

def ofSegment? (segment : List Char) : Option Component :=
  if segment = [] ∨ segment = ['.'] then none
  else if segment = ['.', '.'] then some .parent
  else some (.name (String.ofList segment))

end Component

/-- The components of a path: repeated and trailing separators and inner `.`
do not count, a leading `.` does. -/
def components (path : Path) : List Component :=
  match segments '/' path.text.toList with
  | [] => []
  | [] :: rest =>
    if rest = [] then [] else .root :: rest.filterMap Component.ofSegment?
  | ['.'] :: rest => .current :: rest.filterMap Component.ofSegment?
  | pieces => pieces.filterMap Component.ofSegment?

def compare (p q : Path) : Ordering :=
  List.compareLex Component.compare p.components q.components

private theorem lexicographic : Std.TransCmp (List.compareLex Component.compare) :=
  inferInstance

instance : Std.TransCmp compare where
  eq_swap := lexicographic.eq_swap
  isLE_trans := lexicographic.isLE_trans

def same (p q : Path) : Bool :=
  compare p q == .eq

def isEmpty (path : Path) : Bool :=
  path.text.isEmpty

def isAbsolute (path : Path) : Bool :=
  path.text.toList.head? == some '/'

/-- A relative path is put after the base with one separator between them
unless the base is empty or ends with one; an absolute path replaces the base. -/
def join (base path : Path) : Path :=
  if path.isAbsolute then path
  else if base.isEmpty ∨ base.text.toList.getLast? = some '/' then ⟨base.text ++ path.text⟩
  else ⟨base.text ++ "/" ++ path.text⟩

def trimEnd (pieces : List (List Char)) : List (List Char) :=
  (pieces.reverse.dropWhile fun piece => (Component.ofSegment? piece).isNone).reverse

/-- Segments without the last one that stands for something, and what follows
and directly precedes it. -/
def dropLast (pieces : List (List Char)) : List (List Char) :=
  trimEnd (trimEnd pieces).dropLast

def ofSegments (pieces : List (List Char)) : Path :=
  ⟨String.intercalate "/" (pieces.map String.ofList)⟩

/-- The path without its last component; the empty path and the root have none. -/
def parent? (path : Path) : Option Path :=
  match segments '/' path.text.toList with
  | [] => none
  | [] :: rest =>
    if trimEnd rest = [] then none
    else
      match dropLast rest with
      | [] => some ⟨"/"⟩
      | above => some (ofSegments ([] :: above))
  | ['.'] :: rest =>
    if trimEnd rest = [] then some ⟨""⟩ else some (ofSegments (['.'] :: dropLast rest))
  | pieces => some (ofSegments (dropLast pieces))

end Path

end SymbolAtlas
