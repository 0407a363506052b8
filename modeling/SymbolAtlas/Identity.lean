/-! Qualified identities: the chain of parts from the outermost scope down to
an entity. A part has a stable key, a spelling and a display name. -/

namespace SymbolAtlas

/-- One segment of an identity. A part whose key is empty identifies nothing. -/
structure Part where
  key : String := ""
  spelling : String := ""
  display : String := ""
deriving DecidableEq, Repr, Inhabited

namespace Part

def isEmpty (part : Part) : Bool :=
  part.key.isEmpty

def compare : Part → Part → Ordering :=
  compareLex (compareOn display) (compareLex (compareOn spelling) (compareOn key))

end Part

/-- The parts of a qualified name, outermost first. -/
structure Identity where
  parts : List Part
deriving DecidableEq, Repr, Inhabited

namespace Identity

def empty : Identity := ⟨[]⟩

def ofPart (part : Part) : Identity := ⟨[part]⟩

def isEmpty (identity : Identity) : Bool :=
  identity.parts.isEmpty

def length (identity : Identity) : Nat :=
  identity.parts.length

def last? (identity : Identity) : Option Part :=
  identity.parts.getLast?

def parent? (identity : Identity) : Option Identity :=
  match identity.parts.dropLast with
  | [] => none
  | above => some ⟨above⟩

def child (identity : Identity) (part : Part) : Identity :=
  ⟨identity.parts ++ [part]⟩

def compare (a b : Identity) : Ordering :=
  List.compareLex Part.compare a.parts b.parts

def joined (field : Part → String) (identity : Identity) : String :=
  String.intercalate "::" (identity.parts.map field)

def keyText (identity : Identity) : String :=
  identity.joined Part.key

def spelling (identity : Identity) : String :=
  identity.joined Part.spelling

def display (identity : Identity) : String :=
  identity.joined Part.display

end Identity

end SymbolAtlas
