import SymbolAtlas.Type.Fundamental

/-! Resolved types: a chain of levels around a leaf. Named leaves point at
symbols by their index in a registry. -/

namespace SymbolAtlas

structure Qualifiers where
  isConst : Bool := false
  isVolatile : Bool := false
deriving DecidableEq, Repr, Inhabited

namespace Qualifiers

def words (quals : Qualifiers) : List String :=
  (if quals.isConst then ["const"] else []) ++ (if quals.isVolatile then ["volatile"] else [])

end Qualifiers

inductive Wrapper where
  /-- A name with a keyword or a scope in front, such as `struct S`. -/
  | elaborated
  | pointer
  | lvalueReference
  | rvalueReference
deriving DecidableEq, Repr

namespace Wrapper

/-- The mark written after the inner type; an elaborated name has none. -/
def mark : Wrapper → String
  | elaborated => ""
  | pointer => " *"
  | lvalueReference => " &"
  | rvalueReference => " &&"

def qualifiedAfter : Wrapper → Bool
  | elaborated => false
  | _ => true

end Wrapper

inductive Leaf where
  | unexposed
  | record (symbol : Option Nat)
  | enumeration (symbol : Option Nat)
  /-- The name of an alias is kept apart from its symbol: aliases may share one. -/
  | typedef (symbol : Option Nat) (name : String)
  | fundamental (type : Fundamental)
deriving DecidableEq, Repr

namespace Leaf

def symbol? : Leaf → Option Nat
  | record symbol | enumeration symbol | typedef symbol _ => symbol
  | unexposed | fundamental _ => none

/-- The text of a leaf without qualifiers, where `nameOf` gives the qualified
name of a symbol. -/
def text (nameOf : Nat → Option String) : Leaf → String
  | unexposed => "<unexposed>"
  | record symbol => (symbol.bind nameOf).getD "<record>"
  | enumeration symbol => (symbol.bind nameOf).getD "<enum>"
  | typedef symbol name => if name.isEmpty then (symbol.bind nameOf).getD "<typedef>" else name
  | fundamental type => type.spelling

end Leaf

/-- A resolved type; `absent` stands for no type, also inside a level. -/
inductive Ty where
  | absent
  | leaf (quals : Qualifiers) (base : Leaf)
  | level (quals : Qualifiers) (wrapper : Wrapper) (inner : Ty)
deriving DecidableEq, Repr, Inhabited

namespace Ty

def inner : Ty → Ty
  | level _ _ inner => inner
  | absent | leaf _ _ => absent

def symbol? : Ty → Option Nat
  | leaf _ base => base.symbol?
  | absent | level _ _ _ => none

def symbols : Ty → List Nat
  | absent => []
  | leaf _ base => base.symbol?.toList
  | level _ _ inner => inner.symbols

def withQualifiers (quals : Qualifiers) (after : Bool) (base : String) : String :=
  match quals.words with
  | [] => base
  | words =>
    if after then base ++ " " ++ String.intercalate " " words
    else String.intercalate " " words ++ " " ++ base

def innerSpelling (nameOf : Nat → Option String) : Ty → String
  | absent => "<unknown>"
  | leaf quals base => withQualifiers quals false (base.text nameOf)
  | level quals wrapper inner =>
    withQualifiers quals wrapper.qualifiedAfter (inner.innerSpelling nameOf ++ wrapper.mark)

/-- The spelling of a type where a missing one is worth a remark of its own. -/
def spelling (nameOf : Nat → Option String) : Ty → String
  | absent => "<invalid>"
  | type => type.innerSpelling nameOf

end Ty

end SymbolAtlas
