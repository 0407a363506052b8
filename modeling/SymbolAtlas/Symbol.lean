import SymbolAtlas.Identity
import SymbolAtlas.Location
import SymbolAtlas.Type.Basic

/-! Symbols: named entities with everything that their declarations and
definitions say about them. -/

namespace SymbolAtlas

/-- Comments gathered from the declarations of one entity. -/
structure Documentation where
  brief : String := ""
  raw : String := ""
deriving DecidableEq, Repr, Inhabited

namespace Documentation

def isEmpty (doc : Documentation) : Bool :=
  doc.brief.isEmpty && doc.raw.isEmpty

/-- The latest non-empty brief wins. -/
def withBrief (brief : Option String) (doc : Documentation) : Documentation :=
  match brief with
  | some text => if text.isEmpty then doc else { doc with brief := text }
  | none => doc

/-- A raw comment wins over a shorter one; length is counted in UTF-8 bytes. -/
def withRaw (raw : Option String) (doc : Documentation) : Documentation :=
  match raw with
  | some text => if text.utf8ByteSize > doc.raw.utf8ByteSize then { doc with raw := text } else doc
  | none => doc

def merge (doc : Documentation) (brief raw : Option String) : Documentation :=
  (doc.withBrief brief).withRaw raw

end Documentation

inductive RecordKeyword where
  | structKeyword
  | classKeyword
deriving DecidableEq, Repr

inductive SymbolKind where
  | scope
  | function (mangling : String)
  | record (keyword : RecordKeyword)
  | enumeration (isScoped : Bool)
  | typedef
  | unexposed
deriving DecidableEq, Repr

structure Variable where
  name : String
  type : Ty
deriving DecidableEq, Repr

/-- What is resolved once for a symbol, after it has been registered. -/
inductive Detail where
  | signature (result : Ty) (parameters : List Variable)
  | members (fields : List Variable)
  | underlying (type : Ty)
deriving DecidableEq, Repr

namespace Detail

def types : Detail → List Ty
  | signature result parameters => result :: parameters.map Variable.type
  | members fields => fields.map Variable.type
  | underlying aliased => [aliased]

def symbols (detail : Detail) : List Nat :=
  detail.types.flatMap Ty.symbols

end Detail

namespace SymbolKind

def name : SymbolKind → String
  | scope => "namespace"
  | function _ => "function"
  | record .structKeyword => "struct"
  | record .classKeyword => "class"
  | enumeration _ => "enum"
  | typedef => "typedef"
  | unexposed => "unexposed"

def admits : SymbolKind → Detail → Bool
  | function _, .signature _ _ => true
  | record _, .members _ => true
  | typedef, .underlying _ => true
  | _, _ => false

end SymbolKind

/-- What one visit of a cursor contributes to its symbol. -/
structure Sighting where
  location : Location
  inMainFile : Bool
  /-- Where the defining cursor lies, if the front end knows one. -/
  definedAt : Option Location
  declares : Bool
  defines : Bool
  brief : Option String
  raw : Option String
deriving DecidableEq, Repr

/-- A named entity. Its parent is the index of the enclosing symbol. -/
structure Symbol where
  part : Part
  kind : SymbolKind
  parent : Option Nat
  detail : Option Detail := none
  exposed : Bool := false
  declarations : List Location := []
  definitions : List Location := []
  doc : Documentation := {}
deriving DecidableEq, Repr

namespace Symbol

def spelling (symbol : Symbol) : String :=
  symbol.part.spelling

def displayName (symbol : Symbol) : String :=
  symbol.part.display

def expose (symbol : Symbol) : Symbol :=
  { symbol with exposed := true }

def declareAt (location : Location) (symbol : Symbol) : Symbol :=
  { symbol with declarations := location.insert symbol.declarations }

def defineAt (location : Location) (symbol : Symbol) : Symbol :=
  { symbol with definitions := location.insert symbol.definitions }

def document (brief raw : Option String) (symbol : Symbol) : Symbol :=
  { symbol with doc := symbol.doc.merge brief raw }

def awaits (symbol : Symbol) (detail : Detail) : Bool :=
  symbol.kind.admits detail && symbol.detail.isNone

def fill (detail : Detail) (symbol : Symbol) : Symbol :=
  { symbol with detail := some detail }

def clear (symbol : Symbol) : Symbol :=
  { symbol with detail := none }

/-- Folds in one more sighting. The place of the definition counts as a
declaration once the symbol has been seen in a main file. -/
def sight (symbol : Symbol) (sighting : Sighting) : Symbol :=
  let exposed := symbol.exposed || sighting.inMainFile
  let known := if exposed then sighting.definedAt.toList else []
  let declared := if sighting.declares then [sighting.location] else []
  let defined := if sighting.defines then [sighting.location] else []
  let documented := sighting.declares || sighting.defines
  { symbol with
    exposed
    declarations := (known ++ declared).foldl (fun set l => l.insert set) symbol.declarations
    definitions := defined.foldl (fun set l => l.insert set) symbol.definitions
    doc := if documented then symbol.doc.merge sighting.brief sighting.raw else symbol.doc }

end Symbol

end SymbolAtlas
