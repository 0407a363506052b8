import SymbolAtlas.Snapshot.Basic
import SymbolAtlas.Symbol

/-! What a cursor is called: its own part, the chain of its semantic parents and
the identity that both give. -/

namespace SymbolAtlas.Snapshot

variable {snapshot : Snapshot}

namespace Cursor

/-- The part that the kind of a cursor gives it, if the kind has a naming rule:
functions are told apart by their linker name, all else by its spelling. -/
def naming? (cursor : snapshot.Cursor) : Option Part :=
  let data := cursor.data
  match data.kind with
  | .functionDecl => some ⟨data.mangledName, data.spelling, data.displayName⟩
  | .namespaceDecl | .structDecl | .classDecl | .enumDecl | .typedefDecl | .unexposedDecl =>
    some ⟨data.spelling, data.spelling, data.displayName⟩
  | _ => none

def part (cursor : snapshot.Cursor) : Part :=
  cursor.naming?.getD {}

def symbolKind? (cursor : snapshot.Cursor) : Option SymbolKind :=
  match cursor.kind with
  | .namespaceDecl => some .scope
  | .functionDecl => some (.function cursor.data.mangledName)
  | .structDecl => some (.record .structKeyword)
  | .classDecl => some (.record .classKeyword)
  | .enumDecl => some (.enumeration cursor.data.isScopedEnum)
  | .typedefDecl => some .typedef
  | .unexposedDecl => some .unexposed
  | _ => none

def upward : Nat → snapshot.Cursor → List snapshot.Cursor
  | 0, _ => []
  | room + 1, cursor =>
    cursor ::
      match cursor.parent? with
      | some parent => upward room parent
      | none => []

/-- A cursor and all its semantic ancestors, innermost first. Parents do not go
round, so there is room for all of them. -/
def lineage (cursor : snapshot.Cursor) : List snapshot.Cursor :=
  cursor.upward snapshot.raw.cursors.size

/-- The identity of the first cursor of a lineage. It has none if its own part is
empty; it starts anew below a root and below an ancestor without an identity. -/
def identityIn : List snapshot.Cursor → Identity
  | [] => .empty
  | cursor :: above =>
    if cursor.part.isEmpty then .empty
    else
      match above with
      | [] => .ofPart cursor.part
      | parent :: _ =>
        if parent.isRoot then .ofPart cursor.part else (identityIn above).child cursor.part

def identity (cursor : snapshot.Cursor) : Identity :=
  identityIn cursor.lineage

def sighting (cursor : snapshot.Cursor) : Sighting where
  location := cursor.location
  inMainFile := cursor.inMainFile
  definedAt := cursor.definition?.map location
  declares := cursor.isDeclaration
  defines := cursor.isDefinition
  brief := cursor.data.brief
  raw := cursor.data.raw

end Cursor

namespace TypeRef

/-- The type one level down: what an elaborated type names, or what a pointer or
a reference leads to. Any other type is a leaf, with the invalid type below. -/
def next (type : snapshot.TypeRef) : snapshot.TypeRef :=
  match type.kind with
  | .elaborated => type.named
  | .pointer | .lvalueReference | .rvalueReference => type.pointee
  | _ => ⟨none⟩

def downward : Nat → snapshot.TypeRef → List snapshot.TypeRef
  | 0, _ => []
  | room + 1, type =>
    if type.index.isNone then [] else type :: downward room type.next

/-- All levels of a type down to its leaf; an invalid end does not count. -/
def levels (type : snapshot.TypeRef) : List snapshot.TypeRef :=
  type.downward snapshot.raw.types.size

def qualifiers (type : snapshot.TypeRef) : Qualifiers :=
  ⟨type.isConst, type.isVolatile⟩

end TypeRef

end SymbolAtlas.Snapshot
