import SymbolAtlas.Snapshot.Basic

/-! Building snapshots step by step. Every declared cursor gets a line of its
own in the main file, so declarations of one entity have different locations. -/

namespace SymbolAtlas

structure SnapshotBuilder where
  raw : RawSnapshot
  nextLine : Nat := 1
deriving DecidableEq, Repr

namespace SnapshotBuilder

def start (mainFile : Path) : SnapshotBuilder where
  raw := { mainFile, cursors := #[.named .translationUnit mainFile.text] }

def root : Nat := 0

def editCursor? (builder : SnapshotBuilder) (cursor : Nat) (edit : RawCursor → RawCursor) :
    Option SnapshotBuilder :=
  if cursor < builder.raw.cursors.size then
    some { builder with raw := { builder.raw with
      cursors := builder.raw.cursors.modify cursor edit } }
  else none

/-- How far apart the offsets of two lines are. -/
def lineLength : Nat := 80

def linkerName (kind : CursorKind) (name : String) : String :=
  if kind = .functionDecl then "_Z" ++ toString name.utf8ByteSize ++ name ++ "v" else ""

def freshLocation (builder : SnapshotBuilder) : Location :=
  ⟨builder.raw.mainFile, .ofNat builder.nextLine, 1, .ofNat ((builder.nextLine - 1) * lineLength)⟩

def declare? (builder : SnapshotBuilder) (parent : Nat) (kind : CursorKind) (name : String) :
    Option (SnapshotBuilder × Nat) := do
  let index := builder.raw.cursors.size
  let cursor := { RawCursor.named kind name with
    mangledName := linkerName kind name
    semanticParent := some (.ofNat parent)
    location := builder.freshLocation }
  let grown : SnapshotBuilder := {
    raw := { builder.raw with cursors := builder.raw.cursors.push cursor }
    nextLine := builder.nextLine + 1 }
  let grown ← grown.editCursor? parent fun cursor =>
    { cursor with children := cursor.children ++ [.ofNat index] }
  some (grown, index)

def define? (builder : SnapshotBuilder) (cursor : Nat) : Option SnapshotBuilder :=
  builder.editCursor? cursor fun data => { data with isDefinition := true }

def linkDefinition? (builder : SnapshotBuilder) (declaration definition : Nat) :
    Option SnapshotBuilder :=
  builder.editCursor? declaration fun data => { data with definition := some (.ofNat definition) }

def locate? (builder : SnapshotBuilder) (cursor : Nat) (location : Location) :
    Option SnapshotBuilder :=
  builder.editCursor? cursor fun data => { data with location }

def comment? (builder : SnapshotBuilder) (cursor : Nat) (brief raw : String) :
    Option SnapshotBuilder :=
  builder.editCursor? cursor fun data => { data with brief := some brief, raw := some raw }

def setType? (builder : SnapshotBuilder) (cursor type : Nat) : Option SnapshotBuilder :=
  builder.editCursor? cursor fun data => { data with type := some (.ofNat type) }

def setResultType? (builder : SnapshotBuilder) (cursor type : Nat) : Option SnapshotBuilder :=
  builder.editCursor? cursor fun data => { data with resultType := some (.ofNat type) }

def setUnderlyingType? (builder : SnapshotBuilder) (cursor type : Nat) :
    Option SnapshotBuilder :=
  builder.editCursor? cursor fun data => { data with underlyingType := some (.ofNat type) }

def argument? (builder : SnapshotBuilder) (function : Nat) (name : String) (type : Nat) :
    Option (SnapshotBuilder × Nat) := do
  let (builder, index) ← builder.declare? function .parmDecl name
  let builder ← builder.setType? index type
  let builder ← builder.editCursor? function fun data =>
    { data with arguments := data.arguments ++ [.ofNat index] }
  some (builder, index)

def field? (builder : SnapshotBuilder) (record : Nat) (name : String) (type : Nat) :
    Option (SnapshotBuilder × Nat) := do
  let (builder, index) ← builder.declare? record .fieldDecl name
  let builder ← builder.setType? index type
  some (builder, index)

def addType (builder : SnapshotBuilder) (type : RawType) : SnapshotBuilder × Nat :=
  ({ builder with raw := { builder.raw with types := builder.raw.types.push type } },
    builder.raw.types.size)

def plainType (builder : SnapshotBuilder) (kind : TypeKind) : SnapshotBuilder × Nat :=
  builder.addType (.ofKind kind)

def fundamental (builder : SnapshotBuilder) (type : Fundamental) : SnapshotBuilder × Nat :=
  builder.plainType (.fundamental type)

def unexposed (builder : SnapshotBuilder) : SnapshotBuilder × Nat :=
  builder.plainType .unexposed

/-- Adds a type of the kind that a front end gives this number. -/
def codedType (builder : SnapshotBuilder) (code : Int32) : SnapshotBuilder × Nat :=
  builder.plainType (.ofCode code)

def wrap (builder : SnapshotBuilder) (kind : TypeKind) (pointee : Nat) :
    SnapshotBuilder × Nat :=
  builder.addType { RawType.ofKind kind with pointee := some (.ofNat pointee) }

def pointerTo (builder : SnapshotBuilder) (pointee : Nat) : SnapshotBuilder × Nat :=
  builder.wrap .pointer pointee

def lvalueReferenceTo (builder : SnapshotBuilder) (pointee : Nat) : SnapshotBuilder × Nat :=
  builder.wrap .lvalueReference pointee

def rvalueReferenceTo (builder : SnapshotBuilder) (pointee : Nat) : SnapshotBuilder × Nat :=
  builder.wrap .rvalueReference pointee

def elaborated (builder : SnapshotBuilder) (named : Nat) : SnapshotBuilder × Nat :=
  builder.addType { RawType.ofKind .elaborated with named := some (.ofNat named) }

def declaredType (builder : SnapshotBuilder) (kind : TypeKind) (declaration : Nat) :
    SnapshotBuilder × Nat :=
  builder.addType { RawType.ofKind kind with declaration := some (.ofNat declaration) }

def recordType (builder : SnapshotBuilder) (declaration : Nat) : SnapshotBuilder × Nat :=
  builder.declaredType .record declaration

def enumerationType (builder : SnapshotBuilder) (declaration : Nat) : SnapshotBuilder × Nat :=
  builder.declaredType .enumeration declaration

def typedefType (builder : SnapshotBuilder) (declaration : Nat) (name : String) :
    SnapshotBuilder × Nat :=
  builder.addType { RawType.ofKind .typedef with
    declaration := some (.ofNat declaration), typedefName := name }

def qualified? (builder : SnapshotBuilder) (type : Nat) (isConst isVolatile : Bool) :
    Option (SnapshotBuilder × Nat) :=
  builder.raw.types[type]?.map fun data => builder.addType { data with isConst, isVolatile }

def build (builder : SnapshotBuilder) : Except Error Snapshot :=
  Snapshot.ofRaw builder.raw

end SnapshotBuilder

end SymbolAtlas
