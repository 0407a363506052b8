import SymbolAtlas.Identity
import SymbolAtlas.Json.Reader
import SymbolAtlas.Snapshot.Json
import SymbolAtlas.Snapshot.Validity

/-! Snapshots that have passed the check, with handles on their cursors and
types. A handle cannot be out of range. -/

namespace SymbolAtlas

structure Snapshot where
  raw : RawSnapshot
  checked : raw.check = .ok ()

namespace Snapshot

def ofRaw (raw : RawSnapshot) : Except Error Snapshot :=
  match checked : raw.check with
  | .ok () => .ok ⟨raw, checked⟩
  | .error defect => .error (.snapshot defect)

def ofJson (json : Json) : Except Error Snapshot :=
  match RawSnapshot.ofJson? json with
  | some raw => ofRaw raw
  | none => .error .json

def parse (text : String) : Except Error Snapshot :=
  match Json.parse? text with
  | some json => ofJson json
  | none => .error .json

structure Cursor (snapshot : Snapshot) where
  index : Fin snapshot.raw.cursors.size
deriving DecidableEq

/-- A handle on a type; the invalid type has none. -/
structure TypeRef (snapshot : Snapshot) where
  index : Option (Fin snapshot.raw.types.size)
deriving DecidableEq

theorem cursors_nonempty (snapshot : Snapshot) : 0 < snapshot.raw.cursors.size := by
  have checked := snapshot.checked
  rw [RawSnapshot.check] at checked
  rcases Nat.eq_zero_or_pos snapshot.raw.cursors.size with empty | positive
  · simp [RawSnapshot.checkRoot, empty, bind, Except.bind] at checked
  · exact positive

variable {snapshot : Snapshot}

def cursor? (snapshot : Snapshot) (index : Nat) : Option snapshot.Cursor :=
  if bound : index < snapshot.raw.cursors.size then some ⟨⟨index, bound⟩⟩ else none

/-- The type at an index; there is an invalid one past the end. -/
def type (snapshot : Snapshot) (index : Nat) : snapshot.TypeRef :=
  if bound : index < snapshot.raw.types.size then ⟨some ⟨index, bound⟩⟩ else ⟨none⟩

def typeOfLink (snapshot : Snapshot) (link : Option UInt64) : snapshot.TypeRef :=
  match link with
  | some index => snapshot.type index.toNat
  | none => ⟨none⟩

def cursorOfLink (snapshot : Snapshot) (link : Option UInt64) : Option snapshot.Cursor :=
  link.bind fun index => snapshot.cursor? index.toNat

def cursorsOfLinks (snapshot : Snapshot) (links : List UInt64) : List snapshot.Cursor :=
  links.filterMap fun index => snapshot.cursor? index.toNat

def root (snapshot : Snapshot) : snapshot.Cursor :=
  ⟨⟨0, snapshot.cursors_nonempty⟩⟩

namespace Cursor

def data (cursor : snapshot.Cursor) : RawCursor :=
  snapshot.raw.cursors[cursor.index]

def kind (cursor : snapshot.Cursor) : CursorKind :=
  cursor.data.kind

def spelling (cursor : snapshot.Cursor) : String :=
  cursor.data.spelling

def location (cursor : snapshot.Cursor) : Location :=
  cursor.data.location

def inMainFile (cursor : snapshot.Cursor) : Bool :=
  !cursor.location.isAbsent && cursor.location.file.same snapshot.raw.mainFile

def isDeclaration (cursor : snapshot.Cursor) : Bool :=
  cursor.kind.isDeclaration

def isDefinition (cursor : snapshot.Cursor) : Bool :=
  cursor.data.isDefinition

/-- The defining cursor of the entity, possibly the cursor itself. -/
def definition? (cursor : snapshot.Cursor) : Option snapshot.Cursor :=
  match cursor.data.definition with
  | some index => snapshot.cursor? index.toNat
  | none => if cursor.isDefinition then some cursor else none

def parent? (cursor : snapshot.Cursor) : Option snapshot.Cursor :=
  snapshot.cursorOfLink cursor.data.semanticParent

def children (cursor : snapshot.Cursor) : List snapshot.Cursor :=
  snapshot.cursorsOfLinks cursor.data.children

def arguments (cursor : snapshot.Cursor) : List snapshot.Cursor :=
  snapshot.cursorsOfLinks cursor.data.arguments

def type (cursor : snapshot.Cursor) : snapshot.TypeRef :=
  snapshot.typeOfLink cursor.data.type

def resultType (cursor : snapshot.Cursor) : snapshot.TypeRef :=
  snapshot.typeOfLink cursor.data.resultType

def underlyingType (cursor : snapshot.Cursor) : snapshot.TypeRef :=
  snapshot.typeOfLink cursor.data.underlyingType

def isRoot (cursor : snapshot.Cursor) : Bool :=
  cursor.kind == .translationUnit || cursor.parent?.isNone

def isTopLevel (cursor : snapshot.Cursor) : Bool :=
  match cursor.parent? with
  | some parent => parent.isRoot
  | none => true

end Cursor

namespace TypeRef

def data? (type : snapshot.TypeRef) : Option RawType :=
  type.index.map fun index => snapshot.raw.types[index]

def kind (type : snapshot.TypeRef) : TypeKind :=
  match type.data? with
  | some data => data.kind.resolve?.getD .invalid
  | none => .invalid

def isConst (type : snapshot.TypeRef) : Bool :=
  type.data?.any RawType.isConst

def isVolatile (type : snapshot.TypeRef) : Bool :=
  type.data?.any RawType.isVolatile

def follow (type : snapshot.TypeRef) (link : RawType → Option UInt64) : snapshot.TypeRef :=
  snapshot.typeOfLink (type.data?.bind link)

def pointee (type : snapshot.TypeRef) : snapshot.TypeRef :=
  type.follow RawType.pointee

def named (type : snapshot.TypeRef) : snapshot.TypeRef :=
  type.follow RawType.named

def resultType (type : snapshot.TypeRef) : snapshot.TypeRef :=
  type.follow RawType.resultType

def argTypes (type : snapshot.TypeRef) : List snapshot.TypeRef :=
  match type.data? with
  | some data => data.argTypes.map fun index => snapshot.type index.toNat
  | none => []

def typedefName (type : snapshot.TypeRef) : String :=
  match type.data? with
  | some data => data.typedefName
  | none => ""

def declaration? (type : snapshot.TypeRef) : Option snapshot.Cursor :=
  snapshot.cursorOfLink (type.data?.bind RawType.declaration)

end TypeRef

end Snapshot

end SymbolAtlas
