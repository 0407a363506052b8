import SymbolAtlas.CursorKind
import SymbolAtlas.Location
import SymbolAtlas.Type.Kind

/-! A snapshot as it is written down: one translation unit as two arrays,
cursors and types, that refer to each other by index. Nothing is checked yet. -/

namespace SymbolAtlas

structure RawCursor where
  kind : CursorKind
  spelling : String := ""
  displayName : String := ""
  mangledName : String := ""
  location : Location := .absent
  isDefinition : Bool := false
  brief : Option String := none
  raw : Option String := none
  /-- The defining cursor; a definition without one is its own definition. -/
  definition : Option UInt64 := none
  semanticParent : Option UInt64 := none
  children : List UInt64 := []
  arguments : List UInt64 := []
  type : Option UInt64 := none
  resultType : Option UInt64 := none
  underlyingType : Option UInt64 := none
  isScopedEnum : Bool := false
deriving DecidableEq, Repr

namespace RawCursor

def named (kind : CursorKind) (name : String) : RawCursor :=
  { kind, spelling := name, displayName := name }

def cursorLinks (cursor : RawCursor) : List UInt64 :=
  cursor.definition.toList ++ cursor.semanticParent.toList ++ cursor.children ++ cursor.arguments

def typeLinks (cursor : RawCursor) : List UInt64 :=
  cursor.type.toList ++ cursor.resultType.toList ++ cursor.underlyingType.toList

end RawCursor

structure RawType where
  kind : WrittenKind
  isConst : Bool := false
  isVolatile : Bool := false
  pointee : Option UInt64 := none
  /-- The type that an elaborated type names. -/
  named : Option UInt64 := none
  typedefName : String := ""
  declaration : Option UInt64 := none
  resultType : Option UInt64 := none
  argTypes : List UInt64 := []
deriving DecidableEq, Repr

namespace RawType

def ofKind (kind : TypeKind) : RawType :=
  { kind := kind.written }

def typeLinks (type : RawType) : List UInt64 :=
  type.pointee.toList ++ type.named.toList ++ type.resultType.toList ++ type.argTypes

def componentLinks (type : RawType) : List UInt64 :=
  type.pointee.toList ++ type.named.toList

end RawType

structure RawSnapshot where
  mainFile : Path
  cursors : Array RawCursor := #[]
  types : Array RawType := #[]
deriving DecidableEq, Repr

end SymbolAtlas
