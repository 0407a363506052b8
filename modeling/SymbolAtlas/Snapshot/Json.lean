import SymbolAtlas.Location
import SymbolAtlas.Snapshot.Raw

/-! Snapshots as JSON: the reader and the writer. -/

namespace SymbolAtlas

open Json

namespace CursorKind

/-- A kind is its name, or an object with the name as its only key and `null`
as its value. -/
def ofJson? : Json → Option CursorKind
  | .str name => some (ofName name)
  | .obj [(name, .null)] => some (ofName name)
  | _ => none

def toJson (kind : CursorKind) : Json :=
  .str kind.name

end CursorKind

namespace WrittenKind

def ofJson? : Json → Option WrittenKind
  | .str text => some (.name text)
  | json => json.asInt32?.map .code

def toJson : WrittenKind → Json
  | .code number => .int number.toInt
  | .name text => .str text

end WrittenKind

def indexToJson (index : UInt64) : Json :=
  .ofNat index.toNat

namespace RawCursor

def fieldNames : List String :=
  ["kind", "spelling", "display_name", "mangled_name", "location", "is_definition",
    "brief_comment", "raw_comment", "definition", "semantic_parent", "children", "arguments",
    "type", "result_type", "underlying_type", "scoped_enum"]

def ofJson? (json : Json) : Option RawCursor := do
  let fields ← json.fields? .refused fieldNames
  some {
    kind := ← required? fields "kind" CursorKind.ofJson?
    spelling := ← defaulted? fields "spelling" asString? ""
    displayName := ← defaulted? fields "display_name" asString? ""
    mangledName := ← defaulted? fields "mangled_name" asString? ""
    location := ← defaulted? fields "location" Location.ofJson? .absent
    isDefinition := ← defaulted? fields "is_definition" asBool? false
    brief := ← optional? fields "brief_comment" asString?
    raw := ← optional? fields "raw_comment" asString?
    definition := ← optional? fields "definition" asUInt64?
    semanticParent := ← optional? fields "semantic_parent" asUInt64?
    children := ← defaulted? fields "children" (asList? asUInt64?) []
    arguments := ← defaulted? fields "arguments" (asList? asUInt64?) []
    type := ← optional? fields "type" asUInt64?
    resultType := ← optional? fields "result_type" asUInt64?
    underlyingType := ← optional? fields "underlying_type" asUInt64?
    isScopedEnum := ← defaulted? fields "scoped_enum" asBool? false }

def toJson (cursor : RawCursor) : Json :=
  .obj <|
    [("kind", cursor.kind.toJson), ("spelling", .str cursor.spelling),
      ("display_name", .str cursor.displayName), ("mangled_name", .str cursor.mangledName),
      ("location", cursor.location.toJson), ("is_definition", .bool cursor.isDefinition)] ++
    present "brief_comment" .str cursor.brief ++
    present "raw_comment" .str cursor.raw ++
    present "definition" indexToJson cursor.definition ++
    present "semantic_parent" indexToJson cursor.semanticParent ++
    [("children", .ofList indexToJson cursor.children),
      ("arguments", .ofList indexToJson cursor.arguments)] ++
    present "type" indexToJson cursor.type ++
    present "result_type" indexToJson cursor.resultType ++
    present "underlying_type" indexToJson cursor.underlyingType ++
    [("scoped_enum", .bool cursor.isScopedEnum)]

end RawCursor

namespace RawType

def fieldNames : List String :=
  ["kind", "is_const", "is_volatile", "pointee", "named", "typedef_name", "declaration",
    "result_type", "arg_types"]

def ofJson? (json : Json) : Option RawType := do
  let fields ← json.fields? .refused fieldNames
  some {
    kind := ← required? fields "kind" WrittenKind.ofJson?
    isConst := ← defaulted? fields "is_const" asBool? false
    isVolatile := ← defaulted? fields "is_volatile" asBool? false
    pointee := ← optional? fields "pointee" asUInt64?
    named := ← optional? fields "named" asUInt64?
    typedefName := ← defaulted? fields "typedef_name" asString? ""
    declaration := ← optional? fields "declaration" asUInt64?
    resultType := ← optional? fields "result_type" asUInt64?
    argTypes := ← defaulted? fields "arg_types" (asList? asUInt64?) [] }

def toJson (type : RawType) : Json :=
  .obj <|
    [("kind", type.kind.toJson), ("is_const", .bool type.isConst),
      ("is_volatile", .bool type.isVolatile)] ++
    present "pointee" indexToJson type.pointee ++
    present "named" indexToJson type.named ++
    [("typedef_name", .str type.typedefName)] ++
    present "declaration" indexToJson type.declaration ++
    present "result_type" indexToJson type.resultType ++
    [("arg_types", .ofList indexToJson type.argTypes)]

end RawType

namespace RawSnapshot

def fieldNames : List String := ["main_file", "cursors", "types"]

def ofJson? (json : Json) : Option RawSnapshot := do
  let fields ← json.fields? .refused fieldNames
  some {
    mainFile := ⟨← required? fields "main_file" asString?⟩
    cursors := (← defaulted? fields "cursors" (asList? RawCursor.ofJson?) []).toArray
    types := (← defaulted? fields "types" (asList? RawType.ofJson?) []).toArray }

def toJson (raw : RawSnapshot) : Json :=
  .obj [("main_file", .str raw.mainFile.text),
    ("cursors", .ofList RawCursor.toJson raw.cursors.toList),
    ("types", .ofList RawType.toJson raw.types.toList)]

end RawSnapshot

end SymbolAtlas
