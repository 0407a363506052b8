import SymbolAtlas.Proofs.Json.Record
import SymbolAtlas.Snapshot.Basic
import SymbolAtlas.Snapshot.Json

/-! Snapshots that are written are read back, whether they are well-formed or not. -/

namespace SymbolAtlas

open Json

private theorem CursorKind.inverse : Inverse toJson ofJson? where
  plain _ := trivial
  back kind := congrArg some kind.ofName_name

private theorem WrittenKind.inverse : Inverse toJson ofJson? where
  plain kind := by cases kind <;> trivial
  back kind := by
    cases kind with
    | code number => exact congrArg (Option.map code) (Inverse.int32.back number)
    | name text => rfl

private theorem inverse_indexToJson : Inverse indexToJson asUInt64? :=
  Inverse.uint64

namespace Location

def slots (location : Location) : List (String × Option Json) :=
  [("file", some (.str location.file.text)), ("line", some (.ofNat location.line.toNat)),
    ("column", some (.ofNat location.column.toNat)),
    ("offset", some (.ofNat location.offset.toNat))]

private theorem toJson_eq (location : Location) : location.toJson = .obj (written location.slots) :=
  rfl

private theorem inverse : Inverse toJson ofJson? := by
  refine .record toJson_eq (fun _ => rfl) (fun _ => rfl) (by decide) ?_ ?_
  · intro location
    simp [slots, Inverse.str.plain, Inverse.uint32.plain]
  · intro location fields found
    simp only [slots, List.forall_mem_cons] at found
    obtain ⟨file, line, column, offset, -⟩ := found
    simp only [Option.bind_eq_bind, Option.bind_some, required?_of_lookup file,
      required?_of_lookup line, required?_of_lookup column, required?_of_lookup offset,
      Inverse.str.back, Inverse.uint32.back]

end Location

namespace RawCursor

def slots (cursor : RawCursor) : List (String × Option Json) :=
  [("kind", some cursor.kind.toJson), ("spelling", some (.str cursor.spelling)),
    ("display_name", some (.str cursor.displayName)),
    ("mangled_name", some (.str cursor.mangledName)),
    ("location", some cursor.location.toJson), ("is_definition", some (.bool cursor.isDefinition)),
    ("brief_comment", cursor.brief.map .str), ("raw_comment", cursor.raw.map .str),
    ("definition", cursor.definition.map indexToJson),
    ("semantic_parent", cursor.semanticParent.map indexToJson),
    ("children", some (.ofList indexToJson cursor.children)),
    ("arguments", some (.ofList indexToJson cursor.arguments)),
    ("type", cursor.type.map indexToJson), ("result_type", cursor.resultType.map indexToJson),
    ("underlying_type", cursor.underlyingType.map indexToJson),
    ("scoped_enum", some (.bool cursor.isScopedEnum))]

private theorem toJson_eq (cursor : RawCursor) : cursor.toJson = .obj (written cursor.slots) := by
  simp only [toJson, slots, written_cons, present, Option.map_some, Option.map_map,
    Option.toList_some, List.append_assoc, List.cons_append, List.nil_append]
  rfl

private theorem inverse : Inverse toJson ofJson? := by
  refine .record toJson_eq (fun _ => rfl) (fun _ => rfl) (by decide) ?_ ?_
  · intro cursor
    simp [slots, CursorKind.inverse.plain, Inverse.str.plain, Location.inverse.plain,
      Inverse.bool.plain, inverse_indexToJson.plain, inverse_indexToJson.ofList.plain]
  · intro cursor fields found
    simp only [slots, List.forall_mem_cons] at found
    obtain ⟨kind, spelling, displayName, mangledName, location, isDefinition, brief, comment,
      definition, semanticParent, children, arguments, type, resultType, underlyingType,
      isScopedEnum, -⟩ := found
    simp only [Option.bind_eq_bind, Option.bind_some, required?_of_lookup kind,
      defaulted?_of_lookup spelling, defaulted?_of_lookup displayName,
      defaulted?_of_lookup mangledName, defaulted?_of_lookup location,
      defaulted?_of_lookup isDefinition, optional?_of_lookup Inverse.str nofun brief,
      optional?_of_lookup Inverse.str nofun comment,
      optional?_of_lookup inverse_indexToJson nofun definition,
      optional?_of_lookup inverse_indexToJson nofun semanticParent,
      defaulted?_of_lookup children, defaulted?_of_lookup arguments,
      optional?_of_lookup inverse_indexToJson nofun type,
      optional?_of_lookup inverse_indexToJson nofun resultType,
      optional?_of_lookup inverse_indexToJson nofun underlyingType,
      defaulted?_of_lookup isScopedEnum, CursorKind.inverse.back,
      Inverse.str.back, Inverse.bool.back, Location.inverse.back, inverse_indexToJson.ofList.back]

end RawCursor

namespace RawType

def slots (type : RawType) : List (String × Option Json) :=
  [("kind", some type.kind.toJson), ("is_const", some (.bool type.isConst)),
    ("is_volatile", some (.bool type.isVolatile)), ("pointee", type.pointee.map indexToJson),
    ("named", type.named.map indexToJson), ("typedef_name", some (.str type.typedefName)),
    ("declaration", type.declaration.map indexToJson),
    ("result_type", type.resultType.map indexToJson),
    ("arg_types", some (.ofList indexToJson type.argTypes))]

private theorem toJson_eq (type : RawType) : type.toJson = .obj (written type.slots) := by
  simp only [toJson, slots, written_cons, present, Option.map_some, Option.map_map,
    Option.toList_some, List.append_assoc, List.cons_append, List.nil_append]
  rfl

private theorem inverse : Inverse toJson ofJson? := by
  refine .record toJson_eq (fun _ => rfl) (fun _ => rfl) (by decide) ?_ ?_
  · intro type
    simp [slots, WrittenKind.inverse.plain, Inverse.str.plain, Inverse.bool.plain,
      inverse_indexToJson.plain, inverse_indexToJson.ofList.plain]
  · intro type fields found
    simp only [slots, List.forall_mem_cons] at found
    obtain ⟨kind, isConst, isVolatile, pointee, named, typedefName, declaration, resultType,
      argTypes, -⟩ := found
    simp only [Option.bind_eq_bind, Option.bind_some, required?_of_lookup kind,
      defaulted?_of_lookup isConst, defaulted?_of_lookup isVolatile,
      optional?_of_lookup inverse_indexToJson nofun pointee,
      optional?_of_lookup inverse_indexToJson nofun named, defaulted?_of_lookup typedefName,
      optional?_of_lookup inverse_indexToJson nofun declaration,
      optional?_of_lookup inverse_indexToJson nofun resultType, defaulted?_of_lookup argTypes,
      WrittenKind.inverse.back, Inverse.bool.back, Inverse.str.back,
      inverse_indexToJson.ofList.back]

end RawType

namespace RawSnapshot

def slots (raw : RawSnapshot) : List (String × Option Json) :=
  [("main_file", some (.str raw.mainFile.text)),
    ("cursors", some (.ofList RawCursor.toJson raw.cursors.toList)),
    ("types", some (.ofList RawType.toJson raw.types.toList))]

private theorem toJson_eq (raw : RawSnapshot) : raw.toJson = .obj (written raw.slots) :=
  rfl

private theorem inverse : Inverse toJson ofJson? := by
  refine .record toJson_eq (fun _ => rfl) (fun _ => rfl) (by decide) ?_ ?_
  · intro raw
    simp [slots, Inverse.str.plain, RawCursor.inverse.ofList.plain, RawType.inverse.ofList.plain]
  · intro raw fields found
    simp only [slots, List.forall_mem_cons] at found
    obtain ⟨mainFile, cursors, types, -⟩ := found
    simp only [Option.bind_eq_bind, Option.bind_some, required?_of_lookup mainFile,
      defaulted?_of_lookup cursors, defaulted?_of_lookup types, Inverse.str.back,
      RawCursor.inverse.ofList.back, RawType.inverse.ofList.back]

end RawSnapshot

namespace Snapshot

private theorem parse_eq_ofRaw {text : String} {raw : RawSnapshot}
    (read : (Json.parse? text).bind RawSnapshot.ofJson? = some raw) : parse text = ofRaw raw := by
  obtain ⟨json, parsed, denotes⟩ := Option.bind_eq_some_iff.mp read
  simp only [parse, parsed, ofJson, denotes]

/-- A snapshot that is written is the one that is read, from its value as well as from its
text. So a text may be replaced by what is written of the snapshot in it: the same snapshot is
read from both, and it is accepted from both or refused for the same defect. -/
theorem written_reads_back (raw : RawSnapshot) :
    RawSnapshot.ofJson? raw.toJson = some raw ∧
      (Json.parse? raw.toJson.compact).bind RawSnapshot.ofJson? = some raw ∧
      ∀ text, (Json.parse? text).bind RawSnapshot.ofJson? = some raw →
        parse raw.toJson.compact = parse text := by
  have back := RawSnapshot.inverse.parse raw
  refine ⟨RawSnapshot.inverse.back raw, back, fun text read => ?_⟩
  rw [parse_eq_ofRaw back, parse_eq_ofRaw read]

/-- A record as a list, fields out of their order, kinds in every form, an empty comment beside
one that is null, and a link that leads nowhere. -/
def loose : String :=
  "[\"a.cpp\", [\x7b\"type\": 7, \"kind\": \"CXXMethod\", \"brief_comment\": \"\", " ++
    "\"raw_comment\": null\x7d, \x7b\"kind\": \x7b\"CallExpr\": null\x7d\x7d], " ++
    "[\x7b\"kind\": -3\x7d, \x7b\"kind\": \"-3\", \"named\": 1\x7d]]"

def looseRaw : RawSnapshot where
  mainFile := ⟨"a.cpp"⟩
  cursors := #[{ kind := .method, brief := some "", type := some 7 }, { kind := .other }]
  types := #[{ kind := .code (-3) }, { kind := .name "-3", named := some 1 }]

theorem written_reads_back_loose :
    (Json.parse? loose).bind RawSnapshot.ofJson? = some looseRaw ∧
      parse looseRaw.toJson.compact = parse loose := by
  have read : (Json.parse? loose).bind RawSnapshot.ofJson? = some looseRaw := by decide +kernel
  exact ⟨read, (written_reads_back looseRaw).2.2 loose read⟩

end Snapshot

end SymbolAtlas
