import SymbolAtlas.Json.Basic

/-! How the tables of a TOML document grow out of its headers and pairs, and
which of them may still grow. -/

namespace SymbolAtlas.Toml

inductive Origin where
  /-- A header of its own. -/
  | header
  /-- A header of a table inside it. -/
  | implied
  /-- A dotted key. -/
  | dotted
deriving DecidableEq, Repr

inductive Node where
  | value (json : Json)
  | table (origin : Origin) (fields : List (String × Node))
  /-- An array of tables: its latest one, and the earlier ones, latest first. -/
  | tables (latest : List (String × Node)) (earlier : List (List (String × Node)))
deriving Inhabited

abbrev Fields := List (String × Node)

def replace (key : String) (node : Node) (fields : Fields) : Fields :=
  fields.map fun field => if field.1 == key then (key, node) else field

/-- Adds a pair with a dotted key to a table. The key may only lead through tables
that dotted keys or inner headers have made, and may only end in a table that
admits it: the one that the pair stands in, or one that dotted keys have made. -/
def assign (admitted : Bool) : List String → Json → Fields → Option Fields
  | [], _, _ => none
  | [key], json, fields =>
    if admitted && (fields.lookup key).isNone then some (fields ++ [(key, .value json)]) else none
  | key :: keys, json, fields =>
    match fields.lookup key with
    | none => (assign true keys json []).map fun inner => fields ++ [(key, .table .dotted inner)]
    | some (.value _) | some (.table .header _) => none
    | some (.table .dotted inner) => (assign true keys json inner).map fun inner =>
      replace key (.table .dotted inner) fields
    | some (.table .implied inner) => (assign false keys json inner).map fun inner =>
      replace key (.table .implied inner) fields
    | some (.tables latest earlier) => (assign false keys json latest).map fun latest =>
      replace key (.tables latest earlier) fields

structure Pair where
  keys : List String
  json : Json

def assignAll (pairs : List Pair) (fields : Fields) : Option Fields :=
  pairs.foldlM (fun fields pair => assign true pair.keys pair.json fields) fields

/-- Changes the table that a header path leads to; missing tables on the way are
made, and an array of tables stands for its latest one. -/
def editAt (edit : Fields → Option Fields) : List String → Fields → Option Fields
  | [], fields => edit fields
  | key :: keys, fields =>
    match fields.lookup key with
    | none => (editAt edit keys []).map fun inner => fields ++ [(key, .table .implied inner)]
    | some (.value _) => none
    | some (.table origin inner) => (editAt edit keys inner).map fun inner =>
      replace key (.table origin inner) fields
    | some (.tables latest earlier) => (editAt edit keys latest).map fun latest =>
      replace key (.tables latest earlier) fields

/-- Defines a table by its header. It must be new or have been implied only. -/
def defineTable (key : String) (pairs : List Pair) (fields : Fields) : Option Fields :=
  match fields.lookup key with
  | none => (assignAll pairs []).map fun inner => fields ++ [(key, .table .header inner)]
  | some (.table .implied inner) => (assignAll pairs inner).map fun inner =>
    replace key (.table .header inner) fields
  | _ => none

def appendTable (key : String) (pairs : List Pair) (fields : Fields) : Option Fields :=
  match fields.lookup key with
  | none => (assignAll pairs []).map fun inner => fields ++ [(key, .tables inner [])]
  | some (.tables latest earlier) => (assignAll pairs []).map fun inner =>
    replace key (.tables inner (latest :: earlier)) fields
  | _ => none

mutual

def Node.toJson : Node → Json
  | .value json => json
  | .table _ fields => .obj (fieldsToJson fields)
  | .tables latest earlier => .arr (tablesToJson earlier [.obj (fieldsToJson latest)])

def fieldsToJson : List (String × Node) → List (String × Json)
  | [] => []
  | (key, node) :: fields => (key, node.toJson) :: fieldsToJson fields

def tablesToJson : List (List (String × Node)) → List Json → List Json
  | [], later => later
  | fields :: earlier, later => tablesToJson earlier (.obj (fieldsToJson fields) :: later)

end

end SymbolAtlas.Toml
