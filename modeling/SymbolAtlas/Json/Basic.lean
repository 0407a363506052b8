/-! Trees of plain data, as JSON texts denote them, and records in them: data with a fixed
list of named fields, written as an object or as the list of the field values in their
order. -/

namespace SymbolAtlas

/-- A JSON value. Fields keep the order and the repetitions of the text. -/
inductive Json where
  | null
  | bool (value : Bool)
  | int (value : Int)
  /-- A number written with a fraction or an exponent, and negative zero. -/
  | decimal (literal : String)
  | str (text : String)
  /-- A piece of text that can be skipped but denotes nothing: a string with an
  unpaired surrogate escape, or an object with such a key. -/
  | garbled
  | arr (items : List Json)
  | obj (fields : List (String × Json))
deriving Repr, Inhabited

namespace Json

def isLast (name : String) (later : List (String × Json)) : Bool :=
  !later.any (·.1 == name)

mutual

/-- The tree in which only the last of several fields of one name is kept. -/
def lastWins : Json → Json
  | arr items => arr (lastWinsItems items)
  | obj fields => obj (lastWinsFields fields)
  | json => json

def lastWinsItems : List Json → List Json
  | [] => []
  | item :: items => item.lastWins :: lastWinsItems items

def lastWinsFields : List (String × Json) → List (String × Json)
  | [] => []
  | (name, value) :: fields =>
    if isLast name fields then (name, value.lastWins) :: lastWinsFields fields
    else lastWinsFields fields

end

def field? (name : String) : Json → Option Json
  | obj fields => fields.lookup name
  | _ => none

def asString? : Json → Option String
  | str text => some text
  | _ => none

def asBool? : Json → Option Bool
  | bool value => some value
  | _ => none

def asNatUpTo? (largest : Nat) : Json → Option Nat
  | int value => if 0 ≤ value ∧ value ≤ largest then some value.toNat else none
  | _ => none

def asUInt32? (json : Json) : Option UInt32 :=
  (json.asNatUpTo? (UInt32.size - 1)).map UInt32.ofNat

def asUInt64? (json : Json) : Option UInt64 :=
  (json.asNatUpTo? (UInt64.size - 1)).map UInt64.ofNat

def asInt32? : Json → Option Int32
  | int value =>
    if Int32.minValue.toInt ≤ value ∧ value ≤ Int32.maxValue.toInt then some (Int32.ofInt value)
    else none
  | _ => none

def asArray? : Json → Option (List Json)
  | arr items => some items
  | _ => none

def asList? {α : Type} (read : Json → Option α) (json : Json) : Option (List α) :=
  match json with
  | arr items => items.mapM read
  | _ => none

def asMap? {α : Type} (read : Json → Option α) (json : Json) : Option (List (String × α)) :=
  match json with
  | obj fields => fields.mapM fun (name, value) => (read value).map (name, ·)
  | _ => none

def orNull? {α : Type} (read : Json → Option α) : Json → Option (Option α)
  | null => some none
  | json => (read json).map some

def ofNat (n : Nat) : Json :=
  int n

def ofOption {α : Type} (write : α → Json) : Option α → Json
  | some value => write value
  | none => null

def ofList {α : Type} (write : α → Json) (values : List α) : Json :=
  arr (values.map write)

/-- What a list of field values may hold beyond the last field. -/
inductive Surplus where
  | refused
  | ignored
deriving DecidableEq, Repr

/-- The known fields that are present, by name. Unknown fields do not count, a
known one must not be repeated. -/
def fields? (surplus : Surplus) (names : List String) (json : Json) :
    Option (List (String × Json)) :=
  match json with
  | obj fields =>
    let known := fields.filter fun field => names.contains field.1
    if (known.map Prod.fst).Nodup then some known else none
  | arr items =>
    if surplus = .refused ∧ names.length < items.length then none else some (names.zip items)
  | _ => none

def required? {α : Type} (fields : List (String × Json)) (name : String)
    (read : Json → Option α) : Option α :=
  (fields.lookup name).bind read

def defaulted? {α : Type} (fields : List (String × Json)) (name : String)
    (read : Json → Option α) (default : α) : Option α :=
  match fields.lookup name with
  | some json => read json
  | none => some default

def optional? {α : Type} (fields : List (String × Json)) (name : String)
    (read : Json → Option α) : Option (Option α) :=
  defaulted? fields name (orNull? read) none

def present {α : Type} (name : String) (write : α → Json) (value : Option α) :
    List (String × Json) :=
  (value.map fun value => (name, write value)).toList

end Json

end SymbolAtlas
