import SymbolAtlas.Toml.DateTime
import SymbolAtlas.Toml.Table

/-! The values of TOML. -/

namespace SymbolAtlas.Toml

def expectAll? : List Char → Rest → Option Rest
  | [], text => some text
  | c :: cs, text => (expectChar? c text).bind (expectAll? cs)

/-- A date or time is offered to readers as an object with one reserved key. -/
def dateTimeToJson (text : String) : Json :=
  .obj [("$__toml_private_datetime", .str text)]

/-- The items of an array up to its closing bracket. A comma may follow the last
one. There are at most `room` of them. -/
def items? {α : Type} (item? : Rest → Option (α × Rest)) : Nat → Rest → Option (List α × Rest)
  | 0, _ => none
  | room + 1, text =>
    match skipFiller false text with
    | ']' :: text => some ([], text)
    | text => do
      let (item, text) ← item? text
      match skipFiller false text with
      | ',' :: text => do
        let (items, text) ← items? item? room text
        some (item :: items, text)
      | ']' :: text => some ([item], text)
      | _ => none

def pair? (value? : Rest → Option (Json × Rest)) (text : Rest) : Option (Pair × Rest) := do
  let (keys, text) ← key? text
  let (json, text) ← value? (skipBlanks (← expectChar? '=' text))
  some (⟨keys, json⟩, text)

/-- The pairs of an inline table up to its closing brace; there must be one. -/
def pairs? (value? : Rest → Option (Json × Rest)) : Nat → Rest → Option (List Pair × Rest)
  | 0, _ => none
  | room + 1, text => do
    let (pair, text) ← pair? value? text
    match skipBlanks text with
    | ',' :: text => do
      let (pairs, text) ← pairs? value? room text
      some (pair :: pairs, text)
    | '\x7d' :: text => some ([pair], text)
    | _ => none

def inlineTable? (pairs : List Pair) : Option Json :=
  (assignAll pairs []).map fun fields => .obj (fieldsToJson fields)

def value? : Nat → Rest → Option (Json × Rest)
  | _, '"' :: text => (string? ('"' :: text)).map fun (chars, text) =>
    (.str (String.ofList chars), text)
  | _, '\'' :: text => (string? ('\'' :: text)).map fun (chars, text) =>
    (.str (String.ofList chars), text)
  | _, 't' :: text => (expectAll? ['r', 'u', 'e'] text).map (.bool true, ·)
  | _, 'f' :: text => (expectAll? ['a', 'l', 's', 'e'] text).map (.bool false, ·)
  | 0, '[' :: _ => none
  | depth + 1, '[' :: text => (items? (value? depth) (text.length + 1) text).map fun (items, text) =>
    (.arr items, text)
  | 0, '\x7b' :: _ => none
  | depth + 1, '\x7b' :: text =>
    match skipBlanks text with
    | '\x7d' :: text => some (.obj [], text)
    | text => do
      let (pairs, text) ← pairs? (value? depth) (text.length + 1) text
      some (← inlineTable? pairs, text)
  | _, text =>
    if startsDateTime text then (dateTime? text).map fun (moment, text) =>
      (dateTimeToJson moment, text)
    else number? text

end SymbolAtlas.Toml
