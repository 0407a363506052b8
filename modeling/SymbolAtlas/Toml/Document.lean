import SymbolAtlas.Toml.Value

/-! Whole TOML documents. -/

namespace SymbolAtlas.Toml

inductive Header where
  | table (keys : List String)
  | tables (keys : List String)

inductive Line where
  | blank
  | pair (pair : Pair)
  | header (header : Header)

def statement? : Rest → Option (Line × Rest)
  | '[' :: '[' :: text => do
    let (keys, text) ← key? text
    some (.header (.tables keys), ← expectAll? [']', ']'] text)
  | '[' :: text => do
    let (keys, text) ← key? text
    some (.header (.table keys), ← expectChar? ']' text)
  | [] => some (.blank, [])
  | c :: text =>
    if c = '#' ∨ c = '\n' ∨ c = '\r' then some (.blank, c :: text)
    else do
      let (pair, text) ← pair? (value? (depthLimit - 1)) (c :: text)
      some (.pair pair, text)

def lines? : Nat → Rest → Option (List Line)
  | _, [] => some []
  | 0, _ :: _ => none
  | room + 1, text => do
    let (line, text) ← statement? (skipBlanks text)
    let lines ← lines? room (← endOfLine? text)
    some (line :: lines)

/-- The pairs before the first header, and each header with the pairs after it. -/
def sections : List Line → List Pair × List (Header × List Pair)
  | [] => ([], [])
  | line :: lines =>
    let (pairs, later) := sections lines
    match line with
    | .blank => (pairs, later)
    | .pair pair => (pair :: pairs, later)
    | .header header => ([], (header, pairs) :: later)

def addSection (fields : Fields) : Header × List Pair → Option Fields
  | (.table keys, pairs) =>
    keys.getLast?.bind fun key => editAt (defineTable key pairs) keys.dropLast fields
  | (.tables keys, pairs) =>
    keys.getLast?.bind fun key => editAt (appendTable key pairs) keys.dropLast fields

def withoutMark : Rest → Rest
  | '\ufeff' :: text => text
  | text => text

def parse? (text : String) : Option Json := do
  let chars := withoutMark text.toList
  let lines ← lines? (chars.length + 1) chars
  let (pairs, later) := sections lines
  let fields ← later.foldlM addSection (← assignAll pairs [])
  some (.obj (fieldsToJson fields))

end SymbolAtlas.Toml
