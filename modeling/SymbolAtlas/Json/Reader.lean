import SymbolAtlas.Json.Basic

/-! Reading JSON text, strictly: no comments, no trailing commas, no raw control
characters, nothing after the value. -/

namespace SymbolAtlas.Json.Reader

abbrev Rest := List Char

def isBlank (c : Char) : Bool :=
  c == ' ' || c == '\n' || c == '\t' || c == '\r'

def skipBlanks (text : Rest) : Rest :=
  text.dropWhile isBlank

def expect : List Char → Rest → Option Rest
  | [], text => some text
  | c :: cs, d :: text => if c = d then expect cs text else none
  | _ :: _, [] => none

def hexDigit? (c : Char) : Option Nat :=
  if '0' ≤ c ∧ c ≤ '9' then some (c.toNat - '0'.toNat)
  else if 'a' ≤ c ∧ c ≤ 'f' then some (c.toNat - 'a'.toNat + 10)
  else if 'A' ≤ c ∧ c ≤ 'F' then some (c.toNat - 'A'.toNat + 10)
  else none

def hex4? (a b c d : Char) : Option Nat := do
  let high := (← hexDigit? a) * 16 + (← hexDigit? b)
  let low := (← hexDigit? c) * 16 + (← hexDigit? d)
  some (high * 256 + low)

/-- A unit of string content: a character, or a surrogate that an escape gives. -/
inductive Piece where
  | char (c : Char)
  | surrogate (unit : Nat)
deriving DecidableEq, Repr

def pieceOfUnit (unit : Nat) : Piece :=
  if 0xD800 ≤ unit ∧ unit < 0xE000 then .surrogate unit else .char (Char.ofNat unit)

def simpleEscape? : Char → Option Char
  | '"' => some '"'
  | '\\' => some '\\'
  | '/' => some '/'
  | 'b' => some '\x08'
  | 'f' => some '\x0c'
  | 'n' => some '\n'
  | 'r' => some '\r'
  | 't' => some '\t'
  | _ => none

/-- The content of a string after its opening quote, behind what has been read
of it in reverse, and what follows it. -/
def pieces (read : List Piece) : Rest → Option (List Piece × Rest)
  | [] => none
  | '"' :: text => some (read.reverse, text)
  | '\\' :: 'u' :: a :: b :: c :: d :: text =>
    match hex4? a b c d with
    | some unit => pieces (pieceOfUnit unit :: read) text
    | none => none
  | '\\' :: c :: text =>
    match simpleEscape? c with
    | some char => pieces (.char char :: read) text
    | none => none
  | c :: text => if c.toNat < 0x20 ∨ c = '\\' then none else pieces (.char c :: read) text

/-- Joins surrogates in pairs; an unpaired one has no meaning. -/
def chars? : List Piece → Option (List Char)
  | [] => some []
  | .char c :: rest => (chars? rest).map (c :: ·)
  | .surrogate high :: .surrogate low :: rest =>
    if high < 0xDC00 ∧ 0xDC00 ≤ low then
      (chars? rest).map (Char.ofNat (0x10000 + (high - 0xD800) * 0x400 + (low - 0xDC00)) :: ·)
    else none
  | .surrogate _ :: _ => none

def string (text : Rest) : Option (Option String × Rest) := do
  let (content, text) ← pieces [] text
  some ((chars? content).map String.ofList, text)

def isDigit (c : Char) : Bool :=
  '0' ≤ c && c ≤ '9'

def digits (text : Rest) : Option (List Char × Rest) :=
  match text.takeWhile isDigit with
  | [] => none
  | run => some (run, text.dropWhile isDigit)

def wholePart (text : Rest) : Option (List Char × Rest) := do
  let (run, text) ← digits text
  if run.head? = some '0' ∧ run.length ≠ 1 then none else some (run, text)

def fractionPart : Rest → Option (List Char × Rest)
  | '.' :: text => do
    let (run, text) ← digits text
    some ('.' :: run, text)
  | text => some ([], text)

def exponentSign : Rest → List Char × Rest
  | '+' :: text => (['+'], text)
  | '-' :: text => (['-'], text)
  | text => ([], text)

def exponentPart : Rest → Option (List Char × Rest)
  | c :: text =>
    if c = 'e' ∨ c = 'E' then do
      let (sign, text) := exponentSign text
      let (run, text) ← digits text
      some (c :: sign ++ run, text)
    else some ([], c :: text)
  | [] => some ([], [])

def natOfDigits (run : List Char) : Nat :=
  run.foldl (fun n c => n * 10 + (c.toNat - '0'.toNat)) 0

def unsigned (negative : Bool) (text : Rest) : Option (Json × Rest) := do
  let (whole, text) ← wholePart text
  let (fraction, text) ← fractionPart text
  let (exponent, text) ← exponentPart text
  let value := natOfDigits whole
  if fraction = [] ∧ exponent = [] ∧ ¬(negative ∧ value = 0) then
    some (.int (if negative then -(value : Int) else value), text)
  else
    let sign := if negative then ['-'] else []
    some (.decimal (String.ofList (sign ++ whole ++ fraction ++ exponent)), text)

def objectOf (fields : List (Option String × Json)) : Json :=
  match fields.mapM fun (key, value) => key.map (·, value) with
  | some fields => .obj fields
  | none => .garbled

mutual

/-- A value, with blanks before it allowed. Every call deeper or further on
takes one from `room`. -/
def value : Nat → Rest → Option (Json × Rest)
  | 0, _ => none
  | room + 1, text =>
    match skipBlanks text with
    | '"' :: text => do
      let (content, text) ← string text
      some ((content.map Json.str).getD .garbled, text)
    | '[' :: text =>
      match skipBlanks text with
      | ']' :: text => some (.arr [], text)
      | text => do
        let (items, text) ← items room text
        some (.arr items, text)
    | '{' :: text =>
      match skipBlanks text with
      | '}' :: text => some (.obj [], text)
      | text => do
        let (fields, text) ← members room text
        some (objectOf fields, text)
    | '-' :: text => unsigned true text
    | 'n' :: text => do some (.null, ← expect ['u', 'l', 'l'] text)
    | 't' :: text => do some (.bool true, ← expect ['r', 'u', 'e'] text)
    | 'f' :: text => do some (.bool false, ← expect ['a', 'l', 's', 'e'] text)
    | text => unsigned false text

def items : Nat → Rest → Option (List Json × Rest)
  | 0, _ => none
  | room + 1, text => do
    let (item, text) ← value room text
    match skipBlanks text with
    | ',' :: text => do
      let (more, text) ← items room text
      some (item :: more, text)
    | ']' :: text => some ([item], text)
    | _ => none

def members : Nat → Rest → Option (List (Option String × Json) × Rest)
  | 0, _ => none
  | room + 1, text =>
    match skipBlanks text with
    | '"' :: text => do
      let (key, text) ← string text
      let text ← expect [':'] (skipBlanks text)
      let (field, text) ← value room text
      match skipBlanks text with
      | ',' :: text => do
        let (more, text) ← members room text
        some ((key, field) :: more, text)
      | '}' :: text => some ([(key, field)], text)
      | _ => none
    | _ => none

end

end SymbolAtlas.Json.Reader

namespace SymbolAtlas.Json

def parse? (text : String) : Option Json := do
  let chars := text.toList
  let (json, rest) ← Reader.value (2 * chars.length + 2) chars
  if Reader.skipBlanks rest = [] then some json else none

end SymbolAtlas.Json
