import SymbolAtlas.Json.Basic
import SymbolAtlas.Toml.Text

/-! The numbers of TOML. -/

namespace SymbolAtlas.Toml

def isDecimal (c : Char) : Bool :=
  '0' ≤ c && c ≤ '9'

def isHexadecimal (c : Char) : Bool :=
  (hexDigit? c).isSome

def isOctal (c : Char) : Bool :=
  '0' ≤ c && c ≤ '7'

def isBinary (c : Char) : Bool :=
  c == '0' || c == '1'

/-- Digits after a first one; an underscore must stand between two digits and is
dropped. -/
def moreDigits (isDigit : Char → Bool) : Rest → Option (List Char × Rest)
  | [] => some ([], [])
  | ['_'] => none
  | '_' :: c :: text =>
    if isDigit c then (moreDigits isDigit text).map fun (run, text) => (c :: run, text) else none
  | c :: text =>
    if isDigit c then (moreDigits isDigit text).map fun (run, text) => (c :: run, text)
    else some ([], c :: text)

def digits (isDigit : Char → Bool) : Rest → Option (List Char × Rest)
  | c :: text =>
    if isDigit c then (moreDigits isDigit text).map fun (run, text) => (c :: run, text) else none
  | [] => none

def natOfDigits (base : Nat) (run : List Char) : Nat :=
  run.foldl (fun n c => n * base + (hexDigit? c).getD 0) 0

def wholeNumber? (value : Int) : Option Json :=
  if Int64.minValue.toInt ≤ value ∧ value ≤ Int64.maxValue.toInt then some (.int value) else none

/-- Halfway between the largest double and the next power of two, where rounding
turns to infinity. -/
def overflowBound : Nat :=
  Nat.pow 2 1024 - Nat.pow 2 970

/-- Is `digits` · 10 ^ `scale` closer to infinity than to the largest double? The
sizes far from the bound are settled without computing the power. -/
def overflows (digits : Nat) (scale : Int) : Bool :=
  let size := (toString digits).length + scale
  if digits = 0 ∨ size < 300 then false
  else if 320 < size then true
  else if 0 ≤ scale then overflowBound ≤ digits * Nat.pow 10 scale.toNat
  else overflowBound * Nat.pow 10 (-scale).toNat ≤ digits

/-- A number with a fraction or an exponent; a positive one must not be beyond
all doubles. -/
def fractional? (negative : Bool) (whole fraction : List Char) (exponent : Int) : Option Json :=
  let value := natOfDigits 10 (whole ++ fraction)
  let scale := exponent - fraction.length
  if !negative && overflows value scale then none
  else
    let sign := if negative then "-" else ""
    some (.decimal (sign ++ toString value ++ "e" ++ toString scale))

def exponent? : Rest → Option (Int × Rest)
  | '-' :: text => (digits isDecimal text).map fun (run, text) =>
    (-(natOfDigits 10 run : Int), text)
  | '+' :: text => (digits isDecimal text).map fun (run, text) => (natOfDigits 10 run, text)
  | text => (digits isDecimal text).map fun (run, text) => (natOfDigits 10 run, text)

def wholeDigits? : Rest → Option (List Char × Rest)
  | '0' :: text => some (['0'], text)
  | text => digits isDecimal text

def decimalNumber? (negative : Bool) (text : Rest) : Option (Json × Rest) := do
  let (whole, text) ← wholeDigits? text
  match text with
  | '.' :: text => do
    let (fraction, text) ← digits isDecimal text
    match text with
    | c :: afterMark =>
      if c = 'e' ∨ c = 'E' then do
        let (exponent, text) ← exponent? afterMark
        some (← fractional? negative whole fraction exponent, text)
      else some (← fractional? negative whole fraction 0, text)
    | [] => some (← fractional? negative whole fraction 0, [])
  | c :: afterMark =>
    if c = 'e' ∨ c = 'E' then do
      let (exponent, text) ← exponent? afterMark
      some (← fractional? negative whole [] exponent, text)
    else
      let value := natOfDigits 10 whole
      some (← wholeNumber? (if negative then -(value : Int) else value), text)
  | [] =>
    let value := natOfDigits 10 whole
    some (← wholeNumber? (if negative then -(value : Int) else value), [])

def based? (base : Nat) (isDigit : Char → Bool) (text : Rest) : Option (Json × Rest) := do
  let (run, text) ← digits isDigit text
  some (← wholeNumber? (natOfDigits base run), text)

def special? : Rest → Option (Json × Rest)
  | 'i' :: 'n' :: 'f' :: text => some (.decimal "inf", text)
  | 'n' :: 'a' :: 'n' :: text => some (.decimal "nan", text)
  | _ => none

def signed? (negative : Bool) (text : Rest) : Option (Json × Rest) :=
  (special? text).or (decimalNumber? negative text)

def number? : Rest → Option (Json × Rest)
  | '0' :: 'x' :: text => based? 16 isHexadecimal text
  | '0' :: 'o' :: text => based? 8 isOctal text
  | '0' :: 'b' :: text => based? 2 isBinary text
  | '+' :: text => signed? false text
  | '-' :: text => signed? true text
  | text => signed? false text

end SymbolAtlas.Toml
