import SymbolAtlas.Toml.Number

/-! The dates and times of TOML, and the normal text of each. -/

namespace SymbolAtlas.Toml

def fixedDigits? (count : Nat) (text : Rest) : Option (Nat × Rest) :=
  let run := text.take count
  if run.length = count ∧ run.all isDecimal then some (natOfDigits 10 run, text.drop count)
  else none

def expectChar? (char : Char) : Rest → Option Rest
  | c :: text => if c = char then some text else none
  | [] => none

def within? (first last value : Nat) : Option Nat :=
  if first ≤ value ∧ value ≤ last then some value else none

def isLeapYear (year : Nat) : Bool :=
  year % 4 == 0 && (year % 100 != 0 || year % 400 == 0)

def daysInMonth (year month : Nat) : Nat :=
  if month = 2 then (if isLeapYear year then 29 else 28)
  else if month = 4 ∨ month = 6 ∨ month = 9 ∨ month = 11 then 30
  else 31

def zeroPadded (width value : Nat) : String :=
  let text := toString value
  String.ofList (List.replicate (width - text.length) '0') ++ text

def date? (text : Rest) : Option (String × Rest) := do
  let (year, text) ← fixedDigits? 4 text
  let (month, text) ← fixedDigits? 2 (← expectChar? '-' text)
  let month ← within? 1 12 month
  let (day, text) ← fixedDigits? 2 (← expectChar? '-' text)
  let day ← within? 1 (daysInMonth year month) day
  some (zeroPadded 4 year ++ "-" ++ zeroPadded 2 month ++ "-" ++ zeroPadded 2 day, text)

/-- A fraction of a second, to nine places and without zeros at the end. -/
def secondFraction (run : List Char) : String :=
  match ((run.take 9).reverse.dropWhile (· == '0')).reverse with
  | [] => ""
  | places => "." ++ String.ofList places

def time? (text : Rest) : Option (String × Rest) := do
  let (hour, text) ← fixedDigits? 2 text
  let hour ← within? 0 23 hour
  let (minute, text) ← fixedDigits? 2 (← expectChar? ':' text)
  let minute ← within? 0 59 minute
  let (second, text) ← fixedDigits? 2 (← expectChar? ':' text)
  let second ← within? 0 60 second
  let clock := zeroPadded 2 hour ++ ":" ++ zeroPadded 2 minute ++ ":" ++ zeroPadded 2 second
  match text with
  | '.' :: text =>
    match text.takeWhile isDecimal with
    | [] => none
    | run => some (clock ++ secondFraction run, text.dropWhile isDecimal)
  | text => some (clock, text)

/-- An offset in minutes, as hours and minutes after a sign; zero is positive. -/
def offsetText (minutes : Int) : String :=
  (if minutes < 0 then "-" else "+") ++
    zeroPadded 2 (minutes.natAbs / 60) ++ ":" ++ zeroPadded 2 (minutes.natAbs % 60)

def offset? : Rest → Option (String × Rest)
  | c :: text =>
    if c = 'Z' ∨ c = 'z' then some ("Z", text)
    else if c = '+' ∨ c = '-' then do
      let (hour, text) ← fixedDigits? 2 text
      let hour ← within? 0 23 hour
      let (minute, text) ← fixedDigits? 2 (← expectChar? ':' text)
      let minute ← within? 0 59 minute
      let span : Int := hour * 60 + minute
      some (offsetText (if c = '-' then -span else span), text)
    else some ("", c :: text)
  | [] => some ("", [])

/-- Does a time follow the mark after a date? A blank is such a mark only if a
time does follow. -/
def startsTime : Rest → Bool
  | c :: a :: b :: ':' :: _ =>
    (c == 'T' || c == 't' || c == ' ') && isDecimal a && isDecimal b
  | _ => false

/-- Do four digits and a hyphen, or two digits and a colon, begin the text? -/
def startsDateTime : Rest → Bool
  | a :: b :: ':' :: _ => isDecimal a && isDecimal b
  | a :: b :: c :: d :: '-' :: _ => isDecimal a && isDecimal b && isDecimal c && isDecimal d
  | _ => false

def dateTime? (text : Rest) : Option (String × Rest) :=
  if text[2]? == some ':' then time? text
  else do
    let (date, text) ← date? text
    if startsTime text then
      let (time, text) ← time? (text.drop 1)
      let (offset, text) ← offset? text
      some (date ++ "T" ++ time ++ offset, text)
    else some (date, text)

end SymbolAtlas.Toml
