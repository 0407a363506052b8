/-! Texts: which characters are blank, the control sequences of terminals, and what is left
of a text without them. -/

namespace SymbolAtlas.Text

/-- The characters with the Unicode property White_Space. -/
def blankRanges : List (Nat × Nat) :=
  [(0x0009, 0x000D), (0x0020, 0x0020), (0x0085, 0x0085), (0x00A0, 0x00A0), (0x1680, 0x1680),
    (0x2000, 0x200A), (0x2028, 0x2029), (0x202F, 0x202F), (0x205F, 0x205F), (0x3000, 0x3000)]

def isBlankChar (c : Char) : Bool :=
  blankRanges.any fun (first, last) => first ≤ c.toNat && c.toNat ≤ last

def isBlank (text : String) : Bool :=
  text.toList.all isBlankChar

/-- What part of a control sequence a text is in, if any. -/
inductive ControlState where
  | plain
  | escape
  | escapeIntermediate
  | control
  | command
  | device
  | deviceParameter
  | deviceIntermediate
  | controlString
deriving DecidableEq, Repr

def isBetween (first last c : Char) : Bool :=
  first ≤ c && c ≤ last

def isIntermediate (c : Char) : Bool :=
  isBetween ' ' '/' c

def isParameter (c : Char) : Bool :=
  isBetween '0' '?' c

def isFinal (c : Char) : Bool :=
  isBetween '@' '~' c

/-- The byte that ends a control string, also as a part of a character. -/
def stringEnd : UInt8 := 0x9C

namespace ControlState

/-- The state after a character that is not written. -/
def next (c : Char) : ControlState → ControlState
  | plain => plain
  | escape =>
    if c = '[' then control
    else if c = ']' then command
    else if c = 'P' then device
    else if c = 'X' ∨ c = '^' ∨ c = '_' then controlString
    else if isIntermediate c then escapeIntermediate
    else if isParameter c ∨ isFinal c then plain
    else escape
  | escapeIntermediate => if isParameter c ∨ isFinal c then plain else escapeIntermediate
  | control => if isFinal c then plain else control
  | command => if c = '\x07' then plain else command
  | device =>
    if isFinal c then controlString
    else if isIntermediate c then deviceIntermediate
    else if isParameter c then deviceParameter
    else device
  | deviceParameter =>
    if isFinal c ∨ isBetween '<' '?' c then controlString
    else if isIntermediate c then deviceIntermediate
    else deviceParameter
  | deviceIntermediate =>
    if isFinal c ∨ isParameter c then controlString else deviceIntermediate
  | controlString =>
    if (String.utf8EncodeChar c).contains stringEnd then plain else controlString

def obeysControls : ControlState → Bool
  | escape | escapeIntermediate | control => true
  | _ => false

end ControlState

def isSpacing (c : Char) : Bool :=
  c == '\t' || c == '\n' || c == '\x0c' || c == '\r'

def isAscii (c : Char) : Bool :=
  c.toNat < 0x80

def isShown (c : Char) : Bool :=
  isBetween ' ' '~' c || isSpacing c || !isAscii c

/-- The characters that are written. White space inside of a sequence suspends
it, up to the next character that is never written. -/
def shown (state : ControlState) (isSuspended : Bool) : List Char → List Char
  | [] => []
  | c :: cs =>
    if c = '\x1b' then shown .escape false cs
    else if c = '\x18' ∨ c = '\x1a' then shown .plain false cs
    else if (state = .plain ∨ isSuspended) ∧ isShown c then
      c :: (if isAscii c then shown state isSuspended cs else shown .plain false cs)
    else if isSpacing c ∧ state.obeysControls then c :: shown state true cs
    else shown (state.next c) false cs

def withoutControls (text : String) : String :=
  String.ofList (shown .plain false text.toList)

end SymbolAtlas.Text
