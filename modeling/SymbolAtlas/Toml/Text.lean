/-! The characters, strings and keys of TOML. -/

namespace SymbolAtlas.Toml

abbrev Rest := List Char

def isBlank (c : Char) : Bool :=
  c == ' ' || c == '\t'

def skipBlanks (text : Rest) : Rest :=
  text.dropWhile isBlank

/-- Blank, printable or beyond ASCII: what strings and comments may hold as it is. -/
def isPlain (c : Char) : Bool :=
  c == '\t' || (0x20 ≤ c.toNat && c.toNat ≠ 0x7F)

def newline? : Rest → Option Rest
  | '\n' :: text => some text
  | '\r' :: '\n' :: text => some text
  | _ => none

def skipFiller (inComment : Bool) : Rest → Rest
  | [] => []
  | '\r' :: '\n' :: text => skipFiller false text
  | c :: text =>
    if inComment && isPlain c then skipFiller true text
    else if isBlank c || c == '\n' then skipFiller false text
    else if c == '#' then skipFiller true text
    else c :: text

def endOfLine? (text : Rest) : Option Rest :=
  let text :=
    match skipBlanks text with
    | '#' :: comment => comment.dropWhile isPlain
    | text => text
  match text with
  | [] => some []
  | text => newline? text

def hexDigit? (c : Char) : Option Nat :=
  if '0' ≤ c ∧ c ≤ '9' then some (c.toNat - '0'.toNat)
  else if 'a' ≤ c ∧ c ≤ 'f' then some (c.toNat - 'a'.toNat + 10)
  else if 'A' ≤ c ∧ c ≤ 'F' then some (c.toNat - 'A'.toNat + 10)
  else none

def charOfHex? (digits : List Char) : Option Char := do
  let code := (← digits.mapM hexDigit?).foldl (fun n d => n * 16 + d) 0
  if code < 0xD800 ∨ (0xE000 ≤ code ∧ code < 0x110000) then some (Char.ofNat code) else none

def simpleEscape? : Char → Option Char
  | 'b' => some '\x08'
  | 'f' => some '\x0c'
  | 'n' => some '\n'
  | 'r' => some '\r'
  | 't' => some '\t'
  | '"' => some '"'
  | '\\' => some '\\'
  | _ => none

/-- An escape after its backslash: the character and how many more characters
than the backslash it takes. -/
def escape? : Rest → Option (Char × Nat)
  | 'u' :: text => (charOfHex? (text.take 4)).bind fun c =>
    if 4 ≤ text.length then some (c, 5) else none
  | 'U' :: text => (charOfHex? (text.take 8)).bind fun c =>
    if 8 ≤ text.length then some (c, 9) else none
  | c :: _ => (simpleEscape? c).map (·, 1)
  | [] => none

def breaksLine (text : Rest) : Bool :=
  (newline? (skipBlanks text)).isSome

/-- The content of a quoted string after its opening mark, behind what has been
read of it in reverse. Some characters at the start of the text may have to be
passed over because an escape before them has covered them. -/
def basic (read : List Char) : Nat → Rest → Option (List Char × Rest)
  | _, [] => none
  | covered + 1, _ :: text => basic read covered text
  | 0, '"' :: text => some (read.reverse, text)
  | 0, '\\' :: text =>
    match escape? text with
    | some (char, length) => basic (char :: read) length text
    | none => none
  | 0, c :: text => if isPlain c then basic (c :: read) 0 text else none

def literal (read : List Char) : Rest → Option (List Char × Rest)
  | [] => none
  | '\'' :: text => some (read.reverse, text)
  | c :: text => if isPlain c then literal (c :: read) text else none

/-- What a run of quotes means inside a string of several lines: up to two are
content, up to five close the string with those beyond three as content. -/
def closes? (run : Nat) : Option (Option Nat) :=
  if run < 3 then some none
  else if run ≤ 5 then some (some (run - 3))
  else none

def runLength (quote : Char) (text : Rest) : Nat :=
  (text.takeWhile (· == quote)).length

def fillerLength : Rest → Nat
  | '\r' :: '\n' :: text => fillerLength text + 2
  | c :: text => if isBlank c || c == '\n' then fillerLength text + 1 else 0
  | [] => 0

/-- The content of a quoted string of several lines. Line breaks are single line
feeds; a backslash at the end of a line covers the break and all blanks and
breaks after it. -/
def multiBasic (read : List Char) : Nat → Rest → Option (List Char × Rest)
  | _, [] => none
  | covered + 1, _ :: text => multiBasic read covered text
  | 0, '\r' :: '\n' :: text => multiBasic ('\n' :: read) 0 text
  | 0, c :: text =>
    if c == '\n' then multiBasic ('\n' :: read) 0 text
    else if c == '"' then
      let run := runLength '"' (c :: text)
      match closes? run with
      | some none => multiBasic (List.replicate run '"' ++ read) (run - 1) text
      | some (some extra) =>
        some (read.reverse ++ List.replicate extra '"', text.drop (extra + 2))
      | none => none
    else if c == '\\' then
      if breaksLine text then multiBasic read (fillerLength text) text
      else
        match escape? text with
        | some (char, length) => multiBasic (char :: read) length text
        | none => none
    else if isPlain c then multiBasic (c :: read) 0 text
    else none

def multiLiteral (read : List Char) : Nat → Rest → Option (List Char × Rest)
  | _, [] => none
  | covered + 1, _ :: text => multiLiteral read covered text
  | 0, '\r' :: '\n' :: text => multiLiteral ('\n' :: read) 0 text
  | 0, c :: text =>
    if c == '\n' then multiLiteral ('\n' :: read) 0 text
    else if c == '\'' then
      let run := runLength '\'' (c :: text)
      match closes? run with
      | some none => multiLiteral (List.replicate run '\'' ++ read) (run - 1) text
      | some (some extra) =>
        some (read.reverse ++ List.replicate extra '\'', text.drop (extra + 2))
      | none => none
    else if isPlain c then multiLiteral (c :: read) 0 text
    else none

/-- Drops the line break that may follow the opening mark of a string of
several lines. -/
def skipNewline (text : Rest) : Rest :=
  (newline? text).getD text

def string? : Rest → Option (List Char × Rest)
  | '"' :: '"' :: '"' :: text => multiBasic [] 0 (skipNewline text)
  | '"' :: text => basic [] 0 text
  | '\'' :: '\'' :: '\'' :: text => multiLiteral [] 0 (skipNewline text)
  | '\'' :: text => literal [] text
  | _ => none

def isBareKeyChar (c : Char) : Bool :=
  ('A' ≤ c && c ≤ 'Z') || ('a' ≤ c && c ≤ 'z') || ('0' ≤ c && c ≤ '9') || c == '-' || c == '_'

def simpleKey? : Rest → Option (String × Rest)
  | '"' :: text => (basic [] 0 text).map fun (key, text) => (String.ofList key, text)
  | '\'' :: text => (literal [] text).map fun (key, text) => (String.ofList key, text)
  | text =>
    match text.takeWhile isBareKeyChar with
    | [] => none
    | key => some (String.ofList key, text.dropWhile isBareKeyChar)

/-- How deep values may be nested and how many parts a key may have, plus one. -/
def depthLimit : Nat := 80

/-- One or more simple keys with dots between them, at most `room` of them;
blanks around them do not count. -/
def keyParts? : Nat → Rest → Option (List String × Rest)
  | 0, _ => none
  | room + 1, text => do
    let (part, text) ← simpleKey? (skipBlanks text)
    match skipBlanks text with
    | '.' :: text => do
      let (parts, text) ← keyParts? room text
      some (part :: parts, text)
    | text => some ([part], text)

def key? (text : Rest) : Option (List String × Rest) :=
  keyParts? (depthLimit - 1) text

end SymbolAtlas.Toml
