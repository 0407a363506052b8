import SymbolAtlas.Path

/-! The command line: `list` with its options, read from left to right. -/

namespace SymbolAtlas

inductive Format where
  | text
  | json
deriving DecidableEq, Repr

structure ListRequest where
  inputs : List Path := []
  config : Option Path := none
  format : Option Format := none
  allFiles : Bool := false
  exposedOnly : Bool := false
  unresolved : Bool := false
  verbose : Bool := false
  quiet : Bool := false
deriving DecidableEq, Repr

inductive Invocation where
  | list (request : ListRequest)
  | version
  | help
  | misuse
deriving DecidableEq, Repr

namespace Arguments

inductive Shape where
  | separator
  | long (name : String) (value : Option String)
  | short (letters : List Char)
  | plain (text : String)
deriving DecidableEq, Repr

def shape (argument : String) : Shape :=
  match argument.toList with
  | ['-', '-'] => .separator
  | '-' :: '-' :: rest =>
    match rest.dropWhile (· != '=') with
    | [] => .long (String.ofList rest) none
    | _ :: value =>
      .long (String.ofList (rest.takeWhile (· != '='))) (some (String.ofList value))
  | '-' :: c :: rest => .short (c :: rest)
  | _ => .plain argument

/-- Switches are set once; an option is given once. -/
inductive Switch where
  | verbose
  | quiet
  | allFiles
  | exposedOnly
  | unresolved
deriving DecidableEq, Repr

inductive Valued where
  | config
  | format
deriving DecidableEq, Repr

def Switch.ofLong? : String → Option Switch
  | "verbose" => some verbose
  | "quiet" => some quiet
  | "all-files" => some allFiles
  | "exposed-only" => some exposedOnly
  | "unresolved" => some unresolved
  | _ => none

def Switch.ofShort? : Char → Option Switch
  | 'v' => some verbose
  | 'q' => some quiet
  | _ => none

def Valued.ofLong? : String → Option Valued
  | "config" => some config
  | "format" => some format
  | _ => none

def Valued.ofShort? : Char → Option Valued
  | 'c' => some config
  | _ => none

def setOnce? (request : ListRequest) : Switch → Option ListRequest
  | .verbose => if request.verbose then none else some { request with verbose := true }
  | .quiet => if request.quiet then none else some { request with quiet := true }
  | .allFiles => if request.allFiles then none else some { request with allFiles := true }
  | .exposedOnly =>
    if request.exposedOnly then none else some { request with exposedOnly := true }
  | .unresolved => if request.unresolved then none else some { request with unresolved := true }

def path? (text : String) : Option Path :=
  if text.isEmpty then none else some ⟨text⟩

def format? : String → Option Format
  | "text" => some .text
  | "json" => some .json
  | _ => none

def give? (request : ListRequest) (option : Valued) (value : String) : Option ListRequest :=
  match option with
  | .config =>
    if request.config.isSome then none
    else (path? value).map fun path => { request with config := some path }
  | .format =>
    if request.format.isSome then none
    else (format? value).map fun format => { request with format := some format }

def addInput? (request : ListRequest) (text : String) : Option ListRequest :=
  (path? text).map fun path => { request with inputs := request.inputs ++ [path] }

/-- The value of an option as the next argument: it must not look like an option. -/
def nextValue? : List String → Option (String × List String)
  | argument :: rest =>
    match shape argument with
    | .plain text => some (text, rest)
    | _ => none
  | [] => none

inductive Letters where
  | done (request : ListRequest)
  | waiting (request : ListRequest) (option : Valued)
  | help
  | wrong

def readLetters (request : ListRequest) : List Char → Letters
  | [] => .done request
  | letter :: rest =>
    match Valued.ofShort? letter with
    | some option =>
      match rest with
      | [] => .waiting request option
      | '=' :: value | value =>
        match give? request option (String.ofList value) with
        | some request => .done request
        | none => .wrong
    | none =>
      if letter = 'h' then .help
      else
        match (Switch.ofShort? letter).bind (setOnce? request) with
        | some request => readLetters request rest
        | none => .wrong

def onward (read : ListRequest → Invocation) : Option ListRequest → Invocation
  | some request => read request
  | none => .misuse

/-- Reads the arguments of `list`; after a separator all are inputs. Of `room`,
every argument takes one. -/
def readList (separated : Bool) : Nat → List String → ListRequest → Invocation
  | _, [], request => .list request
  | 0, _ :: _, _ => .misuse
  | room + 1, argument :: rest, request =>
    if separated then onward (readList true room rest) (addInput? request argument)
    else
      match shape argument with
      | .separator => readList true room rest request
      | .plain text => onward (readList false room rest) (addInput? request text)
      | .long name none =>
        if name = "help" then .help
        else
          match Valued.ofLong? name with
          | some option =>
            match nextValue? rest with
            | some (value, rest) => onward (readList false room rest) (give? request option value)
            | none => .misuse
          | none =>
            onward (readList false room rest) ((Switch.ofLong? name).bind (setOnce? request))
      | .long name (some value) =>
        match Valued.ofLong? name with
        | some option => onward (readList false room rest) (give? request option value)
        | none => .misuse
      | .short letters =>
        match readLetters request letters with
        | .done request => readList false room rest request
        | .waiting request option =>
          match nextValue? rest with
          | some (value, rest) => onward (readList false room rest) (give? request option value)
          | none => .misuse
        | .help => .help
        | .wrong => .misuse

structure Loudness where
  verbose : Bool := false
  quiet : Bool := false

/-- Letters before the command: switches, or a letter that ends the reading. -/
def readLoudness (loudness : Loudness) : List Char → Except Invocation Loudness
  | [] => .ok loudness
  | 'v' :: rest =>
    if loudness.verbose then .error .misuse else readLoudness { loudness with verbose := true } rest
  | 'q' :: rest =>
    if loudness.quiet then .error .misuse else readLoudness { loudness with quiet := true } rest
  | 'V' :: _ => .error .version
  | 'h' :: _ => .error .help
  | _ => .error .misuse

def longLetter? : String → Option Char
  | "verbose" => some 'v'
  | "quiet" => some 'q'
  | "version" => some 'V'
  | "help" => some 'h'
  | _ => none

def Loudness.applied (loudness : Loudness) : Invocation → Invocation
  | .list request => .list { request with
      verbose := loudness.verbose || request.verbose
      quiet := loudness.quiet || request.quiet }
  | invocation => invocation

def readHelp : List String → Invocation
  | [] | ["list"] | ["help"] => .help
  | _ => .misuse

/-- Reads the arguments up to the command and goes on with those of the command.
Switches may stand before and after it. -/
def readFrom (loudness : Loudness) : List String → Invocation
  | [] => .misuse
  | argument :: rest =>
    match shape argument with
    | .plain "list" => loudness.applied (readList false rest.length rest {})
    | .plain "help" => readHelp rest
    | .short letters =>
      match readLoudness loudness letters with
      | .ok loudness => readFrom loudness rest
      | .error invocation => invocation
    | .long name none =>
      match longLetter? name with
      | some letter =>
        match readLoudness loudness [letter] with
        | .ok loudness => readFrom loudness rest
        | .error invocation => invocation
      | none => .misuse
    | _ => .misuse

end Arguments

def Invocation.ofArguments (arguments : List String) : Invocation :=
  Arguments.readFrom {} arguments

end SymbolAtlas
