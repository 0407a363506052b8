import SymbolAtlas.Error
import SymbolAtlas.Symbol
import SymbolAtlas.Text
import SymbolAtlas.Type.Kind

/-! What a run reports on the way: events with a level of importance. -/

namespace SymbolAtlas

inductive Level where
  | error
  | warn
  | info
  | debug
  | trace
deriving DecidableEq, Repr

namespace Level

def name : Level → String
  | error => "ERROR"
  | warn => "WARN"
  | info => "INFO"
  | debug => "DEBUG"
  | trace => "TRACE"

def rank : Level → Nat
  | error => 0
  | warn => 1
  | info => 2
  | debug => 3
  | trace => 4

def reaches (level limit : Level) : Bool :=
  level.rank ≤ limit.rank

end Level

inductive Event where
  | nameless (kind : CursorKind) (spelling : String)
  | unresolved (kind : CursorKind) (spelling : String) (location : Location)
  | newSymbol (kind : SymbolKind) (identity : Identity)
  | undeclaredType (kind : TypeKind)
  | signatureAlreadyBuilt (display : String)
  | underlyingAlreadyResolved (spelling : String)
  | skipped (kind : CursorKind) (spelling : String)
  | notDescending (spelling : String) (limit : Nat)
  | aborted (file : String) (error : Error)
  | parsed (file : String) (added logged : Nat)
  | argumentsIgnored (file : String) (count : Nat)
  | project (name version : String) (inputs : Nat)
  | finished (file : String) (visits skips : Nat)
  | failedToLoad (file : String) (error : Error)
deriving DecidableEq, Repr

namespace Event

def level : Event → Level
  | aborted .. | failedToLoad .. => .error
  | signatureAlreadyBuilt .. | underlyingAlreadyResolved .. | notDescending .. => .warn
  | parsed .. | project .. => .info
  | nameless .. | unresolved .. | undeclaredType .. | skipped .. | argumentsIgnored ..
  | finished .. => .debug
  | newSymbol .. => .trace

def message : Event → String
  | nameless kind spelling => s!"No stable identity for {kind.name} `{spelling}`"
  | unresolved kind spelling location =>
    s!"Unresolved {kind.name} `{spelling}` at {location.describe}"
  | newSymbol kind identity => s!"New {kind.name} symbol `{identity.spelling}`"
  | undeclaredType kind => "Named type without a declaration (" ++ kind.name?.getD "" ++ ")"
  | signatureAlreadyBuilt display => s!"Signature of `{display}` was already built"
  | underlyingAlreadyResolved spelling =>
    s!"Underlying type of `{spelling}` was already resolved"
  | skipped kind spelling => s!"Skipping {kind.name} `{spelling}` outside the main file"
  | notDescending spelling limit =>
    s!"Not descending into `{spelling}`: nesting deeper than {limit}"
  | aborted file error => s!"Aborted unit {file}: {error.message}"
  | parsed file added logged => s!"Parsed unit {file}: {added} new symbols, {logged} unresolved"
  | argumentsIgnored file count =>
    s!"Snapshot {file} is pre-parsed; ignoring {count} compiler argument(s)"
  | project name version inputs => s!"Project {name} {version} ({inputs} inputs)"
  | finished file visits skips => s!"{file}: visited {visits}, skipped {skips}"
  | failedToLoad file error => s!"Failed to load {file}: {error.message}"

def setIn (message : String) : String :=
  "\n    ".intercalate (message.splitOn "\n")

/-- An event as reported: its level and its message, with nothing that would
control a terminal. -/
def text (event : Event) : String :=
  Text.withoutControls ("[" ++ event.level.name ++ "] " ++ setIn event.message ++ "\n")

end Event

end SymbolAtlas
