import SymbolAtlas.Atlas
import SymbolAtlas.Command.Arguments
import SymbolAtlas.Json.Printer
import SymbolAtlas.Listing
import SymbolAtlas.Project

/-! What the command does, given the contents of files. -/

namespace SymbolAtlas

inductive Failure where
  | projectNotLoaded (file : Path) (error : Error)
  | noInputs
  | unitsFailed (failed total : Nat)
deriving DecidableEq, Repr

namespace Failure

def message : Failure → String
  | projectNotLoaded file _ => "Failed to load project " ++ file.text
  | noInputs => "No inputs: pass snapshot files or --config"
  | unitsFailed failed total => s!"{failed} of {total} unit(s) failed"

def cause? : Failure → Option String
  | projectNotLoaded _ error => some error.message
  | noInputs | unitsFailed _ _ => none

def text (failure : Failure) : String :=
  "Error: " ++ failure.message ++ "\n" ++
    match failure.cause? with
    | some cause => "\nCaused by:\n    " ++ cause ++ "\n"
    | none => ""

end Failure

structure Outcome where
  output : String := ""
  log : Array Event := #[]
  failure : Option Failure := none
deriving DecidableEq, Repr

def Outcome.failureText (outcome : Outcome) : String :=
  match outcome.failure with
  | some failure => failure.text
  | none => ""

def versionText : String := "cxxdoc 0.1.1"

namespace ListRequest

def wantsJson (request : ListRequest) : Bool :=
  request.format == some .json

/-- The least important level that is reported. A JSON listing is not disturbed
by reports on progress. -/
def level (request : ListRequest) : Level :=
  if request.quiet || request.wantsJson then .warn
  else if request.verbose then .debug
  else .info

/-- The units to read, with their compiler arguments: those of the project, then
the inputs on the command line. -/
def units (request : ListRequest) (project : Option Project) : List (Path × List String) :=
  let ofProject :=
    match project with
    | some project => project.inputs.map fun input =>
      (project.resolvePath input.path, project.inputArgs input)
    | none => []
  ofProject ++ request.inputs.map fun path => (path, [])

def settings (request : ListRequest) (project : Option Project) : Settings :=
  let settings := (project.map Project.settings).getD {}
  if request.allFiles then { settings with mainFileOnly := false } else settings

def loadProject (request : ListRequest) (read : Path → Except ReadFailure String) :
    Except Failure (Option Project) :=
  match request.config with
  | none => .ok none
  | some file =>
    match Project.load file (read file) with
    | .ok project => .ok (some project)
    | .error error => .error (.projectNotLoaded file error)

/-- Reads one unit; counts a failure, and reports one that the unit itself has not. -/
def readUnit (read : Path → Except ReadFailure String) (state : Atlas × Nat)
    (unit : Path × List String) : Atlas × Nat :=
  let (atlas, failed) := state
  let (file, arguments) := unit
  match atlas.parseFile file (read file) arguments with
  | (.ok report, atlas) =>
    let event := Event.finished file.text report.visited report.skipped
    ({ atlas with log := atlas.log.push event }, failed)
  | (.error (.error error), atlas) =>
    if error.isFatal then (atlas, failed + 1)
    else ({ atlas with log := atlas.log.push (.failedToLoad file.text error) }, failed + 1)
  | (.error _, atlas) => (atlas, failed + 1)

def shown (request : ListRequest) (listing : Listing) : Listing :=
  let listing := if request.exposedOnly then listing.exposedOnly else listing
  if request.unresolved then listing else listing.withoutUnresolved

def printed (request : ListRequest) (listing : Listing) : String :=
  if request.wantsJson then listing.toJson.pretty ++ "\n" else listing.text

def run (request : ListRequest) (read : Path → Except ReadFailure String) : Outcome :=
  match request.loadProject read with
  | .error failure => { failure := some failure }
  | .ok project =>
    let opening :=
      match project with
      | some project => #[Event.project project.name project.versionText project.inputs.length]
      | none => #[]
    let units := request.units project
    if units.isEmpty then { log := opening, failure := some .noInputs }
    else
      let start : Atlas := { settings := request.settings project, log := opening }
      let (atlas, failed) := units.foldl (readUnit read) (start, 0)
      { output := request.printed (request.shown (.ofRegistry atlas.registry))
        log := atlas.log
        failure := if failed = 0 then none else some (.unitsFailed failed units.length) }

def reports (request : ListRequest) (outcome : Outcome) : List Event :=
  outcome.log.toList.filter fun event => event.level.reaches request.level

def reportText (request : ListRequest) (outcome : Outcome) : String :=
  String.join ((request.reports outcome).map Event.text)

end ListRequest

end SymbolAtlas
