import SymbolAtlas.Command.Run

/-! The program: reads files, prints the listing, reports on standard error. -/

namespace SymbolAtlas

def usage : String :=
  "Symbol tables for C and C++ sources\n\n" ++
  "Usage: cxxdoc list [OPTIONS] [INPUTS]...\n\n" ++
  "  -c, --config <CONFIG>   project file (TOML)\n" ++
  "      --format <FORMAT>   text or json\n" ++
  "      --all-files         record declarations from included headers too\n" ++
  "      --exposed-only      only list symbols declared in a main file\n" ++
  "      --unresolved        also print declarations without a stable identity\n" ++
  "  -v, --verbose           report in detail\n" ++
  "  -q, --quiet             report only warnings and errors\n" ++
  "  -h, --help              print this text\n" ++
  "  -V, --version           print the version\n"

def isDirectoryCode : UInt32 := 21

/-- The code of the system for a name that is too long, which some calls negate. -/
def nameTooLongCode : UInt32 := 36

def readFailureOf : IO.Error → ReadFailure
  | .noFileOrDirectory .. => .notFound
  | .inappropriateType _ code _ => if code = isDirectoryCode then .isADirectory else .notADirectory
  | .invalidArgument filename code details =>
    if code = nameTooLongCode ∨ code = -nameTooLongCode then .nameTooLong
    else .denied (toString (IO.Error.invalidArgument filename code details))
  | error => .denied (toString error)

def readText (path : Path) : IO (Except ReadFailure String) := do
  if let some failure := ReadFailure.ofPath? path then return .error failure
  try
    let bytes ← IO.FS.readBinFile path.text
    match String.fromUTF8? bytes with
    | some text => return .ok text
    | none => return .error .notText
  catch error => return .error (readFailureOf error)

def readAll (paths : List Path) : IO (List (Path × Except ReadFailure String)) :=
  paths.eraseDups.mapM fun path => return (path, ← readText path)

def contentsIn (files : List (Path × Except ReadFailure String)) (path : Path) :
    Except ReadFailure String :=
  (files.lookup path).getD (.error .notFound)

def runList (request : ListRequest) : IO UInt32 := do
  let described ← readAll request.config.toList
  let project := (request.loadProject (contentsIn described)).toOption.join
  let files ← readAll ((request.units project).map Prod.fst)
  let outcome := request.run (contentsIn (described ++ files))
  IO.eprint (request.reportText outcome)
  IO.print outcome.output
  IO.eprint outcome.failureText
  return if outcome.failure.isSome then 1 else 0

end SymbolAtlas

open SymbolAtlas in
def main (arguments : List String) : IO UInt32 := do
  match Invocation.ofArguments arguments with
  | .list request => runList request
  | .version =>
    IO.println versionText
    return 0
  | .help =>
    IO.print usage
    return 0
  | .misuse =>
    IO.eprint usage
    return 2
