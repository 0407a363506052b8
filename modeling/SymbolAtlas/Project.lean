import SymbolAtlas.Options
import SymbolAtlas.Path
import SymbolAtlas.Settings
import SymbolAtlas.Text
import SymbolAtlas.Toml.Document

/-! Projects: source files with their options, how they are to be read, and the TOML files
that describe them. -/

namespace SymbolAtlas

structure InputFile where
  path : Path
  options : Options := {}
deriving DecidableEq, Repr

structure Project where
  name : String
  version : List String := []
  /-- The directory that relative input paths start from. -/
  rootDir : Path := ⟨""⟩
  inputs : List InputFile := []
  options : Options := {}
  settings : Settings := {}
deriving DecidableEq, Repr

namespace Project

def validate (project : Project) : Except ConfigDefect Unit :=
  if Text.isBlank project.name then .error .emptyName
  else if project.inputs.any (·.path.isEmpty) then .error (.emptyInputPath project.name)
  else project.settings.validate

def inputArgs (project : Project) (input : InputFile) : List String :=
  project.options.args ++ input.options.args

def resolvePath (project : Project) (path : Path) : Path :=
  project.rootDir.join path

def versionText (project : Project) : String :=
  String.intercalate "." project.version

/-- The project as seen from the file that describes it: a relative root is taken
from the directory of that file. -/
def relocated (file : Path) (project : Project) : Project :=
  { project with rootDir := (file.parent?.getD ⟨""⟩).join project.rootDir }

end Project

open Json

namespace InputFile

def fieldNames : List String := ["path", "options"]

def ofJson? (surplus : Surplus) (json : Json) : Option InputFile := do
  let fields ← json.fields? surplus fieldNames
  some {
    path := ⟨← required? fields "path" asString?⟩
    options := ← defaulted? fields "options" (Options.ofJson? surplus) {} }

def toJson (input : InputFile) : Json :=
  .obj [("path", .str input.path.text), ("options", input.options.toJson)]

end InputFile

namespace Project

def fieldNames : List String :=
  ["name", "version", "root_dir", "inputs", "options", "parse"]

def ofJson? (surplus : Surplus) (json : Json) : Option Project := do
  let fields ← json.fields? surplus fieldNames
  some {
    name := ← required? fields "name" asString?
    version := ← defaulted? fields "version" (asList? asString?) []
    rootDir := ⟨← defaulted? fields "root_dir" asString? ""⟩
    inputs := ← defaulted? fields "inputs" (asList? (InputFile.ofJson? surplus)) []
    options := ← defaulted? fields "options" (Options.ofJson? surplus) {}
    settings := ← defaulted? fields "parse" (Settings.ofJson? surplus) {} }

def toJson (project : Project) : Json :=
  .obj [("name", .str project.name), ("version", .ofList Json.str project.version),
    ("root_dir", .str project.rootDir.text), ("inputs", .ofList InputFile.toJson project.inputs),
    ("options", project.options.toJson), ("parse", project.settings.toJson)]

def parse (text : String) : Except Error Project :=
  match (Toml.parse? text).bind (Project.ofJson? .ignored) with
  | some project => .ok project
  | none => .error .toml

def load (file : Path) (contents : Except ReadFailure String) : Except Error Project := do
  let text ← contents.mapError Error.read
  let project := (← parse text).relocated file
  project.validate.mapError Error.invalidConfig
  return project

end Project

end SymbolAtlas
