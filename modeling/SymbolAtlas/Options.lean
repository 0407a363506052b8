import SymbolAtlas.Ascending
import SymbolAtlas.Json.Basic

/-! Compiler options: their layers and the argument list they stand for. -/

namespace SymbolAtlas

/-- A macro and its value; an empty value defines the bare name. -/
structure Define where
  name : String
  value : String
deriving DecidableEq, Repr

namespace Define

def compare : Define → Define → Ordering :=
  compareOn name

instance : Std.TransCmp compare :=
  inferInstanceAs (Std.TransCmp (compareOn name))

def argument (define : Define) : String :=
  if define.value.isEmpty then "-D" ++ define.name
  else "-D" ++ define.name ++ "=" ++ define.value

end Define

abbrev TextSet := Chain (compare : String → String → Ordering)

abbrev MacroTable := Chain Define.compare

structure Options where
  standard : String := ""
  includeDirs : TextSet := .empty
  defines : MacroTable := .empty
  undefines : TextSet := .empty
  flags : List String := []
deriving DecidableEq, Repr, Inhabited

namespace Options

def isEmpty (options : Options) : Bool :=
  options == {}

def args (options : Options) : List String :=
  (if options.standard.isEmpty then [] else ["-std=" ++ options.standard]) ++
    options.includeDirs.toList.map ("-I" ++ ·) ++
    options.defines.toList.map Define.argument ++
    options.undefines.toList.map ("-U" ++ ·) ++ options.flags

/-- Lays the options of one file over these. -/
def mergedWith (options other : Options) : Options where
  standard := if other.standard.isEmpty then options.standard else other.standard
  includeDirs := options.includeDirs.insertAll other.includeDirs.toList
  defines := options.defines.putAll other.defines.toList
  undefines := options.undefines.insertAll other.undefines.toList
  flags := options.flags ++ other.flags

open Json

def fieldNames : List String :=
  ["standard", "include_dirs", "defines", "undefines", "additional_flags"]

def readSet? (json : Json) : Option TextSet :=
  (asList? asString? json).map Chain.empty.insertAll

def readDefines? (json : Json) : Option MacroTable :=
  (asMap? asString? json).map fun fields =>
    Chain.empty.putAll (fields.map fun (name, value) => ⟨name, value⟩)

def ofJson? (surplus : Surplus) (json : Json) : Option Options := do
  let fields ← json.fields? surplus fieldNames
  some {
    standard := ← defaulted? fields "standard" asString? ""
    includeDirs := ← defaulted? fields "include_dirs" readSet? .empty
    defines := ← defaulted? fields "defines" readDefines? .empty
    undefines := ← defaulted? fields "undefines" readSet? .empty
    flags := ← defaulted? fields "additional_flags" (asList? asString?) [] }

def toJson (options : Options) : Json :=
  .obj [("standard", .str options.standard),
    ("include_dirs", .ofList Json.str options.includeDirs.toList),
    ("defines", .obj (options.defines.toList.map fun define => (define.name, .str define.value))),
    ("undefines", .ofList Json.str options.undefines.toList),
    ("additional_flags", .ofList Json.str options.flags)]

end Options

end SymbolAtlas
