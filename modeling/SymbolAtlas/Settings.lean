import SymbolAtlas.Error
import SymbolAtlas.Json.Basic

/-! How translation units are walked. -/

namespace SymbolAtlas

structure Settings where
  /-- Leave out declarations that lie outside the main file. -/
  mainFileOnly : Bool := true
  /-- Visit the bodies of scopes too. -/
  walkScopes : Bool := true
  recordMembers : Bool := true
  /-- How many levels of declarations are visited; zero still visits one. -/
  maxDepth : Nat := 64
deriving DecidableEq, Repr, Inhabited

namespace Settings

def headersToo : Settings :=
  { mainFileOnly := false }

def validate (settings : Settings) : Except ConfigDefect Unit :=
  if settings.maxDepth = 0 then .error .zeroDepth else .ok ()

open Json

def fieldNames : List String :=
  ["main_file_only", "walk_namespaces", "record_members", "max_depth"]

def ofJson? (surplus : Surplus) (json : Json) : Option Settings := do
  let fields ← json.fields? surplus fieldNames
  some {
    mainFileOnly := ← defaulted? fields "main_file_only" asBool? true
    walkScopes := ← defaulted? fields "walk_namespaces" asBool? true
    recordMembers := ← defaulted? fields "record_members" asBool? true
    maxDepth := ← defaulted? fields "max_depth" (asNatUpTo? (UInt64.size - 1)) 64 }

def toJson (settings : Settings) : Json :=
  .obj [("main_file_only", .bool settings.mainFileOnly),
    ("walk_namespaces", .bool settings.walkScopes),
    ("record_members", .bool settings.recordMembers), ("max_depth", .ofNat settings.maxDepth)]

end Settings

end SymbolAtlas
