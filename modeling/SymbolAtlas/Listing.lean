import SymbolAtlas.Location
import SymbolAtlas.Registry

/-! Listings: one row per symbol in identity order, and what stayed unresolved. As text they
have a line for each row and each unresolved declaration, and they can be written as JSON. -/

namespace SymbolAtlas

structure MemberRow where
  name : String
  type : String
deriving DecidableEq, Repr

inductive RowDetail where
  | signature (text : String)
  | isScoped (value : Bool)
  | underlying (type : String)
  | members (fields : List MemberRow)
deriving DecidableEq, Repr

structure Row where
  kind : String
  qualifiedName : String
  displayName : String
  exposed : Bool
  declarations : List Location
  definitions : List Location
  brief : String
  raw : String
  detail : Option RowDetail
deriving DecidableEq, Repr

structure Listing where
  rows : List Row
  unresolved : List Unresolved
deriving DecidableEq, Repr

/-- A parameter as it stands in a signature; an unnamed one is just its type. -/
def parameterText (nameOf : Nat → Option String) (parameter : Variable) : String :=
  let type := parameter.type.spelling nameOf
  if parameter.name.isEmpty then type else type ++ " " ++ parameter.name

def signatureText (nameOf : Nat → Option String) (name : String) (result : Ty)
    (parameters : List Variable) : String :=
  result.spelling nameOf ++ " " ++ name ++ "(" ++
    String.intercalate ", " (parameters.map (parameterText nameOf)) ++ ")"

def Symbol.rowDetail (nameOf : Nat → Option String) (symbol : Symbol) : Option RowDetail :=
  match symbol.kind, symbol.detail with
  | .enumeration isScoped, _ => some (.isScoped isScoped)
  | _, some (.signature result parameters) =>
    some (.signature (signatureText nameOf symbol.spelling result parameters))
  | _, some (.underlying aliased) => some (.underlying (aliased.spelling nameOf))
  | _, some (.members fields) =>
    some (.members (fields.map fun field => ⟨field.name, field.type.spelling nameOf⟩))
  | _, none => none

def Symbol.row (nameOf : Nat → Option String) (identity : Identity) (symbol : Symbol) : Row where
  kind := symbol.kind.name
  qualifiedName := identity.spelling
  displayName := identity.display
  exposed := symbol.exposed
  declarations := symbol.declarations
  definitions := symbol.definitions
  brief := symbol.doc.brief
  raw := symbol.doc.raw
  detail := symbol.rowDetail nameOf

namespace Listing

def ofRegistry (registry : Registry) : Listing where
  rows := registry.sorted.filterMap fun (identity, index) =>
    (registry.get? index).map (·.row registry.nameOf? identity)
  unresolved := registry.unresolved.toList

def exposedOnly (listing : Listing) : Listing :=
  { listing with rows := listing.rows.filter Row.exposed }

def withoutUnresolved (listing : Listing) : Listing :=
  { listing with unresolved := [] }

def size (listing : Listing) : Nat :=
  listing.rows.length

def isEmpty (listing : Listing) : Bool :=
  listing.rows.isEmpty

end Listing

def padded (width : Nat) (word : String) : String :=
  word ++ String.ofList (List.replicate (width - word.length) ' ')

def RowDetail.text : RowDetail → String
  | signature text => "  " ++ text
  | isScoped value => if value then "  (scoped)" else ""
  | underlying type => "  = " ++ type
  | members [] => ""
  | members fields =>
    "  \x7b " ++ String.intercalate "; " (fields.map fun field => field.type ++ " " ++ field.name) ++
      " \x7d"

def Row.line (row : Row) : String :=
  (if row.exposed then "* " else "  ") ++ padded 9 row.kind ++ " " ++ row.qualifiedName ++
    (match row.detail with
    | some detail => detail.text
    | none => "") ++
    (match row.declarations with
    | location :: _ => "  [" ++ location.describe ++ "]"
    | [] => "") ++
    (if row.brief.isEmpty then "" else "  // " ++ row.brief) ++ "\n"

def Unresolved.line (entry : Unresolved) : String :=
  "? " ++ entry.name ++ " at " ++ entry.location.describe ++ "\n"

def Listing.text (listing : Listing) : String :=
  String.join (listing.rows.map Row.line ++ listing.unresolved.map Unresolved.line)

open Json

def MemberRow.toJson (member : MemberRow) : Json :=
  .obj [("name", .str member.name), ("type", .str member.type)]

def RowDetail.toJson : RowDetail → Json
  | signature text => .obj [("signature", .str text)]
  | isScoped value => .obj [("scoped", .bool value)]
  | underlying type => .obj [("underlying", .str type)]
  | members fields => .obj [("members", .ofList MemberRow.toJson fields)]

def presentText (name text : String) : List (String × Json) :=
  if text.isEmpty then [] else [(name, .str text)]

def Row.toJson (row : Row) : Json :=
  .obj <|
    [("kind", .str row.kind), ("qualified_name", .str row.qualifiedName),
      ("display_name", .str row.displayName), ("exposed", .bool row.exposed),
      ("declarations", .ofList Location.toJson row.declarations),
      ("definitions", .ofList Location.toJson row.definitions)] ++
    presentText "brief" row.brief ++ presentText "raw_doc" row.raw ++
    present "detail" RowDetail.toJson row.detail

def Unresolved.toJson (entry : Unresolved) : Json :=
  .obj [("name", .str entry.name), ("location", entry.location.toJson)]

def Listing.toJson (listing : Listing) : Json :=
  .obj [("symbols", .ofList Row.toJson listing.rows),
    ("unresolved", .ofList Unresolved.toJson listing.unresolved)]

end SymbolAtlas
