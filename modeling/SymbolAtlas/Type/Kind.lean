import SymbolAtlas.Type.Fundamental

/-! The kinds a front end reports for a type, by number or by name. -/

namespace SymbolAtlas

inductive TypeKind where
  | invalid
  | unexposed
  | elaborated
  | record
  | enumeration
  | typedef
  | pointer
  | lvalueReference
  | rvalueReference
  | fundamental (type : Fundamental)
  | unknown (code : Int32)
deriving DecidableEq, Repr

namespace TypeKind

def composites : List (String × TypeKind) :=
  [("Invalid", invalid), ("Unexposed", unexposed), ("Elaborated", elaborated),
    ("Record", record), ("Enum", enumeration), ("Typedef", typedef), ("Pointer", pointer),
    ("LValueReference", lvalueReference), ("RValueReference", rvalueReference)]

def compositeCodes : List (Int32 × TypeKind) :=
  [(0, invalid), (1, unexposed), (101, pointer), (103, lvalueReference),
    (104, rvalueReference), (105, record), (106, enumeration), (107, typedef),
    (119, elaborated)]

def ofCode (code : Int32) : TypeKind :=
  match compositeCodes.lookup code with
  | some kind => kind
  | none =>
    match Fundamental.ofCode? code with
    | some type => .fundamental type
    | none => .unknown code

def ofName? (name : String) : Option TypeKind :=
  match composites.lookup name with
  | some kind => some kind
  | none => (Fundamental.ofName? name).map fundamental

def name? : TypeKind → Option String
  | invalid => some "Invalid"
  | unexposed => some "Unexposed"
  | elaborated => some "Elaborated"
  | record => some "Record"
  | enumeration => some "Enum"
  | typedef => some "Typedef"
  | pointer => some "Pointer"
  | lvalueReference => some "LValueReference"
  | rvalueReference => some "RValueReference"
  | fundamental type => some type.name
  | unknown _ => none

end TypeKind

/-- A type kind as it is written down: by number or by name. -/
inductive WrittenKind where
  | code (code : Int32)
  | name (name : String)
deriving DecidableEq, Repr

namespace WrittenKind

/-- The kind that is meant; a name outside the known ones means none. -/
def resolve? : WrittenKind → Option TypeKind
  | code number => some (TypeKind.ofCode number)
  | name text => TypeKind.ofName? text

end WrittenKind

def TypeKind.written : TypeKind → WrittenKind
  | .unknown code => .code code
  | .fundamental type => .name type.name
  | kind => .name (kind.name?.getD "")

end SymbolAtlas
