import SymbolAtlas.Extract.Basic
import SymbolAtlas.Settings
import SymbolAtlas.Snapshot.Naming

/-! Recording: finding or making the symbol of a cursor, resolving types, and
completing symbols with their details.

A symbol is registered before its detail is resolved, and a symbol whose detail
is being resolved is not completed again, so types may refer to each other and
to themselves. Recording follows the semantic ancestors of a cursor, resolving
follows the levels of a type; both are finite lists. Only completion is nested
without such a list: each nesting makes one more symbol pending, and there are
at most as many symbols as the snapshot has cursors. -/

namespace SymbolAtlas.Extract

open Snapshot

variable {snapshot : Snapshot}

/-- The reports about cursors without a naming rule that are met on the way to
the identity of the first cursor of a lineage. -/
def namelessIn : List snapshot.Cursor → List Event
  | [] => []
  | cursor :: above =>
    let own := if cursor.naming?.isNone then [Event.nameless cursor.kind cursor.spelling] else []
    let inherited :=
      match above with
      | [] => []
      | parent :: _ => if cursor.part.isEmpty || parent.isRoot then [] else namelessIn above
    own ++ inherited

def logUnresolved (cursor : snapshot.Cursor) : Extract Unit := do
  note (.unresolved cursor.kind cursor.spelling cursor.location)
  changeRegistry (·.logUnresolved cursor.spelling cursor.location)

def merge (index : Nat) (cursor : snapshot.Cursor) : Extract Unit :=
  changeRegistry (·.update index (·.sight cursor.sighting))

/-- Finds or makes the symbol of the first cursor of a lineage. There is none for
a cursor without an identity, which is logged instead. A new symbol needs that of
its parent first; recording that one may already have reached this very cursor
through the type of a member. -/
def recordIn (complete : Nat → snapshot.Cursor → Extract Unit) :
    List snapshot.Cursor → Extract (Option Nat)
  | [] => return none
  | cursor :: above => do
    let identity := Cursor.identityIn (cursor :: above)
    (namelessIn (cursor :: above)).forM note
    if identity.isEmpty then
      logUnresolved cursor
      return none
    match (← registry).find? identity with
    | some index =>
      merge index cursor
      complete index cursor
      return some index
    | none =>
      match cursor.symbolKind? with
      | none =>
        logUnresolved cursor
        return none
      | some kind =>
        let parent ←
          if cursor.isTopLevel then pure none
          else
            match ← recordIn complete above with
            | some parent => pure (some parent)
            | none => throw (.error (.missingParent cursor.spelling cursor.location))
        match (← registry).find? identity with
        | some index =>
          merge index cursor
          return some index
        | none =>
          let index ← register identity { part := cursor.part, kind, parent }
          merge index cursor
          complete index cursor
          return some index

def declaredSymbol (record : snapshot.Cursor → Extract (Option Nat)) (type : snapshot.TypeRef) :
    Extract (Option Nat) :=
  match type.declaration? with
  | some declaration => record declaration
  | none => do
    note (.undeclaredType type.kind)
    return none

/-- Resolves the levels of a type from the leaf outwards. A kind outside the
known table is an error. -/
def resolveIn (record : snapshot.Cursor → Extract (Option Nat)) :
    List snapshot.TypeRef → Extract Ty
  | [] => return .absent
  | type :: below =>
    let quals := type.qualifiers
    match type.kind with
    | .invalid => return .absent
    | .unexposed => return .leaf quals .unexposed
    | .elaborated => return .level quals .elaborated (← resolveIn record below)
    | .pointer => return .level quals .pointer (← resolveIn record below)
    | .lvalueReference => return .level quals .lvalueReference (← resolveIn record below)
    | .rvalueReference => return .level quals .rvalueReference (← resolveIn record below)
    | .record => return .leaf quals (.record (← declaredSymbol record type))
    | .enumeration => return .leaf quals (.enumeration (← declaredSymbol record type))
    | .typedef => return .leaf quals (.typedef (← declaredSymbol record type) type.typedefName)
    | .fundamental basic => return .leaf quals (.fundamental basic)
    | .unknown code => throw (.error (.unmappedTypeKind code))

def typedNames (resolve : snapshot.TypeRef → Extract Ty) (cursors : List snapshot.Cursor) :
    Extract (List Variable) :=
  cursors.mapM fun cursor => return ⟨cursor.spelling, ← resolve cursor.type⟩

/-- The detail that a cursor gives to a symbol of some kind. Only a cursor of the
symbol's own kind gives one: a type alias may share the identity of a record. -/
def detailOf (resolve : snapshot.TypeRef → Extract Ty) (settings : Settings)
    (kind : SymbolKind) (cursor : snapshot.Cursor) : Extract (Option Detail) :=
  match kind, cursor.kind with
  | .function _, .functionDecl => do
    let result ← resolve cursor.resultType
    return some (.signature result (← typedNames resolve cursor.arguments))
  | .typedef, .typedefDecl => return some (.underlying (← resolve cursor.underlyingType))
  | .record _, .structDecl | .record _, .classDecl =>
    if settings.recordMembers then
      match cursor.definition? with
      | some definition => do
        let fields := definition.children.filter (·.kind == .fieldDecl)
        return some (.members (← typedNames resolve fields))
      | none => return none
    else return none
  | _, _ => return none

def store (index : Nat) (cursor : snapshot.Cursor) (detail : Detail) : Extract Unit := do
  if ((← registry).get? index).any (·.awaits detail) then
    changeRegistry fun registry => (registry.update index (·.fill detail)).markResolved index
  else
    match detail with
    | .signature _ _ => note (.signatureAlreadyBuilt cursor.data.displayName)
    | .underlying _ => note (.underlyingAlreadyResolved cursor.spelling)
    | .members _ => return

def completeKind (resolve : snapshot.TypeRef → Extract Ty) (settings : Settings)
    (index : Nat) (cursor : snapshot.Cursor) : Extract Unit := do
  match (← registry).get? index with
  | none => return
  | some symbol =>
    if symbol.detail.isSome then return
    match ← detailOf resolve settings symbol.kind cursor with
    | none => return
    | some detail =>
      store index cursor detail
      addReferences index detail.symbols

def recordWith (complete : Nat → snapshot.Cursor → Extract Unit) (cursor : snapshot.Cursor) :
    Extract (Option Nat) :=
  recordIn complete cursor.lineage

def resolveWith (complete : Nat → snapshot.Cursor → Extract Unit) (type : snapshot.TypeRef) :
    Extract Ty :=
  resolveIn (recordWith complete) type.levels

/-- Completes a symbol unless that is already under way, with room for some
nested completions. -/
def completeWithin (settings : Settings) : Nat → Nat → snapshot.Cursor → Extract Unit
  | 0, index, _ => do
    if ← isPending index then return else throw .exhausted
  | room + 1, index, cursor => do
    if ← isPending index then return
    else
      whilePending index
        (completeKind (resolveWith (completeWithin settings room)) settings index cursor)

def complete (settings : Settings) (index : Nat) (cursor : snapshot.Cursor) : Extract Unit :=
  completeWithin settings snapshot.raw.cursors.size index cursor

def record (settings : Settings) (cursor : snapshot.Cursor) : Extract (Option Nat) :=
  recordWith (complete settings) cursor

def resolve (settings : Settings) (type : snapshot.TypeRef) : Extract Ty :=
  resolveWith (complete settings) type

end SymbolAtlas.Extract
