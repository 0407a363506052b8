import SymbolAtlas.Extract.Record
import SymbolAtlas.Proofs.Lineage

/-! Recording as a recursion over outer cursors, and resolving as one over the
levels of a type. -/

namespace SymbolAtlas.Extract

open Snapshot

variable {snapshot : Snapshot} (complete : Nat → snapshot.Cursor → Extract Unit)

def report (cursor : snapshot.Cursor) : Extract Unit :=
  (namelessIn cursor.lineage).forM note

/-- Records the outer cursor, if there is one. A cursor in a scope that has no
symbol cannot get one either. -/
def recordOuter (cursor : snapshot.Cursor) : Extract (Option Nat) :=
  match cursor.outer? with
  | none => pure none
  | some outer => do
    match ← recordWith complete outer with
    | some parent => pure (some parent)
    | none => throw (.error (.missingParent cursor.spelling cursor.location))

def revisit (index : Nat) (cursor : snapshot.Cursor) : Extract (Option Nat) := do
  merge index cursor
  complete index cursor
  return some index

def recordUnder (cursor : snapshot.Cursor) (kind : SymbolKind) (parent : Option Nat) :
    Extract (Option Nat) := do
  match (← registry).find? cursor.identity with
  | some index =>
    merge index cursor
    return some index
  | none =>
    let index ← register cursor.identity { part := cursor.part, kind, parent }
    revisit complete index cursor

theorem recordWith_of_isEmpty {cursor : snapshot.Cursor} (empty : cursor.part.isEmpty) :
    recordWith complete cursor = (do report cursor; logUnresolved cursor; return none) := by
  have blank : (Cursor.identityIn cursor.lineage).isEmpty := by
    rw [← Cursor.identity, Cursor.isEmpty_identity, empty]
  rw [recordWith, report]
  rw [Cursor.lineage_eq] at blank ⊢
  rw [recordIn]
  simp only [blank, if_true]

theorem recordWith_of_named {cursor : snapshot.Cursor} {kind : SymbolKind}
    (named : cursor.part.isEmpty = false) (sort : cursor.symbolKind? = some kind) :
    recordWith complete cursor = (do
      report cursor
      match (← registry).find? cursor.identity with
      | some index => revisit complete index cursor
      | none =>
        let parent ← recordOuter complete cursor
        recordUnder complete cursor kind parent) := by
  have filled : (Cursor.identityIn cursor.lineage).isEmpty = false := by
    rw [← Cursor.identity, Cursor.isEmpty_identity, named]
  obtain ⟨above, whole⟩ : ∃ above, cursor.lineage = cursor :: above := ⟨_, cursor.lineage_eq⟩
  have unfolded := congrArg (recordIn complete) whole
  rw [recordIn] at unfolded
  simp only [← whole, filled, sort, Bool.false_eq_true, if_false] at unfolded
  rw [recordWith, unfolded, Cursor.identity]
  refine bind_congr fun _ => bind_congr fun registry => ?_
  cases registry.find? (Cursor.identityIn cursor.lineage) with
  | some index => rfl
  | none =>
    unfold recordOuter
    rw [Cursor.isTopLevel_eq]
    cases nested : cursor.outer? with
    | none => rfl
    | some outer =>
      rw [Cursor.lineage_of_outer? nested] at whole
      cases whole
      simp only [Option.isNone_some, Bool.false_eq_true, if_false, bind_assoc, recordWith]
      refine bind_congr fun parent => ?_
      cases parent <;> rfl

theorem resolveWith_eq (type : snapshot.TypeRef) :
    resolveWith complete type =
      match type.kind with
      | .invalid => return .absent
      | .unexposed => return .leaf type.qualifiers .unexposed
      | .elaborated => return .level type.qualifiers .elaborated (← resolveWith complete type.next)
      | .pointer => return .level type.qualifiers .pointer (← resolveWith complete type.next)
      | .lvalueReference =>
        return .level type.qualifiers .lvalueReference (← resolveWith complete type.next)
      | .rvalueReference =>
        return .level type.qualifiers .rvalueReference (← resolveWith complete type.next)
      | .record =>
        return .leaf type.qualifiers (.record (← declaredSymbol (recordWith complete) type))
      | .enumeration =>
        return .leaf type.qualifiers (.enumeration (← declaredSymbol (recordWith complete) type))
      | .typedef =>
        return .leaf type.qualifiers
          (.typedef (← declaredSymbol (recordWith complete) type) type.typedefName)
      | .fundamental basic => return .leaf type.qualifiers (.fundamental basic)
      | .unknown code => throw (.error (.unmappedTypeKind code)) := by
  unfold resolveWith
  rw [TypeRef.levels_eq]
  cases own : type.index with
  | none =>
    rw [TypeRef.kind_of_index_eq_none own]
    rfl
  | some position => rfl

def membersOf (resolve : snapshot.TypeRef → Extract Ty) (settings : Settings)
    (cursor : snapshot.Cursor) : Extract (Option Detail) :=
  if settings.recordMembers then
    match cursor.definition? with
    | some definition => do
      let fields := definition.children.filter (·.kind == .fieldDecl)
      return some (.members (← typedNames resolve fields))
    | none => return none
  else return none

def supply (resolve : snapshot.TypeRef → Extract Ty) (settings : Settings) (index : Nat)
    (cursor : snapshot.Cursor) (kind : SymbolKind) : Extract Unit := do
  match ← detailOf resolve settings kind cursor with
  | none => return
  | some detail =>
    store index cursor detail
    addReferences index detail.symbols

end SymbolAtlas.Extract
