import SymbolAtlas.Extract.Record

/-! The walk over the declarations of a unit. -/

namespace SymbolAtlas

/-- A count that is kept in a machine word is shown as a number. -/
instance coeCount : Coe UInt64 Nat := ⟨UInt64.toNat⟩

/-- What the walk over a unit has counted so far, in machine words. A word that is full
goes on at zero. -/
structure Tally where
  visited : UInt64 := 0
  skipped : UInt64 := 0
deriving DecidableEq, Repr

namespace Tally

def visit (tally : Tally) : Tally :=
  { tally with visited := tally.visited + 1 }

def skip (tally : Tally) : Tally :=
  { tally with skipped := tally.skipped + 1 }

end Tally

abbrev Walk (α : Type) := StateT Tally (ExceptT Stop (StateM Extraction)) α

namespace Walk

open Snapshot

variable {snapshot : Snapshot}

def leavesOut (settings : Settings) (cursor : snapshot.Cursor) : Bool :=
  settings.mainFileOnly && !cursor.inMainFile

/-- Records a cursor and then goes down into it if it is a scope. Data members are
left to their record. -/
def visit (settings : Settings) (descend : snapshot.Cursor → Walk Unit)
    (cursor : snapshot.Cursor) : Walk Unit := do
  if leavesOut settings cursor then
    Extract.note (.skipped cursor.kind cursor.spelling)
    modify Tally.skip
  else if cursor.kind = .fieldDecl then return
  else
    if cursor.isDeclaration || cursor.isDefinition then
      modify Tally.visit
      let _ ← Extract.record settings cursor
    if settings.walkScopes && cursor.kind.isScope then descend cursor

def stayAbove (settings : Settings) (scope : snapshot.Cursor) : Walk Unit :=
  Extract.note (.notDescending scope.spelling settings.maxDepth)

/-- Visits the children of a cursor, and of scopes among them as many levels
further down as there is room for. -/
def children (settings : Settings) : Nat → snapshot.Cursor → Walk Unit
  | 0, parent => parent.children.forM (visit settings (stayAbove settings))
  | room + 1, parent => parent.children.forM (visit settings (children settings room))

def unit (settings : Settings) (snapshot : Snapshot) : Walk Unit :=
  children settings (settings.maxDepth - 1) snapshot.root

end Walk

end SymbolAtlas
