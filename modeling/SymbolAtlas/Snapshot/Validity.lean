import SymbolAtlas.Error
import SymbolAtlas.Snapshot.Raw

/-! The check that every link of a snapshot leads somewhere, that every type
kind is known, and that parents and components of types never lead back. -/

namespace SymbolAtlas

namespace Cycle

/-- Depth-first search from a node below a path of distinct nodes. The answer
is the nodes that are known to reach no cycle, or a node of the path that the
search came back to. A path takes at most `room` more nodes. -/
def search (next : Nat → List Nat) : Nat → List Nat → List Nat → Nat → Except Nat (List Nat)
  | 0, path, done, node =>
    if done.contains node then .ok done
    else if path.contains node then .error node
    else .ok done
  | room + 1, path, done, node =>
    if done.contains node then .ok done
    else if path.contains node then .error node
    else do
      let done ← (next node).foldlM (search next room (node :: path)) done
      .ok (node :: done)

/-- A node on a cycle among the first `count` nodes, if there is a cycle. -/
def find? (count : Nat) (next : Nat → List Nat) : Option Nat :=
  match (List.range count).foldlM (search next count []) [] with
  | .ok _ => none
  | .error node => some node

end Cycle

namespace RawSnapshot

def checkRoot (raw : RawSnapshot) : Except SnapshotDefect Unit :=
  match raw.cursors[0]? with
  | none => .error .noCursors
  | some root =>
    if root.kind = .translationUnit then .ok () else .error (.wrongRoot root.kind)

def checkLinks (sort : NodeSort) (bound owner : Nat) (links : List UInt64) :
    Except SnapshotDefect Unit :=
  links.forM fun link =>
    if link.toNat < bound then .ok () else .error (.outOfRange sort link.toNat owner)

def checkCursor (raw : RawSnapshot) (cursor : RawCursor) (owner : Nat) :
    Except SnapshotDefect Unit := do
  checkLinks .cursor raw.cursors.size owner cursor.cursorLinks
  checkLinks .type raw.types.size owner cursor.typeLinks

def checkKind : WrittenKind → Except SnapshotDefect Unit
  | .code _ => .ok ()
  | .name name => if (TypeKind.ofName? name).isSome then .ok () else .error (.unknownTypeKind name)

def checkType (raw : RawSnapshot) (type : RawType) (owner : Nat) :
    Except SnapshotDefect Unit := do
  checkLinks .type raw.types.size owner type.typeLinks
  checkLinks .cursor raw.cursors.size owner type.declaration.toList
  checkKind type.kind

def checkAcyclic (sort : NodeSort) (count : Nat) (next : Nat → List Nat) :
    Except SnapshotDefect Unit :=
  match Cycle.find? count next with
  | none => .ok ()
  | some index => .error (.cycle sort index)

def parentLinks (raw : RawSnapshot) (index : Nat) : List Nat :=
  match raw.cursors[index]? with
  | some cursor => cursor.semanticParent.toList.map UInt64.toNat
  | none => []

def componentLinks (raw : RawSnapshot) (index : Nat) : List Nat :=
  match raw.types[index]? with
  | some type => type.componentLinks.map UInt64.toNat
  | none => []

/-- The first defect: the root, the cursors in order, the types in order, then
cycles. -/
def check (raw : RawSnapshot) : Except SnapshotDefect Unit := do
  raw.checkRoot
  raw.cursors.toList.zipIdx.forM fun (cursor, index) => raw.checkCursor cursor index
  raw.types.toList.zipIdx.forM fun (type, index) => raw.checkType type index
  checkAcyclic .cursor raw.cursors.size raw.parentLinks
  checkAcyclic .type raw.types.size raw.componentLinks

end RawSnapshot

end SymbolAtlas
