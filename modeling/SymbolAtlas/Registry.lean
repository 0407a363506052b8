import SymbolAtlas.Symbol

/-! The registry: symbols in the order of their registration, the identity each one is
registered under, and the two relations between them. A mark is how far a registry had come
at some moment; going back to it undoes all but the locations, the documentation and the
exposure of the symbols that stay. -/

namespace SymbolAtlas

structure Unresolved where
  name : String
  location : Location
deriving DecidableEq, Repr

structure Entry where
  identity : Identity
  symbol : Symbol
deriving DecidableEq, Repr

structure Edge where
  source : Nat
  target : Nat
deriving DecidableEq, Repr

/-- A change to symbols that a rollback keeps. -/
inductive Change where
  | resolved (index : Nat)
  | referenced (edge : Edge)
deriving DecidableEq, Repr

/-- The index of a symbol is its position among the entries. -/
structure Registry where
  entries : Array Entry := #[]
  /-- From the enclosing symbol to the enclosed one. -/
  contains : List Edge := []
  /-- From a symbol to one that its detail mentions. -/
  references : List Edge := []
  unresolved : Array Unresolved := #[]
  changes : Array Change := #[]
deriving DecidableEq, Repr, Inhabited

namespace Registry

def empty : Registry := {}

def size (registry : Registry) : Nat :=
  registry.entries.size

def isEmpty (registry : Registry) : Bool :=
  registry.entries.isEmpty

def edgeCount (registry : Registry) : Nat :=
  registry.contains.length + registry.references.length

def get? (registry : Registry) (index : Nat) : Option Symbol :=
  registry.entries[index]?.map Entry.symbol

def find? (registry : Registry) (identity : Identity) : Option Nat :=
  registry.entries.findIdx? fun entry => entry.identity == identity

def update (registry : Registry) (index : Nat) (change : Symbol → Symbol) : Registry :=
  { registry with
    entries := registry.entries.modify index fun entry =>
      { entry with symbol := change entry.symbol } }

def containment (parent : Option Nat) (index : Nat) : List Edge :=
  (parent.map fun parent => ⟨parent, index⟩).toList

/-- Registers a symbol under an identity. A fresh identity gets the next index,
and its parent contains it. A known one keeps its index: the symbol is replaced,
and the containment edge moves with its parent. There is no registry when the
new edge would start at an index without a symbol. -/
def add? (registry : Registry) (identity : Identity) (symbol : Symbol) :
    Option (Registry × Nat) :=
  match registry.find? identity with
  | some index =>
    let moved := (registry.get? index).bind Symbol.parent != symbol.parent
    if moved && symbol.parent.any (registry.size ≤ ·) then none
    else
      let contains :=
        if moved then
          registry.contains.filter (·.target != index) ++ containment symbol.parent index
        else registry.contains
      some ({ registry.update index (fun _ => symbol) with contains }, index)
  | none =>
    let index := registry.size
    if symbol.parent.any (index < ·) then none
    else
      some ({ registry with
        entries := registry.entries.push ⟨identity, symbol⟩
        contains := registry.contains ++ containment symbol.parent index }, index)

/-- Notes that one symbol mentions another, once. There is no registry when a
new edge would touch an index without a symbol. -/
def addReference? (registry : Registry) (edge : Edge) : Option Registry :=
  if registry.references.contains edge then some registry
  else if registry.size ≤ edge.source || registry.size ≤ edge.target then none
  else
    some { registry with
      references := registry.references ++ [edge]
      changes := registry.changes.push (.referenced edge) }

def markResolved (registry : Registry) (index : Nat) : Registry :=
  { registry with changes := registry.changes.push (.resolved index) }

def logUnresolved (registry : Registry) (name : String) (location : Location) : Registry :=
  { registry with unresolved := registry.unresolved.push ⟨name, location⟩ }

/-- The parts met on the way from a symbol up through at most `room` parents,
innermost first. There are none when the way leads to an index without a symbol
or does not end in time. -/
def partsUpward (registry : Registry) : Nat → Nat → Option (List Part)
  | 0, _ => none
  | room + 1, index =>
    match registry.get? index with
    | none => none
    | some symbol =>
      match symbol.parent with
      | none => some [symbol.part]
      | some parent => (partsUpward registry room parent).map (symbol.part :: ·)

/-- The identity of a symbol, rebuilt by walking its stored parents. -/
def identityOf? (registry : Registry) (index : Nat) : Option Identity :=
  (registry.partsUpward registry.size index).map fun parts => ⟨parts.reverse⟩

def nameOf? (registry : Registry) (index : Nat) : Option String :=
  (registry.identityOf? index).map Identity.spelling

def parent? (registry : Registry) (index : Nat) : Option Nat :=
  (registry.get? index).bind Symbol.parent

def targets (edges : List Edge) (index : Nat) : List Nat :=
  Ascending.sort compare ((edges.filter (·.source == index)).map Edge.target)

def sources (edges : List Edge) (index : Nat) : List Nat :=
  Ascending.sort compare ((edges.filter (·.target == index)).map Edge.source)

def children (registry : Registry) (index : Nat) : List Nat :=
  targets registry.contains index

def referencesOf (registry : Registry) (index : Nat) : List Nat :=
  targets registry.references index

def referencedBy (registry : Registry) (index : Nat) : List Nat :=
  sources registry.references index

def compareRegistered : Identity × Nat → Identity × Nat → Ordering :=
  fun a b => (a.1.compare b.1).then (compare a.2 b.2)

def registered (registry : Registry) : List (Identity × Nat) :=
  registry.entries.toList.zipIdx.map fun (entry, index) => (entry.identity, index)

def sorted (registry : Registry) : List (Identity × Nat) :=
  Ascending.sort compareRegistered registry.registered

end Registry

structure Mark where
  symbols : Nat
  unresolved : Nat
  changes : Nat
deriving DecidableEq, Repr

namespace Registry

def mark (registry : Registry) : Mark :=
  ⟨registry.entries.size, registry.unresolved.size, registry.changes.size⟩

def within (count : Nat) (edge : Edge) : Bool :=
  edge.source < count && edge.target < count

def keepSymbols (registry : Registry) (count : Nat) : Registry :=
  { registry with
    entries := registry.entries.take count
    contains := registry.contains.filter (within count)
    references := registry.references.filter (within count) }

def undo (registry : Registry) : Change → Registry
  | .resolved index => registry.update index Symbol.clear
  | .referenced edge => { registry with references := registry.references.erase edge }

def changesSince (registry : Registry) (count : Nat) : List Change :=
  (registry.changes.toList.drop count).reverse

/-- Goes back to a mark: later symbols, references and unresolved entries are
dropped, and details that earlier symbols have got since are cleared. -/
def rollback (registry : Registry) (mark : Mark) : Registry :=
  let undone := (registry.changesSince mark.changes).foldl undo (registry.keepSymbols mark.symbols)
  { undone with
    unresolved := undone.unresolved.take mark.unresolved
    changes := undone.changes.take mark.changes }

end Registry

end SymbolAtlas
