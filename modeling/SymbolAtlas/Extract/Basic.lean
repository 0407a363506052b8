import SymbolAtlas.Diagnostic
import SymbolAtlas.Registry

/-! The state that extraction works on and its basic steps. -/

namespace SymbolAtlas

inductive Stop where
  | error (error : Error)
  /-- An edge was asked for at an index without a symbol. -/
  | dangling
  /-- The room for nested completions was used up. -/
  | exhausted
deriving DecidableEq, Repr

structure Extraction where
  registry : Registry := {}
  pending : List Nat := []
  log : Array Event := #[]
deriving DecidableEq, Repr

/-- A step of extraction; what it has done stays done when it stops. -/
abbrev Extract (α : Type) := ExceptT Stop (StateM Extraction) α

namespace Extract

def note (event : Event) : Extract Unit :=
  modify fun state => { state with log := state.log.push event }

def registry : Extract Registry :=
  return (← get).registry

def changeRegistry (change : Registry → Registry) : Extract Unit :=
  modify fun state => { state with registry := change state.registry }

def tryRegistry {α : Type} (change : Registry → Option (Registry × α)) : Extract α := do
  match change (← registry) with
  | some (registry, value) =>
    changeRegistry fun _ => registry
    return value
  | none => throw .dangling

def register (identity : Identity) (symbol : Symbol) : Extract Nat := do
  note (.newSymbol symbol.kind identity)
  tryRegistry (·.add? identity symbol)

def addReferences (index : Nat) (targets : List Nat) : Extract Unit :=
  targets.forM fun target => tryRegistry fun registry =>
    (registry.addReference? ⟨index, target⟩).map (·, ())

def isPending (index : Nat) : Extract Bool :=
  return (← get).pending.contains index

/-- Runs a step with a symbol marked as pending, and takes the mark off again
however the step ends. -/
def whilePending {α : Type} (index : Nat) (step : Extract α) : Extract α := do
  modify fun state => { state with pending := index :: state.pending }
  let outcome ← ExceptT.lift step.run
  modify fun state => { state with pending := state.pending.erase index }
  liftExcept outcome

end Extract

end SymbolAtlas
