import SymbolAtlas.Proofs.Extract.Refusal
import SymbolAtlas.Proofs.Session.Coherence

/-! Declarations in a scope without a part. They have the identity of a declaration
outside of any scope, and recording them depends on whether that one is known. -/

namespace SymbolAtlas.Session

open Snapshot Extract

/-- A named cursor somewhere in a scope without a part is refused, unless the part of the
stray cursor by itself is an identity that is known. In that case the cursor is taken for
the symbol of that identity or put below it, though that symbol is none of the scope. -/
theorem stray_refused (operations : List Operation) (settings : Settings) (log : Array Event)
    {snapshot : Snapshot} (cursor scope : snapshot.Cursor) (named : cursor.part.isEmpty = false)
    (around : Relation.TransGen (fun one other => one.outer? = some other) cursor scope)
    (empty : scope.part.isEmpty) :
    let start : Extraction := { registry := (run operations).registry, log }
    let outcome := (runFrom start (record settings cursor)).1
    let final := (runFrom start (record settings cursor)).2.registry
    ∃ stray nearest, Strays cursor stray nearest ∧
      match start.registry.find? (.ofPart stray.part) with
      | none =>
        outcome = .error (.error (.missingParent stray.spelling stray.location)) ∧
          final = start.registry.logUnresolved nearest.spelling nearest.location
      | some outside =>
        outcome ≠ .ok none ∧ ∀ index, outcome = .ok (some index) →
          Relation.ReflTransGen (fun inner outer => final.parent? inner = some outer)
            index outside := by
  intro start outcome final
  obtain ⟨stray, nearest, strays⟩ := exists_strays named around empty
  refine ⟨stray, nearest, strays, ?_⟩
  have rooted : Rooted start.registry.seats := rooted_run operations
  cases known : start.registry.find? (.ofPart stray.part) with
  | none =>
    obtain ⟨log, ran⟩ := strays.refused (complete settings) rooted known
    have same : runFrom start (record settings cursor) = _ := ran
    exact ⟨congrArg Prod.fst same, congrArg (·.2.registry) same⟩
  | some outside =>
    obtain ⟨advances, ends⟩ : Proceeds snapshot [] start (record settings cursor)
        fun symbol registry => registry.Answers cursor symbol := record_proceeds settings cursor rfl
    change Ends (final.Answers cursor) outcome at ends
    have rooted : Rooted final.seats :=
      advances.steps.keep (fun _ _ step rooted => step.rooted rooted) rooted
    constructor
    · intro unnamed
      rw [unnamed] at ends
      cases ends with
      | unnamed blank =>
        rw [named] at blank
        cases blank
    · intro index recorded
      rw [recorded] at ends
      cases ends with
      | known _ found =>
        obtain ⟨outermost, present, up⟩ := strays.contained rooted found
        have kept : final.find? (.ofPart stray.part) = some outside := advances.grows.find? known
        rw [kept] at present
        cases present
        exact up

/-- A record, and another one of the same name in a union with a record inside. -/
def shadowed : Snapshot where
  raw := {
    mainFile := ⟨"m.c"⟩
    cursors := #[{ kind := .translationUnit, children := [1, 2] },
      { RawCursor.named .structDecl "A" with semanticParent := some 0 },
      { RawCursor.named .unionDecl "U" with semanticParent := some 0, children := [3] },
      { RawCursor.named .structDecl "A" with semanticParent := some 2, children := [4] },
      { RawCursor.named .structDecl "B" with semanticParent := some 3 }] }
  checked := by rfl

namespace Shadowed

def outside : shadowed.Cursor :=
  ⟨1, by decide⟩

def union : shadowed.Cursor :=
  ⟨2, by decide⟩

def inUnion : shadowed.Cursor :=
  ⟨3, by decide⟩

def innermost : shadowed.Cursor :=
  ⟨4, by decide⟩

private theorem innermost_around :
    Relation.TransGen (fun one other => one.outer? = some other) innermost union :=
  .tail (.single (b := inUnion) (by decide)) (by decide)

private theorem eq_of_strays {stray nearest : shadowed.Cursor}
    (strays : Strays innermost stray nearest) : stray = inUnion ∧ nearest = union := by
  have first : innermost.outer? = some inUnion := by decide
  have second : inUnion.outer? = some union := by decide
  have named : inUnion.part.isEmpty = false := by decide
  have blank : union.part.isEmpty = true := by decide
  cases strays with
  | here _ nested empty =>
    rw [first] at nested
    cases nested
    rw [named] at empty
    cases empty
  | further _ nested strays =>
    rw [first] at nested
    cases nested
    cases strays with
    | here _ nested _ =>
      rw [second] at nested
      cases nested
      exact ⟨rfl, rfl⟩
    | further _ nested strays =>
      rw [second] at nested
      cases nested
      rw [strays.named] at blank
      cases blank

end Shadowed

open Shadowed

/-- By itself the innermost record is refused. Once the record outside of the union is
known, it is put below that one. -/
theorem stray_refused_shadowed :
    let known : Extraction := { registry := (run [.record {} shadowed outside]).registry }
    let alone := runFrom {} (record {} innermost)
    let after := runFrom known (record {} innermost)
    alone.1 = .error (.error (.missingParent "A" .absent)) ∧
      alone.2.registry = Registry.logUnresolved {} "U" .absent ∧
      after.1 = .ok (some 1) ∧ Relation.ReflTransGen
        (fun inner outer => after.2.registry.parent? inner = some outer) 1 0 := by
  intro known alone after
  have named : innermost.part.isEmpty = false := by decide
  have empty : union.part.isEmpty := by decide
  obtain ⟨stray, nearest, strays, refused⟩ :=
    stray_refused [] {} #[] innermost union named innermost_around empty
  obtain ⟨stray', nearest', strays', mistaken⟩ := stray_refused
    [.record {} shadowed outside] {} #[] innermost union named innermost_around empty
  obtain ⟨rfl, rfl⟩ := eq_of_strays strays
  obtain ⟨rfl, rfl⟩ := eq_of_strays strays'
  have fresh : (run []).registry.find? (.ofPart inUnion.part) = none := by decide +kernel
  have found : (run [.record {} shadowed outside]).registry.find? (.ofPart inUnion.part) =
      some 0 := by
    decide +kernel
  have recorded : after.1 = .ok (some 1) := by decide +kernel
  simp only [fresh] at refused
  simp only [found] at mistaken
  exact ⟨refused.1, refused.2, recorded, mistaken.2 1 recorded⟩

end SymbolAtlas.Session
