import SymbolAtlas.Proofs.Extract.Nesting
import SymbolAtlas.Proofs.Session

/-! Extraction comes to an end, however the declarations, types and children of a unit
refer to each other: its calls nest no deeper than a number that the unit gives. -/

namespace SymbolAtlas

open Snapshot Extract

variable {snapshot : Snapshot} {settings : Settings}

private theorem Extract.Ends.forget {α : Type} {post : α → Prop} {outcome : Except Stop α}
    (ends : Ends post outcome) : Ends (fun _ => True) outcome := by
  cases outcome with
  | ok value => trivial
  | error stop => exact ends

namespace Walk

/-- Two walks do the same wherever a completion may start. -/
def Matches (snapshot : Snapshot) (walk other : Walk Unit) : Prop :=
  ∀ start tally, Ready snapshot snapshot.raw.cursors.size start →
    runFrom start (walk.run tally) = runFrom start (other.run tally)

private theorem bind_matches {walk other : Walk Unit} {next further : Unit → Walk Unit}
    (first : Matches snapshot walk other) (goes : Goes snapshot other)
    (rest : Matches snapshot (next ()) (further ())) :
    Matches snapshot (walk >>= next) (other >>= further) := by
  intro start tally ready
  rw [StateT.run_bind, StateT.run_bind]
  have settled := start.registry.settled_size start.pending
  exact runFrom_bind_congr (first start tally ready) (goes _ start tally ready settled)
    fun value middle onward _ => rest middle value.2 (ready.advance onward)

private theorem record_matches {record : snapshot.Cursor → Extract (Option Nat)}
    {cursor : snapshot.Cursor}
    (same : Extract.Matches snapshot snapshot.raw.cursors.size (record cursor)
      (Extract.record settings cursor)) {next further : Option Nat → Walk Unit}
    (rest : ∀ symbol, Matches snapshot (next symbol) (further symbol)) :
    Matches snapshot (liftM (record cursor) >>= next)
      (liftM (Extract.record settings cursor) >>= further) := by
  intro start tally ready
  rw [StateT.run_bind, StateT.run_bind]
  have settled := start.registry.settled_size start.pending
  have run := records_record settings _ start cursor ready settled
  exact runFrom_bind_congr (runFrom_bind_left _ (same start ready)) (lift_proceeds run)
    fun value middle onward _ => rest value.1 middle value.2 (ready.advance onward)

private theorem forM_matches {visit other : snapshot.Cursor → Walk Unit}
    (cursors : List snapshot.Cursor)
    (each : ∀ cursor, Matches snapshot (visit cursor) (other cursor))
    (goes : ∀ cursor, Goes snapshot (other cursor)) :
    Matches snapshot (cursors.forM visit) (cursors.forM other) := by
  induction cursors with
  | nil => exact fun _ _ _ => rfl
  | cons cursor cursors ih => exact bind_matches (each cursor) (goes cursor) ih

private theorem visit_matches {record : snapshot.Cursor → Extract (Option Nat)}
    {descend other : snapshot.Cursor → Walk Unit}
    (records : ∀ cursor, Extract.Matches snapshot snapshot.raw.cursors.size (record cursor)
      (Extract.record settings cursor))
    (descends : ∀ cursor, Matches snapshot (descend cursor) (other cursor))
    (cursor : snapshot.Cursor) :
    Matches snapshot (visitBy record settings descend cursor) (visit settings other cursor) := by
  have down : Matches snapshot
      (if settings.walkScopes && cursor.kind.isScope then descend cursor else pure ())
      (if settings.walkScopes && cursor.kind.isScope then other cursor else pure ()) := by
    split
    · exact descends cursor
    · exact fun _ _ _ => rfl
  rw [visit_eq]
  unfold visitBy
  split
  · exact fun _ _ _ => rfl
  · split
    · exact fun _ _ _ => rfl
    · by_cases declared : cursor.isDeclaration || cursor.isDefinition
      · simp only [declared, if_true]
        refine bind_matches (fun _ _ _ => rfl) (modify_goes _) ?_
        exact record_matches (records cursor) fun _ => down
      · simp only [declared, Bool.false_eq_true, if_false]
        exact down

/-- The levels left to the walk of a unit are those that its depth limit leaves open. -/
theorem children_matches (room level depth : Nat) (left : settings.maxDepth - 1 - level = room)
    (deep : room + 1 + Calls.recordDepth snapshot ≤ depth) (parent : snapshot.Cursor) :
    Matches snapshot ((Calls.nested settings depth).children level parent)
      (children settings room parent) := by
  induction room generalizing level depth parent with
  | zero =>
    obtain ⟨depth, rfl⟩ : ∃ less, depth = less + 1 := ⟨depth - 1, by omega⟩
    have stays : settings.maxDepth ≤ level + 1 := by omega
    refine forM_matches _ (visit_matches (Calls.nested_record_matches settings (by omega)) ?_)
      (visit_goes fun scope => note_goes _)
    intro scope
    rw [if_pos stays]
    exact fun _ _ _ => rfl
  | succ room ih =>
    obtain ⟨depth, rfl⟩ : ∃ less, depth = less + 1 := ⟨depth - 1, by omega⟩
    have descends : ¬ settings.maxDepth ≤ level + 1 := by omega
    refine forM_matches _ (visit_matches (Calls.nested_record_matches settings (by omega)) ?_)
      (visit_goes (children_goes room))
    intro scope
    rw [if_neg descends]
    exact ih (level + 1) depth (by omega) (by omega) scope

end Walk

namespace Atlas

/-- How deep the calls of extraction may nest. Each level of a walk goes down to a scope;
from there on the calls follow outer cursors, types and symbols that are not pending yet. -/
def callDepth (settings : Settings) (snapshot : Snapshot) : Nat :=
  settings.maxDepth + 1 + snapshot.raw.types.size + Calls.recordDepth snapshot

private theorem ends_concluded {atlas : Atlas}
    {visited : Except Stop (Unit × Tally) × Extraction} {post : Unit × Tally → Prop}
    (ends : Ends post visited.1) : Ends (fun _ => True) (atlas.concluded snapshot visited).1 := by
  obtain ⟨outcome, state⟩ := visited
  cases outcome with
  | ok value => trivial
  | error stop => exact ends

/-- Reading a unit, recording a cursor and resolving a type come to an end from every registry,
with a value or an error that aborts a unit. The calls nest no deeper than the unit and the depth
limit allow: a limit on nesting, at that number or above, changes nothing. -/
theorem extraction_ends (settings : Settings) (snapshot : Snapshot) (registry : Registry)
    (log : Array Event) (more : Nat) :
    let atlas : Atlas := { settings, registry, log }
    let calls := Calls.nested settings (callDepth settings snapshot + more)
    (∀ cursor : snapshot.Cursor,
      runFrom atlas.opening (calls.record cursor) =
        runFrom atlas.opening (record settings cursor) ∧
      Ends (fun _ => True) (runFrom atlas.opening (record settings cursor)).1) ∧
    (∀ type : snapshot.TypeRef,
      runFrom atlas.opening (calls.resolve type) =
        runFrom atlas.opening (resolve settings type) ∧
      Ends (fun _ => True) (runFrom atlas.opening (resolve settings type)).1) ∧
    atlas.concluded snapshot (runFrom atlas.opening ((calls.children 0 snapshot.root).run {})) =
        atlas.parseUnit snapshot ∧
      Ends (fun _ => True) (atlas.parseUnit snapshot).1 := by
  intro atlas calls
  have idle : Ready snapshot snapshot.raw.cursors.size atlas.opening := .idle rfl
  have settled : atlas.opening.registry.Settled registry.size [] := registry.settled_size _
  have walked := Walk.children_matches (settings.maxDepth - 1) 0 (callDepth settings snapshot + more)
    rfl (by unfold callDepth; omega) snapshot.root atlas.opening {} idle
  refine ⟨fun cursor => ⟨?_, ?_⟩, fun type => ⟨?_, ?_⟩, ?_, ?_⟩
  · exact Calls.nested_record_matches settings (by unfold callDepth; omega) cursor _ idle
  · exact (records_record settings _ _ cursor idle settled).ends.forget
  · exact Calls.nested_resolve_matches settings (by unfold callDepth; omega) type _ idle
  · exact (resolves_resolve settings _ _ type idle settled).ends.forget
  · rw [parseUnit_eq, walked]
    rfl
  · rw [parseUnit_eq]
    exact ends_concluded (visited_proceeds atlas snapshot _ settled).ends

/-- A namespace that is its own child, twice. -/
def looping : Snapshot where
  raw := {
    mainFile := ⟨"m.cpp"⟩
    cursors := #[{ kind := .translationUnit, children := [1] },
      { RawCursor.named .namespaceDecl "N" with semanticParent := some 0, children := [1, 1] }]
    types := #[] }
  checked := by rfl

/-- The depth limit ends the walk, after one visit, two and four. -/
example : ((parseUnit { settings := { Settings.headersToo with maxDepth := 3 } } looping).1.map
    UnitReport.visited) = .ok 7 := by
  decide +kernel

end Atlas

end SymbolAtlas
