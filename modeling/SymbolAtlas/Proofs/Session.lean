import SymbolAtlas.Atlas
import SymbolAtlas.Proofs.Extract.Visit

/-! Sessions: everything that may happen to one registry from its beginning, in any
order. Units are read whole or in part, cursors are recorded and types resolved one
by one, and the registry goes back to marks taken before. -/

namespace SymbolAtlas

open Snapshot Extract

variable {atlas : Atlas} {snapshot : Snapshot}

namespace Atlas

def opening (atlas : Atlas) : Extraction :=
  { registry := atlas.registry, log := atlas.log }

def visited (atlas : Atlas) (snapshot : Snapshot) : Except Stop (Unit × Tally) × Extraction :=
  runFrom atlas.opening ((Walk.unit atlas.settings snapshot).run {})

theorem visited_proceeds (atlas : Atlas) (snapshot : Snapshot) (kept : Nat)
    (settled : atlas.registry.Settled kept []) :
    Proceeds snapshot [] atlas.opening ((Walk.unit atlas.settings snapshot).run {})
      fun _ registry => registry.Settled kept [] :=
  Walk.unit_goes atlas.settings snapshot kept atlas.opening {} (.idle rfl) settled

/-- The report on a unit, and the atlas that is left: with all that the unit has
brought, or back where it was. -/
def concluded (atlas : Atlas) (snapshot : Snapshot) :
    Except Stop (Unit × Tally) × Extraction → Except Stop UnitReport × Atlas
  | (.ok (_, tally), state) =>
    let report : UnitReport := {
      file := ⟨snapshot.root.spelling⟩
      visited := tally.visited
      newSymbols := state.registry.size - atlas.registry.size
      unresolved := state.registry.unresolved.size - atlas.registry.unresolved.size
      skipped := tally.skipped }
    let event := Event.parsed snapshot.root.spelling report.newSymbols report.unresolved
    (.ok report, { atlas with registry := state.registry, log := state.log.push event })
  | (.error stop, state) =>
    let log :=
      match stop with
      | .error error => state.log.push (.aborted snapshot.root.spelling error)
      | .dangling | .exhausted => state.log
    (.error stop, { atlas with registry := state.registry.rollback atlas.registry.mark, log })

theorem parseUnit_eq (atlas : Atlas) (snapshot : Snapshot) :
    atlas.parseUnit snapshot = atlas.concluded snapshot (atlas.visited snapshot) :=
  rfl

theorem settings_parseUnit (atlas : Atlas) (snapshot : Snapshot) :
    (atlas.parseUnit snapshot).2.settings = atlas.settings := by
  rw [parseUnit_eq]
  unfold concluded
  split <;> rfl

theorem reported {report : UnitReport} {after : Atlas} {post : Unit × Tally → Registry → Prop}
    (run : Proceeds snapshot [] atlas.opening ((Walk.unit atlas.settings snapshot).run {}) post)
    (read : atlas.parseUnit snapshot = (.ok report, after)) :
    Steps snapshot [] atlas.registry after.registry ∧ after.settings = atlas.settings ∧
      post ((), ⟨report.visited, report.skipped⟩) after.registry ∧
      report.newSymbols = after.registry.size - atlas.registry.size ∧
      report.unresolved = after.registry.unresolved.size - atlas.registry.unresolved.size := by
  obtain ⟨⟨steps, -⟩, ends⟩ := run
  rw [parseUnit_eq, visited] at read
  revert read steps ends
  cases runFrom atlas.opening ((Walk.unit atlas.settings snapshot).run {}) with
  | mk outcome state =>
    intro read ends steps
    cases outcome with
    | error stop => cases read
    | ok value =>
      cases read
      exact ⟨steps, rfl, ends, rfl, rfl⟩

def noticed (atlas : Atlas) (file : Path) (arguments : List String) : Atlas :=
  if arguments.isEmpty then atlas
  else { atlas with log := atlas.log.push (.argumentsIgnored file.text arguments.length) }

theorem registry_noticed (atlas : Atlas) (file : Path) (arguments : List String) :
    (atlas.noticed file arguments).registry = atlas.registry := by
  unfold noticed
  split <;> rfl

theorem settings_noticed (atlas : Atlas) (file : Path) (arguments : List String) :
    (atlas.noticed file arguments).settings = atlas.settings := by
  unfold noticed
  split <;> rfl

theorem parseFile_eq (atlas : Atlas) (file : Path) (contents : Except ReadFailure String)
    (arguments : List String) :
    atlas.parseFile file contents arguments =
      let opened := atlas.noticed file arguments
      match contents with
      | .error failure => (.error (.error (.read failure)), opened)
      | .ok text =>
        match Snapshot.parse text with
        | .error error => (.error (.error error), opened)
        | .ok snapshot =>
          ((opened.parseUnit snapshot).1.map fun report => { report with file },
            (opened.parseUnit snapshot).2) :=
  rfl

/-- A unit is recorded whole, or it fails with an error that aborts it and the
registry goes back to where it was marked. -/
inductive Reads (atlas : Atlas) (snapshot : Snapshot) : Except Stop UnitReport × Atlas → Prop
  | done {report : UnitReport} {after : Atlas}
      (steps : Steps snapshot [] atlas.registry after.registry)
      (settled : ∀ kept, atlas.registry.Settled kept [] → after.registry.Settled kept []) :
      Reads atlas snapshot (.ok report, after)
  | aborted {error : Error} {reached : Registry} {after : Atlas} (fatal : error.isFatal)
      (steps : Steps snapshot [] atlas.registry reached)
      (undone : after.registry = reached.rollback atlas.registry.mark) :
      Reads atlas snapshot (.error (.error error), after)

theorem reads_parseUnit (atlas : Atlas) (snapshot : Snapshot) :
    Reads atlas snapshot (atlas.parseUnit snapshot) := by
  have run := atlas.visited_proceeds snapshot atlas.registry.size (Registry.settled_size _ _)
  have keeps := fun kept settled => (atlas.visited_proceeds snapshot kept settled).ends
  rw [parseUnit_eq]
  unfold visited
  obtain ⟨⟨steps, -⟩, ends⟩ := run
  revert steps ends keeps
  cases runFrom atlas.opening ((Walk.unit atlas.settings snapshot).run {}) with
  | mk outcome state =>
    intro keeps ends steps
    cases outcome with
    | ok value => exact .done steps keeps
    | error stop =>
      obtain ⟨error, rfl, fatal⟩ := ends
      exact .aborted fatal steps rfl

end Atlas

inductive Operation where
  | parse (settings : Settings) (snapshot : Snapshot)
  | record (settings : Settings) (snapshot : Snapshot) (cursor : snapshot.Cursor)
  | resolve (settings : Settings) (snapshot : Snapshot) (type : snapshot.TypeRef)
  | mark
  /-- Goes back to the mark taken so many marks ago; later marks are void. -/
  | rollback (ago : Nat)

/-- The unit that an operation reads from, if it does. -/
def Operation.unit? : Operation → Option Snapshot
  | .parse _ snapshot | .record _ snapshot _ | .resolve _ snapshot _ => some snapshot
  | .mark | .rollback _ => none

/-- A registry in use, with the marks that it may go back to, latest first. -/
structure Session where
  registry : Registry := {}
  marks : List Mark := []
  log : Array Event := #[]

namespace Session

def resume (session : Session) (state : Extraction) : Session :=
  { session with registry := state.registry, log := state.log }

def step (session : Session) : Operation → Session
  | .parse settings snapshot =>
    let atlas : Atlas := { settings, registry := session.registry, log := session.log }
    let after := (atlas.parseUnit snapshot).2
    { session with registry := after.registry, log := after.log }
  | .record settings _ cursor =>
    let start : Extraction := { registry := session.registry, log := session.log }
    session.resume (runFrom start (Extract.record settings cursor)).2
  | .resolve settings _ type =>
    let start : Extraction := { registry := session.registry, log := session.log }
    session.resume (runFrom start (Extract.resolve settings type)).2
  | .mark => { session with marks := session.registry.mark :: session.marks }
  | .rollback ago =>
    match session.marks.drop ago with
    | [] => session
    | mark :: older =>
      { session with registry := session.registry.rollback mark, marks := mark :: older }

def run (operations : List Operation) : Session :=
  operations.foldl step {}

/-- What an operation may come to. -/
inductive Moves (session : Session) (operation : Operation) (after : Session) : Prop
  | onward {snapshot : Snapshot} (own : operation.unit? = some snapshot)
      (steps : Steps snapshot [] session.registry after.registry)
      (marks : after.marks = session.marks)
  | aborted {snapshot : Snapshot} {reached : Registry} (own : operation.unit? = some snapshot)
      (steps : Steps snapshot [] session.registry reached)
      (undone : after.registry = reached.rollback session.registry.mark)
      (marks : after.marks = session.marks)
  | marked (own : operation = .mark) (registry : after.registry = session.registry)
      (marks : after.marks = session.registry.mark :: session.marks)
  | returned {ago : Nat} {mark : Mark} {older : List Mark} (own : operation = .rollback ago)
      (left : session.marks.drop ago = mark :: older)
      (undone : after.registry = session.registry.rollback mark)
      (marks : after.marks = mark :: older)
  | unmarked {ago : Nat} (own : operation = .rollback ago) (left : session.marks.drop ago = [])
      (same : after = session)

theorem moves_step (session : Session) (operation : Operation) :
    session.Moves operation (session.step operation) := by
  cases operation with
  | parse settings snapshot =>
    have reads := Atlas.reads_parseUnit ⟨settings, session.registry, session.log⟩ snapshot
    simp only [step]
    revert reads
    cases Atlas.parseUnit ⟨settings, session.registry, session.log⟩ snapshot with
    | mk outcome after =>
      intro reads
      cases reads with
      | done made settled => exact .onward rfl made rfl
      | aborted fatal made undone => exact .aborted rfl made undone rfl
  | record settings snapshot cursor =>
    have run := records_record settings _ ⟨session.registry, [], session.log⟩ cursor (.idle rfl)
      (Registry.settled_size _ _)
    exact .onward rfl run.advances.steps rfl
  | resolve settings snapshot type =>
    have run := resolves_resolve settings _ ⟨session.registry, [], session.log⟩ type (.idle rfl)
      (Registry.settled_size _ _)
    exact .onward rfl run.advances.steps rfl
  | mark => exact .marked rfl rfl rfl
  | rollback ago =>
    simp only [step]
    split
    · rename_i left
      exact .unmarked rfl left rfl
    · rename_i mark older left
      exact .returned rfl left rfl rfl

variable (invariant : Registry → Prop)

private theorem step_keeps
    (steps : ∀ snapshot before after, Step snapshot [] before after → invariant before →
      invariant after)
    (rollback : ∀ registry mark, invariant registry → invariant (registry.rollback mark))
    (session : Session) (operation : Operation) (holds : invariant session.registry) :
    invariant (session.step operation).registry := by
  cases session.moves_step operation with
  | onward own made => exact made.keep (steps _) holds
  | aborted own made undone =>
    rw [undone]
    exact rollback _ _ (made.keep (steps _) holds)
  | marked own registry => rwa [registry]
  | returned own left undone =>
    rw [undone]
    exact rollback _ _ holds
  | unmarked own left same => rwa [same]

/-- What holds of the empty registry and is kept by every registry step and every
rollback holds throughout every session. -/
theorem run_keeps (empty : invariant {})
    (steps : ∀ snapshot before after, Step snapshot [] before after → invariant before →
      invariant after)
    (rollback : ∀ registry mark, invariant registry → invariant (registry.rollback mark))
    (operations : List Operation) : invariant (run operations).registry := by
  unfold run
  induction operations using List.reverseRecOn with
  | nil => exact empty
  | append_singleton earlier operation ih =>
    rw [List.foldl_append]
    exact step_keeps invariant steps rollback _ operation ih

theorem everywhere_run {law : Symbol → Prop} (lasts : Symbol.Lasts law)
    (operations : List Operation) : (run operations).registry.Everywhere law := by
  refine run_keeps (Registry.Everywhere law) ?_ ?_ ?_ operations
  · exact fun index symbol present => by simp [Registry.get?] at present
  · exact fun snapshot before after step holds => step.everywhere lasts holds
  · exact fun registry mark holds => holds.rollback lasts mark

end Session

end SymbolAtlas
