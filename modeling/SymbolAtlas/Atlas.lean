import SymbolAtlas.Extract.Walk

/-! The atlas: one registry that translation units are read into one after
another. -/

namespace SymbolAtlas

structure UnitReport where
  file : Path
  visited : UInt64
  newSymbols : Nat
  unresolved : Nat
  skipped : UInt64
deriving DecidableEq, Repr

structure Atlas where
  settings : Settings := {}
  registry : Registry := {}
  log : Array Event := #[]
deriving DecidableEq, Repr

namespace Atlas

/-- Records every declaration of a unit. An error leaves the symbols of earlier
units as they were. -/
def parseUnit (atlas : Atlas) (snapshot : Snapshot) : Except Stop UnitReport × Atlas :=
  let file := snapshot.root.spelling
  let before := atlas.registry
  let walk := (Walk.unit atlas.settings snapshot).run {}
  match walk.run.run { registry := before, log := atlas.log } with
  | (.ok (_, tally), state) =>
    let report : UnitReport := {
      file := ⟨file⟩
      visited := tally.visited
      newSymbols := state.registry.size - before.size
      unresolved := state.registry.unresolved.size - before.unresolved.size
      skipped := tally.skipped }
    let event := Event.parsed file report.newSymbols report.unresolved
    (.ok report, { atlas with registry := state.registry, log := state.log.push event })
  | (.error stop, state) =>
    let log :=
      match stop with
      | .error error => state.log.push (.aborted file error)
      | .dangling | .exhausted => state.log
    (.error stop, { atlas with registry := state.registry.rollback before.mark, log })

/-- Reads the contents of a file as a snapshot and records it. Snapshots have
been parsed before, so compiler arguments have no effect on them. -/
def parseFile (atlas : Atlas) (file : Path) (contents : Except ReadFailure String)
    (arguments : List String) : Except Stop UnitReport × Atlas :=
  let atlas :=
    if arguments.isEmpty then atlas
    else { atlas with log := atlas.log.push (.argumentsIgnored file.text arguments.length) }
  match contents with
  | .error failure => (.error (.error (.read failure)), atlas)
  | .ok text =>
    match Snapshot.parse text with
    | .error error => (.error (.error error), atlas)
    | .ok snapshot =>
      let (outcome, atlas) := atlas.parseUnit snapshot
      (outcome.map fun report => { report with file }, atlas)

end Atlas

end SymbolAtlas
