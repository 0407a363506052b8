import SymbolAtlas.Proofs.Extract.Blind
import SymbolAtlas.Proofs.Session.Abort

/-! Units that fail do not influence the others: the rest is read as if they had
not been there. -/

namespace SymbolAtlas

open Snapshot Extract

inductive Input where
  | unit (snapshot : Snapshot)
  | file (path : Path) (contents : Except ReadFailure String) (arguments : List String)

namespace Atlas

variable {atlas left right later : Atlas}

def read (atlas : Atlas) : Input → Except Stop UnitReport × Atlas
  | .unit snapshot => atlas.parseUnit snapshot
  | .file path contents arguments => atlas.parseFile path contents arguments

def readAll (atlas : Atlas) : List Input → List (Except Stop UnitReport) × Atlas
  | [] => ([], atlas)
  | input :: inputs =>
    let (outcome, later) := atlas.read input
    let (outcomes, last) := later.readAll inputs
    (outcome :: outcomes, last)

/-- Two atlases that differ in sightings and reports at most. -/
structure Alike (left right : Atlas) : Prop where
  settings : left.settings = right.settings
  core : left.registry.core = right.registry.core

private theorem parseUnit_alike (alike : left.Alike right) (snapshot : Snapshot) :
    (left.parseUnit snapshot).1 = (right.parseUnit snapshot).1 ∧
      (left.parseUnit snapshot).2.Alike (right.parseUnit snapshot).2 := by
  have seen := Walk.unit_unseeing left.settings snapshot {} left.opening right.opening
    ⟨alike.core, rfl⟩
  rw [parseUnit_eq, parseUnit_eq, visited, visited, ← alike.settings]
  revert seen
  cases runFrom left.opening ((Walk.unit left.settings snapshot).run {}) with
  | mk outcome final =>
    cases runFrom right.opening ((Walk.unit left.settings snapshot).run {}) with
    | mk answer reached =>
      rintro ⟨rfl, onward⟩
      have core : final.registry.core = reached.registry.core := onward.core
      cases outcome with
      | ok value =>
        refine ⟨?_, alike.settings, core⟩
        simp only [concluded, Registry.size_of_core core, Registry.size_of_core alike.core,
          Registry.unresolved_of_core core, Registry.unresolved_of_core alike.core]
      | error stop =>
        refine ⟨rfl, alike.settings, ?_⟩
        have marks : left.registry.mark = right.registry.mark :=
          (Registry.undone_of_core alike.core.symm).mark.symm
        simp only [concluded, Registry.core_rollback]
        rw [marks]
        rw [core]

private theorem parseFile_alike (alike : left.Alike right) (path : Path)
    (contents : Except ReadFailure String) (arguments : List String) :
    (left.parseFile path contents arguments).1 = (right.parseFile path contents arguments).1 ∧
      (left.parseFile path contents arguments).2.Alike
        (right.parseFile path contents arguments).2 := by
  have opened : (left.noticed path arguments).Alike (right.noticed path arguments) :=
    ⟨by rw [settings_noticed, settings_noticed, alike.settings],
      by rw [registry_noticed, registry_noticed, alike.core]⟩
  rw [parseFile_eq, parseFile_eq]
  simp only
  split
  · exact ⟨rfl, opened⟩
  · split
    · exact ⟨rfl, opened⟩
    · rename_i snapshot _
      obtain ⟨same, onward⟩ := parseUnit_alike opened snapshot
      exact ⟨by rw [same], onward⟩

private theorem read_alike (alike : left.Alike right) (input : Input) :
    (left.read input).1 = (right.read input).1 ∧
      (left.read input).2.Alike (right.read input).2 := by
  cases input with
  | unit snapshot => exact parseUnit_alike alike snapshot
  | file path contents arguments => exact parseFile_alike alike path contents arguments

/-- What an input leaves behind: the core as it was if it fails. -/
structure Leaves (atlas : Atlas) (outcome : Except Stop UnitReport) (later : Atlas) : Prop where
  settings : later.settings = atlas.settings
  anchored : later.registry.Anchored
  core : outcome.isOk = false → later.registry.core = atlas.registry.core

private theorem parseUnit_leaves (anchored : atlas.registry.Anchored) (snapshot : Snapshot) :
    atlas.Leaves (atlas.parseUnit snapshot).1 (atlas.parseUnit snapshot).2 := by
  have settings := atlas.settings_parseUnit snapshot
  have reads := atlas.reads_parseUnit snapshot
  revert settings reads
  cases parsed : atlas.parseUnit snapshot with
  | mk outcome later =>
    intro settings reads
    cases reads with
    | done steps =>
      exact ⟨settings, steps.keep (fun _ _ step => step.anchored) anchored, nofun⟩
    | aborted =>
      have same := (parseUnit_failure anchored parsed).2.core
      exact ⟨settings, anchored.of_core same, fun _ => same⟩

private theorem parseFile_leaves (anchored : atlas.registry.Anchored) (path : Path)
    (contents : Except ReadFailure String) (arguments : List String) :
    atlas.Leaves (atlas.parseFile path contents arguments).1
      (atlas.parseFile path contents arguments).2 := by
  have settings := atlas.settings_noticed path arguments
  have same := atlas.registry_noticed path arguments
  rw [← same] at anchored
  rw [parseFile_eq]
  simp only
  split
  · exact ⟨settings, anchored, fun _ => by rw [same]⟩
  · split
    · exact ⟨settings, anchored, fun _ => by rw [same]⟩
    · rename_i snapshot _
      obtain ⟨kept, firm, core⟩ := parseUnit_leaves anchored snapshot
      refine ⟨kept.trans settings, firm, fun failed => ?_⟩
      rw [← same]
      refine core ?_
      revert failed
      cases ((atlas.noticed path arguments).parseUnit snapshot).1 <;> exact id

private theorem read_leaves (anchored : atlas.registry.Anchored) (input : Input) :
    atlas.Leaves (atlas.read input).1 (atlas.read input).2 := by
  cases input with
  | unit snapshot => exact parseUnit_leaves anchored snapshot
  | file path contents arguments => exact parseFile_leaves anchored path contents arguments

def wellRead (inputs : List Input) (outcomes : List (Except Stop UnitReport)) : List Input :=
  ((inputs.zip outcomes).filter (·.2.isOk)).map Prod.fst

private theorem readAll_wellRead (alike : left.Alike right) (anchored : left.registry.Anchored)
    (inputs : List Input) :
    (right.readAll (wellRead inputs (left.readAll inputs).1)).1 =
        (left.readAll inputs).1.filter (·.isOk) ∧
      (left.readAll inputs).2.Alike
        (right.readAll (wellRead inputs (left.readAll inputs).1)).2 := by
  induction inputs generalizing left right with
  | nil => exact ⟨rfl, alike⟩
  | cons input inputs ih =>
    obtain ⟨settings, firm, core⟩ := read_leaves anchored input
    cases well : (left.read input).1.isOk with
    | false =>
      -- the input fails, and what it leaves is still like the other atlas
      have still : (left.read input).2.Alike right :=
        ⟨settings.trans alike.settings, (core well).trans alike.core⟩
      obtain ⟨outcomes, last⟩ := ih still firm
      simp only [readAll, wellRead, List.zip_cons_cons, List.filter_cons, well,
        Bool.false_eq_true, if_false]
      exact ⟨outcomes, last⟩
    | true =>
      obtain ⟨same, onward⟩ := read_alike alike input
      obtain ⟨outcomes, last⟩ := ih onward firm
      simp only [readAll, wellRead, List.zip_cons_cons, List.filter_cons, well, if_true,
        List.map_cons]
      rw [← same]
      exact ⟨congrArg _ outcomes, last⟩

/-- Whatever is read into a new atlas, without the inputs that fail every other one
gets the same report, and the registry comes to the same core. -/
theorem failures_isolated (settings : Settings) (inputs : List Input) :
    let full := ({ settings } : Atlas).readAll inputs
    let short := ({ settings } : Atlas).readAll (wellRead inputs full.1)
    short.1 = full.1.filter (·.isOk) ∧ short.2.registry.core = full.2.registry.core := by
  have anchored : ({ settings } : Atlas).registry.Anchored := by simp [Registry.Anchored]
  obtain ⟨outcomes, last⟩ := readAll_wellRead ⟨rfl, rfl⟩ anchored inputs
  exact ⟨outcomes, last.core.symm⟩

end Atlas

end SymbolAtlas
