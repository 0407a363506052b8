import SymbolAtlas.Proofs.Extract.Measure
import SymbolAtlas.Proofs.Registry.Mirror
import SymbolAtlas.Proofs.Session.Growth
import SymbolAtlas.Proofs.Session.Interning

/-! What the report on a unit counts: routes down the unit, new identities and new
entries about cursors without a symbol. No cursor that is counted is lost. -/

namespace SymbolAtlas

open Snapshot Extract

namespace Walk

variable {snapshot : Snapshot}

/-- The routes that the walk over a unit goes to cursors of some sort. -/
def routesTo (settings : Settings) (snapshot : Snapshot) (wanted : snapshot.Cursor → Bool) :
    Set (List Nat) :=
  {positions | positions.length ≤ max 1 settings.maxDepth ∧
    ∃ cursor, Route settings snapshot.root positions cursor ∧ wanted cursor}

private theorem ncard_routesTo (settings : Settings) (wanted : snapshot.Cursor → Bool) :
    (routesTo settings snapshot wanted).ncard = (reached settings snapshot).countP wanted := by
  have once := nodup_stations settings (settings.maxDepth - 1) snapshot.root
  have listed : routesTo settings snapshot wanted = {positions | positions ∈
      ((stations settings (settings.maxDepth - 1) snapshot.root).filter (wanted ·.cursor)).map
        Station.positions} := by
    ext positions
    simp only [routesTo, Set.mem_ofPred_eq, List.mem_map, List.mem_filter, mem_stations_root]
    constructor
    · rintro ⟨short, cursor, route, sought⟩
      exact ⟨⟨positions, cursor⟩, ⟨⟨route, short⟩, sought⟩, rfl⟩
    · rintro ⟨station, ⟨⟨route, short⟩, sought⟩, rfl⟩
      exact ⟨short, station.cursor, route, sought⟩
  rw [listed, Registry.ncard_of_nodup ((List.filter_sublist.map _).nodup once), List.length_map,
    reached, List.countP_map, List.countP_eq_length_filter]
  rfl

end Walk

namespace Registry

variable {before after : Registry} {identity : Identity}

private theorem mem_identities {registry : Registry} :
    identity ∈ registry.identities ↔ (registry.find? identity).isSome := by
  rw [← not_iff_not, Bool.not_eq_true, Option.isSome_eq_false_iff, Option.isNone_iff_eq_none,
    find?_eq_none, identities]
  simp [List.mem_iff_getElem?]

private theorem Grows.identities (grown : before.Grows after) :
    before.identities <+: after.identities := by
  rw [List.prefix_iff_getElem?]
  intro index inside
  have bound : index < before.entries.size := by simpa [Registry.identities] using inside
  obtain ⟨later, found, same, -⟩ := grown index _ (Array.getElem?_eq_getElem bound)
  simp [Registry.identities, found, same]

private theorem Grows.ncard_added (grown : before.Grows after) (once : after.identities.Nodup) :
    {identity | before.find? identity = none ∧ (after.find? identity).isSome}.ncard =
      after.size - before.size := by
  -- the identities that are new are those behind the old ones
  obtain ⟨fresh, whole⟩ := grown.identities
  have sizes : before.size + fresh.length = after.size := by
    simpa [Registry.identities, Registry.size] using congrArg List.length whole
  rw [← whole, List.nodup_append] at once
  obtain ⟨-, unique, apart⟩ := once
  have added : {identity | before.find? identity = none ∧ (after.find? identity).isSome} =
      {identity | identity ∈ fresh} := by
    ext identity
    rw [Set.mem_ofPred_eq, Set.mem_ofPred_eq, ← Option.not_isSome_iff_eq_none, ← mem_identities,
      ← mem_identities, ← whole, List.mem_append]
    constructor
    · rintro ⟨unknown, known | new⟩
      · exact absurd known unknown
      · exact new
    · exact fun new => ⟨fun known => apart identity known identity new rfl, .inr new⟩
  rw [added, ncard_of_nodup unique, ← sizes, Nat.add_sub_cancel_left]

end Registry

/-- Machine words can count all that the walk over a unit leaves out or records. -/
structure Walk.Countable (settings : Settings) (snapshot : Snapshot) : Prop where
  skipped : (routesTo settings snapshot (leavesOut settings)).ncard < UInt64.size
  visited : (routesTo settings snapshot (takes settings)).ncard < UInt64.size

theorem Walk.countable_iff {settings : Settings} {snapshot : Snapshot} :
    Countable settings snapshot ↔ Holds settings {} (reached settings snapshot) := by
  constructor
  · rintro ⟨skipped, visited⟩
    rw [ncard_routesTo] at skipped visited
    exact ⟨by simpa using visited, by simpa using skipped⟩
  · rintro ⟨visited, skipped⟩
    constructor <;> rw [ncard_routesTo]
    · simpa using skipped
    · simpa using visited

namespace Atlas

variable {atlas : Atlas} {snapshot : Snapshot}

theorem visited_accounts (atlas : Atlas) (snapshot : Snapshot) :
    Proceeds snapshot [] atlas.opening ((Walk.unit atlas.settings snapshot).run {})
      fun value registry =>
        value.2.skipped =
            .ofNat (Walk.routesTo atlas.settings snapshot (Walk.leavesOut atlas.settings)).ncard ∧
          value.2.visited =
              .ofNat (Walk.routesTo atlas.settings snapshot (Walk.takes atlas.settings)).ncard ∧
            ∀ cursor : snapshot.Cursor, Walk.Visits atlas.settings cursor →
              Registry.Accounted atlas.settings atlas.registry registry cursor := by
  refine ((Walk.Accounts.additive snapshot atlas.settings).unit atlas.opening {} rfl).mono
    fun value final _ done => ?_
  obtain ⟨tallied, accounted⟩ := done
  rw [tallied, Walk.ncard_routesTo, Walk.ncard_routesTo]
  refine ⟨UInt64.zero_add _, UInt64.zero_add _, fun cursor visits => ?_⟩
  exact accounted cursor (Walk.mem_reached.2 visits.route) visits.taken

/-- A report counts as far as a machine word can. -/
theorem counts_of_read {report : UnitReport} {after : Atlas}
    (read : atlas.parseUnit snapshot = (.ok report, after)) :
    report.skipped.toNat = (Walk.routesTo atlas.settings snapshot
        (Walk.leavesOut atlas.settings)).ncard % UInt64.size ∧
      report.visited.toNat = (Walk.routesTo atlas.settings snapshot
        (Walk.takes atlas.settings)).ncard % UInt64.size := by
  obtain ⟨-, -, ⟨skipped, visited, -⟩, -⟩ := reported (atlas.visited_accounts snapshot) read
  exact ⟨(congrArg UInt64.toNat skipped).trans UInt64.toNat_ofNat',
    (congrArg UInt64.toNat visited).trans UInt64.toNat_ofNat'⟩

/-- Reads a unit with all counting checked: where a machine word is full, the walk stops. -/
def parseChecked (atlas : Atlas) (snapshot : Snapshot) (stop : Stop) :
    Except Stop UnitReport × Atlas :=
  atlas.concluded snapshot
    (runFrom atlas.opening ((Walk.unitChecked atlas.settings snapshot stop).run {}))

/-- What checks on counting may come to: the same as without them, or a stop. -/
inductive Watched (atlas : Atlas) (snapshot : Snapshot) (stop : Stop) : Prop
  | same (alike : atlas.parseChecked snapshot stop = atlas.parseUnit snapshot)
      (fits : ∀ report after, atlas.parseUnit snapshot = (.ok report, after) →
        Walk.Countable atlas.settings snapshot)
  | stopped (full : ¬ Walk.Countable atlas.settings snapshot)
      (ends : (atlas.parseChecked snapshot stop).1 = .error stop)

theorem watched (word : atlas.settings.maxDepth < UInt64.size) (snapshot : Snapshot)
    (stop : Stop) : atlas.Watched snapshot stop := by
  cases Walk.unit_checks word snapshot stop atlas.opening {} with
  | same alike fits =>
    have parsed : atlas.parseChecked snapshot stop = atlas.parseUnit snapshot := by
      rw [parseChecked, alike]
      rfl
    refine .same parsed fun report after read => ?_
    rw [parseUnit_eq, visited] at read
    cases ran : runFrom atlas.opening ((Walk.unit atlas.settings snapshot).run {}) with
    | mk outcome final =>
      rw [ran] at read
      cases outcome with
      | error stop => cases read
      | ok value => exact Walk.countable_iff.2 (fits value final ran).1
  | stopped full ends =>
    refine .stopped (fun counted => full (Walk.countable_iff.1 counted)) ?_
    rw [parseChecked]
    revert ends
    cases runFrom atlas.opening ((Walk.unitChecked atlas.settings snapshot stop).run {}) with
    | mk outcome final =>
      intro ends
      cases ends
      rfl

private theorem parseChecked_eq (word : atlas.settings.maxDepth < UInt64.size)
    (countable : Walk.Countable atlas.settings snapshot) (stop : Stop) :
    atlas.parseChecked snapshot stop = atlas.parseUnit snapshot := by
  cases atlas.watched word snapshot stop with
  | same alike fits => exact alike
  | stopped full ends => exact absurd countable full

end Atlas

namespace Session

/-- In every session, a report counts the routes to cursors that are left out and that are
recorded, as far as a machine word can, and what is new in the registry. Every cursor that is
recorded is accounted for in the end. Where counting is checked, the report is the same and
exact. -/
theorem unit_counted (operations : List Operation) (settings : Settings) (snapshot : Snapshot)
    (log : Array Event) (report : UnitReport) (after : Atlas) :
    let before := (run operations).registry
    let atlas : Atlas := ⟨settings, before, log⟩
    let skips := (Walk.routesTo settings snapshot (Walk.leavesOut settings)).ncard
    let visits := (Walk.routesTo settings snapshot (Walk.takes settings)).ncard
    (atlas.parseUnit snapshot = (.ok report, after) →
      report.skipped.toNat = skips % UInt64.size ∧
      report.visited.toNat = visits % UInt64.size ∧
      report.newSymbols = {identity | before.find? identity = none ∧
        (after.registry.find? identity).isSome}.ncard ∧
      (∃ added, after.registry.unresolved.toList = before.unresolved.toList ++ added ∧
        report.unresolved = added.length) ∧
      ∀ cursor : snapshot.Cursor, Walk.Visits settings cursor →
        Registry.Accounted settings before after.registry cursor) ∧
    (settings.maxDepth < UInt64.size → ∀ stop,
      atlas.parseChecked snapshot stop = (.ok report, after) →
        atlas.parseUnit snapshot = (.ok report, after) ∧
          report.skipped.toNat = skips ∧ report.visited.toNat = visits) := by
  intro before atlas skips visits
  refine ⟨fun read => ?_, fun word stop checked => ?_⟩
  · obtain ⟨skipped, visited⟩ := Atlas.counts_of_read read
    obtain ⟨steps, -, ⟨-, -, accounted⟩, newSymbols, unresolved⟩ :=
      Atlas.reported (atlas.visited_accounts snapshot) read
    have outlives : before.Outlives after.registry := steps.outlives
    have rooted : Rooted after.registry.seats :=
      steps.keep (fun _ _ step => step.rooted) (rooted_run operations)
    have added := outlives.grows.ncard_added (Registry.nodup_identities rooted)
    obtain ⟨entries, appended⟩ := outlives.logged
    have sizes : before.unresolved.size + entries.length = after.registry.unresolved.size := by
      simpa using congrArg List.length appended
    refine ⟨skipped, visited, newSymbols.trans added.symm, ⟨entries, appended.symm, ?_⟩, accounted⟩
    simp only [unresolved, atlas, ← sizes, Nat.add_sub_cancel_left]
  · cases atlas.watched word snapshot stop with
    | same alike fits =>
      have read := alike.symm.trans checked
      obtain ⟨skipped, visited⟩ := Atlas.counts_of_read read
      have countable := fits report after read
      exact ⟨read, skipped.trans (Nat.mod_eq_of_lt countable.skipped),
        visited.trans (Nat.mod_eq_of_lt countable.visited)⟩
    | stopped full ends =>
      rw [checked] at ends
      cases ends

/-- A scope that lists one of its declarations twice, next to a declaration of a header. -/
def repeated : Snapshot where
  raw := {
    mainFile := ⟨"m.cc"⟩
    cursors := #[{ kind := .translationUnit, children := [1, 3] },
      { RawCursor.named .namespaceDecl "N" with
        semanticParent := some 0, location := ⟨⟨"m.cc"⟩, 1, 1, 0⟩, children := [2, 2] },
      { RawCursor.named .structDecl "S" with
        semanticParent := some 1, location := ⟨⟨"m.cc"⟩, 2, 1, 9⟩ },
      { RawCursor.named .structDecl "T" with
        semanticParent := some 0, location := ⟨⟨"t.h"⟩, 1, 1, 0⟩ }] }
  checked := by rfl

def cursorRepeated (index : Fin 4) : repeated.Cursor :=
  ⟨index⟩

/-- The repeated declaration is visited on two routes and has one symbol. -/
theorem unit_counted_repeated :
    ∃ report after, Atlas.parseUnit ⟨{}, {}, #[]⟩ repeated = (.ok report, after) ∧
      (∀ stop, Atlas.parseChecked ⟨{}, {}, #[]⟩ repeated stop = (.ok report, after)) ∧
      (Walk.routesTo {} repeated (Walk.takes {})).ncard = 3 ∧
      (Walk.routesTo {} repeated (Walk.leavesOut {})).ncard = 1 ∧
      {identity | (after.registry.find? identity).isSome}.ncard = 2 ∧
      after.registry.Recorded (cursorRepeated 2) := by
  have read : (Atlas.parseUnit ⟨{}, {}, #[]⟩ repeated).1 = .ok ⟨⟨""⟩, 3, 2, 0, 1⟩ := by
    decide +kernel
  have countable : Walk.Countable {} repeated :=
    Walk.countable_iff.2 ⟨by decide +kernel, by decide +kernel⟩
  have checked := @Atlas.parseChecked_eq ⟨{}, {}, #[]⟩ repeated (by decide) countable
  have ended : Atlas.parseUnit ⟨{}, {}, #[]⟩ repeated =
      (.ok ⟨⟨""⟩, 3, 2, 0, 1⟩, (Atlas.parseUnit ⟨{}, {}, #[]⟩ repeated).2) := Prod.ext read rfl
  obtain ⟨counted, exactly⟩ := unit_counted [] {} repeated #[] _ _
  obtain ⟨-, -, newSymbols, -, accounted⟩ := counted ended
  obtain ⟨-, skipped, visited⟩ := exactly (by decide) .exhausted ((checked _).trans ended)
  have outer : repeated.root.children[0]? = some (cursorRepeated 1) := by decide +kernel
  have inner : (cursorRepeated 1).children[1]? = some (cursorRepeated 2) := by decide +kernel
  have route : Walk.Route {} repeated.root [0, 1] (cursorRepeated 2) :=
    .deeper outer (by decide +kernel) (.child inner)
  refine ⟨_, _, ended, fun stop => (checked stop).trans ended, visited.symm, skipped.symm, ?_, ?_⟩
  · simpa [run, Registry.find?] using newSymbols.symm
  · exact (accounted _ ⟨⟨[0, 1], route, by decide⟩, by decide +kernel⟩).recorded

end Session

end SymbolAtlas
