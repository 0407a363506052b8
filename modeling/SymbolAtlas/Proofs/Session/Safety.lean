import SymbolAtlas.Proofs.Session.Coherence
import SymbolAtlas.Proofs.Session.Counting
import SymbolAtlas.Proofs.Session.Growth
import SymbolAtlas.Proofs.Session.Mirror
import SymbolAtlas.Proofs.Snapshot.Acceptance

/-! Reading a unit asks for nothing that is not there: no cursor or type out of range, no index
without a symbol, no difference below zero and no level that a machine word cannot count. -/

namespace SymbolAtlas

open Snapshot Extract Relation

variable {snapshot : Snapshot} {settings : Settings}

namespace Registry

variable {registry before after : Registry}

/-- One call to a registry, in which all indices are those of symbols. -/
inductive Touches (registry : Registry) : Registry → Prop
  | logged (name : String) (location : Location) :
      registry.Touches (registry.logUnresolved name location)
  | sighted {index : Nat} (inside : index < registry.size) (sighting : Sighting) :
      registry.Touches (registry.update index (·.sight sighting))
  | added {identity : Identity} {symbol : Symbol} {later : Registry} {index : Nat}
      (inside : ∀ parent ∈ symbol.parent, parent < registry.size)
      (made : registry.add? identity symbol = some (later, index)) : registry.Touches later
  | filled {index : Nat} (inside : index < registry.size) (detail : Detail) :
      registry.Touches ((registry.update index (·.fill detail)).markResolved index)
  | linked {edge : Edge} {later : Registry} (inside : within registry.size edge)
      (made : registry.addReference? edge = some later) : registry.Touches later

/-- All indices that a registry holds are those of its symbols. -/
structure Sealed (registry : Registry) : Prop where
  found : ∀ identity index, registry.find? identity = some index → index < registry.size
  parents : ∀ index parent, registry.parent? index = some parent → parent < registry.size
  mentions : ∀ index other, registry.Mentions index other → other < registry.size
  edges : registry.Anchored

private theorem touches_linkAll {index : Nat} (targets : List Nat) (source : index < registry.size)
    (inside : ∀ target ∈ targets, target < registry.size) :
    ReflTransGen Touches registry (registry.linkAll index targets) := by
  induction targets generalizing registry with
  | nil => exact .refl
  | cons target targets ih =>
    obtain ⟨first, rest⟩ := List.forall_mem_cons.mp inside
    have joined : within registry.size ⟨index, target⟩ := by simp [within, source, first]
    refine .head (.linked joined (addReference?_eq_link source first)) ?_
    exact ih (by simpa using source) (by simpa using rest)

end Registry

private theorem Extract.Step.touches {spared : List Nat} {before after : Registry}
    (step : Step snapshot spared before after) : ReflTransGen Registry.Touches before after := by
  cases step with
  | logged cursor => exact .single (.logged cursor.spelling cursor.location)
  | sighted cursor index found =>
    exact .single (.sighted (Registry.lt_size_of_find? found) cursor.sighting)
  | registered cursor kind parent named fresh sort enclosed =>
    have inside : ∀ outer ∈ parent, outer < before.size := by
      rintro outer rfl
      exact enclosed.lt_size
    exact .single (.added inside (Registry.add?_eq_enter fresh inside))
  | completed cursor index symbol detail found present waiting idle portrayed =>
    have inside := Registry.lt_size_of_find? found
    exact .head (.filled inside detail) (Registry.touches_linkAll detail.symbols
      (by simpa using inside) (by simpa using portrayed.lt_size))

private theorem Extract.Steps.touches {spared : List Nat} {before after : Registry}
    (steps : Steps snapshot spared before after) : ReflTransGen Registry.Touches before after := by
  induction steps with
  | refl => exact .refl
  | tail _ step ih => exact ih.trans step.touches

namespace Atlas

variable {atlas : Atlas}

/-- A unit is read whole or it fails with an error, and what has been done to the registry by
then touches nothing but symbols. The differences in a report do not go below zero. -/
inductive Safe (atlas : Atlas) : Except Stop UnitReport × Atlas → Prop
  | done {report : UnitReport} {after : Atlas}
      (calls : ReflTransGen Registry.Touches atlas.registry after.registry)
      (symbols : atlas.registry.size + report.newSymbols = after.registry.size)
      (unresolved : atlas.registry.unresolved.size + report.unresolved =
        after.registry.unresolved.size) :
      Safe atlas (.ok report, after)
  | aborted {error : Error} {reached : Registry} {after : Atlas} (fatal : error.isFatal)
      (calls : ReflTransGen Registry.Touches atlas.registry reached)
      (undone : after.registry = reached.rollback atlas.registry.mark) :
      Safe atlas (.error (.error error), after)

private theorem safe_parseUnit (atlas : Atlas) (snapshot : Snapshot) :
    atlas.Safe (atlas.parseUnit snapshot) := by
  have run := atlas.visited_proceeds snapshot atlas.registry.size (Registry.settled_size _ _)
  have reads := atlas.reads_parseUnit snapshot
  cases outcome : atlas.parseUnit snapshot with
  | mk result after =>
    rw [outcome] at reads
    cases reads with
    | done steps =>
      obtain ⟨-, -, -, symbols, unresolved⟩ := reported run outcome
      have outlives := steps.outlives
      have logged := outlives.logged.length_le
      simp only [Array.length_toList] at logged
      refine .done steps.touches ?_ ?_
      · rw [symbols, Nat.add_sub_cancel' outlives.grows.size_le]
      · rw [unresolved, Nat.add_sub_cancel' logged]
    | aborted fatal steps undone => exact .aborted fatal steps.touches undone

end Atlas

namespace Session

private theorem sealed_run (operations : List Operation) : (run operations).registry.Sealed := by
  have coherent := Registry.coherent_of_rooted (rooted_run operations)
  exact ⟨coherent.inside, fun index parent linked => (coherent.nested index parent linked).1,
    (mirrored_run operations).inside, anchored_run operations⟩

/-- Reading an accepted unit into the registry of a session reaches nothing that has no result:
handles lead to nodes, calls to the registry are made at symbols, no difference is below zero,
and levels fit into a machine word. Checks on counting stop nothing that a word can count. -/
theorem reading_is_safe (operations : List Operation) (settings : Settings) (snapshot : Snapshot)
    (word : settings.maxDepth < UInt64.size) :
    let session := run operations
    let atlas : Atlas := { settings, registry := session.registry, log := session.log }
    (∀ cursor : snapshot.Cursor, cursor.Faithful) ∧
      (∀ type : snapshot.TypeRef, type.Faithful ∧
        ∀ written ∈ type.data?, written.kind.resolve? = some type.kind) ∧
      session.registry.Sealed ∧ (atlas.parseUnit snapshot).2.registry.Sealed ∧
      atlas.Safe (atlas.parseUnit snapshot) ∧
      (∀ overflow : snapshot.Cursor → Walk Unit,
        Walk.measured (Walk.arrive settings) settings overflow 0 snapshot.root =
          Walk.unit settings snapshot) ∧
      ∀ stop, atlas.Watched snapshot stop := by
  intro session atlas
  refine ⟨Cursor.faithful, fun type => ⟨type.faithful, fun written => TypeRef.resolve?_eq_kind⟩,
    sealed_run operations, ?_, atlas.safe_parseUnit snapshot, Walk.measured_eq_unit word,
    atlas.watched word snapshot⟩
  have onward := sealed_run (operations ++ [.parse settings snapshot])
  rw [run, List.foldl_append] at onward
  exact onward

/-- With the largest limit there is, after a unit that failed, one more symbol is read, and
checks on counting find nothing. -/
theorem reading_is_safe_widest :
    let settings : Settings := { Settings.headersToo with maxDepth := UInt64.size - 1 }
    let session := run [.parse .headersToo announced, .parse .headersToo defective]
    let atlas : Atlas := { settings, registry := session.registry, log := session.log }
    let after := (atlas.parseUnit linked).2
    settings.maxDepth < UInt64.size ∧ session.registry.Sealed ∧
      (∃ report, (atlas.parseUnit linked).1 = .ok report ∧ report.newSymbols = 1 ∧
        session.registry.size + report.newSymbols = after.registry.size) ∧
      Walk.measured (Walk.arrive settings) settings (fun _ => throw .exhausted) 0 linked.root =
        Walk.unit settings linked ∧
      ∀ stop, atlas.parseChecked linked stop = atlas.parseUnit linked := by
  intro settings session atlas after
  have word : settings.maxDepth < UInt64.size := by decide
  obtain ⟨-, -, closed, -, safe, counts, watched⟩ := reading_is_safe
    [.parse .headersToo announced, .parse .headersToo defective] settings linked word
  have news : (atlas.parseUnit linked).1.map UnitReport.newSymbols = .ok 1 := by decide +kernel
  have countable : Walk.Countable settings linked :=
    Walk.countable_iff.2 ⟨by decide +kernel, by decide +kernel⟩
  refine ⟨word, closed, ?_, counts _, fun stop => ?_⟩
  · change atlas.Safe (atlas.parseUnit linked) at safe
    cases ran : atlas.parseUnit linked with
    | mk outcome reached =>
      rw [ran] at safe news
      cases safe with
      | @done report _ calls symbols unresolved =>
        refine ⟨report, rfl, Except.ok.inj news, ?_⟩
        simpa only [after, ran] using symbols
      | aborted => cases news
  · cases watched stop with
    | same alike fits => exact alike
    | stopped full ends => exact absurd countable full

end Session

end SymbolAtlas
