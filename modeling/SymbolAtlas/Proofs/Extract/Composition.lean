import SymbolAtlas.Proofs.Extract.Recursion
import SymbolAtlas.Proofs.Registry.Slots

/-! What recording is put together from. A property of steps that its few basic steps
have, and that goes from the parts of a step to the whole, holds of recording. -/

namespace SymbolAtlas

/-- The identity of a symbol whose making an event reports. -/
def Event.announced? : Event → Option Identity
  | .newSymbol _ identity => some identity
  | _ => none

namespace Registry

variable {registry : Registry}

/-- The identities that are registered, in the order of their symbols. -/
def identities (registry : Registry) : List Identity :=
  registry.entries.toList.map Entry.identity

theorem identities_update (registry : Registry) (index : Nat) (change : Symbol → Symbol) :
    (registry.update index change).identities = registry.identities := by
  have arrays : (registry.update index change).entries.map Entry.identity =
      registry.entries.map Entry.identity := by
    apply Array.ext_getElem?
    intro position
    rw [Array.getElem?_map, getElem?_update, Array.getElem?_map]
    split <;> simp [Function.comp_def]
  simpa [identities] using congrArg Array.toList arrays

theorem identities_addReference? {edge : Edge} {later : Registry}
    (linked : registry.addReference? edge = some later) :
    later.identities = registry.identities := by
  unfold addReference? at linked
  split at linked
  · cases linked
    rfl
  · split at linked <;> cases linked
    rfl

end Registry

namespace Extract

open Snapshot

variable {α β : Type} {snapshot : Snapshot} {settings : Settings}

/-- A change that keeps all identities, fills no slot and does not look at sightings. -/
structure Discreet (change : Registry → Registry) : Prop where
  respects : ∀ one other : Registry, one.core = other.core →
    (change one).core = (change other).core
  identities : ∀ registry : Registry, (change registry).identities = registry.identities
  quiet : ∀ registry : Registry, registry.Fills (change registry) []

/-- A property that recording and resolving have when completing symbols has it. Nothing
but the core of a registry is read, and a symbol is made without a detail, right after
its identity has been looked up in vain. -/
structure Carries (holds : ∀ ⦃α : Type⦄, Extract α → Prop) : Prop where
  pure : ∀ {α : Type} (value : α), holds (pure value)
  throw : ∀ {α : Type} (stop : Stop), holds (throw stop : Extract α)
  bind : ∀ {α β : Type} {step : Extract α} {next : α → Extract β}, holds step →
    (∀ value, holds (next value)) → holds (step >>= next)
  note : ∀ event : Event, event.announced? = none → holds (note event)
  read : ∀ {α : Type} (view : Registry → α),
    (∀ one other : Registry, one.core = other.core → view one = view other) →
      holds (registry >>= fun registry => Pure.pure (view registry))
  change : ∀ change, Discreet change → holds (changeRegistry change)
  link : ∀ edge : Edge, holds (tryRegistry fun registry =>
    (registry.addReference? edge).map (·, ()))
  make : ∀ {α : Type} (identity : Identity) (symbol : Symbol) {known fresh : Nat → Extract α},
    symbol.detail = none → (∀ index, holds (known index)) → (∀ index, holds (fresh index)) →
      holds (registry >>= fun registry =>
        match registry.find? identity with
        | some index => known index
        | none => register identity symbol >>= fresh)

/-- A property that goes from the parts of recording to the whole. -/
structure Composes (holds : ∀ ⦃α : Type⦄, Extract α → Prop) : Prop extends Carries holds where
  isPending : ∀ index, holds (isPending index)
  whilePending : ∀ {α : Type} {step : Extract α} (index : Nat), holds step →
    holds (whilePending index step)
  fill : ∀ index detail, holds (changeRegistry fun registry =>
    (registry.update index (·.fill detail)).markResolved index)

namespace Carries

variable {holds : ∀ ⦃α : Type⦄, Extract α → Prop} (carries : Carries holds)
  {complete : Nat → snapshot.Cursor → Extract Unit} {resolve : snapshot.TypeRef → Extract Ty}

include carries

/-- What is read may be any view of the core. -/
private theorem viewing {whole : Registry → Extract β} (view : Registry → α) (next : α → Extract β)
    (same : ∀ registry, whole registry = next (view registry))
    (cored : ∀ one other : Registry, one.core = other.core → view one = view other)
    (rest : ∀ value, holds (next value)) : holds (registry >>= whole) := by
  have viewed : registry >>= whole =
      (registry >>= fun registry => Pure.pure (view registry)) >>= next := by
    rw [bind_assoc]
    exact bind_congr fun registry => by rw [same, pure_bind]
  rw [viewed]
  exact carries.bind (carries.read view cored) rest

private theorem forM {body : α → Extract Unit} (items : List α) (each : ∀ item, holds (body item)) :
    holds (items.forM body) := by
  induction items with
  | nil => exact carries.pure ()
  | cons item items ih => exact carries.bind (each item) fun _ => ih

private theorem mapM {body : α → Extract β} (items : List α) (each : ∀ item, holds (body item)) :
    holds (items.mapM body) := by
  induction items with
  | nil => exact carries.pure []
  | cons item items ih =>
    rw [List.mapM_cons]
    exact carries.bind (each item) fun value => carries.bind ih fun values => carries.pure _

private theorem merge (index : Nat) (cursor : snapshot.Cursor) : holds (merge index cursor) :=
  carries.change _ ⟨fun one other same => by simpa using same,
    fun registry => registry.identities_update index _,
    fun registry => .of_core (registry.core_sight index _)⟩

private theorem logUnresolved (cursor : snapshot.Cursor) : holds (logUnresolved cursor) := by
  refine carries.bind (carries.note _ rfl) fun _ => carries.change _
    ⟨?_, fun _ => rfl, fun registry => .of_symbols rfl fun _ => rfl⟩
  intro one other same
  have logged : ∀ registry : Registry,
      (registry.logUnresolved cursor.spelling cursor.location).core =
        registry.core.logUnresolved cursor.spelling cursor.location := fun _ => rfl
  rw [logged, logged, same]

private theorem report (cursor : snapshot.Cursor) : holds (report cursor) := by
  have silent : ∀ events : List Event, (∀ event ∈ events, event.announced? = none) →
      holds (events.forM Extract.note) := by
    intro events
    induction events with
    | nil => exact fun _ => carries.pure ()
    | cons event events ih =>
      intro each
      obtain ⟨own, rest⟩ := List.forall_mem_cons.1 each
      exact carries.bind (carries.note event own) fun _ => ih rest
  refine silent _ ?_
  induction cursor.lineage with
  | nil => simp [namelessIn]
  | cons cursor above ih =>
    intro event member
    unfold namelessIn at member
    rcases List.mem_append.1 member with own | inherited
    · split at own
      · cases List.mem_singleton.1 own
        rfl
      · cases own
    · split at inherited
      · cases inherited
      · split at inherited
        · cases inherited
        · exact ih event inherited

theorem addReferences (index : Nat) (targets : List Nat) : holds (addReferences index targets) :=
  carries.forM targets fun target => carries.link ⟨index, target⟩

private theorem revisit (completes : ∀ index cursor, holds (complete index cursor)) (index : Nat)
    (cursor : snapshot.Cursor) : holds (revisit complete index cursor) :=
  carries.bind (carries.merge index cursor) fun _ =>
    carries.bind (completes index cursor) fun _ => carries.pure _

private theorem recordUnder (completes : ∀ index cursor, holds (complete index cursor))
    (cursor : snapshot.Cursor) (kind : SymbolKind) (parent : Option Nat) :
    holds (recordUnder complete cursor kind parent) :=
  carries.make cursor.identity { part := cursor.part, kind, parent } rfl
    (fun index => carries.bind (carries.merge index cursor) fun _ => carries.pure _)
    fun index => carries.revisit completes index cursor

theorem recordWith (completes : ∀ index cursor, holds (complete index cursor))
    (cursor : snapshot.Cursor) : holds (recordWith complete cursor) := by
  induction cursor using Cursor.outer_wellFounded.induction with
  | _ cursor above =>
    cases named : cursor.part.isEmpty with
    | true =>
      rw [recordWith_of_isEmpty complete named]
      exact carries.bind (carries.report cursor) fun _ =>
        carries.bind (carries.logUnresolved cursor) fun _ => carries.pure _
    | false =>
      obtain ⟨kind, sort⟩ := Cursor.exists_symbolKind? named
      rw [recordWith_of_named complete named sort]
      refine carries.bind (carries.report cursor) fun _ => ?_
      refine carries.viewing (·.find? cursor.identity)
        (fun
          | some index => Extract.revisit complete index cursor
          | none => do
            let parent ← recordOuter complete cursor
            Extract.recordUnder complete cursor kind parent)
        (fun registry => rfl) (fun one other same => by rw [Registry.find?_of_core same])
        fun found => ?_
      cases found with
      | some index => exact carries.revisit completes index cursor
      | none =>
        refine carries.bind ?_ fun parent => carries.recordUnder completes cursor kind parent
        unfold recordOuter
        cases nested : cursor.outer? with
        | none => exact carries.pure _
        | some outer =>
          refine carries.bind (above outer nested) fun parent => ?_
          cases parent with
          | none => exact carries.throw _
          | some parent => exact carries.pure _

private theorem declaredSymbol {record : snapshot.Cursor → Extract (Option Nat)}
    (records : ∀ cursor, holds (record cursor)) (type : snapshot.TypeRef) :
    holds (declaredSymbol record type) := by
  unfold Extract.declaredSymbol
  cases type.declaration? with
  | some declaration => exact records declaration
  | none => exact carries.bind (carries.note _ rfl) fun _ => carries.pure _

private theorem resolveIn {record : snapshot.Cursor → Extract (Option Nat)}
    (records : ∀ cursor, holds (record cursor)) (types : List snapshot.TypeRef) :
    holds (resolveIn record types) := by
  have declared := fun type => carries.declaredSymbol records type
  induction types with
  | nil => exact carries.pure _
  | cons type below ih =>
    rw [Extract.resolveIn]
    split
    · exact carries.pure _
    · exact carries.pure _
    · exact carries.bind ih fun _ => carries.pure _
    · exact carries.bind ih fun _ => carries.pure _
    · exact carries.bind ih fun _ => carries.pure _
    · exact carries.bind ih fun _ => carries.pure _
    · exact carries.bind (declared type) fun _ => carries.pure _
    · exact carries.bind (declared type) fun _ => carries.pure _
    · exact carries.bind (declared type) fun _ => carries.pure _
    · exact carries.pure _
    · exact carries.throw _

theorem resolveWith (completes : ∀ index cursor, holds (complete index cursor))
    (type : snapshot.TypeRef) : holds (resolveWith complete type) :=
  carries.resolveIn (carries.recordWith completes) type.levels

private theorem typedNames (resolves : ∀ type, holds (resolve type))
    (cursors : List snapshot.Cursor) : holds (typedNames resolve cursors) :=
  carries.mapM cursors fun cursor => carries.bind (resolves cursor.type) fun _ => carries.pure _

private theorem membersOf (resolves : ∀ type, holds (resolve type)) (cursor : snapshot.Cursor) :
    holds (membersOf resolve settings cursor) := by
  unfold Extract.membersOf
  split
  · split
    · exact carries.bind (carries.typedNames resolves _) fun _ => carries.pure _
    · exact carries.pure _
  · exact carries.pure _

theorem detailOf (resolves : ∀ type, holds (resolve type)) (kind : SymbolKind)
    (cursor : snapshot.Cursor) : holds (detailOf resolve settings kind cursor) := by
  unfold Extract.detailOf
  split
  · exact carries.bind (resolves _) fun _ =>
      carries.bind (carries.typedNames resolves _) fun _ => carries.pure _
  · exact carries.bind (resolves _) fun _ => carries.pure _
  · exact carries.membersOf resolves cursor
  · exact carries.membersOf resolves cursor
  · exact carries.pure _

end Carries

namespace Composes

variable {holds : ∀ ⦃α : Type⦄, Extract α → Prop} (composes : Composes holds)
  {resolve : snapshot.TypeRef → Extract Ty}

include composes

private theorem store (index : Nat) (cursor : snapshot.Cursor) (detail : Detail) :
    holds (store index cursor detail) := by
  refine composes.viewing (fun registry => (registry.get? index).any (·.awaits detail))
    (fun awaited => if awaited then _ else _) (fun registry => rfl) ?_ fun awaited => ?_
  · intro one other same
    have awaits : ∀ registry : Registry, (registry.get? index).any (·.awaits detail) =
        ((registry.get? index).map Symbol.core).any (·.awaits detail) := fun registry => by
      cases registry.get? index <;> rfl
    rw [awaits one, awaits other, Registry.get?_of_core same]
  · split
    · exact composes.fill index detail
    · split
      · exact composes.note _ rfl
      · exact composes.note _ rfl
      · exact composes.pure _

private theorem supply (resolves : ∀ type, holds (resolve type)) (index : Nat)
    (cursor : snapshot.Cursor) (kind : SymbolKind) :
    holds (supply resolve settings index cursor kind) := by
  refine composes.bind (composes.detailOf resolves kind cursor) fun detail => ?_
  cases detail with
  | none => exact composes.pure _
  | some detail =>
    exact composes.bind (composes.store index cursor detail) fun _ => composes.addReferences index _

private theorem completeKind (resolves : ∀ type, holds (resolve type)) (index : Nat)
    (cursor : snapshot.Cursor) : holds (completeKind resolve settings index cursor) := by
  -- all that is read of the symbol is its kind and whether it has its detail
  let view := fun registry : Registry =>
    (registry.get? index).map fun symbol => (symbol.kind, symbol.detail.isSome)
  let next := fun seen : Option (SymbolKind × Bool) => seen.elim (return : Extract Unit) fun seen =>
    if seen.2 then return else Extract.supply resolve settings index cursor seen.1
  refine composes.viewing view next ?_ ?_ fun seen => ?_
  · intro registry
    simp only [view, next]
    cases registry.get? index <;> rfl
  · intro one other same
    have cored : ∀ registry : Registry, view registry =
        ((registry.get? index).map Symbol.core).map fun symbol =>
          (symbol.kind, symbol.detail.isSome) := fun registry => by
      simp only [view]
      cases registry.get? index <;> rfl
    rw [cored, cored, Registry.get?_of_core same]
  · cases seen with
    | none => exact composes.pure _
    | some seen =>
      obtain ⟨kind, filled⟩ := seen
      cases filled with
      | true => exact composes.pure _
      | false => exact composes.supply resolves index cursor kind

private theorem completeWithin (room index : Nat) (cursor : snapshot.Cursor) :
    holds (completeWithin settings room index cursor) := by
  induction room generalizing index cursor with
  | zero =>
    refine composes.bind (composes.isPending index) fun pending => ?_
    cases pending with
    | true => exact composes.pure _
    | false => exact composes.throw _
  | succ room ih =>
    refine composes.bind (composes.isPending index) fun pending => ?_
    cases pending with
    | true => exact composes.pure _
    | false =>
      exact composes.whilePending index
        (composes.completeKind (composes.resolveWith ih) index cursor)

theorem record (settings : Settings) (cursor : snapshot.Cursor) : holds (record settings cursor) :=
  composes.recordWith (composes.completeWithin _) cursor

end Composes

end Extract

end SymbolAtlas
