import SymbolAtlas.Proofs.Extract.Composition
import SymbolAtlas.Proofs.Extract.Route
import SymbolAtlas.Proofs.Extract.Run

/-! Extraction does not look at what sightings have left: from two states with the
same core every step ends alike, in two states with the same core. -/

namespace SymbolAtlas.Extract

open Snapshot

variable {α β : Type} {snapshot : Snapshot}

/-- Two states that differ in sightings and reports at most. -/
structure Alike (left right : Extraction) : Prop where
  core : left.registry.core = right.registry.core
  pending : left.pending = right.pending

/-- Two steps that from states alike end alike. -/
def Agrees (step other : Extract α) : Prop :=
  ∀ left right, Alike left right → (runFrom left step).1 = (runFrom right other).1 ∧
    Alike (runFrom left step).2 (runFrom right other).2

/-- A step that does not look at sightings. -/
abbrev Blind (step : Extract α) : Prop := Agrees step step

private theorem pure_blind (value : α) : Blind (pure value) :=
  fun _ _ alike => ⟨rfl, alike⟩

private theorem throw_blind (stop : Stop) : Blind (throw stop : Extract α) :=
  fun _ _ alike => ⟨rfl, alike⟩

private theorem note_blind (event : Event) : Blind (note event) :=
  fun _ _ alike => ⟨rfl, alike.core, alike.pending⟩

private theorem Agrees.bind {step other : Extract α} {next further : α → Extract β}
    (first : Agrees step other) (rest : ∀ value, Agrees (next value) (further value)) :
    Agrees (step >>= next) (other >>= further) := by
  intro left right alike
  rw [runFrom_bind, runFrom_bind]
  have same := first left right alike
  revert same
  cases runFrom left step with
  | mk outcome middle =>
    cases runFrom right other with
    | mk answer reached =>
      rintro ⟨rfl, onward⟩
      cases outcome with
      | ok value => exact rest value middle reached onward
      | error stop => exact ⟨rfl, onward⟩

private theorem Agrees.read {next further : Registry → Extract β}
    (rest : ∀ one other, one.core = other.core → Agrees (next one) (further other)) :
    Agrees (registry >>= next) (registry >>= further) :=
  fun left right alike => rest left.registry right.registry alike.core left right alike

private theorem isPending_blind (index : Nat) : Blind (isPending index) := by
  intro left right alike
  have looked : ∀ state : Extraction, runFrom state (isPending index) =
      (.ok (state.pending.contains index), state) := fun _ => rfl
  rw [looked, looked, alike.pending]
  exact ⟨rfl, alike⟩

private theorem changeRegistry_blind {change : Registry → Registry}
    (respects : ∀ one other : Registry, one.core = other.core →
      (change one).core = (change other).core) : Blind (changeRegistry change) :=
  fun _ _ alike => ⟨rfl, respects _ _ alike.core, alike.pending⟩

private theorem tryRegistry_blind {change : Registry → Option (Registry × α)}
    (respects : ∀ one other : Registry, one.core = other.core →
      (change one).map (Prod.map Registry.core id) =
        (change other).map (Prod.map Registry.core id)) : Blind (tryRegistry change) := by
  intro left right alike
  rw [runFrom_tryRegistry, runFrom_tryRegistry]
  have same := respects left.registry right.registry alike.core
  revert same
  cases change left.registry with
  | none =>
    cases change right.registry with
    | none => exact fun _ => ⟨rfl, alike⟩
    | some changed => exact fun same => by cases same
  | some changed =>
    cases change right.registry with
    | none => exact fun same => by cases same
    | some other =>
      obtain ⟨later, value⟩ := changed
      obtain ⟨final, answer⟩ := other
      intro same
      simp only [Option.map_some, Option.some.injEq, Prod.map, Prod.mk.injEq, id] at same
      obtain ⟨core, rfl⟩ := same
      exact ⟨rfl, core, alike.pending⟩

private theorem whilePending_blind {index : Nat} {step : Extract α} (blind : Blind step) :
    Blind (whilePending index step) := by
  intro left right alike
  rw [runFrom_whilePending, runFrom_whilePending]
  have inside := blind { left with pending := index :: left.pending }
    { right with pending := index :: right.pending } ⟨alike.core, by rw [alike.pending]⟩
  revert inside
  cases runFrom { left with pending := index :: left.pending } step with
  | mk outcome final =>
    cases runFrom { right with pending := index :: right.pending } step with
    | mk answer reached =>
      rintro ⟨rfl, onward⟩
      exact ⟨rfl, onward.core, congrArg (List.erase · index) onward.pending⟩

private theorem register_blind (identity : Identity) (symbol : Symbol) :
    Blind (register identity symbol) :=
  (note_blind _).bind fun _ => tryRegistry_blind fun one other same => by
    rw [Registry.core_add?, Registry.core_add?, same]

private theorem addReference_blind (edge : Edge) :
    Blind (tryRegistry fun registry => (registry.addReference? edge).map (·, ())) := by
  refine tryRegistry_blind fun one other same => ?_
  have linked : ∀ registry : Registry,
      ((registry.addReference? edge).map (·, ())).map (Prod.map Registry.core id) =
        (registry.core.addReference? edge).map (·, ()) := fun registry => by
    rw [← Registry.core_addReference?, Option.map_map, Option.map_map]
    rfl
  rw [linked, linked, same]

private theorem blind_composes : Composes fun _ step => Blind step where
  pure := pure_blind
  throw := throw_blind
  bind := Agrees.bind
  note event _ := note_blind event
  isPending := isPending_blind
  whilePending index blind := whilePending_blind blind
  read view cored _ _ alike := ⟨congrArg Except.ok (cored _ _ alike.core), alike⟩
  change change discreet := changeRegistry_blind discreet.respects
  link := addReference_blind
  fill index detail := changeRegistry_blind fun one other same => by
    rw [Registry.core_filled, Registry.core_filled, same]
  make identity symbol known fresh _ onKnown onFresh := by
    refine .read fun one other same => ?_
    rw [Registry.find?_of_core same]
    cases other.find? identity with
    | some index => exact onKnown index
    | none => exact (register_blind identity symbol).bind onFresh

theorem record_blind (settings : Settings) (cursor : snapshot.Cursor) :
    Blind (record settings cursor) :=
  blind_composes.record settings cursor

end SymbolAtlas.Extract

namespace SymbolAtlas.Walk

open Snapshot Extract

variable {α β : Type} {snapshot : Snapshot}

/-- A walk that does not look at sightings, whatever it has counted so far. -/
def Unseeing (walk : Walk α) : Prop :=
  ∀ tally, Blind (walk.run tally)

private theorem lift_unseeing {step : Extract α} (blind : Blind step) :
    Unseeing (liftM step : Walk α) :=
  fun _ => blind.bind fun _ => pure_blind _

private theorem bind_unseeing {walk : Walk α} {next : α → Walk β} (first : Unseeing walk)
    (rest : ∀ value, Unseeing (next value)) : Unseeing (walk >>= next) := by
  intro tally
  rw [StateT.run_bind]
  exact (first tally).bind fun value => rest value.1 value.2

private theorem pure_unseeing (value : α) : Unseeing (pure value) :=
  fun _ => pure_blind _

private theorem modify_unseeing (change : Tally → Tally) : Unseeing (modify change) :=
  fun _ => pure_blind _

private theorem unseeing_additive (settings : Settings) :
    Additive settings fun walk (_ : List snapshot.Cursor) => Unseeing walk where
  pure := pure_unseeing ()
  note event := lift_unseeing (note_blind event)
  bind first rest := bind_unseeing first fun _ => rest
  arrive cursor := by
    unfold arrive
    split
    · exact bind_unseeing (lift_unseeing (note_blind _)) fun _ => modify_unseeing _
    · split
      · exact bind_unseeing (modify_unseeing _) fun _ =>
          bind_unseeing (lift_unseeing (record_blind settings cursor)) fun _ => pure_unseeing ()
      · exact pure_unseeing ()

theorem unit_unseeing (settings : Settings) (snapshot : Snapshot) :
    Unseeing (unit settings snapshot) :=
  (unseeing_additive settings).unit

end SymbolAtlas.Walk
