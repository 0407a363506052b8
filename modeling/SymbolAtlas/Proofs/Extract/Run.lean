import SymbolAtlas.Extract.Record
import SymbolAtlas.Proofs.Extract.Step

/-! Rules for runs of extraction: what a step does from a state is put together
from what its parts do. -/

namespace SymbolAtlas.Extract

open Snapshot Relation

variable {α β : Type} {snapshot : Snapshot} {spared : List Nat} {start middle final : Extraction}

/-- How a step ends from a state, and in which state it leaves everything. -/
def runFrom (start : Extraction) (step : Extract α) : Except Stop α × Extraction :=
  step.run.run start

theorem runFrom_bind (start : Extraction) (step : Extract α) (next : α → Extract β) :
    runFrom start (step >>= next) =
      match runFrom start step with
      | (.ok value, middle) => runFrom middle (next value)
      | (.error stop, middle) => (.error stop, middle) := by
  have unfolded : runFrom start (step >>= next) =
      match runFrom start step with
      | (outcome, middle) => runFrom middle (ExceptT.bindCont next outcome) := rfl
  rw [unfolded]
  cases runFrom start step with
  | mk outcome middle => cases outcome <;> rfl

theorem runFrom_read (start : Extraction) (next : Registry → Extract β) :
    runFrom start (registry >>= next) = runFrom start (next start.registry) :=
  rfl

theorem runFrom_tryRegistry (start : Extraction) (change : Registry → Option (Registry × α)) :
    runFrom start (tryRegistry change) =
      match change start.registry with
      | some (registry, value) => (.ok value, { start with registry })
      | none => (.error .dangling, start) := by
  have unfolded : runFrom start (tryRegistry change) =
      runFrom start
        (match change start.registry with
        | some (registry, value) => do
          changeRegistry fun _ => registry
          return value
        | none => throw .dangling) := rfl
  rw [unfolded]
  cases change start.registry <;> rfl

theorem runFrom_isPending (start : Extraction) (index : Nat) (next : Bool → Extract β) :
    runFrom start (isPending index >>= next) =
      runFrom start (next (start.pending.contains index)) :=
  rfl

theorem runFrom_whilePending (start : Extraction) (index : Nat) (step : Extract α) :
    runFrom start (whilePending index step) =
      match runFrom { start with pending := index :: start.pending } step with
      | (outcome, final) => (outcome, { final with pending := final.pending.erase index }) := by
  have unfolded : runFrom start (whilePending index step) =
      match runFrom { start with pending := index :: start.pending } step with
      | (outcome, final) =>
        runFrom { final with pending := final.pending.erase index } (liftExcept outcome) := rfl
  rw [unfolded]
  cases runFrom { start with pending := index :: start.pending } step with
  | mk outcome final => cases outcome <;> rfl

theorem runFrom_addReferences {index : Nat} (targets : List Nat)
    (source : index < start.registry.size)
    (inside : ∀ target ∈ targets, target < start.registry.size) :
    runFrom start (addReferences index targets) =
      (.ok (), { start with registry := start.registry.linkAll index targets }) := by
  induction targets generalizing start with
  | nil => rfl
  | cons target targets ih =>
    have first : runFrom start (tryRegistry fun registry =>
        (registry.addReference? ⟨index, target⟩).map (·, ())) =
          (.ok (), { start with registry := start.registry.link ⟨index, target⟩ }) := by
      rw [runFrom_tryRegistry, Registry.addReference?_eq_link source (inside target (by simp))]
      rfl
    rw [addReferences, List.forM_eq_forM, List.forM_cons, runFrom_bind, first]
    exact ih (by simpa using source) fun other member => by
      simpa using inside other (List.mem_cons_of_mem _ member)

/-- One state comes after another in a run that ends with the same symbols pending. -/
structure Advances (snapshot : Snapshot) (spared : List Nat) (before after : Extraction) : Prop where
  steps : Steps snapshot spared before.registry after.registry
  pending : after.pending = before.pending

theorem Advances.refl (state : Extraction) : Advances snapshot spared state state :=
  ⟨.refl, rfl⟩

theorem Advances.trans (left : Advances snapshot spared start middle)
    (right : Advances snapshot spared middle final) : Advances snapshot spared start final :=
  ⟨left.steps.trans right.steps, right.pending.trans left.pending⟩

private theorem Advances.weaken {fewer : List Nat} (subset : fewer ⊆ spared)
    (advances : Advances snapshot spared start final) : Advances snapshot fewer start final :=
  ⟨advances.steps.weaken subset, advances.pending⟩

theorem Advances.grows (advances : Advances snapshot spared start final) :
    start.registry.Grows final.registry :=
  advances.steps.grows

theorem Advances.gathers (advances : Advances snapshot spared start final) :
    start.registry.Gathers final.registry :=
  advances.steps.gathers

/-- A computation ends with a value as described, or with an error that aborts
the unit. -/
def Ends (post : α → Prop) : Except Stop α → Prop
  | .ok value => post value
  | .error stop => ∃ error, stop = .error error ∧ error.isFatal

/-- From a state, a step of extraction only advances, gives no detail to spared
symbols, and ends as described. -/
structure Proceeds (snapshot : Snapshot) (spared : List Nat) (start : Extraction)
    (step : Extract α) (post : α → Registry → Prop) : Prop where
  advances : Advances snapshot spared start (runFrom start step).2
  ends : Ends (post · (runFrom start step).2.registry) (runFrom start step).1

namespace Proceeds

variable {step : Extract α} {next : α → Extract β} {post goal : α → Registry → Prop}
  {last : β → Registry → Prop}

theorem of_run {value : α} (ran : runFrom start step = (.ok value, final))
    (advances : Advances snapshot spared start final) (holds : post value final.registry) :
    Proceeds snapshot spared start step post :=
  ⟨by rw [ran]; exact advances, by rw [ran]; exact holds⟩

theorem pure {value : α} (holds : post value start.registry) :
    Proceeds snapshot spared start (pure value) post :=
  ⟨.refl start, holds⟩

theorem fail {error : Error} (fatal : error.isFatal) :
    Proceeds snapshot spared start (throw (.error error)) post :=
  ⟨.refl start, error, rfl, fatal⟩

theorem mono (run : Proceeds snapshot spared start step post)
    (implies : ∀ value final, Advances snapshot spared start final →
      post value final.registry → goal value final.registry) :
    Proceeds snapshot spared start step goal := by
  obtain ⟨advances, ends⟩ := run
  refine ⟨advances, ?_⟩
  cases outcome : (runFrom start step).1 with
  | ok value =>
    rw [outcome] at ends
    exact implies value _ advances ends
  | error stop => rwa [outcome] at ends

theorem and (run : Proceeds snapshot spared start step post)
    (other : Proceeds snapshot spared start step goal) :
    Proceeds snapshot spared start step fun value registry =>
      post value registry ∧ goal value registry := by
  obtain ⟨advances, ends⟩ := run
  obtain ⟨-, reached⟩ := other
  refine ⟨advances, ?_⟩
  cases outcome : (runFrom start step).1 with
  | ok value =>
    rw [outcome] at ends reached
    exact ⟨ends, reached⟩
  | error stop => rwa [outcome] at ends

theorem ran (run : Proceeds snapshot spared start step post) :
    Proceeds snapshot spared start step fun value registry =>
      registry = (runFrom start step).2.registry ∧ post value registry := by
  obtain ⟨advances, ends⟩ := run
  refine ⟨advances, ?_⟩
  cases outcome : (runFrom start step).1 with
  | ok value =>
    rw [outcome] at ends
    exact ⟨rfl, ends⟩
  | error stop => rwa [outcome] at ends

theorem spare (run : Proceeds snapshot spared start step post) {index : Nat}
    (member : index ∈ spared) {symbol : Symbol} (present : start.registry.get? index = some symbol) :
    Proceeds snapshot spared start step fun value registry =>
      (∃ later, registry.get? index = some later ∧ later.kind = symbol.kind ∧
        later.detail = symbol.detail) ∧ post value registry :=
  run.mono fun _ _ advances holds => ⟨advances.steps.detail_of_mem member present, holds⟩

theorem weaken {fewer : List Nat} (subset : fewer ⊆ spared)
    (run : Proceeds snapshot spared start step post) : Proceeds snapshot fewer start step post :=
  ⟨run.advances.weaken subset, run.ends⟩

theorem bind (first : Proceeds snapshot spared start step post)
    (rest : ∀ value middle, Advances snapshot spared start middle → post value middle.registry →
      Proceeds snapshot spared middle (next value) last) :
    Proceeds snapshot spared start (step >>= next) last := by
  obtain ⟨advances, ends⟩ := first
  cases ran : runFrom start step with
  | mk outcome middle =>
    rw [ran] at advances ends
    have unfolded := runFrom_bind start step next
    rw [ran] at unfolded
    cases outcome with
    | ok value =>
      obtain ⟨onward, ended⟩ := rest value middle advances ends
      exact ⟨by rw [unfolded]; exact advances.trans onward, by rw [unfolded]; exact ended⟩
    | error stop => exact ⟨by rw [unfolded]; exact advances, by rw [unfolded]; exact ends⟩

private theorem of_eq {other : Extract α} (same : runFrom start step = runFrom start other)
    (run : Proceeds snapshot spared start other post) :
    Proceeds snapshot spared start step post :=
  ⟨by rw [same]; exact run.advances, by rw [same]; exact run.ends⟩

theorem read {next : Registry → Extract β}
    (rest : Proceeds snapshot spared start (next start.registry) last) :
    Proceeds snapshot spared start (registry >>= next) last :=
  of_eq (runFrom_read start next) rest

theorem readPending {index : Nat} {next : Bool → Extract β}
    (rest : Proceeds snapshot spared start (next (start.pending.contains index)) last) :
    Proceeds snapshot spared start (isPending index >>= next) last :=
  of_eq (runFrom_isPending start index next) rest

theorem note (event : Event) :
    Proceeds snapshot spared start (note event) fun _ registry => registry = start.registry :=
  ⟨⟨.refl, rfl⟩, rfl⟩

theorem notes (events : List Event) :
    Proceeds snapshot spared start (events.forM Extract.note) fun _ registry =>
      registry = start.registry := by
  induction events generalizing start with
  | nil => exact .pure rfl
  | cons event events ih =>
    rw [List.forM_eq_forM, List.forM_cons]
    exact (note event).bind fun _ middle _ same => ih.mono fun _ _ _ kept => kept.trans same

theorem change {change : Registry → Registry}
    (step : Step snapshot spared start.registry (change start.registry)) :
    Proceeds snapshot spared start (changeRegistry change) fun _ registry =>
      registry = change start.registry :=
  ⟨⟨.single step, rfl⟩, rfl⟩

theorem tryChange {change : Registry → Option (Registry × α)} {later : Registry} {value : α}
    (changed : change start.registry = some (later, value))
    (step : Step snapshot spared start.registry later) :
    Proceeds snapshot spared start (tryRegistry change) fun answer registry =>
      answer = value ∧ registry = later := by
  have ran : runFrom start (tryRegistry change) =
      (.ok value, { start with registry := later }) := by
    rw [runFrom_tryRegistry, changed]
  exact of_run ran ⟨.single step, rfl⟩ ⟨rfl, rfl⟩

theorem mapM {body : α → Extract β} {related : Registry → α → β → Prop}
    {invariant : Registry → Prop} (items : List α)
    (stable : ∀ before after item value, before.Grows after → related before item value →
      related after item value)
    (each : ∀ item middle, Advances snapshot spared start middle → invariant middle.registry →
      Proceeds snapshot spared middle (body item) fun value registry =>
        related registry item value ∧ invariant registry)
    (holds : invariant start.registry) :
    Proceeds snapshot spared start (items.mapM body) fun values registry =>
      List.Forall₂ (related registry) items values ∧ invariant registry := by
  induction items generalizing start with
  | nil => exact .pure ⟨.nil, holds⟩
  | cons item items ih =>
    rw [List.mapM_cons]
    refine (each item start (.refl start) holds).bind fun value middle onward found => ?_
    have later := fun item final (further : Advances snapshot spared middle final) =>
      each item final (onward.trans further)
    refine (ih later found.2).bind fun values final further all => ?_
    exact .pure ⟨.cons (stable _ _ item value further.grows found.1) all.1, all.2⟩

/-- A step may be run with a symbol pending if it makes up for what it spares
that symbol. -/
theorem whilePending {index : Nat}
    (run : Proceeds snapshot spared { start with pending := index :: start.pending } step post) :
    Proceeds snapshot spared start (whilePending index step) post := by
  obtain ⟨⟨steps, pending⟩, ends⟩ := run
  have ran := runFrom_whilePending start index step
  cases inner : runFrom { start with pending := index :: start.pending } step with
  | mk outcome final =>
    rw [inner] at steps pending ends ran
    refine ⟨⟨by rw [ran]; exact steps, ?_⟩, by rw [ran]; exact ends⟩
    have kept : final.pending = index :: start.pending := pending
    rw [ran]
    simp [kept]

end Proceeds

end SymbolAtlas.Extract
