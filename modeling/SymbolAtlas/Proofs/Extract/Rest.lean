import SymbolAtlas.Proofs.Extract.Refusal
import SymbolAtlas.Proofs.Extract.Visit

/-! Recording again what has been recorded. A cursor whose symbol has all that the cursor
gives adds a sighting and nothing else, so a walk over such cursors changes no symbol's
detail and no edge, and cannot fail. -/

namespace SymbolAtlas

open Snapshot

variable {snapshot : Snapshot} {settings : Settings} {index : Nat} {cursor : snapshot.Cursor}

namespace Registry

/-- The symbols with their details, and the edges between them. -/
def graph (registry : Registry) : Registry :=
  { registry.core with unresolved := #[] }

private theorem graph_of_core {one other : Registry} (same : one.core = other.core) :
    one.graph = other.graph := by
  rw [graph, graph, same]

private theorem find?_graph (registry : Registry) : registry.graph.find? = registry.find? :=
  registry.find?_core

section SameGraph

variable {one other : Registry} (same : one.graph = other.graph)

include same

private theorem find?_of_graph : one.find? = other.find? := by
  rw [← find?_graph one, same, find?_graph]

private theorem grows_of_graph : other.Grows one := by
  have entries : one.graph.entries = other.graph.entries := by rw [same]
  exact .of_core_entries entries

theorem size_of_graph : one.size = other.size := by
  have sizes : one.graph.size = other.graph.size := by rw [same]
  have graphed : ∀ registry : Registry, registry.graph.size = registry.size := size_core
  rwa [graphed, graphed] at sizes

theorem Supplied.of_graph (supplied : one.Supplied settings index cursor) :
    other.Supplied settings index cursor := by
  intro symbol present
  have inside : index < one.size := by
    rw [size_of_graph same]
    exact lt_size_of_get? present
  exact supplied.keep inside (grows_of_graph same.symm) symbol present

end SameGraph

/-- The symbol of a cursor is there, and has the detail that the cursor gives it. -/
def Furnished (registry : Registry) (settings : Settings) (cursor : snapshot.Cursor) : Prop :=
  cursor.part.isEmpty = false →
    ∃ index, registry.find? cursor.identity = some index ∧
      registry.Supplied settings index cursor

private theorem Furnished.of_graph {one other : Registry} (same : one.graph = other.graph)
    (furnished : one.Furnished settings cursor) : other.Furnished settings cursor := by
  intro named
  obtain ⟨index, found, supplied⟩ := furnished named
  exact ⟨index, by rw [← find?_of_graph same, found], supplied.of_graph same⟩

end Registry

namespace Extract

variable {α β : Type} {start : Extraction}

/-- A step ends well, with the same graph and the same symbols pending. -/
def Rests (start : Extraction) (step : Extract α) (value : α) : Prop :=
  ∃ final, runFrom start step = (.ok value, final) ∧
    final.registry.graph = start.registry.graph ∧ final.pending = start.pending

namespace Rests

variable {step : Extract α} {next : α → Extract β} {value : α} {result : β}

private theorem pure (start : Extraction) (value : α) : Rests start (pure value) value :=
  ⟨start, rfl, rfl, rfl⟩

private theorem bind (first : Rests start step value)
    (rest : ∀ middle, middle.registry.graph = start.registry.graph →
      middle.pending = start.pending → Rests middle (next value) result) :
    Rests start (step >>= next) result := by
  obtain ⟨middle, ran, graph, pending⟩ := first
  obtain ⟨final, ran', graph', pending'⟩ := rest middle graph pending
  refine ⟨final, ?_, graph'.trans graph, pending'.trans pending⟩
  rw [runFrom_bind, ran]
  exact ran'

private theorem registry (start : Extraction) : Rests start registry start.registry :=
  ⟨start, rfl, rfl, rfl⟩

private theorem isPending (start : Extraction) (index : Nat) :
    Rests start (isPending index) (start.pending.contains index) :=
  ⟨start, rfl, rfl, rfl⟩

private theorem notes (start : Extraction) (events : List Event) :
    Rests start (events.forM note) () :=
  ⟨_, runFrom_notes start events, rfl, rfl⟩

private theorem note (start : Extraction) (event : Event) : Rests start (note event) () :=
  ⟨_, rfl, rfl, rfl⟩

private theorem merge (start : Extraction) (index : Nat) (cursor : snapshot.Cursor) :
    Rests start (merge index cursor) () :=
  ⟨_, rfl, Registry.graph_of_core (Registry.core_sight _ _ _), rfl⟩

private theorem whilePending
    (run : Rests { start with pending := index :: start.pending } step value) :
    Rests start (whilePending index step) value := by
  obtain ⟨final, ran, graph, pending⟩ := run
  refine ⟨{ final with pending := final.pending.erase index }, ?_, graph, ?_⟩
  · rw [runFrom_whilePending, ran]
  · simp [pending]

end Rests

private theorem membersOf_of_supplies {resolve : snapshot.TypeRef → Extract Ty}
    (lacking : (settings.recordMembers && cursor.definition?.isSome) = false) :
    membersOf resolve settings cursor = Pure.pure none := by
  unfold membersOf
  split
  · rename_i wanted
    rw [wanted, Bool.true_and, Option.isSome_eq_false_iff, Option.isNone_iff_eq_none] at lacking
    rw [lacking]
  · rfl

private theorem detailOf_of_supplies {resolve : snapshot.TypeRef → Extract Ty} {kind : SymbolKind}
    (lacking : cursor.supplies settings kind = false) :
    detailOf resolve settings kind cursor = pure none := by
  unfold detailOf
  split
  · rename_i sort
    simp [Cursor.supplies, sort] at lacking
  · rename_i sort
    simp [Cursor.supplies, sort] at lacking
  · rename_i keyword sort
    rw [Cursor.supplies_record settings keyword (.inl sort)] at lacking
    exact membersOf_of_supplies lacking
  · rename_i keyword sort
    rw [Cursor.supplies_record settings keyword (.inr sort)] at lacking
    exact membersOf_of_supplies lacking
  · rfl

private theorem completeKind_rests {resolve : snapshot.TypeRef → Extract Ty}
    (supplied : start.registry.Supplied settings index cursor) :
    Rests start (completeKind resolve settings index cursor) () := by
  unfold completeKind
  refine (Rests.registry start).bind fun middle graph pending => ?_
  cases present : start.registry.get? index with
  | none => exact .pure middle ()
  | some symbol =>
    cases waiting : symbol.detail with
    | some detail =>
      simp only [waiting, Option.isSome_some, if_true]
      exact .pure middle ()
    | none =>
      -- what is still missing is nothing that the cursor could give
      have lacking : cursor.supplies settings symbol.kind = false := by
        by_contra supplies
        have filled := supplied symbol present (by simpa using supplies)
        rw [waiting] at filled
        cases filled
      simp only [waiting, detailOf_of_supplies lacking]
      exact .pure middle ()

private theorem complete_rests (supplied : start.registry.Supplied settings index cursor) :
    Rests start (complete settings index cursor) () := by
  obtain ⟨room, size⟩ : ∃ room, snapshot.raw.cursors.size = room + 1 :=
    Nat.exists_eq_succ_of_ne_zero (Nat.ne_of_gt snapshot.cursors_nonempty)
  rw [complete, size, completeWithin]
  refine (Rests.isPending start index).bind fun middle graph pending => ?_
  split
  · exact .pure middle ()
  · exact .whilePending (completeKind_rests (supplied.of_graph graph.symm))

private theorem record_rests (furnished : start.registry.Furnished settings cursor) :
    ∃ answer, Rests start (record settings cursor) answer := by
  cases named : cursor.part.isEmpty with
  | true => exact ⟨none, _, runFrom_recordWith_unnamed named, rfl, rfl⟩
  | false =>
    obtain ⟨kind, sort⟩ := Cursor.exists_symbolKind? named
    obtain ⟨index, found, supplied⟩ := furnished named
    refine ⟨some index, ?_⟩
    rw [record, recordWith_of_named _ named sort]
    refine (Rests.notes start _).bind fun middle graph pending => ?_
    refine (Rests.registry middle).bind fun reached graph' pending' => ?_
    rw [Registry.find?_of_graph graph, found]
    refine (Rests.merge reached index cursor).bind fun merged graph'' pending'' => ?_
    have supplied : merged.registry.Supplied settings index cursor :=
      supplied.of_graph (graph''.trans (graph'.trans graph)).symm
    exact (complete_rests supplied).bind fun final _ _ => .pure final _

end Extract

namespace Walk

open Extract

/-- Coming again to cursors that are furnished leaves the graph as it is. -/
def Repeats (settings : Settings) (registry : Registry) (walk : Walk Unit)
    (cursors : List snapshot.Cursor) : Prop :=
  (∀ cursor ∈ cursors, takes settings cursor → registry.Furnished settings cursor) →
    ∀ start tally, start.registry.graph = registry.graph →
      ∃ value, Rests start (walk.run tally) value

section

variable {α β : Type} {start : Extraction} {tally : Tally}

private theorem lift_rests {step : Extract α} {value : α} (run : Rests start step value) :
    Rests start ((liftM step : Walk α).run tally) (value, tally) :=
  run.bind fun middle _ _ => .pure middle (value, tally)

private theorem bind_rests {walk : Walk α} {next : α → Walk β} {value : α × Tally}
    {result : β × Tally} (first : Rests start (walk.run tally) value)
    (rest : ∀ middle, middle.registry.graph = start.registry.graph →
      Rests middle ((next value.1).run value.2) result) :
    Rests start ((walk >>= next).run tally) result := by
  rw [StateT.run_bind]
  exact first.bind fun middle graph _ => rest middle graph

end

theorem repeats_additive (settings : Settings) (registry : Registry) :
    Additive settings (Repeats settings registry : Walk Unit → List snapshot.Cursor → Prop) where
  pure _ start tally _ := ⟨((), tally), .pure start _⟩
  note event _ start tally _ := ⟨((), tally), lift_rests (.note start event)⟩
  bind first rest furnished start tally same := by
    obtain ⟨here, there⟩ := List.forall_mem_append.1 furnished
    obtain ⟨value, middle, ran, graph, pending⟩ := first here start tally same
    obtain ⟨result, final, ran', graph', pending'⟩ := rest there middle value.2 (graph.trans same)
    refine ⟨result, final, ?_, graph'.trans graph, pending'.trans pending⟩
    rw [StateT.run_bind, runFrom_bind, ran]
    exact ran'
  arrive cursor furnished start tally same := by
    have own := furnished cursor (List.mem_singleton_self cursor)
    unfold arrive
    split
    · exact ⟨_, bind_rests (lift_rests (.note start _)) fun middle _ => .pure middle _⟩
    · split
      · rename_i taken
        obtain ⟨answer, rests⟩ := record_rests ((own taken).of_graph same.symm)
        exact ⟨_, (lift_rests rests).bind fun middle _ _ => .pure middle _⟩
      · exact ⟨((), tally), .pure start _⟩

end Walk

end SymbolAtlas
