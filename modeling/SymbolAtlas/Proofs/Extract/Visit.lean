import SymbolAtlas.Proofs.Extract.Route
import SymbolAtlas.Proofs.Extract.Trace

/-! The walk over a unit, put together from the cursors it visits. -/

namespace SymbolAtlas.Walk

open Snapshot Extract

variable {α β : Type} {snapshot : Snapshot} {spared : List Nat} {start : Extraction} {tally : Tally}
  {settings : Settings}

theorem bind_proceeds {walk : Walk α} {next : α → Walk β} {post : α × Tally → Registry → Prop}
    {last : β × Tally → Registry → Prop}
    (first : Proceeds snapshot spared start (walk.run tally) post)
    (rest : ∀ value middle, Advances snapshot spared start middle → post value middle.registry →
      Proceeds snapshot spared middle ((next value.1).run value.2) last) :
    Proceeds snapshot spared start ((walk >>= next).run tally) last := by
  rw [StateT.run_bind]
  exact first.bind rest

theorem lift_proceeds {step : Extract α} {post : α → Registry → Prop}
    (run : Proceeds snapshot spared start step post) :
    Proceeds snapshot spared start ((liftM step : Walk α).run tally) fun value registry =>
      value.2 = tally ∧ post value.1 registry :=
  run.bind fun _ _ _ holds => .pure ⟨rfl, holds⟩

/-- From every state where a completion may start, a walk only advances and leaves
symbols settled. -/
def Goes (snapshot : Snapshot) (walk : Walk Unit) : Prop :=
  ∀ kept start tally, Ready snapshot snapshot.raw.cursors.size start →
    start.registry.Settled kept start.pending →
    Proceeds snapshot start.pending start (walk.run tally) fun _ registry =>
      registry.Settled kept start.pending

private theorem pure_goes : Goes snapshot (pure ()) :=
  fun _ _ _ _ settled => .pure settled

theorem modify_goes (change : Tally → Tally) : Goes snapshot (modify change) :=
  fun _ _ _ _ settled => .pure settled

theorem note_goes (event : Event) : Goes snapshot (liftM (note event)) := by
  intro kept start tally ready settled
  refine (lift_proceeds (Proceeds.note event)).mono fun _ final _ same => ?_
  rw [same.2]
  exact settled

private theorem bind_goes {first : Walk Unit} {rest : Unit → Walk Unit} (one : Goes snapshot first)
    (other : Goes snapshot (rest ())) : Goes snapshot (first >>= rest) := by
  intro kept start tally ready settled
  refine bind_proceeds (one kept start tally ready settled) fun value middle onward settled => ?_
  rw [← onward.pending] at settled ⊢
  exact other kept middle value.2 (ready.advance onward) settled

private theorem record_goes (cursor : snapshot.Cursor) :
    Goes snapshot (do let _ ← liftM (record settings cursor)) := by
  intro kept start tally ready settled
  refine bind_proceeds (lift_proceeds (records_record settings kept start cursor ready settled))
    fun value middle onward done => ?_
  exact .pure done.2.2.2

private theorem arrive_goes (settings : Settings) (cursor : snapshot.Cursor) :
    Goes snapshot (arrive settings cursor) := by
  unfold arrive
  split
  · exact bind_goes (note_goes _) (modify_goes _)
  · split
    · exact bind_goes (modify_goes _) (record_goes cursor)
    · exact pure_goes

private theorem goes_additive (snapshot : Snapshot) (settings : Settings) :
    Additive settings fun walk (_ : List snapshot.Cursor) => Goes snapshot walk where
  pure := pure_goes
  note := note_goes
  bind := bind_goes
  arrive := arrive_goes settings

theorem visit_goes {descend : snapshot.Cursor → Walk Unit}
    (goes : ∀ cursor, Goes snapshot (descend cursor)) (cursor : snapshot.Cursor) :
    Goes snapshot (visit settings descend cursor) :=
  (goes_additive snapshot settings).visit (fun _ => []) goes (cursor, 0)

theorem children_goes (room : Nat) (parent : snapshot.Cursor) :
    Goes snapshot (children settings room parent) :=
  (goes_additive snapshot settings).children room parent

theorem unit_goes (settings : Settings) (snapshot : Snapshot) :
    Goes snapshot (unit settings snapshot) :=
  (goes_additive snapshot settings).unit

end SymbolAtlas.Walk
