import SymbolAtlas.Proofs.Extract.Announcement
import SymbolAtlas.Proofs.Extract.Refusal
import SymbolAtlas.Proofs.Session.Coherence
import SymbolAtlas.Proofs.Session.Completion

/-! Recording finds the symbol of an identity or makes it, so that identities and
symbols correspond along every sequence of recordings. -/

namespace SymbolAtlas

open Snapshot Extract

theorem Registry.nodup_identities {registry : Registry} (rooted : Rooted registry.seats) :
    registry.identities.Nodup := by
  have seated : ∀ index : Nat,
      registry.identities[index]? = registry.seats[index]?.map Seat.identity := by
    intro index
    simp [identities, seats, Function.comp_def, Entry.seat]
  refine List.nodup_iff_getElem?_ne_getElem?.2 fun first second less inside same => ?_
  rw [seated, seated] at same
  have bound : second < registry.seats.size := by simpa [identities, seats] using inside
  rw [Array.getElem?_eq_getElem (Nat.lt_trans less bound), Array.getElem?_eq_getElem bound] at same
  refine Nat.ne_of_lt less (rooted.distinct first second _ _ ?_ ?_ (Option.some.inj same))
  · exact Array.getElem?_eq_getElem _
  · exact Array.getElem?_eq_getElem _

namespace Extract

variable {snapshot : Snapshot} {start : Extraction}

/-- What recording a cursor comes to. Only a cursor without a part has no symbol, and it
adds an entry for itself and nothing else. Any other is found under its identity, where
it was before if it was there. -/
structure Interns (cursor : snapshot.Cursor) (before : Registry)
    (outcome : Except Stop (Option Nat)) (after : Registry) : Prop where
  unnamed : outcome = .ok none ↔ cursor.part.isEmpty
  logged : outcome = .ok none → after = before.logUnresolved cursor.spelling cursor.location
  found : ∀ index, outcome = .ok (some index) → after.find? cursor.identity = some index
  kept : ∀ index old, outcome = .ok (some index) → before.find? cursor.identity = some old →
    index = old

private theorem record_interns (settings : Settings) (cursor : snapshot.Cursor)
    (idle : start.pending = []) :
    Interns cursor start.registry (runFrom start (record settings cursor)).1
      (runFrom start (record settings cursor)).2.registry := by
  obtain ⟨advances, ends⟩ := record_proceeds settings cursor idle
  cases named : cursor.part.isEmpty with
  | true =>
    rw [record, runFrom_recordWith_unnamed named]
    exact ⟨by simp [named], fun _ => rfl, by simp, by simp⟩
  | false =>
    revert advances ends
    cases runFrom start (record settings cursor) with
    | mk outcome final =>
      intro advances ends
      -- a named cursor is answered by an index, unless its run stops
      have missing : outcome ≠ .ok none := by
        rintro rfl
        cases ends with
        | unnamed empty =>
          rw [named] at empty
          cases empty
      have found : ∀ index, outcome = .ok (some index) →
          final.registry.find? cursor.identity = some index := by
        rintro index rfl
        cases ends with
        | known _ found => exact found
      refine ⟨by simp [missing, named], fun none => absurd none missing, found, ?_⟩
      intro index old given present
      have later := advances.grows.find? present
      exact Option.some.inj ((found index given).symm.trans later)

end Extract

structure Call where
  settings : Settings
  snapshot : Snapshot
  cursor : snapshot.Cursor

namespace Call

def answer (call : Call) (start : Extraction) : Except Stop (Option Nat) × Extraction :=
  runFrom start (record call.settings call.cursor)

/-- Records cursors one after another, whatever becomes of each. -/
def answerAll (start : Extraction) : List Call → List (Call × Except Stop (Option Nat)) × Extraction
  | [] => ([], start)
  | call :: later =>
    let rest := answerAll (call.answer start).2 later
    ((call, (call.answer start).1) :: rest.1, rest.2)

structure Leaves (start : Extraction) (answers : List (Call × Except Stop (Option Nat)))
    (final : Extraction) : Prop where
  idle : final.pending = []
  rooted : Rooted final.registry.seats
  grows : start.registry.Grows final.registry
  announces : Announces start final
  found : ∀ call index, (call, .ok (some index)) ∈ answers →
    final.registry.find? call.cursor.identity = some index

private theorem answer_leaves (call : Call) {start : Extraction} (idle : start.pending = [])
    (rooted : Rooted start.registry.seats) :
    Leaves start [(call, (call.answer start).1)] (call.answer start).2 := by
  obtain ⟨advances, ends⟩ := record_proceeds call.settings call.cursor idle
  have interns := record_interns call.settings call.cursor idle
  have announcing := record_announcing call.settings call.cursor start
  refine ⟨advances.pending.trans idle, ?_, advances.grows, announcing ?_, ?_⟩
  · exact advances.steps.keep (fun _ _ step rooted => step.rooted rooted) rooted
  · intro dangling
    rw [dangling] at ends
    obtain ⟨error, ⟨⟩, -⟩ := ends
  · intro other index answered
    obtain ⟨rfl, given⟩ := Prod.mk.inj (List.mem_singleton.1 answered)
    exact interns.found index given.symm

private theorem answerAll_leaves (calls : List Call) {start : Extraction}
    (idle : start.pending = []) (rooted : Rooted start.registry.seats) :
    Leaves start (answerAll start calls).1 (answerAll start calls).2 := by
  induction calls generalizing start with
  | nil => exact ⟨idle, rooted, .refl _, .refl _, by simp [answerAll]⟩
  | cons call later ih =>
    have first := call.answer_leaves idle rooted
    have rest := ih first.idle first.rooted
    refine ⟨rest.idle, rest.rooted, first.grows.trans rest.grows,
      first.announces.trans rest.announces, fun other index answered => ?_⟩
    rcases List.mem_cons.1 answered with own | answered
    · exact rest.grows.find? (first.found other index (List.mem_singleton.2 own))
    · exact rest.found other index answered

end Call

namespace Session

/-- From every registry of a session, recording a cursor finds its symbol or makes it. Along
recordings of any cursors, answers are equal exactly where identities are, every symbol stays
where it is, and each one that is made, as the reports tell, is new. -/
theorem record_interning (operations : List Operation) (log : Array Event) :
    let start : Extraction := { registry := (run operations).registry, log }
    (∀ call : Call, Interns call.cursor start.registry (call.answer start).1
      (call.answer start).2.registry) ∧
    ∀ calls : List Call,
      let answers := (Call.answerAll start calls).1
      let final := (Call.answerAll start calls).2
      (∀ one other index position, (one, .ok (some index)) ∈ answers →
        (other, .ok (some position)) ∈ answers →
          (index = position ↔ one.cursor.identity = other.cursor.identity)) ∧
      start.registry.Grows final.registry ∧ Announces start final ∧
        final.registry.identities.Nodup := by
  intro start
  refine ⟨fun call => record_interns call.settings call.cursor rfl, fun calls => ?_⟩
  have leaves : Call.Leaves start _ _ :=
    Call.answerAll_leaves calls rfl (rooted_run operations)
  refine ⟨?_, leaves.grows, leaves.announces, Registry.nodup_identities leaves.rooted⟩
  intro one other index position answered answered'
  have found := leaves.found one index answered
  have found' := leaves.found other position answered'
  constructor
  · rintro rfl
    exact Registry.find?_injective found found'
  · intro same
    rw [same, found'] at found
    exact (Option.some.inj found).symm

def callNested (index : Fin 6) : Call :=
  ⟨{}, nested, ⟨index⟩⟩

/-- Recording the body of the inner record makes it through its outer record. The first
declaration then has the same identity and symbol, the outer record another one, and a
field none. -/
theorem record_interning_nested :
    let calls := [callNested 4, callNested 2, callNested 1, callNested 5]
    let final := (Call.answerAll {} calls).2
    (callNested 4).cursor.identity = (callNested 2).cursor.identity ∧
      (callNested 4).cursor.identity ≠ (callNested 1).cursor.identity ∧
      (callNested 5).cursor.part.isEmpty ∧
      final.registry.size = 2 ∧ final.registry.identities.Nodup := by
  intro calls final
  have law := record_interning [] #[]
  have bodied : ((callNested 4).answer {}).1 = .ok (some 1) := by decide +kernel
  have declared : ((callNested 2).answer ((callNested 4).answer {}).2).1 = .ok (some 1) := by
    decide +kernel
  have outer : ((callNested 1).answer
      ((callNested 2).answer ((callNested 4).answer {}).2).2).1 = .ok (some 0) := by
    decide +kernel
  have field : ((callNested 5).answer {}).1 = .ok none := by decide +kernel
  obtain ⟨same, -, -, once⟩ := law.2 calls
  have first : (callNested 4, .ok (some 1)) ∈ (Call.answerAll {} calls).1 :=
    List.mem_cons.2 (.inl (Prod.ext rfl bodied.symm))
  have second : (callNested 2, .ok (some 1)) ∈ (Call.answerAll {} calls).1 :=
    List.mem_cons_of_mem _ (List.mem_cons.2 (.inl (Prod.ext rfl declared.symm)))
  have third : (callNested 1, .ok (some 0)) ∈ (Call.answerAll {} calls).1 :=
    List.mem_cons_of_mem _ (List.mem_cons_of_mem _
      (List.mem_cons.2 (.inl (Prod.ext rfl outer.symm))))
  refine ⟨(same _ _ 1 1 first second).1 rfl, fun equal => ?_, (law.1 _).unnamed.1 field, ?_, once⟩
  · cases (same _ _ 1 0 first third).2 equal
  · decide +kernel

end Session

end SymbolAtlas
