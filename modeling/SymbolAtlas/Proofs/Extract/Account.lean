import SymbolAtlas.Proofs.Extract.Completion
import SymbolAtlas.Proofs.Extract.Visit

/-! What a walk has to show for the cursors it has come to: how many it has counted, and
what the symbols of those it has recorded are sure to have. -/

namespace SymbolAtlas

open Snapshot

variable {snapshot : Snapshot} {settings : Settings}

/-- What is sure of a cursor that has been recorded between two registries. Its symbol
shows it, and has the detail that the cursor gives if it was there before or is owed it. -/
structure Registry.Accounted (settings : Settings) (before after : Registry)
    (cursor : snapshot.Cursor) : Prop where
  recorded : after.Recorded cursor
  supplied : ∀ index symbol, cursor.part.isEmpty = false →
    after.find? cursor.identity = some index → after.get? index = some symbol →
      cursor.supplies settings symbol.kind →
        symbol.kind.isOwed ∨ (before.find? cursor.identity).isSome → symbol.detail.isSome

namespace Registry.Accounted

variable {before middle after : Registry} {cursor : snapshot.Cursor}

private theorem earlier (accounted : Accounted settings middle after cursor)
    (grown : before.Grows middle) : Accounted settings before after cursor where
  recorded := accounted.recorded
  supplied index symbol named found present supplies reason := by
    refine accounted.supplied index symbol named found present supplies (reason.imp_right ?_)
    intro known
    obtain ⟨old, known⟩ := Option.isSome_iff_exists.1 known
    exact Option.isSome_iff_exists.2 ⟨old, grown.find? known⟩

private theorem later (accounted : Accounted settings before middle cursor)
    (grown : middle.Grows after) (gathers : middle.Gathers after) :
    Accounted settings before after cursor where
  recorded := accounted.recorded.keep grown gathers
  supplied index symbol named found present supplies reason := by
    obtain ⟨own, known, -⟩ := accounted.recorded named
    have same := grown.find? known
    rw [found] at same
    cases same
    obtain ⟨old, stored, growth⟩ := grown.get?_of_lt (Registry.lt_size_of_find? known) present
    rw [growth.kind] at supplies reason
    exact growth.isSome_detail (accounted.supplied index old named known stored supplies reason)

end Registry.Accounted

private theorem Extract.record_accounted (settings : Settings) {start : Extraction}
    (idle : start.pending = []) (cursor : snapshot.Cursor) :
    Proceeds snapshot [] start (record settings cursor) fun _ registry =>
      Registry.Accounted settings start.registry registry cursor := by
  have recorded := records_record settings _ start cursor (.idle idle)
    (start.registry.settled_size start.pending)
  rw [idle] at recorded
  refine (recorded.and (record_concludes settings idle cursor)).mono fun answer final _ done => ?_
  obtain ⟨⟨answered, recorded, -⟩, concluded⟩ := done
  refine ⟨recorded, fun index symbol named found present supplies reason => ?_⟩
  cases answered with
  | unnamed empty =>
    rw [named] at empty
    cases empty
  | known _ own =>
    rw [found] at own
    cases own
    obtain ⟨current, stored, given⟩ := concluded index rfl
    rw [present] at stored
    cases stored
    split at given
    · -- an overtaken symbol is neither owed its detail nor older than the recording
      rename_i late
      rcases reason with owed | known
      · rw [given.2] at owed
        cases owed
      · obtain ⟨old, known⟩ := Option.isSome_iff_exists.1 known
        rw [overtaken_of_known known] at late
        cases late
    · exact given supplies

namespace Walk

open Extract

def counted (settings : Settings) (tally : Tally) (cursors : List snapshot.Cursor) : Tally :=
  ⟨tally.visited + .ofNat (cursors.countP (takes settings)),
    tally.skipped + .ofNat (cursors.countP (leavesOut settings))⟩

@[simp]
theorem counted_nil (tally : Tally) :
    counted settings tally ([] : List snapshot.Cursor) = tally := by
  simp [counted]

theorem counted_singleton (tally : Tally) (cursor : snapshot.Cursor) :
    counted settings tally [cursor] =
      if leavesOut settings cursor then tally.skip
      else if takes settings cursor then tally.visit
      else tally := by
  cases left : leavesOut settings cursor with
  | true => simp [counted, takes, left, Tally.skip]
  | false => cases taken : takes settings cursor <;> simp [counted, left, taken, Tally.visit]

theorem counted_append (tally : Tally) (earlier later : List snapshot.Cursor) :
    counted settings tally (earlier ++ later) =
      counted settings (counted settings tally earlier) later := by
  simp only [counted, List.countP_append, UInt64.ofNat_add, UInt64.add_assoc]

/-- A walk counts some cursors, and accounts for those that are to be recorded. -/
def Accounts (settings : Settings) (walk : Walk Unit) (cursors : List snapshot.Cursor) : Prop :=
  ∀ start tally, start.pending = [] →
    Proceeds snapshot [] start (walk.run tally) fun value registry =>
      value.2 = counted settings tally cursors ∧
        ∀ cursor ∈ cursors, takes settings cursor →
          Registry.Accounted settings start.registry registry cursor

namespace Accounts

private theorem pure : Accounts settings (pure ()) ([] : List snapshot.Cursor) :=
  fun _ tally _ => .pure ⟨(counted_nil tally).symm, by simp⟩

private theorem note (event : Event) :
    Accounts settings (liftM (note event)) ([] : List snapshot.Cursor) := by
  intro start tally idle
  exact (Proceeds.note event).bind fun _ _ _ _ => .pure ⟨(counted_nil tally).symm, by simp⟩

private theorem bind {first : Walk Unit} {rest : Unit → Walk Unit}
    {earlier later : List snapshot.Cursor}
    (one : Accounts settings first earlier) (other : Accounts settings (rest ()) later) :
    Accounts settings (first >>= rest) (earlier ++ later) := by
  intro start tally idle
  refine bind_proceeds (one start tally idle) fun value middle onward done => ?_
  obtain ⟨tallied, accounted⟩ := done
  refine (other middle value.2 (onward.pending.trans idle)).mono fun final last further ended => ?_
  refine ⟨by rw [ended.1, tallied, counted_append], fun cursor member taken => ?_⟩
  rcases List.mem_append.1 member with before | after
  · exact (accounted cursor before taken).later further.grows further.gathers
  · exact (ended.2 cursor after taken).earlier onward.grows

/-- What changes nothing but the tally accounts for a cursor that is not recorded. -/
theorem untaken {cursor : snapshot.Cursor} (passed : takes settings cursor = false)
    {change : Tally → Tally} (counts : ∀ tally, change tally = counted settings tally [cursor]) :
    Accounts settings (modify change) [cursor] := by
  intro start tally idle
  refine .pure ⟨counts tally, fun other member taken => ?_⟩
  rw [List.mem_singleton.1 member, passed] at taken
  cases taken

private theorem arrive (settings : Settings) (cursor : snapshot.Cursor) :
    Accounts settings (arrive settings cursor) [cursor] := by
  unfold Walk.arrive
  cases left : leavesOut settings cursor with
  | true =>
    have passed := takes_of_leavesOut left
    exact bind (note _) (untaken passed fun tally => by simp [counted_singleton, left])
  | false =>
    cases taken : takes settings cursor with
    | true =>
      intro start tally idle
      refine (lift_proceeds (record_accounted settings idle cursor)).bind ?_
      intro value final onward done
      refine .pure ⟨?_, ?_⟩
      · simpa [counted_singleton, left, taken] using done.1
      · simpa using fun _ => done.2
    | false =>
      intro start tally idle
      exact .pure ⟨by simp [counted_singleton, left, taken], by simp [taken]⟩

theorem additive (snapshot : Snapshot) (settings : Settings) :
    Additive settings (Accounts settings : Walk Unit → List snapshot.Cursor → Prop) where
  pure := pure
  note := note
  bind := bind
  arrive := arrive settings

end Accounts

end Walk

end SymbolAtlas
