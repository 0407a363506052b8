import SymbolAtlas.Proofs.Extract.Account

/-! The machine words that a walk counts in. A level always has room in one, as the depth
limit has. The two numbers of a tally may not: then they go on at zero, and a walk whose
counts are checked is stopped. -/

namespace SymbolAtlas.Walk

open Snapshot Extract

variable {snapshot : Snapshot} {settings : Settings}

private theorem toNat_add_of_room {word more : UInt64}
    (room : word.toNat + more.toNat < UInt64.size) :
    (word + more).toNat = word.toNat + more.toNat := by
  rw [UInt64.toNat_add]
  exact Nat.mod_eq_of_lt room

private theorem toNat_add_one {word : UInt64} (room : word.toNat + 1 < UInt64.size) :
    (word + 1).toNat = word.toNat + 1 :=
  toNat_add_of_room room

/-- The walk that counts its level in a machine word: a scope is one level below the walk that
comes to it. Where the word cannot count any further, `overflow` is what happens. -/
def measured (arrive : snapshot.Cursor → Walk Unit) (settings : Settings)
    (overflow : snapshot.Cursor → Walk Unit) (level : UInt64) (parent : snapshot.Cursor) :
    Walk Unit :=
  parent.children.forM <| comeBy arrive settings fun scope =>
    if room : level.toNat + 1 < UInt64.size then
      if settings.maxDepth ≤ (level + 1).toNat then stayAbove settings scope
      else measured arrive settings overflow (level + 1) scope
    else overflow scope
termination_by settings.maxDepth - level.toNat
decreasing_by
  rw [toNat_add_one room] at *
  omega

section Levels

variable {arrive : snapshot.Cursor → Walk Unit}

private theorem measured_of_room (overflow : snapshot.Cursor → Walk Unit) {level : UInt64}
    (room : level.toNat + 1 < UInt64.size) (parent : snapshot.Cursor) :
    measured arrive settings overflow level parent =
      parent.children.forM (comeBy arrive settings fun scope =>
        if settings.maxDepth ≤ level.toNat + 1 then stayAbove settings scope
        else measured arrive settings overflow (level + 1) scope) := by
  rw [measured]
  simp only [room, dif_pos, toNat_add_one room]

/-- A level that is walked lies below the limit or is the first, so that the word has room for
the next one. -/
theorem measured_eq_roam (word : settings.maxDepth < UInt64.size)
    (overflow : snapshot.Cursor → Walk Unit) (room : Nat) (level : UInt64)
    (left : settings.maxDepth - 1 - level.toNat = room)
    (within : level.toNat = 0 ∨ level.toNat < settings.maxDepth) (parent : snapshot.Cursor) :
    measured arrive settings overflow level parent = roam arrive settings room parent := by
  have few : 1 < UInt64.size := by decide
  induction room generalizing level parent with
  | zero =>
    have stays : settings.maxDepth ≤ level.toNat + 1 := by omega
    rw [measured_of_room overflow (by omega), roam]
    simp only [stays, if_true]
  | succ room ih =>
    have counts : level.toNat + 1 < UInt64.size := by omega
    have next := toNat_add_one counts
    have descends : ¬ settings.maxDepth ≤ level.toNat + 1 := by omega
    rw [measured_of_room overflow counts, roam]
    simp only [descends, if_false]
    congr 2
    funext scope
    exact ih (level + 1) (by omega) (by omega) scope

theorem measured_eq_unit (word : settings.maxDepth < UInt64.size)
    (overflow : snapshot.Cursor → Walk Unit) :
    measured (Walk.arrive settings) settings overflow 0 snapshot.root = unit settings snapshot := by
  rw [unit, children_eq_roam]
  exact measured_eq_roam word overflow _ 0 rfl (.inl rfl) snapshot.root

end Levels

/-- The words of a tally have room for counting some cursors. -/
structure Holds (settings : Settings) (tally : Tally) (cursors : List snapshot.Cursor) : Prop where
  visited : tally.visited.toNat + cursors.countP (takes settings) < UInt64.size
  skipped : tally.skipped.toNat + cursors.countP (leavesOut settings) < UInt64.size

section Counts

variable {tally : Tally} {cursors earlier later : List snapshot.Cursor}

private theorem toNat_add_ofNat {word : UInt64} {more : Nat}
    (room : word.toNat + more < UInt64.size) : (word + .ofNat more).toNat = word.toNat + more := by
  have fits : more < UInt64.size := by omega
  have same := UInt64.toNat_ofNat_of_lt' fits
  rw [toNat_add_of_room (by rwa [same]), same]

private theorem Holds.toNat_visited (holds : Holds settings tally cursors) :
    (counted settings tally cursors).visited.toNat =
      tally.visited.toNat + cursors.countP (takes settings) :=
  toNat_add_ofNat holds.visited

private theorem Holds.toNat_skipped (holds : Holds settings tally cursors) :
    (counted settings tally cursors).skipped.toNat =
      tally.skipped.toNat + cursors.countP (leavesOut settings) :=
  toNat_add_ofNat holds.skipped

private theorem holds_append :
    Holds settings tally (earlier ++ later) ↔
      Holds settings tally earlier ∧ Holds settings (counted settings tally earlier) later := by
  constructor
  · rintro ⟨visited, skipped⟩
    rw [List.countP_append] at visited skipped
    have first : Holds settings tally earlier := ⟨by omega, by omega⟩
    refine ⟨first, ?_, ?_⟩
    · rw [first.toNat_visited]
      omega
    · rw [first.toNat_skipped]
      omega
  · rintro ⟨first, visited, skipped⟩
    rw [first.toNat_visited] at visited
    rw [first.toNat_skipped] at skipped
    constructor <;> rw [List.countP_append] <;> omega

private theorem holds_nil : Holds settings tally ([] : List snapshot.Cursor) :=
  ⟨tally.visited.toNat_lt_size, tally.skipped.toNat_lt_size⟩

private theorem holds_left {cursor : snapshot.Cursor} (left : leavesOut settings cursor) :
    Holds settings tally [cursor] ↔ tally.skipped.toNat + 1 < UInt64.size := by
  have passed := takes_of_leavesOut left
  have visited := tally.visited.toNat_lt_size
  constructor
  · rintro ⟨-, skipped⟩
    simpa [left] using skipped
  · exact fun skipped => ⟨by simpa [passed] using visited, by simpa [left] using skipped⟩

private theorem holds_taken {cursor : snapshot.Cursor} (kept : leavesOut settings cursor = false)
    (taken : takes settings cursor) :
    Holds settings tally [cursor] ↔ tally.visited.toNat + 1 < UInt64.size := by
  have skipped := tally.skipped.toNat_lt_size
  constructor
  · rintro ⟨visited, -⟩
    simpa [taken] using visited
  · exact fun visited => ⟨by simpa [taken] using visited, by simpa [kept] using skipped⟩

private theorem holds_passed {cursor : snapshot.Cursor} (kept : leavesOut settings cursor = false)
    (passed : takes settings cursor = false) : Holds settings tally [cursor] := by
  have visited := tally.visited.toNat_lt_size
  have skipped := tally.skipped.toNat_lt_size
  exact ⟨by simpa [passed] using visited, by simpa [kept] using skipped⟩

end Counts

/-- Counts one further, or stops where the word is full. -/
def tick (stop : Stop) (count : Tally → UInt64) (next : Tally → Tally) : Walk Unit := do
  if (count (← get)).toNat + 1 < UInt64.size then modify next else throw stop

/-- What is done at a cursor when counts are checked. -/
def arriveChecked (settings : Settings) (stop : Stop) (cursor : snapshot.Cursor) : Walk Unit :=
  if leavesOut settings cursor then do
    Extract.note (.skipped cursor.kind cursor.spelling)
    tick stop Tally.skipped Tally.skip
  else if takes settings cursor then do
    tick stop Tally.visited Tally.visit
    let _ ← Extract.record settings cursor
  else pure ()

/-- A checked walk and one that counts on at zero either do the same, and their counts fit if
they end well, or the counts do not fit and the checked walk is stopped. -/
inductive Checks (settings : Settings) (stop : Stop) (cursors : List snapshot.Cursor)
    (start : Extraction) (tally : Tally) (walk other : Walk Unit) : Prop
  | same (alike : runFrom start (walk.run tally) = runFrom start (other.run tally))
      (fits : ∀ value final, runFrom start (other.run tally) = (.ok value, final) →
        Holds settings tally cursors ∧ value.2 = counted settings tally cursors)
  | stopped (full : ¬ Holds settings tally cursors)
      (ends : (runFrom start (walk.run tally)).1 = .error stop)

private theorem runFrom_run_bind {α β : Type} (start : Extraction) (tally : Tally) (walk : Walk α)
    (next : α → Walk β) :
    runFrom start ((walk >>= next).run tally) =
      match runFrom start (walk.run tally) with
      | (.ok value, middle) => runFrom middle ((next value.1).run value.2)
      | (.error stop, middle) => (.error stop, middle) := by
  rw [StateT.run_bind, runFrom_bind]
  cases runFrom start (walk.run tally) with
  | mk outcome middle => cases outcome <;> rfl

/-- A step of extraction leaves the tally of a walk alone. -/
theorem tally_of_lift {α : Type} {start final : Extraction} {tally : Tally} {step : Extract α}
    {value : α × Tally}
    (ended : runFrom start ((liftM step : Walk α).run tally) = (.ok value, final)) :
    value.2 = tally := by
  have unfolded : runFrom start ((liftM step : Walk α).run tally) =
      runFrom start (step >>= fun value => pure (value, tally)) := rfl
  rw [unfolded, runFrom_bind] at ended
  split at ended <;> cases ended
  rfl

namespace Checks

variable {stop : Stop} {start : Extraction} {tally : Tally} {walk : Walk Unit}
  {cursor : snapshot.Cursor}

private theorem bind {first other : Walk Unit} {rest further : Unit → Walk Unit}
    {earlier later : List snapshot.Cursor}
    (one : Checks settings stop earlier start tally first other)
    (two : ∀ middle, Checks settings stop later middle (counted settings tally earlier)
      (rest ()) (further ())) :
    Checks settings stop (earlier ++ later) start tally (first >>= rest) (other >>= further) := by
  have onward := runFrom_run_bind start tally first rest
  have beside := runFrom_run_bind start tally other further
  cases one with
  | stopped full ends =>
    refine .stopped (fun whole => full (holds_append.1 whole).1) ?_
    cases ran : runFrom start (first.run tally) with
    | mk outcome middle =>
      rw [ran] at ends onward
      cases ends
      rw [onward]
  | same alike fits =>
    rw [alike] at onward
    cases ran : runFrom start (other.run tally) with
    | mk outcome middle =>
      rw [ran] at onward beside
      cases outcome with
      | error failure =>
        refine .same (onward.trans beside.symm) fun value final ended => ?_
        rw [beside] at ended
        cases ended
      | ok value =>
        obtain ⟨⟨⟩, reached⟩ := value
        obtain ⟨holds, rfl⟩ : Holds settings tally earlier ∧ reached = _ := fits _ middle ran
        cases two middle with
        | same alike' fits' =>
          refine .same (onward.trans (alike'.trans beside.symm)) fun last final ended => ?_
          obtain ⟨holds', counts⟩ := fits' last final (beside.symm.trans ended)
          exact ⟨holds_append.2 ⟨holds, holds'⟩, by rw [counts, counted_append]⟩
        | stopped full ends =>
          refine .stopped (fun whole => full (holds_append.1 whole).2) ?_
          rw [onward]
          exact ends

/-- What leaves the tally alone does the same, checked or not. -/
theorem untallied
    (kept : ∀ value final, runFrom start (walk.run tally) = (.ok value, final) → value.2 = tally) :
    Checks settings stop ([] : List snapshot.Cursor) start tally walk walk :=
  .same rfl fun value final ended => ⟨holds_nil, by rw [kept value final ended, counted_nil]⟩

private theorem tick {count : Tally → UInt64} {next : Tally → Tally}
    (counts : next tally = counted settings tally [cursor])
    (fits : Holds settings tally [cursor] ↔ (count tally).toNat + 1 < UInt64.size) :
    Checks settings stop [cursor] start tally (tick stop count next) (modify next) := by
  have unfolded : runFrom start ((Walk.tick stop count next).run tally) =
      runFrom start ((if (count tally).toNat + 1 < UInt64.size then modify next
        else throw stop : Walk Unit).run tally) := rfl
  by_cases room : (count tally).toNat + 1 < UInt64.size
  · rw [if_pos room] at unfolded
    refine .same unfolded fun value final ended => ⟨fits.2 room, ?_⟩
    cases ended
    exact counts
  · rw [if_neg room] at unfolded
    refine .stopped (fun holds => room (fits.1 holds)) ?_
    rw [unfolded]
    rfl

private theorem record (settings : Settings) (cursor : snapshot.Cursor) :
    Checks settings stop ([] : List snapshot.Cursor) start tally
      (do let _ ← liftM (record settings cursor)) (do let _ ← liftM (record settings cursor)) := by
  refine untallied fun value final ended => ?_
  rw [runFrom_run_bind] at ended
  split at ended
  · rename_i answer middle ran
    have kept := tally_of_lift ran
    cases ended
    exact kept
  · cases ended

private theorem arrive (stop : Stop) (start : Extraction) (tally : Tally)
    (cursor : snapshot.Cursor) :
    Checks settings stop [cursor] start tally (arriveChecked settings stop cursor)
      (Walk.arrive settings cursor) := by
  unfold arriveChecked Walk.arrive
  cases left : leavesOut settings cursor with
  | true =>
    have noted : Checks settings stop ([] : List snapshot.Cursor) start tally
        (liftM (note (.skipped cursor.kind cursor.spelling))) _ :=
      untallied fun _ _ => tally_of_lift
    refine noted.bind fun middle => ?_
    rw [counted_nil]
    exact tick (by simp [counted_singleton, left]) (holds_left left)
  | false =>
    cases taken : takes settings cursor with
    | true =>
      have counts : tally.visit = counted settings tally [cursor] := by
        simp [counted_singleton, left, taken]
      exact (tick counts (holds_taken left taken)).bind fun middle => record settings cursor
    | false =>
      refine .same rfl fun value final ended => ⟨holds_passed left taken, ?_⟩
      cases ended
      simp [counted_singleton, left, taken]

private theorem coupled (settings : Settings) (stop : Stop) :
    Coupled settings (arriveChecked settings stop) (Walk.arrive settings)
      fun walk other (cursors : List snapshot.Cursor) =>
        ∀ start tally, Checks settings stop cursors start tally walk other where
  pure _ tally := untallied fun value final ended => by
    cases ended
    rfl
  note _ _ _ := untallied fun _ _ => tally_of_lift
  bind first rest start tally := (first start tally).bind fun middle => rest middle _
  arrive cursor start tally := arrive stop start tally cursor

end Checks

/-- The walk over a unit in which all counting is checked, of levels and of cursors. -/
def unitChecked (settings : Settings) (snapshot : Snapshot) (stop : Stop) : Walk Unit :=
  measured (arriveChecked settings stop) settings (fun _ => throw stop) 0 snapshot.root

theorem unit_checks (word : settings.maxDepth < UInt64.size) (snapshot : Snapshot) (stop : Stop)
    (start : Extraction) (tally : Tally) :
    Checks settings stop (reached settings snapshot) start tally
      (unitChecked settings snapshot stop) (unit settings snapshot) := by
  rw [unitChecked, measured_eq_roam word _ _ 0 rfl (.inl rfl), unit, children_eq_roam]
  exact (Checks.coupled settings stop).roam _ snapshot.root start tally

end SymbolAtlas.Walk
