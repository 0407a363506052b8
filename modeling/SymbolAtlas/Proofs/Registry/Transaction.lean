import Mathlib.Data.List.TakeDrop
import SymbolAtlas.Proofs.Registry.Undo

/-! Work on a registry between a mark and the way back to it. Whatever is done in
between may itself go back to marks of its own. -/

namespace SymbolAtlas.Registry

variable {before after registry start finish : Registry} {mark : Mark}

private theorem take_clearIn (entries : Array Entry) (change : Change) (count : Nat) :
    (clearIn entries change).take count = clearIn (entries.take count) change := by
  cases change with
  | referenced edge => rfl
  | resolved index =>
    apply Array.ext_getElem?
    intro position
    simp only [clearIn, Array.take_eq_extract, Array.getElem?_extract, Array.getElem?_modify,
      Array.size_modify, Nat.zero_add]
    split <;> split <;> rfl

private theorem take_foldl_clearIn (changes : List Change) (entries : Array Entry) (count : Nat) :
    (changes.foldl clearIn entries).take count = changes.foldl clearIn (entries.take count) := by
  induction changes generalizing entries with
  | nil => rfl
  | cons change changes ih => rw [List.foldl_cons, ih, take_clearIn, List.foldl_cons]

private theorem filter_foldl_eraseIn (kept : Edge → Bool) (changes : List Change)
    (edges : List Edge) :
    (changes.foldl eraseIn edges).filter kept = changes.foldl eraseIn (edges.filter kept) := by
  induction changes generalizing edges with
  | nil => rfl
  | cons change changes ih =>
    rw [List.foldl_cons, ih, List.foldl_cons]
    cases change with
    | resolved index => rfl
    | referenced edge => rw [eraseIn, eraseIn, List.erase_filter]

private theorem take_take {α : Type} {fewer more : Nat} (le : fewer ≤ more) (items : Array α) :
    (items.take more).take fewer = items.take fewer := by
  simp [Array.take_eq_extract, le]

private theorem filter_within_filter {fewer more : Nat} (le : fewer ≤ more) (edges : List Edge) :
    (edges.filter (within more)).filter (within fewer) = edges.filter (within fewer) := by
  rw [List.filter_filter]
  refine List.filter_congr fun edge _ => ?_
  rw [Bool.eq_iff_iff, Bool.and_eq_true, and_iff_left_of_imp]
  exact fun inside => within_of_le inside le

/-- What has changed since an earlier mark has changed since a later one or before that. -/
theorem changesSince_split (registry : Registry) {early late : Nat} (le : early ≤ late)
    (other : Registry) (same : other.changes = registry.changes.take late) :
    registry.changesSince early = registry.changesSince late ++ other.changesSince early := by
  unfold changesSince
  rw [same, ← List.reverse_append]
  congr 1
  have split := List.drop_take_append_drop registry.changes.toList early (late - early)
  rw [List.take_drop, Nat.add_sub_cancel' le] at split
  simpa [Array.take_eq_extract] using split.symm

/-- On the way back to a mark it makes no difference to stop at a later one. -/
theorem rollback_rollback {late : Mark} (symbols : mark.symbols ≤ late.symbols)
    (unresolved : mark.unresolved ≤ late.unresolved) (changes : mark.changes ≤ late.changes)
    (registry : Registry) : (registry.rollback late).rollback mark = registry.rollback mark := by
  have split := registry.changesSince_split changes (registry.rollback late) (by rw [rollback_eq])
  rw [rollback_eq (registry.rollback late) mark, rollback_eq registry mark, split,
    List.foldl_append, List.foldl_append]
  generalize (registry.rollback late).changesSince mark.changes = before
  rw [rollback_eq registry late]
  simp only [take_foldl_clearIn, filter_foldl_eraseIn, filter_within_filter symbols,
    take_take symbols, take_take unresolved, take_take changes]

/-- A call that adds to a registry or completes what is there. -/
inductive Call (before : Registry) : Registry → Prop
  | add {identity : Identity} {symbol : Symbol} {after : Registry} {index : Nat}
      (fresh : before.find? identity = none)
      (enclosed : ∀ parent, symbol.parent = some parent → parent < before.size)
      (added : before.add? identity symbol = some (after, index)) : Call before after
  | refer {edge : Edge} {after : Registry} (ends : within before.size edge)
      (added : before.addReference? edge = some after) : Call before after
  | complete {index : Nat} {symbol : Symbol} {detail : Detail}
      (present : before.get? index = some symbol) (awaited : symbol.awaits detail) :
      Call before ((before.update index (·.fill detail)).markResolved index)
  | log (name : String) (location : Location) : Call before (before.logUnresolved name location)
  /-- Locations, documentation and exposure are outside of the core. -/
  | describe (index : Nat) {change : Symbol → Symbol}
      (plain : ∀ symbol, (change symbol).core = symbol.core) :
      Call before (before.update index change)

/-- Calls one after another. An attempt is work that ends by going back to where it began. -/
inductive Work : Registry → Registry → Prop
  | none {registry : Registry} : Work registry registry
  | call {before registry after : Registry} (earlier : Work before registry)
      (call : Call registry after) : Work before after
  | attempt {before registry reached : Registry} (earlier : Work before registry)
      (inner : Work registry reached) : Work before (reached.rollback registry.mark)

private theorem eq_enter_of_add? {identity : Identity} {symbol : Symbol} {index : Nat}
    (fresh : before.find? identity = none)
    (enclosed : ∀ parent, symbol.parent = some parent → parent < before.size)
    (added : before.add? identity symbol = some (after, index)) :
    after = before.enter identity symbol := by
  rw [add?_eq_enter fresh enclosed] at added
  cases added
  rfl

private theorem eq_link_of_addReference? {edge : Edge} (ends : within before.size edge)
    (added : before.addReference? edge = some after) : after = before.link edge := by
  simp only [within, Bool.and_eq_true, decide_eq_true_eq] at ends
  rw [addReference?_eq_link ends.1 ends.2] at added
  exact (Option.some.inj added).symm

private theorem Call.undone (call : Call before after) (inside : mark.Within before) :
    mark.Within after ∧ (after.rollback mark).core = (before.rollback mark).core := by
  cases call with
  | add fresh enclosed added =>
    obtain rfl := eq_enter_of_add? fresh enclosed added
    refine ⟨inside.of_le (by simp) (Nat.le_refl _) (Nat.le_refl _), ?_⟩
    rw [rollback_enter inside]
  | @refer edge _ ends added =>
    obtain rfl := eq_link_of_addReference? ends added
    exact ⟨within_link inside edge, by rw [rollback_link inside]⟩
  | complete present awaited =>
    have waiting := (Bool.and_eq_true_iff.1 awaited).2
    refine ⟨within_fill inside _ _, ?_⟩
    rw [rollback_fill inside present (Option.isNone_iff_eq_none.1 waiting)]
  | log name location =>
    refine ⟨inside.of_le (Nat.le_refl _) (by simp [logUnresolved]) (Nat.le_refl _), ?_⟩
    rw [rollback_logUnresolved inside]
  | describe index plain =>
    refine ⟨inside.of_le (by simp) (Nat.le_refl _) (Nat.le_refl _), ?_⟩
    rw [core_rollback, core_update_of_core _ _ plain, ← core_rollback]

private theorem Call.anchored (call : Call before after) (anchored : before.Anchored) :
    after.Anchored := by
  cases call with
  | add fresh enclosed added =>
    obtain rfl := eq_enter_of_add? fresh enclosed added
    exact anchored.enter enclosed
  | refer ends added =>
    obtain rfl := eq_link_of_addReference? ends added
    exact anchored.link ends
  | complete => simpa [Anchored, markResolved, update, size] using anchored
  | log => exact anchored
  | describe index plain => exact anchored.of_core (core_update_of_core _ _ plain)

private theorem within_rollback {late : Mark} (reached : late.Within registry)
    (symbols : mark.symbols ≤ late.symbols) (unresolved : mark.unresolved ≤ late.unresolved)
    (changes : mark.changes ≤ late.changes) : mark.Within (registry.rollback late) where
  symbols := by
    rw [size_rollback]
    exact Nat.le_min.2 ⟨symbols, Nat.le_trans symbols reached.symbols⟩
  unresolved := by
    rw [rollback_eq]
    simpa [Array.take_eq_extract] using
      Nat.le_min.2 ⟨unresolved, Nat.le_trans unresolved reached.unresolved⟩
  changes := by
    rw [rollback_eq]
    simpa [Array.take_eq_extract] using
      Nat.le_min.2 ⟨changes, Nat.le_trans changes reached.changes⟩

private theorem Call.enter {identity : Identity} {symbol : Symbol}
    (fresh : before.find? identity = none)
    (enclosed : ∀ parent, symbol.parent = some parent → parent < before.size) :
    Call before (before.enter identity symbol) :=
  .add fresh enclosed (add?_eq_enter fresh enclosed)

private theorem Call.link {edge : Edge} (source : edge.source < before.size)
    (target : edge.target < before.size) : Call before (before.link edge) :=
  .refer (by simp [Registry.within, source, target]) (addReference?_eq_link source target)

/-- What is done after a mark is taken back on the way to it, attempts included. -/
theorem Work.undone (work : Work before after) (inside : mark.Within before) :
    mark.Within after ∧ (after.rollback mark).core = (before.rollback mark).core := by
  induction work generalizing mark with
  | none => exact ⟨inside, rfl⟩
  | call earlier call ih =>
    obtain ⟨within, same⟩ := call.undone (ih inside).1
    exact ⟨within, same.trans (ih inside).2⟩
  | @attempt before registry reached _ _ ih ih' =>
    obtain ⟨begun, same⟩ := ih inside
    have tried := ih' registry.within_mark
    refine ⟨within_rollback tried.1 begun.symbols begun.unresolved begun.changes, ?_⟩
    rw [rollback_rollback begun.symbols begun.unresolved begun.changes]
    exact (ih' begun).2.trans same

private theorem Work.anchored (work : Work before after) (anchored : before.Anchored) :
    after.Anchored := by
  induction work with
  | none => exact anchored
  | call _ call ih => exact call.anchored (ih anchored)
  | attempt _ _ ih ih' => exact (ih' (ih anchored)).rollback _

/-- Going back to where work began restores the core of what was there and its mark. To go
back once more changes nothing. It makes no difference to go back first to any mark that
work from there may come to, whether or not that one has been undone itself. -/
theorem transactions_nest {start finish : Registry} (begun : Work {} start)
    (work : Work start finish) :
    start.Undone (finish.rollback start.mark) ∧
      (finish.rollback start.mark).rollback start.mark = finish.rollback start.mark ∧
      ∀ middle, Work start middle →
        (finish.rollback middle.mark).rollback start.mark = finish.rollback start.mark := by
  have anchored : start.Anchored := begun.anchored (by simp [Anchored])
  have undone := (work.undone start.within_mark).2
  rw [start.rollback_mark anchored] at undone
  refine ⟨undone_of_core undone, ?_, fun middle between => ?_⟩
  · exact rollback_rollback (Nat.le_refl _) (Nat.le_refl _) (Nat.le_refl _) finish
  · obtain ⟨later, -⟩ := between.undone start.within_mark
    exact rollback_rollback later.symbols later.unresolved later.changes finish

/-- A record that is still without its members. -/
def unfinished : Registry :=
  Registry.enter {} (.ofPart ⟨"S", "S", "S"⟩)
    { part := ⟨"S", "S", "S"⟩, kind := .record .structKeyword, parent := none }

/-- The record gets its members. -/
def completed : Registry :=
  (unfinished.update 0 (·.fill (.members []))).markResolved 0

/-- The record refers to itself, and has an alias inside. -/
def attempted : Registry :=
  (completed.link ⟨0, 0⟩).enter ((Identity.ofPart ⟨"S", "S", "S"⟩).child ⟨"A", "A", "A"⟩)
    { part := ⟨"A", "A", "A"⟩, kind := .typedef, parent := some 0 }

/-- The attempt is given up, but then the record refers to itself again. -/
def retried : Registry :=
  ((attempted.rollback completed.mark).link ⟨0, 0⟩).logUnresolved "x" .absent

/-- The reference is noted twice, in an attempt and after it, and taken back twice. -/
theorem transactions_nest_retried :
    Work {} unfinished ∧ Work unfinished retried ∧ Work unfinished completed ∧
      retried.references = [⟨0, 0⟩] ∧
      (retried.rollback completed.mark).references = [] ∧
      unfinished.Undone (retried.rollback unfinished.mark) ∧
      (retried.rollback completed.mark).rollback unfinished.mark =
        retried.rollback unfinished.mark := by
  have begun : Work {} unfinished := .call .none (.enter (by decide +kernel) (by simp))
  have between : Work unfinished completed := .call .none (.complete rfl rfl)
  have inner : Work completed attempted :=
    .call (.call .none (.link (by decide) (by decide))) (.enter (by decide +kernel) (by decide))
  have work : Work unfinished retried :=
    .call (.call (.attempt between inner) (.link (by decide) (by decide))) (.log "x" .absent)
  obtain ⟨undone, -, stopover⟩ := transactions_nest begun work
  exact ⟨begun, work, between, by decide +kernel, by decide +kernel, undone,
    stopover completed between⟩

end SymbolAtlas.Registry
