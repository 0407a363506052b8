import Mathlib.Tactic.IntervalCases
import SymbolAtlas.Proofs.Registry.Coherence
import SymbolAtlas.Proofs.Registry.Mirror
import SymbolAtlas.Proofs.Registry.Undo

/-! Which symbol contains which, when symbols may also be replaced below other parents.
Edges of containment follow the parents through every change, but going back to a mark
may take away a parent that a symbol has been given since. -/

namespace SymbolAtlas.Registry

variable {registry later : Registry} {mark : Mark} {index : Nat}

/-- The edges by which a symbol is contained. -/
def incoming (registry : Registry) (index : Nat) : List Edge :=
  registry.contains.filter (·.target == index)

/-- Edges of containment are between symbols that exist, and a symbol has at most one,
which then starts at its parent. -/
structure Tied (registry : Registry) : Prop where
  anchored : ∀ edge ∈ registry.contains, within registry.size edge
  incoming : ∀ index, (registry.incoming index).Sublist
    (containment (registry.parent? index) index)

/-- Every parent is there, and contains its symbols by one edge each. -/
structure Housed (registry : Registry) : Prop where
  enclosed : ∀ index parent, registry.parent? index = some parent → parent < registry.size
  incoming : ∀ index, registry.incoming index = containment (registry.parent? index) index

/-- A symbol that a mark keeps has a parent that it does not keep. -/
def Orphans (registry : Registry) (mark : Mark) : Prop :=
  ∃ index parent, index < mark.symbols ∧ registry.parent? index = some parent ∧
    mark.symbols ≤ parent

private theorem lt_size_of_parent? {parent : Nat} (above : registry.parent? index = some parent) :
    index < registry.size := by
  obtain ⟨symbol, present, -⟩ := Option.bind_eq_some_iff.1 above
  exact lt_size_of_get? present

private theorem parent?_of_size_le (outside : registry.size ≤ index) :
    registry.parent? index = none := by
  cases above : registry.parent? index with
  | none => rfl
  | some parent => exact absurd (lt_size_of_parent? above) (Nat.not_lt.2 outside)

private theorem parent?_rollback (registry : Registry) (mark : Mark) (index : Nat) :
    (registry.rollback mark).parent? index =
      if index < mark.symbols then registry.parent? index else none := by
  rw [parent?_eq_seat, parent?_eq_seat, seats_rollback, Array.take_eq_extract,
    Array.getElem?_extract, Nat.zero_add]
  by_cases kept : index < mark.symbols
  · by_cases inside : index < registry.seats.size
    · rw [if_pos (by omega), if_pos kept]
    · rw [if_neg (by omega), if_pos kept, Array.getElem?_eq_none (by omega)]
  · rw [if_neg (by omega), if_neg kept, Option.bind_none]

private theorem incoming_rollback (registry : Registry) (mark : Mark) (index : Nat) :
    (registry.rollback mark).incoming index =
      (registry.incoming index).filter (within mark.symbols) := by
  rw [rollback_eq, incoming, incoming, List.filter_filter, List.filter_filter]
  exact List.filter_congr fun edge _ => Bool.and_comm _ _

/-- A change to neither the number of symbols nor their parents nor the edges between them. -/
structure Alike (before after : Registry) : Prop where
  size : after.size = before.size
  parent : ∀ index, after.parent? index = before.parent? index
  contains : after.contains = before.contains

/-- One symbol, new or there before, has been put below a parent. -/
structure Placed (before after : Registry) (place : Nat) (above : Option Nat) : Prop where
  size : before.size ≤ after.size
  inside : place < after.size
  enclosed : ∀ parent, above = some parent → parent < after.size
  parent : ∀ index, after.parent? index = if index = place then above else before.parent? index
  incoming : ∀ index, after.incoming index =
    if index = place then containment above index else before.incoming index

private theorem alike_of_entries (entries : later.entries = registry.entries)
    (contains : later.contains = registry.contains) : Alike registry later where
  size := by rw [size, entries, ← size]
  parent index := by rw [parent?, get?, entries, ← get?, ← parent?]
  contains := contains

private theorem mem_incoming {edge : Edge} :
    edge ∈ registry.incoming edge.target ↔ edge ∈ registry.contains := by
  simp [incoming]

private theorem parent?_replace {symbol : Symbol} (inside : index < registry.size)
    (position : Nat) :
    (registry.update index fun _ => symbol).parent? position =
      if position = index then symbol.parent else registry.parent? position := by
  obtain ⟨old, present⟩ := get?_of_lt inside
  rw [parent?, parent?, get?_update]
  by_cases here : position = index
  · rw [if_pos here.symm, if_pos here, here, present]
    rfl
  · rw [if_neg (Ne.symm here), if_neg here]

private theorem filter_containment (above : Option Nat) (place index : Nat) :
    (containment above place).filter (·.target == index) =
      if index = place then containment above index else [] := by
  split
  · rename_i same
    subst same
    exact List.filter_eq_self.2 fun edge member => by simp [(mem_containment.1 member).2]
  · rename_i differs
    refine List.filter_eq_nil_iff.2 fun edge member => ?_
    rw [(mem_containment.1 member).2]
    simpa using Ne.symm differs

/-- Replaces a symbol, and moves its edge of containment. -/
def move (registry : Registry) (index : Nat) (symbol : Symbol) : Registry :=
  { registry.update index (fun _ => symbol) with
    contains := registry.contains.filter (·.target != index) ++ containment symbol.parent index }

private theorem size_move (registry : Registry) (index : Nat) (symbol : Symbol) :
    (registry.move index symbol).size = registry.size := by
  simp [move, update, size]

private theorem add?_known {identity : Identity} (found : registry.find? identity = some index)
    (symbol : Symbol) :
    registry.add? identity symbol =
      if registry.parent? index = symbol.parent then
        some (registry.update index fun _ => symbol, index)
      else if symbol.parent.any (registry.size ≤ ·) then none
      else some (registry.move index symbol, index) := by
  rw [add?, found]
  by_cases kept : registry.parent? index = symbol.parent
  · have still : ((registry.get? index).bind Symbol.parent != symbol.parent) = false := by
      simpa [parent?] using kept
    rw [if_pos kept]
    simp only [still, Bool.false_and, Bool.false_eq_true, if_false]
    rfl
  · have moved : ((registry.get? index).bind Symbol.parent != symbol.parent) = true := by
      simpa [parent?] using kept
    rw [if_neg kept]
    simp only [moved, Bool.true_and, if_true]
    rfl

private theorem placed_move {symbol : Symbol} (inside : index < registry.size)
    (allowed : ∀ parent, symbol.parent = some parent → parent < registry.size) :
    Placed registry (registry.move index symbol) index symbol.parent where
  size := Nat.le_of_eq (registry.size_move index symbol).symm
  inside := by rwa [size_move]
  enclosed parent above := by
    rw [size_move]
    exact allowed parent above
  parent position := parent?_replace inside position
  incoming position := by
    rw [incoming, move, List.filter_append, filter_containment, List.filter_filter]
    split
    · rename_i here
      simp [here]
    · rename_i elsewhere
      rw [List.append_nil, incoming]
      refine List.filter_congr fun edge _ => ?_
      by_cases ends : edge.target = position <;> simp [ends, elsewhere]

/-- A symbol that is replaced below the same parent leaves everything where it is. -/
theorem alike_replace {symbol : Symbol} (inside : index < registry.size)
    (kept : registry.parent? index = symbol.parent) :
    Alike registry (registry.update index fun _ => symbol) where
  size := registry.size_update index _
  parent position := by
    rw [parent?_replace inside, ← kept]
    split
    · rename_i here
      rw [here]
    · rfl
  contains := rfl

namespace Tied

variable (tied : registry.Tied)

include tied

private theorem incoming_of_size_le (outside : registry.size ≤ index) :
    registry.incoming index = [] := by
  have above := tied.incoming index
  rw [parent?_of_size_le outside] at above
  exact List.sublist_nil.1 above

private theorem placed_enter {identity : Identity} {symbol : Symbol}
    (allowed : ∀ parent, symbol.parent = some parent → parent ≤ registry.size) :
    Placed registry (registry.enter identity symbol) registry.size symbol.parent where
  size := by simp
  inside := by simp
  enclosed parent above := by
    rw [size_enter]
    exact Nat.lt_succ_of_le (allowed parent above)
  parent index := registry.parent?_enter identity symbol index
  incoming index := by
    rw [Registry.incoming, enter, List.filter_append, filter_containment, ← Registry.incoming]
    split
    · rename_i new
      rw [tied.incoming_of_size_le (Nat.le_of_eq new.symm), List.nil_append]
    · rw [List.append_nil]

private theorem add?_cases {identity : Identity} {symbol : Symbol}
    (added : registry.add? identity symbol = some (later, index)) :
    Alike registry later ∨ Placed registry later index symbol.parent := by
  cases found : registry.find? identity with
  | none =>
    rw [add?_fresh found] at added
    split at added
    · cases added
    · rename_i allowed
      cases added
      exact .inr (tied.placed_enter fun parent above => by simpa [above] using allowed)
  | some place =>
    have inside := lt_size_of_find? found
    rw [add?_known found] at added
    split at added
    · rename_i kept
      cases added
      exact .inl (alike_replace inside kept)
    · split at added
      · cases added
      · rename_i allowed
        cases added
        exact .inr (placed_move inside fun parent above => by simpa [above] using allowed)

private theorem of_alike (alike : Alike registry later) : later.Tied where
  anchored edge member := by
    rw [alike.contains] at member
    rw [alike.size]
    exact tied.anchored edge member
  incoming index := by
    rw [Registry.incoming, alike.contains, alike.parent]
    exact tied.incoming index

private theorem of_placed {above : Option Nat} (placed : Placed registry later index above) :
    later.Tied where
  anchored edge member := by
    have ends := mem_incoming.2 member
    rw [placed.incoming] at ends
    split at ends
    · rename_i here
      have inside := placed.inside
      have known := placed.enclosed _ (mem_containment.1 ends).1
      rw [← here] at inside
      simp [within, inside, known]
    · exact within_of_le (tied.anchored edge (mem_incoming.1 ends)) placed.size
  incoming position := by
    rw [placed.incoming, placed.parent]
    split
    · exact List.Sublist.refl _
    · exact tied.incoming position

private theorem rollback (mark : Mark) : (registry.rollback mark).Tied where
  anchored edge member := by
    rw [rollback_eq] at member
    obtain ⟨old, kept⟩ := List.mem_filter.1 member
    exact within_size_rollback (tied.anchored edge old) kept
  incoming index := by
    rw [incoming_rollback, parent?_rollback]
    split
    · exact List.filter_sublist.trans (tied.incoming index)
    · rename_i late
      -- an edge that ends at a symbol that goes does not stay
      have none_left : (registry.incoming index).filter (within mark.symbols) = [] := by
        refine List.filter_eq_nil_iff.2 fun edge member inside => late ?_
        have ends := (mem_containment.1 ((tied.incoming index).subset member)).2
        simp only [within, Bool.and_eq_true, decide_eq_true_eq] at inside
        omega
      rw [none_left]
      exact List.nil_sublist _

end Tied

namespace Housed

variable (housed : registry.Housed)

include housed

private theorem tied : registry.Tied where
  anchored edge member := by
    have above := mem_incoming.2 member
    rw [housed.incoming, mem_containment] at above
    have source := housed.enclosed _ _ above.1
    have target := lt_size_of_parent? above.1
    simp [within, source, target]
  incoming index := by rw [housed.incoming]

private theorem of_alike (alike : Alike registry later) : later.Housed where
  enclosed index parent above := by
    rw [alike.parent] at above
    rw [alike.size]
    exact housed.enclosed index parent above
  incoming index := by
    rw [Registry.incoming, alike.contains, alike.parent]
    exact housed.incoming index

private theorem of_placed {above : Option Nat} (placed : Placed registry later index above) :
    later.Housed where
  enclosed position parent linked := by
    rw [placed.parent] at linked
    split at linked
    · exact placed.enclosed parent linked
    · exact Nat.lt_of_lt_of_le (housed.enclosed position parent linked) placed.size
  incoming position := by
    rw [placed.incoming, placed.parent]
    split
    · rfl
    · exact housed.incoming position

/-- Going back keeps a registry in order exactly if it keeps the parents of what it keeps. -/
theorem rollback_iff (mark : Mark) : (registry.rollback mark).Housed ↔ ¬ registry.Orphans mark := by
  constructor
  · rintro kept ⟨index, parent, early, above, late⟩
    have linked : (registry.rollback mark).parent? index = some parent := by
      rw [parent?_rollback, if_pos early, above]
    have inside := kept.enclosed index parent linked
    rw [size_rollback] at inside
    omega
  · intro spared
    have early : ∀ index parent, index < mark.symbols → registry.parent? index = some parent →
        parent < mark.symbols := fun index parent kept above =>
      Nat.lt_of_not_le fun late => spared ⟨index, parent, kept, above, late⟩
    constructor
    · intro index parent linked
      rw [parent?_rollback] at linked
      split at linked
      · rename_i kept
        rw [size_rollback]
        exact Nat.lt_min.2 ⟨early index parent kept linked, housed.enclosed index parent linked⟩
      · cases linked
    · intro index
      rw [incoming_rollback, housed.incoming, parent?_rollback]
      cases above : registry.parent? index with
      | none => split <;> rfl
      | some parent =>
        split
        · rename_i kept
          simp [containment, within, kept, early index parent kept above]
        · rename_i gone
          simp [containment, within, gone]

private theorem nodup_contains : registry.contains.Nodup := by
  rw [List.nodup_iff_count_le_one]
  intro edge
  have once : registry.contains.count edge = (registry.incoming edge.target).count edge := by
    rw [Registry.incoming, List.count_filter (by simp)]
  rw [once, housed.incoming]
  exact List.count_le_length.trans (length_containment _ _)

/-- The children of a symbol are the symbols that have it as their parent. -/
theorem children (parent : Nat) :
    Ascending.Strict compare (registry.children parent) ∧
      ∀ index, index ∈ registry.children parent ↔ registry.parent? index = some parent := by
  refine ⟨strict_targets housed.nodup_contains parent, fun index => ?_⟩
  rw [Registry.children, mem_targets, ← mem_incoming, housed.incoming, mem_containment]
  exact and_iff_left rfl

end Housed

/-- A call that changes a registry. The mark to go back to may be any, also one that the
registry has never had. -/
inductive Edit where
  | add (identity : Identity) (symbol : Symbol)
  | refer (edge : Edge)
  | markResolved (index : Nat)
  | log (name : String) (location : Location)
  | rollback (mark : Mark)

def edit? (registry : Registry) : Edit → Option Registry
  | .add identity symbol => (registry.add? identity symbol).map Prod.fst
  | .refer edge => registry.addReference? edge
  | .markResolved index => some (registry.markResolved index)
  | .log name location => some (registry.logUnresolved name location)
  | .rollback mark => some (registry.rollback mark)

def edited? (registry : Registry) (edits : List Edit) : Option Registry :=
  edits.foldlM edit? registry

private theorem edited?_concat (registry : Registry) (edits : List Edit) (edit : Edit) :
    registry.edited? (edits ++ [edit]) = (registry.edited? edits).bind (·.edit? edit) := by
  simp [edited?, List.foldlM_append]

private theorem alike_addReference? {edge : Edge}
    (added : registry.addReference? edge = some later) : Alike registry later := by
  unfold addReference? at added
  split at added
  · cases added
    exact alike_of_entries rfl rfl
  · split at added
    · cases added
    · cases added
      exact alike_of_entries rfl rfl

private theorem edit?_cases {edit : Edit} (tied : registry.Tied)
    (done : registry.edit? edit = some later) :
    Alike registry later ∨ (∃ index above, Placed registry later index above) ∨
      ∃ mark, edit = .rollback mark ∧ later = registry.rollback mark := by
  cases edit with
  | add identity symbol =>
    obtain ⟨made, added, rfl⟩ := Option.map_eq_some_iff.1 done
    rcases tied.add?_cases added with alike | placed
    · exact .inl alike
    · exact .inr (.inl ⟨_, _, placed⟩)
  | refer edge => exact .inl (alike_addReference? done)
  | markResolved index =>
    cases done
    exact .inl (alike_of_entries rfl rfl)
  | log name location =>
    cases done
    exact .inl (alike_of_entries rfl rfl)
  | rollback mark =>
    cases done
    exact .inr (.inr ⟨mark, rfl, rfl⟩)

private theorem Tied.edit? {edit : Edit} (tied : registry.Tied)
    (done : registry.edit? edit = some later) : later.Tied := by
  rcases edit?_cases tied done with alike | ⟨index, above, placed⟩ | ⟨mark, -, rfl⟩
  · exact tied.of_alike alike
  · exact tied.of_placed placed
  · exact tied.rollback mark

private theorem Housed.edit? {edit : Edit} (housed : registry.Housed)
    (done : registry.edit? edit = some later)
    (spared : ∀ mark, edit = .rollback mark → ¬ registry.Orphans mark) : later.Housed := by
  rcases edit?_cases housed.tied done with alike | ⟨index, above, placed⟩ | ⟨mark, same, rfl⟩
  · exact housed.of_alike alike
  · exact housed.of_placed placed
  · exact (housed.rollback_iff mark).2 (spared mark same)

private theorem tied_edited? (edits : List Edit) (reached : Registry)
    (ran : edited? {} edits = some reached) : reached.Tied := by
  induction edits using List.reverseRecOn generalizing reached with
  | nil =>
    cases ran
    exact ⟨by simp, fun index => List.nil_sublist _⟩
  | append_singleton edits edit ih =>
    rw [edited?_concat] at ran
    obtain ⟨middle, before, done⟩ := Option.bind_eq_some_iff.1 ran
    exact (ih middle before).edit? done

private theorem housed_edited? (edits : List Edit)
    (spared : ∀ earlier mark middle, earlier ++ [.rollback mark] <+: edits →
      edited? {} earlier = some middle → ¬ middle.Orphans mark)
    (reached : Registry) (ran : edited? {} edits = some reached) : reached.Housed := by
  induction edits using List.reverseRecOn generalizing reached with
  | nil =>
    cases ran
    exact ⟨by simp [parent?, get?], fun index => rfl⟩
  | append_singleton edits edit ih =>
    rw [edited?_concat] at ran
    obtain ⟨middle, before, done⟩ := Option.bind_eq_some_iff.1 ran
    have housed := ih (fun earlier mark middle start =>
      spared earlier mark middle (start.trans (List.prefix_append edits [edit]))) middle before
    refine housed.edit? done ?_
    rintro mark rfl
    exact spared edits mark middle (List.prefix_refl _) before

/-- Whatever index it names is that of a symbol. -/
def Edit.Known (registry : Registry) : Edit → Prop
  | .add _ symbol => ∀ parent, symbol.parent = some parent → parent < registry.size
  | .refer edge => edge.source < registry.size ∧ edge.target < registry.size
  | .markResolved _ | .log _ _ | .rollback _ => True

private theorem edit?_of_known {edit : Edit} (known : edit.Known registry) :
    ∃ later, registry.edit? edit = some later := by
  cases edit with
  | add identity symbol =>
    cases found : registry.find? identity with
    | none => exact ⟨_, by rw [edit?, add?_eq_enter found known]; rfl⟩
    | some index =>
      have allowed : symbol.parent.any (registry.size ≤ ·) = false := by
        cases above : symbol.parent with
        | none => rfl
        | some parent => simpa using known parent above
      rw [edit?, add?_known found, allowed]
      split <;> exact ⟨_, rfl⟩
  | refer edge => exact ⟨_, addReference?_eq_link known.1 known.2⟩
  | markResolved index => exact ⟨_, rfl⟩
  | log name location => exact ⟨_, rfl⟩
  | rollback mark => exact ⟨_, rfl⟩

/-- Edges of containment follow the parents, and every edit that names only symbols goes through.
That the children of a symbol are all those below it, in ascending order, holds all along exactly
if no edit goes back to a mark that keeps a symbol but not its parent. -/
theorem containment_follows_parents (edits : List Edit) (reached : Registry)
    (ran : edited? {} edits = some reached) :
    reached.Tied ∧
      (∀ edit : Edit, edit.Known reached → ∃ later, reached.edit? edit = some later) ∧
      ((∀ earlier middle, earlier <+: edits → edited? {} earlier = some middle →
          middle.Housed ∧ ∀ parent, Ascending.Strict compare (middle.children parent) ∧
            ∀ index, index ∈ middle.children parent ↔ middle.parent? index = some parent) ↔
        ∀ earlier mark middle, earlier ++ [.rollback mark] <+: edits →
          edited? {} earlier = some middle → ¬ middle.Orphans mark) := by
  refine ⟨tied_edited? edits reached ran, fun edit => edit?_of_known, ?_, ?_⟩
  · intro always earlier mark middle start before
    have housed := (always earlier middle ((List.prefix_append _ _).trans start) before).1
    have after : edited? {} (earlier ++ [.rollback mark]) = some (middle.rollback mark) := by
      rw [edited?_concat, before]
      rfl
    exact (housed.rollback_iff mark).1 (always _ _ start after).1
  · intro spared earlier middle start before
    have housed := housed_edited? earlier
      (fun first mark between begun => spared first mark between (begun.trans start)) middle before
    exact ⟨housed, housed.children⟩

def named (name : String) (parent : Option Nat) : Edit :=
  .add (.ofPart ⟨name, name, name⟩) { part := ⟨name, name, name⟩, kind := .scope, parent }

/-- A namespace is moved below one that the mark gone back to keeps, and stays there. -/
def moved : List Edit :=
  [named "A" none, named "B" none, named "C" (some 0), named "C" (some 1), .rollback ⟨3, 0, 0⟩]

/-- A namespace is moved below one that was not there yet at the mark gone back to. -/
def orphaned : List Edit :=
  [named "N" none, named "P" none, named "N" (some 1), .rollback ⟨1, 0, 0⟩]

theorem containment_follows_parents_orphaned :
    (∃ reached, edited? {} moved = some reached ∧ reached.Housed ∧ reached.children 1 = [2]) ∧
      ∃ reached, edited? {} orphaned = some reached ∧ reached.Tied ∧ ¬ reached.Housed ∧
        reached.size = 1 ∧ reached.parent? 0 = some 1 := by
  constructor
  · obtain ⟨reached, ran⟩ : ∃ reached, edited? {} moved = some reached :=
      Option.isSome_iff_exists.1 (by decide +kernel)
    have spared : ∀ earlier mark middle, earlier ++ [.rollback mark] <+: moved →
        edited? {} earlier = some middle → ¬ middle.Orphans mark := by
      intro earlier mark middle start before
      obtain ⟨rest, whole⟩ := start
      have last : moved[earlier.length]? = some (.rollback mark) := by simp [← whole]
      have early : earlier = moved.take earlier.length := by simp [← whole]
      generalize earlier.length = count at last early
      have short : count < 5 := (List.getElem?_eq_some_iff.1 last).1
      -- the only way back is the fifth edit
      interval_cases count <;> simp [moved, named] at last
      subst last early
      rintro ⟨index, parent, kept, above, late⟩
      have parents : (edited? {} (moved.take 4)).map (fun middle =>
          (middle.parent? 0, middle.parent? 1, middle.parent? 2)) = some (none, none, some 1) := by
        decide +kernel
      rw [before] at parents
      simp only [Option.map_some, Option.some.injEq, Prod.mk.injEq] at parents
      interval_cases index <;> simp_all
    obtain ⟨-, -, always⟩ := containment_follows_parents moved reached ran
    have housed := (always.2 spared moved reached (List.prefix_refl _) ran).1
    have inside : (edited? {} moved).map (·.children 1) = some [2] := by decide +kernel
    rw [ran] at inside
    exact ⟨reached, ran, housed, Option.some.inj inside⟩
  · obtain ⟨reached, ran⟩ : ∃ reached, edited? {} orphaned = some reached :=
      Option.isSome_iff_exists.1 (by decide +kernel)
    have stray : (edited? {} orphaned).map (fun reached => (reached.size, reached.parent? 0)) =
        some (1, some 1) := by
      decide +kernel
    rw [ran] at stray
    obtain ⟨alone, above⟩ := Prod.mk.inj (Option.some.inj stray)
    refine ⟨reached, ran, (containment_follows_parents orphaned reached ran).1, ?_, alone, above⟩
    intro housed
    have inside := housed.enclosed 0 1 above
    omega

end SymbolAtlas.Registry
