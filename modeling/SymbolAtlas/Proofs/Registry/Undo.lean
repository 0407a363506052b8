import SymbolAtlas.Proofs.Registry.Edges

/-! Going back to a mark takes back, one by one, whatever has been done since, but
for sightings. What is done last is undone first, so each operation cancels alone. -/

namespace SymbolAtlas

/-- A mark that a registry has reached or passed. -/
structure Mark.Within (mark : Mark) (registry : Registry) : Prop where
  symbols : mark.symbols ≤ registry.size
  unresolved : mark.unresolved ≤ registry.unresolved.size
  changes : mark.changes ≤ registry.changes.size

theorem Mark.Within.of_le {mark : Mark} {registry later : Registry} (inside : mark.Within registry)
    (size : registry.size ≤ later.size)
    (unresolved : registry.unresolved.size ≤ later.unresolved.size)
    (changes : registry.changes.size ≤ later.changes.size) : mark.Within later :=
  ⟨Nat.le_trans inside.symbols size, Nat.le_trans inside.unresolved unresolved,
    Nat.le_trans inside.changes changes⟩

namespace Registry

variable {registry : Registry} {mark : Mark}

def clearIn (entries : Array Entry) : Change → Array Entry
  | .resolved index => entries.modify index fun entry =>
      { entry with symbol := entry.symbol.clear }
  | .referenced _ => entries

def eraseIn (edges : List Edge) : Change → List Edge
  | .resolved _ => edges
  | .referenced edge => edges.erase edge

private theorem foldl_undo (registry : Registry) (changes : List Change) :
    changes.foldl undo registry =
      { registry with
        entries := changes.foldl clearIn registry.entries
        references := changes.foldl eraseIn registry.references } := by
  induction changes generalizing registry with
  | nil => rfl
  | cons change changes ih =>
    rw [List.foldl_cons, ih]
    cases change <;> rfl

theorem rollback_eq (registry : Registry) (mark : Mark) :
    registry.rollback mark = {
      entries := (registry.changesSince mark.changes).foldl clearIn
        (registry.entries.take mark.symbols)
      contains := registry.contains.filter (within mark.symbols)
      references := (registry.changesSince mark.changes).foldl eraseIn
        (registry.references.filter (within mark.symbols))
      unresolved := registry.unresolved.take mark.unresolved
      changes := registry.changes.take mark.changes } := by
  unfold rollback
  rw [foldl_undo]
  rfl

private theorem changesSince_push {count : Nat} {changes : Array Change} {change : Change}
    (bound : count ≤ registry.changes.size) (pushed : changes = registry.changes.push change)
    (other : Registry) (same : other.changes = changes) :
    other.changesSince count = change :: registry.changesSince count := by
  unfold changesSince
  rw [same, pushed, Array.toList_push, List.drop_append_of_le_length (by simpa using bound),
    List.reverse_append]
  rfl

theorem rollback_logUnresolved (inside : mark.Within registry) (name : String)
    (location : Location) :
    (registry.logUnresolved name location).rollback mark = registry.rollback mark := by
  rw [rollback_eq, rollback_eq]
  have kept (item : Unresolved) : (registry.unresolved.push item).take mark.unresolved = _ :=
    Array.extract_push_of_le inside.unresolved
  simp only [logUnresolved, kept, changesSince]

theorem rollback_enter (inside : mark.Within registry) (identity : Identity) (symbol : Symbol) :
    (registry.enter identity symbol).rollback mark = registry.rollback mark := by
  rw [rollback_eq, rollback_eq]
  have kept (item : Entry) : (registry.entries.push item).take mark.symbols = _ :=
    Array.extract_push_of_le inside.symbols
  have outside : (containment symbol.parent registry.size).filter (within mark.symbols) = [] := by
    have late := inside.symbols
    refine List.filter_eq_nil_iff.2 fun edge member => ?_
    simp [within, (mem_containment.1 member).2, late]
  simp only [enter, kept, changesSince, List.filter_append, outside, List.append_nil]

theorem rollback_link (inside : mark.Within registry) (edge : Edge) :
    (registry.link edge).rollback mark = registry.rollback mark := by
  unfold link
  split
  · rfl
  · rename_i absent
    rw [rollback_eq, rollback_eq]
    have missing : edge ∉ registry.references.filter (within mark.symbols) := by
      simpa using fun member => absurd member (by simpa using absent)
    have erased : ((registry.references ++ [edge]).filter (within mark.symbols)).erase edge =
        registry.references.filter (within mark.symbols) := by
      rw [List.filter_append, List.erase_append_right _ missing]
      by_cases kept : within mark.symbols edge <;> simp [kept]
    have kept (item : Change) : (registry.changes.push item).take mark.changes = _ :=
      Array.extract_push_of_le inside.changes
    have since := changesSince_push inside.changes rfl
      { registry with
        references := registry.references ++ [edge]
        changes := registry.changes.push (.referenced edge) } rfl
    simp only [since, kept, List.foldl_cons, eraseIn, clearIn, erased]

private theorem clearIn_fill {index : Nat} {symbol : Symbol}
    (present : registry.get? index = some symbol) (waiting : symbol.detail = none)
    (detail : Detail) (count : Nat) :
    clearIn ((registry.update index (·.fill detail)).entries.take count) (.resolved index) =
      registry.entries.take count := by
  obtain ⟨entry, stored, rfl⟩ := Option.map_eq_some_iff.1 present
  apply Array.ext_getElem?
  intro position
  unfold clearIn
  simp only [Array.getElem?_modify, Array.take_eq_extract, Array.getElem?_extract, update,
    Array.size_modify, Nat.zero_add]
  split
  · subst_vars
    split
    · rw [stored]
      cases entry with
      | mk identity symbol => cases symbol; simp_all [Symbol.fill, Symbol.clear]
    · rfl
  · rfl

theorem rollback_fill (inside : mark.Within registry) {index : Nat} {symbol : Symbol}
    (present : registry.get? index = some symbol) (waiting : symbol.detail = none)
    (detail : Detail) :
    ((registry.update index (·.fill detail)).markResolved index).rollback mark =
      registry.rollback mark := by
  rw [rollback_eq, rollback_eq]
  have kept (item : Change) : (registry.changes.push item).take mark.changes = _ :=
    Array.extract_push_of_le inside.changes
  have since := changesSince_push inside.changes rfl
    ((registry.update index (·.fill detail)).markResolved index) rfl
  have cleared := clearIn_fill present waiting detail mark.symbols
  rw [since, List.foldl_cons, List.foldl_cons]
  simp only [markResolved, cleared, eraseIn]
  simp only [update, kept]

theorem within_link (inside : mark.Within registry) (edge : Edge) :
    mark.Within (registry.link edge) := by
  refine inside.of_le (Nat.le_of_eq (size_link registry edge).symm) ?_ ?_
  · unfold link
    split <;> exact Nat.le_refl _
  · unfold link
    split <;> simp

private theorem within_linkAll (inside : mark.Within registry) (index : Nat) (targets : List Nat) :
    mark.Within (registry.linkAll index targets) := by
  induction targets generalizing registry with
  | nil => exact inside
  | cons target targets ih => exact ih (within_link inside _)

private theorem rollback_linkAll (inside : mark.Within registry) (index : Nat)
    (targets : List Nat) :
    (registry.linkAll index targets).rollback mark = registry.rollback mark := by
  induction targets generalizing registry with
  | nil => rfl
  | cons target targets ih =>
    exact (ih (within_link inside _)).trans (rollback_link inside ⟨index, target⟩)

theorem within_fill (inside : mark.Within registry) (index : Nat) (detail : Detail) :
    mark.Within ((registry.update index (·.fill detail)).markResolved index) := by
  refine inside.of_le ?_ ?_ ?_
  · exact Nat.le_of_eq (size_update registry index _).symm
  · exact Nat.le_refl _
  · simp [markResolved, update]

theorem within_settle (inside : mark.Within registry) (index : Nat) (detail : Detail) :
    mark.Within (registry.settle index detail) :=
  within_linkAll (within_fill inside index detail) index detail.symbols

theorem rollback_settle (inside : mark.Within registry) {index : Nat} {symbol : Symbol}
    (present : registry.get? index = some symbol) (waiting : symbol.detail = none)
    (detail : Detail) :
    (registry.settle index detail).rollback mark = registry.rollback mark :=
  (rollback_linkAll (within_fill inside index detail) index detail.symbols).trans
    (rollback_fill inside present waiting detail)

private theorem core_clearIn (entries : Array Entry) (change : Change) :
    (clearIn entries change).map Entry.core = clearIn (entries.map Entry.core) change := by
  cases change with
  | referenced edge => rfl
  | resolved index =>
    apply Array.ext_getElem?
    intro position
    simp only [clearIn, Array.getElem?_map, Array.getElem?_modify]
    split
    · simp only [Option.map_map]
      rfl
    · rfl

private theorem core_foldl_clearIn (changes : List Change) (entries : Array Entry) :
    (changes.foldl clearIn entries).map Entry.core =
      changes.foldl clearIn (entries.map Entry.core) := by
  induction changes generalizing entries with
  | nil => rfl
  | cons change changes ih => rw [List.foldl_cons, ih, core_clearIn, List.foldl_cons]

theorem core_rollback (registry : Registry) (mark : Mark) :
    (registry.rollback mark).core = registry.core.rollback mark := by
  rw [rollback_eq, rollback_eq]
  simp only [core, core_foldl_clearIn, changesSince, Array.take_eq_extract, Array.map_extract]

theorem rollback_mark (anchored : registry.Anchored) :
    registry.rollback registry.mark = registry := by
  have none_since : registry.changesSince registry.changes.size = [] := by
    simp [changesSince]
  rw [rollback_eq]
  simp only [Registry.mark, none_since, List.foldl_nil, Array.take_eq_extract,
    Array.extract_size]
  have contains : registry.contains.filter (within registry.entries.size) = registry.contains :=
    List.filter_eq_self.2 fun edge member => anchored edge (.inl member)
  have references : registry.references.filter (within registry.entries.size) =
      registry.references :=
    List.filter_eq_self.2 fun edge member => anchored edge (.inr member)
  rw [contains, references]

private theorem mem_foldl_eraseIn {edge : Edge} {changes : List Change} {edges : List Edge}
    (member : edge ∈ changes.foldl eraseIn edges) : edge ∈ edges := by
  induction changes generalizing edges with
  | nil => exact member
  | cons change changes ih =>
    cases change with
    | resolved => exact ih member
    | referenced => exact List.mem_of_mem_erase (ih member)

private theorem size_foldl_clearIn (changes : List Change) (entries : Array Entry) :
    (changes.foldl clearIn entries).size = entries.size := by
  induction changes generalizing entries with
  | nil => rfl
  | cons change changes ih =>
    rw [List.foldl_cons, ih]
    cases change <;> simp [clearIn]

theorem size_rollback (registry : Registry) (mark : Mark) :
    (registry.rollback mark).size = min mark.symbols registry.size := by
  rw [rollback_eq, size, size_foldl_clearIn]
  simp [size, Array.take_eq_extract]

theorem within_size_rollback {edge : Edge} (inside : within registry.size edge)
    (kept : within mark.symbols edge) : within (registry.rollback mark).size edge := by
  rw [size_rollback]
  simp only [within, Bool.and_eq_true, decide_eq_true_eq] at inside kept ⊢
  omega

theorem Anchored.rollback (anchored : registry.Anchored) (mark : Mark) :
    (registry.rollback mark).Anchored := by
  intro edge member
  have old : (edge ∈ registry.contains ∨ edge ∈ registry.references) ∧
      within mark.symbols edge := by
    rw [rollback_eq] at member
    rcases member with contained | referenced
    · obtain ⟨old, kept⟩ := List.mem_filter.1 contained
      exact ⟨.inl old, kept⟩
    · obtain ⟨old, kept⟩ := List.mem_filter.1 (mem_foldl_eraseIn referenced)
      exact ⟨.inr old, kept⟩
  exact within_size_rollback (anchored edge old.1) old.2

theorem within_mark (registry : Registry) : registry.mark.Within registry :=
  ⟨Nat.le_refl _, Nat.le_refl _, Nat.le_refl _⟩

/-- Nothing is left of what has happened since but sightings. -/
structure Undone (before after : Registry) : Prop where
  core : after.core = before.core
  mark : after.mark = before.mark

theorem undone_of_core {before after : Registry} (same : after.core = before.core) :
    Undone before after where
  core := same
  mark := by
    have marked : ∀ registry : Registry, registry.core.mark = registry.mark := fun registry => by
      simp [Registry.mark, core]
    rw [← marked, same, marked]

end Registry

end SymbolAtlas
