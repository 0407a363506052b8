import Mathlib.Data.Set.Card
import SymbolAtlas.Proofs.Registry.Core

/-! The two relations of a registry mirror its symbols: one holds the parents, the
other what the types of their details mention, and neither holds anything twice. -/

namespace SymbolAtlas.Registry

variable {registry : Registry} {identity : Identity} {symbol : Symbol}
  {index other position : Nat}

def Mentions (registry : Registry) (index other : Nat) : Prop :=
  ∃ symbol detail, registry.get? index = some symbol ∧ symbol.detail = some detail ∧
    ∃ type ∈ detail.types, other ∈ type.symbols

structure Mirrored (registry : Registry) : Prop where
  inside : ∀ index other, registry.Mentions index other → other < registry.size
  referenced : ∀ index other, ⟨index, other⟩ ∈ registry.references ↔ registry.Mentions index other
  contained : ∀ parent index, ⟨parent, index⟩ ∈ registry.contains ↔
    registry.parent? index = some parent
  once : registry.references.Nodup ∧ registry.contains.Nodup

private theorem mentions_iff (present : registry.get? index = some symbol) :
    registry.Mentions index other ↔
      ∃ detail, symbol.detail = some detail ∧ other ∈ detail.symbols := by
  unfold Mentions Detail.symbols
  simp only [present, List.mem_flatMap]
  constructor
  · rintro ⟨_, detail, ⟨⟩, filled, mentioned⟩
    exact ⟨detail, filled, mentioned⟩
  · rintro ⟨detail, filled, mentioned⟩
    exact ⟨symbol, detail, rfl, filled, mentioned⟩

private theorem not_mentions_of_waiting (present : registry.get? index = some symbol)
    (waiting : symbol.detail = none) : ¬ registry.Mentions index other := by
  rw [mentions_iff present]
  rintro ⟨detail, filled, -⟩
  rw [waiting] at filled
  cases filled

private theorem mentions_congr {one two : Registry}
    (same : (one.get? index).bind Symbol.detail = (two.get? index).bind Symbol.detail) :
    one.Mentions index other ↔ two.Mentions index other := by
  have filled : ∀ registry : Registry, registry.Mentions index other ↔
      ∃ detail, (registry.get? index).bind Symbol.detail = some detail ∧
        ∃ type ∈ detail.types, other ∈ type.symbols := fun registry => by
    simp only [Mentions, Option.bind_eq_some_iff]
    constructor
    · rintro ⟨symbol, detail, present, filled, mentioned⟩
      exact ⟨detail, ⟨symbol, present, filled⟩, mentioned⟩
    · rintro ⟨detail, ⟨symbol, present, filled⟩, mentioned⟩
      exact ⟨symbol, detail, present, filled, mentioned⟩
  rw [filled, filled, same]

theorem mirrored_empty : Mirrored {} where
  inside := by simp [Mentions, get?]
  referenced := by simp [Mentions, get?]
  contained := by simp [parent?, get?]
  once := by simp

namespace Mirrored

variable (mirrored : registry.Mirrored)

include mirrored

theorem of_core {later : Registry} (same : later.core = registry.core) : later.Mirrored := by
  have kept : ∀ {α : Type} (field : Symbol → Option α) (index : Nat),
      (∀ symbol : Symbol, field symbol.core = field symbol) →
        (later.get? index).bind field = (registry.get? index).bind field := by
    intro α field index blind
    have cored := congrArg (Option.bind · field) (get?_of_core same index)
    simpa [Option.bind_map, Function.comp_def, blind] using cored
  have mentions : ∀ index other, later.Mentions index other ↔ registry.Mentions index other :=
    fun index other => mentions_congr (kept Symbol.detail index fun _ => rfl)
  have parents : ∀ index, later.parent? index = registry.parent? index :=
    fun index => kept Symbol.parent index fun _ => rfl
  constructor
  · intro index other mentioned
    rw [size_of_core same]
    exact mirrored.inside index other ((mentions index other).1 mentioned)
  · intro index other
    rw [references_of_core same, mentions]
    exact mirrored.referenced index other
  · intro parent index
    rw [contains_of_core same, parents]
    exact mirrored.contained parent index
  · rw [references_of_core same, contains_of_core same]
    exact mirrored.once

theorem enter (identity : Identity) (bare : symbol.detail = none) :
    (registry.enter identity symbol).Mirrored := by
  have mentions : ∀ index other, (registry.enter identity symbol).Mentions index other ↔
      registry.Mentions index other := by
    intro index other
    refine mentions_congr ?_
    rw [get?_enter]
    split
    · rename_i new
      have absent : registry.get? index = none := by simp [get?, new, size]
      simpa [absent] using bare
    · rfl
  -- the one new edge ends at the new symbol, where no edge has ended before
  have absent : ∀ parent, ⟨parent, registry.size⟩ ∉ registry.contains := by
    intro parent member
    have above := (mirrored.contained parent registry.size).1 member
    simp [parent?, get?, size] at above
  constructor
  · intro index other mentioned
    rw [size_enter]
    exact Nat.lt_succ_of_lt (mirrored.inside index other ((mentions index other).1 mentioned))
  · intro index other
    rw [mentions]
    exact mirrored.referenced index other
  · intro parent index
    rw [parent?_enter]
    simp only [Registry.enter, List.mem_append, mem_containment, mirrored.contained]
    split
    · rename_i last
      subst last
      have none_before : registry.parent? registry.size ≠ some parent := fun above =>
        absent parent ((mirrored.contained parent registry.size).2 above)
      simp [none_before]
    · rename_i old
      simp [old]
  · refine ⟨mirrored.once.1, ?_⟩
    simp only [Registry.enter]
    refine List.Nodup.append mirrored.once.2 ?_ fun edge old added => ?_
    · exact List.nodup_iff_count_le_one.2 fun edge =>
        List.count_le_length.trans (length_containment _ _)
    · obtain ⟨-, last⟩ := mem_containment.1 added
      rw [← last] at absent
      exact absent edge.source old

end Mirrored

private theorem mem_references_link {edge added : Edge} :
    edge ∈ (registry.link added).references ↔ edge ∈ registry.references ∨ edge = added := by
  unfold link
  split
  · rename_i present
    have member : added ∈ registry.references := by simpa using present
    constructor
    · exact .inl
    · rintro (old | rfl)
      · exact old
      · exact member
  · simp

private theorem nodup_references_link {added : Edge} (once : registry.references.Nodup) :
    (registry.link added).references.Nodup := by
  unfold link
  split
  · exact once
  · rename_i absent
    refine List.Nodup.append once (List.nodup_singleton added) fun edge old new => ?_
    rw [List.mem_singleton.1 new] at old
    exact absurd old (by simpa using absent)

private theorem contains_link (registry : Registry) (added : Edge) :
    (registry.link added).contains = registry.contains := by
  unfold link
  split <;> rfl

private theorem mem_references_linkAll {targets : List Nat} :
    ⟨index, other⟩ ∈ (registry.linkAll position targets).references ↔
      ⟨index, other⟩ ∈ registry.references ∨ index = position ∧ other ∈ targets := by
  induction targets generalizing registry with
  | nil => simp [linkAll]
  | cons target targets ih =>
    rw [linkAll, List.foldl_cons, ← linkAll, ih, mem_references_link, Edge.mk.injEq,
      List.mem_cons, or_assoc, ← and_or_left]

private theorem nodup_references_linkAll (targets : List Nat)
    (once : registry.references.Nodup) : (registry.linkAll position targets).references.Nodup := by
  induction targets generalizing registry with
  | nil => exact once
  | cons target targets ih => exact ih (nodup_references_link once)

private theorem contains_linkAll (registry : Registry) (position : Nat) (targets : List Nat) :
    (registry.linkAll position targets).contains = registry.contains := by
  induction targets generalizing registry with
  | nil => rfl
  | cons target targets ih => exact (ih _).trans (contains_link registry _)

theorem Mirrored.settle (mirrored : registry.Mirrored) {detail : Detail}
    (present : registry.get? index = some symbol) (waiting : symbol.detail = none)
    (known : ∀ target ∈ detail.symbols, target < registry.size) :
    (registry.settle index detail).Mirrored := by
  have filled : (registry.settle index detail).get? index = some (symbol.fill detail) := by
    rw [get?_settle, if_pos rfl, present]
    rfl
  -- the settled symbol mentioned nothing before, and all others mention what they did
  have own : ∀ other, (registry.settle index detail).Mentions index other ↔
      other ∈ detail.symbols := by
    intro other
    rw [mentions_iff filled]
    simp [Symbol.fill]
  have rest : ∀ position other, position ≠ index →
      ((registry.settle index detail).Mentions position other ↔
        registry.Mentions position other) := by
    intro position other differs
    refine mentions_congr ?_
    rw [get?_settle, if_neg differs.symm]
  have parents : ∀ position, (registry.settle index detail).parent? position =
      registry.parent? position := by
    intro position
    rw [parent?, get?_settle, parent?]
    split
    · cases registry.get? position <;> rfl
    · rfl
  constructor
  · intro position other mentioned
    rw [size_settle]
    by_cases same : position = index
    · subst same
      exact known other ((own other).1 mentioned)
    · exact mirrored.inside position other ((rest position other same).1 mentioned)
  · intro position other
    rw [Registry.settle, mem_references_linkAll, ← Registry.settle]
    have old : ⟨position, other⟩ ∈
        ((registry.update index (·.fill detail)).markResolved index).references ↔
          registry.Mentions position other := mirrored.referenced position other
    rw [old]
    by_cases same : position = index
    · subst same
      simp [own, not_mentions_of_waiting present waiting]
    · simp [rest position other same, same]
  · intro parent position
    rw [parents, Registry.settle, contains_linkAll]
    exact mirrored.contained parent position
  · refine ⟨nodup_references_linkAll _ mirrored.once.1, ?_⟩
    rw [Registry.settle, contains_linkAll]
    exact mirrored.once.2

theorem strict_targets {edges : List Edge} (once : edges.Nodup) (index : Nat) :
    Ascending.Strict compare (targets edges index) := by
  refine Ascending.strict_sort ?_
  have from_here := once.filter fun edge => edge.source == index
  refine List.pairwise_map.2 (from_here.imp_of_mem fun {one two} first second differs same => ?_)
  have sources : one.source = two.source := by
    simp only [List.mem_filter, beq_iff_eq] at first second
    rw [first.2, second.2]
  have targets : one.target = two.target := Nat.compare_eq_eq.1 same
  exact differs (by cases one; cases two; simp_all)

theorem mem_targets {edges : List Edge} : other ∈ targets edges index ↔ ⟨index, other⟩ ∈ edges := by
  unfold targets Ascending.sort
  rw [List.mem_mergeSort, List.mem_map]
  constructor
  · rintro ⟨⟨source, target⟩, member, rfl⟩
    obtain ⟨stored, same⟩ := List.mem_filter.1 member
    rwa [← beq_iff_eq.1 same]
  · intro stored
    exact ⟨⟨index, other⟩, List.mem_filter.2 ⟨stored, by simp⟩, rfl⟩

/-- The neighbours that a symbol refers to are the symbols it mentions, in strictly
ascending order. -/
theorem Mirrored.referencesOf (mirrored : registry.Mirrored) (index : Nat) :
    Ascending.Strict compare (registry.referencesOf index) ∧
      ∀ other, other ∈ registry.referencesOf index ↔ registry.Mentions index other :=
  ⟨strict_targets mirrored.once.1 index, fun other =>
    mem_targets.trans (mirrored.referenced index other)⟩

theorem ncard_of_nodup {α : Type} [DecidableEq α] {items : List α} (once : items.Nodup) :
    {item | item ∈ items}.ncard = items.length := by
  have listed : {item | item ∈ items} = (items.toFinset : Set α) := by
    ext item
    simp
  rw [listed, Set.ncard_coe_finset, List.toFinset_card_of_nodup once]

/-- There is one edge for every symbol with a parent, and one for every two symbols
of which the first mentions the second. -/
theorem Mirrored.edgeCount (mirrored : registry.Mirrored) :
    registry.edgeCount = {index | (registry.parent? index).isSome}.ncard +
      {pair : Nat × Nat | registry.Mentions pair.1 pair.2}.ncard := by
  have contains : {index | (registry.parent? index).isSome} =
      Edge.target '' {edge | edge ∈ registry.contains} := by
    ext index
    simp only [Option.isSome_iff_exists, Set.mem_ofPred_eq, Set.mem_image]
    constructor
    · rintro ⟨parent, above⟩
      exact ⟨⟨parent, index⟩, (mirrored.contained parent index).2 above, rfl⟩
    · rintro ⟨⟨parent, _⟩, stored, rfl⟩
      exact ⟨parent, (mirrored.contained parent _).1 stored⟩
  have references : {pair : Nat × Nat | registry.Mentions pair.1 pair.2} =
      (fun edge : Edge => (edge.source, edge.target)) '' {edge | edge ∈ registry.references} := by
    ext ⟨index, other⟩
    simp only [Set.mem_ofPred_eq, Set.mem_image, Prod.mk.injEq, ← mirrored.referenced]
    constructor
    · exact fun stored => ⟨⟨index, other⟩, stored, rfl, rfl⟩
    · rintro ⟨⟨_, _⟩, stored, rfl, rfl⟩
      exact stored
  -- a symbol has at most one parent, so each containment edge ends somewhere else
  have one_parent : Set.InjOn Edge.target {edge | edge ∈ registry.contains} := by
    rintro ⟨parent, index⟩ stored ⟨other, _⟩ stored' rfl
    have above := (mirrored.contained parent index).1 stored
    rw [(mirrored.contained other index).1 stored'] at above
    cases above
    rfl
  have ends : Function.Injective fun edge : Edge => (edge.source, edge.target) := by
    rintro ⟨_, _⟩ ⟨_, _⟩ ⟨⟩
    rfl
  rw [contains, references, one_parent.ncard_image,
    Set.ncard_image_of_injective _ ends, ncard_of_nodup mirrored.once.2,
    ncard_of_nodup mirrored.once.1, Registry.edgeCount]

end SymbolAtlas.Registry
