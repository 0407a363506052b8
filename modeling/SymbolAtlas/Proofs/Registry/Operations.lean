import SymbolAtlas.Registry

/-! What the operations of a registry do to its entries. Those that may fail for
want of a symbol are matched by total ones, which extraction turns out to use. -/

namespace SymbolAtlas.Registry

variable {registry : Registry} {identity sought : Identity} {symbol : Symbol} {index position : Nat}

/-- Registers a symbol under an identity that is not registered yet. -/
def enter (registry : Registry) (identity : Identity) (symbol : Symbol) : Registry :=
  { registry with
    entries := registry.entries.push ⟨identity, symbol⟩
    contains := registry.contains ++ containment symbol.parent registry.size }

def link (registry : Registry) (edge : Edge) : Registry :=
  if registry.references.contains edge then registry
  else
    { registry with
      references := registry.references ++ [edge]
      changes := registry.changes.push (.referenced edge) }

def linkAll (registry : Registry) (index : Nat) (targets : List Nat) : Registry :=
  targets.foldl (fun registry target => registry.link ⟨index, target⟩) registry

/-- Stores the detail of a symbol, with a note of it and of the symbols it mentions. -/
def settle (registry : Registry) (index : Nat) (detail : Detail) : Registry :=
  ((registry.update index (·.fill detail)).markResolved index).linkAll index detail.symbols

theorem add?_fresh (fresh : registry.find? identity = none) (symbol : Symbol) :
    registry.add? identity symbol =
      if symbol.parent.any (registry.size < ·) then none
      else some (registry.enter identity symbol, registry.size) := by
  rw [add?, fresh]
  rfl

theorem add?_eq_enter (fresh : registry.find? identity = none)
    (inside : ∀ parent, symbol.parent = some parent → parent < registry.size) :
    registry.add? identity symbol = some (registry.enter identity symbol, registry.size) := by
  have allowed : symbol.parent.any (registry.size < ·) = false := by
    cases above : symbol.parent with
    | none => rfl
    | some parent => simpa using Nat.le_of_lt (inside parent above)
  rw [add?_fresh fresh, allowed, if_neg Bool.false_ne_true]

theorem mem_containment {above : Option Nat} {edge : Edge} :
    edge ∈ containment above index ↔ above = some edge.source ∧ edge.target = index := by
  simp only [containment, Option.mem_toList, Option.map_eq_some_iff]
  constructor
  · rintro ⟨parent, rfl, rfl⟩
    exact ⟨rfl, rfl⟩
  · rintro ⟨above, rfl⟩
    exact ⟨edge.source, above, rfl⟩

theorem length_containment (above : Option Nat) (index : Nat) :
    (containment above index).length ≤ 1 := by
  cases above <;> simp [containment]

theorem addReference?_eq_link {edge : Edge} (source : edge.source < registry.size)
    (target : edge.target < registry.size) :
    registry.addReference? edge = some (registry.link edge) := by
  unfold addReference? link
  have inside : (registry.size ≤ edge.source || registry.size ≤ edge.target) = false := by
    simpa using ⟨source, target⟩
  split <;> simp [inside]

theorem entries_link (registry : Registry) (edge : Edge) :
    (registry.link edge).entries = registry.entries := by
  unfold link
  split <;> rfl

private theorem entries_linkAll (registry : Registry) (index : Nat) (targets : List Nat) :
    (registry.linkAll index targets).entries = registry.entries := by
  induction targets generalizing registry with
  | nil => rfl
  | cons target targets ih => exact (ih _).trans (entries_link registry ⟨index, target⟩)

theorem entries_settle (registry : Registry) (index : Nat) (detail : Detail) :
    (registry.settle index detail).entries = (registry.update index (·.fill detail)).entries :=
  entries_linkAll _ index detail.symbols

@[simp]
theorem size_update (registry : Registry) (index : Nat) (change : Symbol → Symbol) :
    (registry.update index change).size = registry.size := by
  simp [update, size]

@[simp]
theorem size_enter (registry : Registry) (identity : Identity) (symbol : Symbol) :
    (registry.enter identity symbol).size = registry.size + 1 := by
  simp [enter, size]

@[simp]
theorem size_link (registry : Registry) (edge : Edge) :
    (registry.link edge).size = registry.size := by
  rw [size, entries_link, size]

@[simp]
theorem size_markResolved (registry : Registry) (index : Nat) :
    (registry.markResolved index).size = registry.size :=
  rfl

@[simp]
theorem size_settle (registry : Registry) (index : Nat) (detail : Detail) :
    (registry.settle index detail).size = registry.size := by
  rw [size, entries_settle, ← size, size_update]

theorem getElem?_update (registry : Registry) (index position : Nat) (change : Symbol → Symbol) :
    (registry.update index change).entries[position]? =
      if index = position then
        registry.entries[position]?.map fun entry => { entry with symbol := change entry.symbol }
      else registry.entries[position]? :=
  Array.getElem?_modify

theorem getElem?_enter (registry : Registry) (identity : Identity) (symbol : Symbol)
    (position : Nat) :
    (registry.enter identity symbol).entries[position]? =
      if position = registry.size then some ⟨identity, symbol⟩ else registry.entries[position]? :=
  Array.getElem?_push

theorem get?_update (registry : Registry) (index position : Nat) (change : Symbol → Symbol) :
    (registry.update index change).get? position =
      if index = position then (registry.get? position).map change else registry.get? position := by
  rw [get?, getElem?_update]
  split <;> simp [get?, Function.comp_def]

theorem get?_update_self (registry : Registry) (index : Nat) (change : Symbol → Symbol) :
    (registry.update index change).get? index = (registry.get? index).map change := by
  rw [get?_update, if_pos rfl]

theorem get?_enter (registry : Registry) (identity : Identity) (symbol : Symbol) (position : Nat) :
    (registry.enter identity symbol).get? position =
      if position = registry.size then some symbol else registry.get? position := by
  rw [get?, getElem?_enter]
  split <;> rfl

theorem parent?_enter (registry : Registry) (identity : Identity) (symbol : Symbol)
    (position : Nat) :
    (registry.enter identity symbol).parent? position =
      if position = registry.size then symbol.parent else registry.parent? position := by
  rw [parent?, get?_enter]
  split <;> rfl

theorem get?_settle (registry : Registry) (index position : Nat) (detail : Detail) :
    (registry.settle index detail).get? position =
      if index = position then (registry.get? position).map (·.fill detail)
      else registry.get? position := by
  rw [get?, entries_settle, ← get?, get?_update]

theorem lt_size_of_get? (present : registry.get? index = some symbol) : index < registry.size := by
  obtain ⟨entry, found, -⟩ := Option.map_eq_some_iff.1 present
  exact (Array.getElem?_eq_some_iff.1 found).1

theorem get?_of_lt (inside : index < registry.size) :
    ∃ symbol, registry.get? index = some symbol := by
  refine ⟨registry.entries[index].symbol, ?_⟩
  rw [get?, Array.getElem?_eq_getElem inside]
  rfl

theorem find?_eq_some : registry.find? identity = some index ↔
    (∃ entry, registry.entries[index]? = some entry ∧ entry.identity = identity) ∧
      ∀ (before : Nat) (entry : Entry), before < index → registry.entries[before]? = some entry →
        entry.identity ≠ identity := by
  unfold find?
  rw [Array.findIdx?_eq_some_iff_getElem]
  constructor
  · rintro ⟨bound, own, earlier⟩
    refine ⟨⟨registry.entries[index], by simp [bound], by simpa using own⟩, ?_⟩
    intro before entry less found
    obtain ⟨inside, rfl⟩ := Array.getElem?_eq_some_iff.1 found
    simpa using earlier before less
  · rintro ⟨⟨entry, found, own⟩, earlier⟩
    obtain ⟨bound, rfl⟩ := Array.getElem?_eq_some_iff.1 found
    refine ⟨bound, by simpa using own, fun before less => ?_⟩
    simpa using earlier before _ less (Array.getElem?_eq_getElem (Nat.lt_trans less bound))

theorem find?_eq_none : registry.find? identity = none ↔
    ∀ (position : Nat) (entry : Entry), registry.entries[position]? = some entry →
      entry.identity ≠ identity := by
  unfold find?
  rw [Array.findIdx?_eq_none_iff]
  constructor
  · intro absent position entry found
    simpa using absent entry (Array.mem_of_getElem? found)
  · intro absent entry member
    obtain ⟨position, found⟩ := Array.mem_iff_getElem?.1 member
    simpa using absent position entry found

theorem lt_size_of_find? (found : registry.find? identity = some index) :
    index < registry.size := by
  obtain ⟨⟨entry, present, -⟩, -⟩ := find?_eq_some.1 found
  exact (Array.getElem?_eq_some_iff.1 present).1

theorem find?_injective {other : Identity} (found : registry.find? identity = some index)
    (again : registry.find? other = some index) : identity = other := by
  obtain ⟨⟨entry, present, rfl⟩, -⟩ := find?_eq_some.1 found
  obtain ⟨⟨same, present', rfl⟩, -⟩ := find?_eq_some.1 again
  rw [present] at present'
  cases present'
  rfl

theorem find?_congr {other : Registry}
    (same : registry.entries.map Entry.identity = other.entries.map Entry.identity) :
    registry.find? = other.find? := by
  funext sought
  have lookup : ∀ registry : Registry, registry.find? sought =
      (registry.entries.map Entry.identity).findIdx? (· == sought) := fun registry => by
    simp [find?, Function.comp_def]
  rw [lookup, lookup, same]

private theorem find?_enter (registry : Registry) (identity sought : Identity) (symbol : Symbol) :
    (registry.enter identity symbol).find? sought =
      (registry.find? sought).or (if identity == sought then some registry.size else none) :=
  Array.findIdx?_push

theorem find?_enter_self (fresh : registry.find? identity = none) :
    (registry.enter identity symbol).find? identity = some registry.size := by
  simp [find?_enter, fresh]

end SymbolAtlas.Registry
