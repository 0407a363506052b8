import SymbolAtlas.Proofs.Registry.Growth
import SymbolAtlas.Proofs.Registry.Undo

/-! What sightings leave at a symbol is only ever added to. Going back to a mark
leaves it at the symbols that stay. -/

namespace SymbolAtlas

namespace Location

private theorem sublist_foldl_insert (places set : List Location) :
    set.Sublist (places.foldl (fun set place => place.insert set) set) := by
  induction places generalizing set with
  | nil => exact List.Sublist.refl set
  | cons place places ih => exact (place.sublist_insert set).trans (ih _)

theorem exists_mem_foldl_insert {places : List Location} {location : Location}
    (member : location ∈ places) (present : location.isAbsent = false) (set : List Location) :
    ∃ place ∈ places.foldl (fun set place => place.insert set) set, location.same place := by
  induction places generalizing set with
  | nil => cases member
  | cons first places ih =>
    rcases List.mem_cons.1 member with rfl | later
    · obtain ⟨place, stored, same⟩ := exists_mem_insert present set
      exact ⟨place, (sublist_foldl_insert places _).subset stored, same⟩
    · exact ih later _

theorem isAbsent_of_mem_foldl_insert {places set : List Location}
    (present : ∀ place ∈ set, place.isAbsent = false) :
    ∀ place ∈ places.foldl (fun set place => place.insert set) set, place.isAbsent = false := by
  induction places generalizing set with
  | nil => exact present
  | cons first places ih => exact ih fun place member => isAbsent_of_mem_insert present member

end Location

namespace Documentation

variable (doc : Documentation) (brief raw : Option String)

private theorem brief_withRaw : (doc.withRaw raw).brief = doc.brief := by
  unfold withRaw
  split
  · split <;> rfl
  · rfl

theorem raw_withBrief : (doc.withBrief brief).raw = doc.raw := by
  unfold withBrief
  split
  · split <;> rfl
  · rfl

theorem brief_merge : (doc.merge brief raw).brief = (doc.withBrief brief).brief :=
  brief_withRaw _ raw

private theorem brief_merge_ne (filled : doc.brief ≠ "") : (doc.merge brief raw).brief ≠ "" := by
  rw [brief_merge]
  unfold withBrief
  split
  · split
    · exact filled
    · rename_i text given
      simpa using given
  · exact filled

private theorem brief_merge_some {text : String} (given : text ≠ "") :
    (doc.merge (some text) raw).brief = text := by
  rw [brief_merge]
  have filled : text.isEmpty = false := by simpa using given
  simp [withBrief, filled]

private theorem le_raw_merge : doc.raw.utf8ByteSize ≤ (doc.merge brief raw).raw.utf8ByteSize ∧
    ∀ text, raw = some text → text.utf8ByteSize ≤ (doc.merge brief raw).raw.utf8ByteSize := by
  unfold merge withRaw
  rw [raw_withBrief]
  cases raw with
  | none => simp [raw_withBrief]
  | some text =>
    simp only [Option.some.injEq, forall_eq']
    split
    · rename_i longer
      exact ⟨Nat.le_of_lt longer, Nat.le_refl _⟩
    · rename_i shorter
      rw [raw_withBrief]
      exact ⟨Nat.le_refl _, Nat.le_of_not_lt shorter⟩

end Documentation

namespace Symbol

/-- One symbol has at least what sightings have left at another one. -/
structure Gathers (old new : Symbol) : Prop where
  exposed : old.exposed → new.exposed
  declarations : old.declarations.Sublist new.declarations
  definitions : old.definitions.Sublist new.definitions
  brief : old.doc.brief ≠ "" → new.doc.brief ≠ ""
  raw : old.doc.raw.utf8ByteSize ≤ new.doc.raw.utf8ByteSize

private theorem Gathers.refl (symbol : Symbol) : symbol.Gathers symbol :=
  ⟨id, .refl _, .refl _, id, Nat.le_refl _⟩

theorem Gathers.trans {first second third : Symbol} (left : first.Gathers second)
    (right : second.Gathers third) : first.Gathers third :=
  ⟨right.exposed ∘ left.exposed, left.declarations.trans right.declarations,
    left.definitions.trans right.definitions, right.brief ∘ left.brief,
    Nat.le_trans left.raw right.raw⟩

private theorem gathers_fill (symbol : Symbol) (detail : Detail) :
    symbol.Gathers (symbol.fill detail) :=
  ⟨id, .refl _, .refl _, id, Nat.le_refl _⟩

private theorem gathers_clear (symbol : Symbol) : symbol.Gathers symbol.clear :=
  ⟨id, .refl _, .refl _, id, Nat.le_refl _⟩

theorem gathers_sight (symbol : Symbol) (sighting : Sighting) :
    symbol.Gathers (symbol.sight sighting) where
  exposed seen := by simp [sight, seen]
  declarations := Location.sublist_foldl_insert _ _
  definitions := Location.sublist_foldl_insert _ _
  brief filled := by
    simp only [sight]
    split
    · exact symbol.doc.brief_merge_ne _ _ filled
    · exact filled
  raw := by
    simp only [sight]
    split
    · exact (symbol.doc.le_raw_merge _ _).1
    · exact Nat.le_refl _

/-- What a sighting tells can be seen of the symbol. -/
structure Shows (symbol : Symbol) (sighting : Sighting) : Prop where
  exposed : sighting.inMainFile → symbol.exposed
  declared : sighting.declares → sighting.location.isAbsent = false →
    ∃ place ∈ symbol.declarations, sighting.location.same place
  defined : sighting.defines → sighting.location.isAbsent = false →
    ∃ place ∈ symbol.definitions, sighting.location.same place
  brief : sighting.declares || sighting.defines → ∀ text, sighting.brief = some text →
    text ≠ "" → symbol.doc.brief ≠ ""
  raw : sighting.declares || sighting.defines → ∀ text, sighting.raw = some text →
    text.utf8ByteSize ≤ symbol.doc.raw.utf8ByteSize

private theorem shows_sight (symbol : Symbol) (sighting : Sighting) :
    (symbol.sight sighting).Shows sighting where
  exposed seen := by simp [sight, seen]
  declared declares present := by
    refine Location.exists_mem_foldl_insert ?_ present _
    exact List.mem_append_right _ (by simp [declares])
  defined defines present := by
    refine Location.exists_mem_foldl_insert ?_ present _
    simp [defines]
  brief documented text given filled := by
    simp only [sight, documented, if_true, given]
    rw [Documentation.brief_merge_some _ _ filled]
    exact filled
  raw documented text given := by
    simp only [sight, documented, if_true]
    exact (symbol.doc.le_raw_merge _ _).2 text given

private theorem Shows.gather {symbol later : Symbol} {sighting : Sighting}
    (shows : symbol.Shows sighting) (gathers : symbol.Gathers later) : later.Shows sighting where
  exposed seen := gathers.exposed (shows.exposed seen)
  declared declares present := by
    obtain ⟨place, member, same⟩ := shows.declared declares present
    exact ⟨place, gathers.declarations.subset member, same⟩
  defined defines present := by
    obtain ⟨place, member, same⟩ := shows.defined defines present
    exact ⟨place, gathers.definitions.subset member, same⟩
  brief documented text given filled := gathers.brief (shows.brief documented text given filled)
  raw documented text given := Nat.le_trans (shows.raw documented text given) gathers.raw

end Symbol

namespace Registry

variable {registry : Registry} {index : Nat}

def Gathers (old new : Registry) : Prop :=
  ∀ index symbol, old.get? index = some symbol →
    ∃ later, new.get? index = some later ∧ symbol.Gathers later

theorem Gathers.refl (registry : Registry) : registry.Gathers registry :=
  fun _ symbol present => ⟨symbol, present, .refl symbol⟩

theorem Gathers.trans {first second third : Registry} (left : first.Gathers second)
    (right : second.Gathers third) : first.Gathers third := by
  intro index symbol present
  obtain ⟨middle, present, gathered⟩ := left index symbol present
  obtain ⟨later, present, gathered'⟩ := right index middle present
  exact ⟨later, present, gathered.trans gathered'⟩

theorem gathers_update (registry : Registry) (index : Nat) {change : Symbol → Symbol}
    (gathered : ∀ symbol : Symbol, symbol.Gathers (change symbol)) :
    registry.Gathers (registry.update index change) := by
  intro position symbol present
  rw [get?_update, present]
  split
  · exact ⟨change symbol, rfl, gathered symbol⟩
  · exact ⟨symbol, rfl, .refl symbol⟩

theorem gathers_enter (registry : Registry) (identity : Identity) (symbol : Symbol) :
    registry.Gathers (registry.enter identity symbol) := by
  intro position old present
  rw [get?_enter, if_neg (Nat.ne_of_lt (lt_size_of_get? present))]
  exact ⟨old, present, .refl old⟩

theorem gathers_settle (registry : Registry) (index : Nat) (detail : Detail) :
    registry.Gathers (registry.settle index detail) := by
  intro position symbol present
  rw [get?_settle, present]
  split
  · exact ⟨symbol.fill detail, rfl, symbol.gathers_fill detail⟩
  · exact ⟨symbol, rfl, .refl symbol⟩

private theorem gathers_undo (registry : Registry) (change : Change) :
    registry.Gathers (registry.undo change) := by
  cases change with
  | resolved index => exact registry.gathers_update index Symbol.gathers_clear
  | referenced edge => exact .refl registry

private theorem gathers_foldl_undo (registry : Registry) (changes : List Change) :
    registry.Gathers (changes.foldl undo registry) := by
  induction changes generalizing registry with
  | nil => exact .refl registry
  | cons change changes ih => exact (registry.gathers_undo change).trans (ih _)

theorem Gathers.rollback {earlier : Registry} (gathers : earlier.Gathers registry) {mark : Mark}
    (kept : earlier.size ≤ mark.symbols) : earlier.Gathers (registry.rollback mark) := by
  intro index symbol present
  have inside : index < mark.symbols := Nat.lt_of_lt_of_le (lt_size_of_get? present) kept
  obtain ⟨middle, present, gathered⟩ := gathers index symbol present
  have cut : (registry.keepSymbols mark.symbols).get? index = some middle := by
    rw [get?, keepSymbols, Array.take_eq_extract, Array.getElem?_extract, if_pos, Nat.zero_add]
    · exact present
    · exact Nat.lt_min.2 ⟨inside, lt_size_of_get? present⟩
  obtain ⟨later, present, gathered'⟩ :=
    gathers_foldl_undo _ (registry.changesSince mark.changes) index middle cut
  exact ⟨later, present, gathered.trans gathered'⟩

def Shows (registry : Registry) (index : Nat) (sighting : Sighting) : Prop :=
  ∃ symbol, registry.get? index = some symbol ∧ symbol.Shows sighting

theorem Shows.gather {later : Registry} {sighting : Sighting} (shows : registry.Shows index sighting)
    (gathers : registry.Gathers later) : later.Shows index sighting := by
  obtain ⟨symbol, present, seen⟩ := shows
  obtain ⟨next, present, gathered⟩ := gathers index symbol present
  exact ⟨next, present, seen.gather gathered⟩

theorem shows_sight (inside : index < registry.size) (sighting : Sighting) :
    (registry.update index (·.sight sighting)).Shows index sighting := by
  obtain ⟨symbol, present⟩ := get?_of_lt inside
  exact ⟨symbol.sight sighting, by rw [get?_update_self, present]; rfl, symbol.shows_sight sighting⟩

end Registry

end SymbolAtlas
