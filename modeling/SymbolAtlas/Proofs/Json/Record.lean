import SymbolAtlas.Json.Basic
import SymbolAtlas.Proofs.Json.Text

/-! What is written of the data of a record is read back: from the value that is written and,
as that value is plain, from its text. A record without duplicated names gives each field
as it was given it, a field that is left out as none. -/

namespace SymbolAtlas.Json

variable {α : Type} {write : α → Json} {read : Json → Option α}

/-- Reading gives back what writing was given, and nothing is written that has no text. -/
structure Inverse (write : α → Json) (read : Json → Option α) : Prop where
  plain (value : α) : (write value).Plain
  back (value : α) : read (write value) = some value

private theorem PlainItems.of_forall {items : List Json} (each : ∀ item ∈ items, item.Plain) :
    PlainItems items := by
  induction items with
  | nil => trivial
  | cons item items ih =>
    exact ⟨each item (List.mem_cons_self ..), ih fun other later => each other (.tail _ later)⟩

private theorem PlainFields.of_forall {fields : List (String × Json)}
    (each : ∀ field ∈ fields, field.2.Plain) : PlainFields fields := by
  induction fields with
  | nil => trivial
  | cons field fields ih =>
    exact ⟨each field (List.mem_cons_self ..), ih fun other later => each other (.tail _ later)⟩

private theorem asNatUpTo?_ofNat {n largest : Nat} (small : n ≤ largest) :
    (ofNat n).asNatUpTo? largest = some n := by
  simp [ofNat, asNatUpTo?, small]

namespace Inverse

theorem parse (inverse : Inverse write read) (value : α) :
    (parse? (write value).compact).bind read = some value := by
  rw [parse?_compact (inverse.plain value)]
  exact inverse.back value

theorem str : Inverse Json.str asString? where
  plain _ := trivial
  back _ := rfl

theorem bool : Inverse Json.bool asBool? where
  plain _ := trivial
  back _ := rfl

theorem uint32 : Inverse (fun number : UInt32 => .ofNat number.toNat) asUInt32? where
  plain _ := trivial
  back number := by
    rw [asUInt32?, asNatUpTo?_ofNat (Nat.le_sub_one_of_lt number.toNat_lt_size)]
    simp

theorem uint64 : Inverse (fun number : UInt64 => .ofNat number.toNat) asUInt64? where
  plain _ := trivial
  back number := by
    rw [asUInt64?, asNatUpTo?_ofNat (Nat.le_sub_one_of_lt number.toNat_lt_size)]
    simp

theorem int32 : Inverse (fun number : Int32 => .int number.toInt) asInt32? where
  plain _ := trivial
  back number := by
    rw [asInt32?, if_pos ⟨number.minValue_le_toInt, number.toInt_le⟩, Int32.ofInt_toInt]

theorem ofList (inverse : Inverse write read) : Inverse (Json.ofList write) (asList? read) where
  plain values := PlainItems.of_forall <| by
    rintro _ member
    obtain ⟨value, -, rfl⟩ := List.mem_map.mp member
    exact inverse.plain value
  back values := by
    have each : (values.map write).mapM read = some values := by
      induction values with
      | nil => rfl
      | cons value values ih => simp [inverse.back, ih]
    exact each

end Inverse

/-- The fields that are written of a record: all but those without a value. -/
def written (slots : List (String × Option Json)) : List (String × Json) :=
  slots.filterMap fun slot => slot.2.map (slot.1, ·)

section Slots

variable {slots : List (String × Option Json)}

theorem written_cons (name : String) (value : Option Json)
    (slots : List (String × Option Json)) :
    written ((name, value) :: slots) = (value.map (name, ·)).toList ++ written slots := by
  cases value <;> rfl

private theorem map_fst_written_sublist (slots : List (String × Option Json)) :
    ((written slots).map Prod.fst).Sublist (slots.map Prod.fst) := by
  induction slots with
  | nil => exact .slnil
  | cons slot slots ih =>
    obtain ⟨name, value⟩ := slot
    cases value with
    | none => exact ih.cons name
    | some json => exact ih.cons_cons name

private theorem mem_names_of_mem_written {field : String × Json} (member : field ∈ written slots) :
    field.1 ∈ slots.map Prod.fst :=
  (map_fst_written_sublist slots).subset (List.mem_map_of_mem member)

private theorem lookup_written (distinct : (slots.map Prod.fst).Nodup) :
    ∀ slot ∈ slots, (written slots).lookup slot.1 = slot.2 := by
  induction slots with
  | nil => simp
  | cons first slots ih =>
    obtain ⟨fresh, others⟩ := List.nodup_cons.mp distinct
    rw [List.forall_mem_cons, written_cons]
    constructor
    · cases value : first.2 with
      | some json => simp
      | none =>
        refine List.lookup_eq_none_iff.mpr fun field member => bne_iff_ne.mpr fun same => fresh ?_
        rw [same]
        exact mem_names_of_mem_written member
    · intro slot member
      have differs : (slot.1 == first.1) = false :=
        beq_false_of_ne fun same => fresh (same ▸ List.mem_map_of_mem member)
      have old := ih others slot member
      cases first.2 with
      | some json => simpa [List.lookup_cons, differs] using old
      | none => exact old

/-- The fields that are written are read: their names are known, and none is repeated. -/
theorem fields?_written {names : List String} (named : slots.map Prod.fst = names)
    (distinct : names.Nodup) (surplus : Surplus) :
    fields? surplus names (.obj (written slots)) = some (written slots) := by
  subst named
  have known : (written slots).filter (fun field => (slots.map Prod.fst).contains field.1) =
      written slots :=
    List.filter_eq_self.mpr fun field member =>
      List.contains_iff_mem.mpr (mem_names_of_mem_written member)
  simp only [fields?, known]
  rw [if_pos ((map_fst_written_sublist slots).nodup distinct)]

private theorem plainFields_written (each : ∀ slot ∈ slots, ∀ json ∈ slot.2, json.Plain) :
    PlainFields (written slots) := by
  refine PlainFields.of_forall fun field member => ?_
  obtain ⟨slot, known, value⟩ := List.mem_filterMap.mp member
  obtain ⟨json, present, rfl⟩ := Option.map_eq_some_iff.mp value
  exact each slot known json present

/-- A record is read back if its values are found again under the names they were written
under. -/
theorem Inverse.record {names : List String} {surplus : Surplus}
    {slots : α → List (String × Option Json)} {build : List (String × Json) → Option α}
    (writes : ∀ value, write value = .obj (written (slots value)))
    (reads : ∀ json, read json = (fields? surplus names json).bind build)
    (named : ∀ value, (slots value).map Prod.fst = names) (distinct : names.Nodup)
    (plain : ∀ value, ∀ slot ∈ slots value, ∀ json ∈ slot.2, json.Plain)
    (back : ∀ value fields, (∀ slot ∈ slots value, fields.lookup slot.1 = slot.2) →
      build fields = some value) :
    Inverse write read where
  plain value := by
    rw [writes]
    exact plainFields_written (plain value)
  back value := by
    rw [writes, reads, fields?_written (named value) distinct, Option.bind_some]
    refine back value _ (lookup_written ?_)
    rw [named value]
    exact distinct

end Slots

section Fields

variable {fields : List (String × Json)} {name : String} {json : Json}

theorem required?_of_lookup (found : fields.lookup name = some json) :
    required? fields name read = read json := by
  rw [required?, found, Option.bind_some]

theorem defaulted?_of_lookup {default : α} (found : fields.lookup name = some json) :
    defaulted? fields name read default = read json := by
  rw [defaulted?, found]

private theorem orNull?_of_ne (solid : json ≠ .null) :
    orNull? read json = (read json).map some := by
  cases json with
  | null => exact absurd rfl solid
  | _ => rfl

theorem optional?_of_lookup (inverse : Inverse write read) (solid : ∀ value, write value ≠ .null)
    {value : Option α} (found : fields.lookup name = value.map write) :
    optional? fields name read = some value := by
  rw [optional?, defaulted?, found]
  cases value with
  | none => rfl
  | some value =>
    rw [Option.map_some]
    exact (orNull?_of_ne (solid value)).trans (by rw [inverse.back, Option.map_some])

end Fields

end SymbolAtlas.Json
