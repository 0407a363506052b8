import SymbolAtlas.Ascending
import SymbolAtlas.Json.Basic
import SymbolAtlas.Path

/-! Positions in source files and ascending sets of them. -/

namespace SymbolAtlas

structure Location where
  file : Path
  line : UInt32
  column : UInt32
  offset : UInt32
deriving DecidableEq, Repr

namespace Location

def absent : Location :=
  ⟨⟨""⟩, 0, 0, 0⟩

instance : Inhabited Location := ⟨absent⟩

/-- By file, then line, column and offset; spellings of one path are equal. -/
def compare (a b : Location) : Ordering :=
  (a.file.compare b.file).then
    (compareLex (compareOn line) (compareLex (compareOn column) (compareOn offset)) a b)

instance : Std.TransCmp fun a b : Location => a.file.compare b.file where
  eq_swap := Std.OrientedCmp.eq_swap
  isLE_trans := Std.TransCmp.isLE_trans

instance : Std.TransCmp compare :=
  inferInstanceAs (Std.TransCmp (compareLex (fun a b => a.file.compare b.file)
    (compareLex (compareOn line) (compareLex (compareOn column) (compareOn offset)))))

def same (a b : Location) : Bool :=
  compare a b == .eq

def isAbsent (location : Location) : Bool :=
  location.same absent

def describe (location : Location) : String :=
  location.file.text ++ ":" ++ toString location.line.toNat ++ ":" ++
    toString location.column.toNat

def insert (location : Location) (set : List Location) : List Location :=
  if location.isAbsent then set else Ascending.insert compare location set

theorem sublist_insert (location : Location) (set : List Location) :
    set.Sublist (location.insert set) := by
  unfold insert
  split
  · exact List.Sublist.refl set
  · exact Ascending.sublist_insert compare location set

theorem exists_mem_insert {location : Location} (present : location.isAbsent = false)
    (set : List Location) : ∃ place ∈ location.insert set, location.same place := by
  obtain ⟨place, member, same⟩ := Ascending.exists_mem_insert compare location set
  refine ⟨place, ?_, by simp [Location.same, same]⟩
  unfold insert
  rwa [present, if_neg Bool.false_ne_true]

theorem isAbsent_of_mem_insert {location place : Location} {set : List Location}
    (present : ∀ other ∈ set, other.isAbsent = false) (member : place ∈ location.insert set) :
    place.isAbsent = false := by
  unfold insert at member
  split at member
  · exact present place member
  · rename_i own
    rcases Ascending.eq_or_mem_of_mem_insert member with rfl | old
    · simpa using own
    · exact present place old

open Json

def fieldNames : List String := ["file", "line", "column", "offset"]

def ofJson? (json : Json) : Option Location := do
  let fields ← json.fields? .refused fieldNames
  some {
    file := ⟨← required? fields "file" asString?⟩
    line := ← required? fields "line" asUInt32?
    column := ← required? fields "column" asUInt32?
    offset := ← required? fields "offset" asUInt32? }

def toJson (location : Location) : Json :=
  .obj [("file", .str location.file.text), ("line", .ofNat location.line.toNat),
    ("column", .ofNat location.column.toNat), ("offset", .ofNat location.offset.toNat)]

end Location

end SymbolAtlas
