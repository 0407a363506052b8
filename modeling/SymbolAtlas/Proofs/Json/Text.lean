import Mathlib.Data.List.Basic
import SymbolAtlas.Json.Printer
import SymbolAtlas.Json.Reader

/-! JSON text that has been written is read back. This holds of all values but those that
reading has no text for: numbers with a fraction, and what is garbled. -/

namespace SymbolAtlas.Json

mutual

/-- A value without any number that has a fraction, and without garbled text. -/
def Plain : Json → Prop
  | decimal _ | garbled => False
  | arr items => PlainItems items
  | obj fields => PlainFields fields
  | _ => True

def PlainItems : List Json → Prop
  | [] => True
  | item :: items => item.Plain ∧ PlainItems items

def PlainFields : List (String × Json) → Prop
  | [] => True
  | (_, value) :: fields => value.Plain ∧ PlainFields fields

end

namespace Reader

variable {rest : Rest}

/-- What may follow a value inside of a text: nothing, or a character that ends it. -/
def Closed (rest : Rest) : Prop :=
  ∀ c ∈ rest.head?, c = ',' ∨ c = ']' ∨ c = '}'

private theorem closed_nil : Closed [] := by
  simp [Closed]

private theorem closed_cons {c : Char}
    (closing : c = ',' ∨ c = ']' ∨ c = '}') : Closed (c :: rest) := by
  simpa [Closed] using closing

section Strings

private theorem hex4?_hexDigit {n : Nat} (low : n < 0x20) :
    hex4? '0' '0' (hexDigit (n / 16)) (hexDigit (n % 16)) = some n := by
  have all : ∀ n < 0x20, hex4? '0' '0' (hexDigit (n / 16)) (hexDigit (n % 16)) = some n := by
    decide
  exact all n low

private theorem pieceOfUnit_of_lt {n : Nat} (low : n < 0x20) :
    pieceOfUnit n = .char (Char.ofNat n) := by
  rw [pieceOfUnit, if_neg (by omega)]

private theorem pieces_escape (read : List Piece) (c : Char) :
    pieces read (escape c ++ rest) = pieces (.char c :: read) rest := by
  by_cases short : c ∈ ['"', '\\', '\x08', '\x0c', '\n', '\r', '\t']
  · simp only [List.mem_cons, List.not_mem_nil, or_false] at short
    rcases short with rfl | rfl | rfl | rfl | rfl | rfl | rfl <;> rfl
  · simp only [List.mem_cons, List.not_mem_nil, or_false, not_or] at short
    obtain ⟨quote, backslash, backspace, feed, newline, carriage, tab⟩ := short
    simp only [escape, quote, backslash, backspace, feed, newline, carriage, tab, if_false]
    split
    · rename_i low
      simp only [List.cons_append, List.nil_append, pieces, hex4?_hexDigit low,
        pieceOfUnit_of_lt low, Char.ofNat_toNat]
    · rename_i high
      have solid : ¬ (c.toNat < 0x20 ∨ c = '\\') := not_or.mpr ⟨high, backslash⟩
      rw [List.cons_append, List.nil_append, pieces, if_neg solid]
      · exact quote
      · rintro _ _ _ _ _ rfl
        exact absurd rfl backslash
      · rintro _ _ rfl
        exact absurd rfl backslash

private theorem pieces_flatMap_escape (read : List Piece) (text : List Char) :
    pieces read (text.flatMap escape ++ '"' :: rest) =
      some (read.reverse ++ text.map Piece.char, rest) := by
  induction text generalizing read with
  | nil => simp [pieces]
  | cons c text ih => rw [List.flatMap_cons, List.append_assoc, pieces_escape, ih]; simp

private theorem chars?_map_char (text : List Char) : chars? (text.map Piece.char) = some text := by
  induction text with
  | nil => rfl
  | cons c text ih => rw [List.map_cons, chars?, ih]; rfl

private theorem string_quote (text : String) :
    string (text.toList.flatMap escape ++ '"' :: rest) = some (some text, rest) := by
  simp [string, pieces_flatMap_escape, chars?_map_char]

end Strings

section Numbers

private theorem isDigit_of_mem_toDigits {n : Nat} {c : Char} (member : c ∈ Nat.toDigits 10 n) :
    isDigit c = true := by
  have digit := Nat.isDigit_of_mem_toDigits (by decide) (by decide) member
  simpa [isDigit, Char.isDigit, Char.le_def, UInt32.le_iff_toNat_le] using digit

private theorem head?_toDigits {n : Nat} (positive : 0 < n) :
    (Nat.toDigits 10 n).head? ≠ some '0' := by
  induction n using Nat.strongRecOn with
  | _ n smaller =>
    rw [Nat.toDigits_eq_if (by decide)]
    split
    · rename_i single
      have all : ∀ n < 10, 0 < n → some n.digitChar ≠ some '0' := by decide
      exact all n single positive
    · rw [List.head?_append_of_ne_nil _ Nat.toDigits_ne_nil]
      exact smaller (n / 10) (by omega) (by omega)

private theorem natOfDigits_toDigits (n : Nat) : natOfDigits (Nat.toDigits 10 n) = n := by
  have value := @Nat.ofDigitChars_toDigits 10 n (by decide) (by decide)
  rw [Nat.ofDigitChars_eq_foldl] at value
  simpa [natOfDigits, Nat.mul_comm] using value

private theorem isDigit_of_closing {c : Char} (closing : c = ',' ∨ c = ']' ∨ c = '}') :
    isDigit c = false := by
  rcases closing with rfl | rfl | rfl <;> rfl

private theorem span_toDigits (n : Nat) (closed : Closed rest) :
    digits (Nat.toDigits 10 n ++ rest) = some (Nat.toDigits 10 n, rest) := by
  have run : ∀ c ∈ Nat.toDigits 10 n, isDigit c = true := fun c => isDigit_of_mem_toDigits
  have stop : rest.takeWhile isDigit = [] ∧ rest.dropWhile isDigit = rest := by
    cases rest with
    | nil => exact ⟨rfl, rfl⟩
    | cons c rest =>
      have other := isDigit_of_closing (closed c rfl)
      simp [other]
  unfold digits
  rw [List.takeWhile_append_of_pos run, List.dropWhile_append_of_pos run, stop.1, stop.2,
    List.append_nil]
  cases written : Nat.toDigits 10 n with
  | nil => exact absurd written Nat.toDigits_ne_nil
  | cons c run => rfl

private theorem wholePart_toDigits (n : Nat) (closed : Closed rest) :
    wholePart (Nat.toDigits 10 n ++ rest) = some (Nat.toDigits 10 n, rest) := by
  rw [wholePart, span_toDigits n closed]
  simp only [Option.bind_eq_bind, Option.bind_some]
  rw [if_neg]
  rintro ⟨leading, long⟩
  rcases Nat.eq_zero_or_pos n with rfl | positive
  · exact long rfl
  · exact head?_toDigits positive leading

private theorem unsigned_toDigits (negative : Bool) (n : Nat) (closed : Closed rest)
    (sign : negative = true → n ≠ 0) :
    unsigned negative (Nat.toDigits 10 n ++ rest) =
      some (.int (if negative then -(n : Int) else n), rest) := by
  have fraction : fractionPart rest = some ([], rest) := by
    unfold fractionPart
    split
    · rcases closed '.' rfl with dot | dot | dot <;> cases dot
    · rfl
  have exponent : exponentPart rest = some ([], rest) := by
    unfold exponentPart
    split
    · rename_i c text
      rw [if_neg]
      rcases closed c rfl with rfl | rfl | rfl <;> decide
    · rfl
  rw [unsigned, wholePart_toDigits n closed]
  simp only [Option.bind_eq_bind, Option.bind_some, fraction, exponent, natOfDigits_toDigits]
  rw [if_pos ⟨trivial, trivial, fun both => sign both.1 both.2⟩]

end Numbers

section Values

private theorem isBlank_of_isDigit {c : Char} (digit : isDigit c = true) : isBlank c = false := by
  have differs : ∀ d, isDigit d = false → c ≠ d := by
    rintro d other rfl
    exact Bool.false_ne_true (other.symm.trans digit)
  simp [isBlank, differs ' ' rfl, differs '\n' rfl, differs '\t' rfl, differs '\r' rfl]

private theorem skipBlanks_of_not {c : Char} (solid : isBlank c = false) :
    skipBlanks (c :: rest) = c :: rest := by
  simp [skipBlanks, solid]

private theorem skipBlanks_of_closing {c : Char} (closing : c = ',' ∨ c = ']' ∨ c = '}') :
    skipBlanks (c :: rest) = c :: rest := by
  rcases closing with rfl | rfl | rfl <;> rfl

private theorem toList_toString_ofNat (n : Nat) :
    (toString (Int.ofNat n)).toList = Nat.toDigits 10 n := by
  simp [toString, Int.repr, Nat.toList_repr]

private theorem toList_toString_negSucc (n : Nat) :
    (toString (Int.negSucc n)).toList = '-' :: Nat.toDigits 10 (n + 1) := by
  simp [toString, Int.repr, Nat.toList_repr]

private theorem value_toDigits (room n : Nat) (closed : Closed rest) :
    value (room + 1) (Nat.toDigits 10 n ++ rest) = some (.int n, rest) := by
  have read := unsigned_toDigits false n closed nofun
  obtain ⟨c, run, written⟩ := List.exists_cons_of_ne_nil (@Nat.toDigits_ne_nil n 10)
  have digit : isDigit c = true := isDigit_of_mem_toDigits (by rw [written]; simp)
  rw [written, List.cons_append] at read ⊢
  rw [value.eq_def]
  simp only [skipBlanks_of_not (isBlank_of_isDigit digit)]
  -- no value of another sort starts with a digit
  split
  case h_8 => exact read
  all_goals
    rename_i same
    obtain ⟨rfl, -⟩ := List.cons.inj same
    cases digit

private theorem value_int (room : Nat) (number : Int) (closed : Closed rest) :
    value (room + 1) ((toString number).toList ++ rest) = some (.int number, rest) := by
  cases number with
  | ofNat n =>
    rw [toList_toString_ofNat]
    exact value_toDigits room n closed
  | negSucc n =>
    rw [toList_toString_negSucc]
    exact unsigned_toDigits true (n + 1) closed fun _ => Nat.succ_ne_zero n

private theorem toList_quote_append (text : String) (rest : Rest) :
    (quote text).toList ++ rest = '"' :: (text.toList.flatMap escape ++ '"' :: rest) := by
  simp [quote]

private theorem value_str (room : Nat) (text : String) :
    value (room + 1) ((quote text).toList ++ rest) = some (.str text, rest) := by
  rw [toList_quote_append, value.eq_def]
  simp [skipBlanks_of_not (rfl : isBlank '"' = false), string_quote]

/-- Written text starts with a character that is neither a blank nor the end of a list. -/
theorem exists_compact_eq_cons {json : Json} (plain : json.Plain) :
    ∃ c text, json.compact.toList = c :: text ∧ isBlank c = false ∧ c ≠ ']' ∧ c ≠ '}' := by
  cases json with
  | null => exact ⟨'n', ['u', 'l', 'l'], by simp [compact], rfl, by decide, by decide⟩
  | bool value =>
    cases value with
    | false => exact ⟨'f', ['a', 'l', 's', 'e'], by simp [compact], rfl, by decide, by decide⟩
    | true => exact ⟨'t', ['r', 'u', 'e'], by simp [compact], rfl, by decide, by decide⟩
  | int number =>
    cases number with
    | ofNat n =>
      obtain ⟨c, run, written⟩ := List.exists_cons_of_ne_nil (@Nat.toDigits_ne_nil n 10)
      have digit : isDigit c = true := isDigit_of_mem_toDigits (by rw [written]; simp)
      refine ⟨c, run, by rw [compact, toList_toString_ofNat, written], isBlank_of_isDigit digit,
        ?_, ?_⟩ <;> rintro rfl <;> cases digit
    | negSucc n =>
      exact ⟨'-', _, by rw [compact, toList_toString_negSucc], rfl, by decide, by decide⟩
  | decimal literal => exact plain.elim
  | str text =>
    exact ⟨'"', text.toList.flatMap escape ++ ['"'], by simp [compact, quote], rfl, by decide,
      by decide⟩
  | garbled => exact plain.elim
  | arr items =>
    exact ⟨'[', (String.intercalate "," (compactItems items)).toList ++ [']'],
      by simp [compact], rfl, by decide, by decide⟩
  | obj fields =>
    exact ⟨'{', (String.intercalate "," (compactFields fields)).toList ++ ['}'],
      by simp [compact], rfl, by decide, by decide⟩

private theorem objectOf_map_some (fields : List (String × Json)) :
    objectOf (fields.map fun field => (some field.1, field.2)) = .obj fields := by
  have named : (fields.map fun field => (some field.1, field.2)).mapM
      (fun field : Option String × Json => field.1.map (·, field.2)) = some fields := by
    induction fields with
    | nil => rfl
    | cons field fields ih => rw [List.map_cons, List.mapM_cons, ih]; rfl
  rw [objectOf, named]

end Values

section Steps

variable {room : Nat} {text later : Rest} {name : String} {json : Json}

private theorem items_last (read : value room text = some (json, ']' :: rest)) :
    items (room + 1) text = some ([json], rest) := by
  simp [items, read, skipBlanks_of_closing]

private theorem items_more {more : List Json} (read : value room text = some (json, ',' :: later))
    (others : items room later = some (more, rest)) :
    items (room + 1) text = some (json :: more, rest) := by
  simp [items, read, others, skipBlanks_of_closing]

private theorem members_last (read : value room text = some (json, '}' :: rest)) :
    members (room + 1) ((quote name).toList ++ ':' :: text) = some ([(some name, json)], rest) := by
  rw [toList_quote_append, members, skipBlanks_of_not rfl]
  simp [string_quote, skipBlanks_of_not (rfl : isBlank ':' = false), expect, read,
    skipBlanks_of_closing]

private theorem members_more {more : List (Option String × Json)}
    (read : value room text = some (json, ',' :: later))
    (others : members room later = some (more, rest)) :
    members (room + 1) ((quote name).toList ++ ':' :: text) =
      some ((some name, json) :: more, rest) := by
  rw [toList_quote_append, members, skipBlanks_of_not rfl]
  simp [string_quote, skipBlanks_of_not (rfl : isBlank ':' = false), expect, read, others,
    skipBlanks_of_closing]

private theorem value_arr {c : Char} {read : List Json} (solid : isBlank c = false)
    (opens : c ≠ ']') (inner : items room (c :: text) = some (read, rest)) :
    value (room + 1) ('[' :: c :: text) = some (.arr read, rest) := by
  rw [value, skipBlanks_of_not rfl]
  simp only [skipBlanks_of_not solid]
  split
  · rename_i same
    exact absurd (List.cons.inj same).1 opens
  · simp [inner]

private theorem value_obj {fields : List (String × Json)}
    (inner : members room ('"' :: text) =
      some (fields.map fun field => (some field.1, field.2), rest)) :
    value (room + 1) ('{' :: '"' :: text) = some (.obj fields, rest) := by
  rw [value, skipBlanks_of_not rfl]
  simp only [skipBlanks_of_not (rfl : isBlank '"' = false)]
  simp [inner, objectOf_map_some]

end Steps

section Texts

/-- The written items of a list, without its brackets. -/
def itemsText (items : List Json) : Rest :=
  (String.intercalate "," (compactItems items)).toList

/-- The written fields of an object, without its braces. -/
def fieldsText (fields : List (String × Json)) : Rest :=
  (String.intercalate "," (compactFields fields)).toList

private theorem toList_compact_arr (items : List Json) :
    (compact (.arr items)).toList ++ rest = '[' :: (itemsText items ++ ']' :: rest) := by
  simp [compact, itemsText]

private theorem toList_compact_obj (fields : List (String × Json)) :
    (compact (.obj fields)).toList ++ rest = '{' :: (fieldsText fields ++ '}' :: rest) := by
  simp [compact, fieldsText]

private theorem itemsText_singleton (item : Json) : itemsText [item] = item.compact.toList := by
  simp [itemsText, compactItems]

private theorem itemsText_cons (item : Json) {items : List Json} (nonempty : items ≠ []) :
    itemsText (item :: items) = item.compact.toList ++ ',' :: itemsText items := by
  obtain ⟨next, items, rfl⟩ := List.exists_cons_of_ne_nil nonempty
  simp [itemsText, compactItems, String.intercalate_cons_cons]

private theorem fieldsText_singleton (name : String) (json : Json) :
    fieldsText [(name, json)] = (quote name).toList ++ ':' :: json.compact.toList := by
  simp [fieldsText, compactFields]

private theorem fieldsText_cons (name : String) (json : Json) {fields : List (String × Json)}
    (nonempty : fields ≠ []) :
    fieldsText ((name, json) :: fields) =
      (quote name).toList ++ ':' :: (json.compact.toList ++ ',' :: fieldsText fields) := by
  obtain ⟨next, fields, rfl⟩ := List.exists_cons_of_ne_nil nonempty
  simp [fieldsText, compactFields, String.intercalate_cons_cons]

private theorem exists_itemsText_eq_cons {items : List Json} (plain : PlainItems items)
    (nonempty : items ≠ []) :
    ∃ c text, itemsText items = c :: text ∧ isBlank c = false ∧ c ≠ ']' := by
  obtain ⟨item, items, rfl⟩ := List.exists_cons_of_ne_nil nonempty
  obtain ⟨c, text, written, solid, differs, -⟩ := exists_compact_eq_cons plain.1
  cases items with
  | nil => exact ⟨c, text, by rw [itemsText_singleton, written], solid, differs⟩
  | cons next items =>
    rw [itemsText_cons item (List.cons_ne_nil next items), written, List.cons_append]
    exact ⟨c, _, rfl, solid, differs⟩

private theorem exists_fieldsText_eq_cons {fields : List (String × Json)} (nonempty : fields ≠ []) :
    ∃ text, fieldsText fields = '"' :: text := by
  obtain ⟨⟨name, json⟩, fields, rfl⟩ := List.exists_cons_of_ne_nil nonempty
  cases fields with
  | nil => exact ⟨_, by rw [fieldsText_singleton, toList_quote_append]⟩
  | cons next fields =>
    rw [fieldsText_cons name json (List.cons_ne_nil next fields), toList_quote_append]
    exact ⟨_, rfl⟩

private theorem value_itemsText {items : List Json} {room : Nat} (plain : PlainItems items)
    (nonempty : items ≠ [])
    (inner : Reader.items room (itemsText items ++ ']' :: rest) = some (items, rest)) :
    value (room + 1) ((compact (.arr items)).toList ++ rest) = some (.arr items, rest) := by
  obtain ⟨c, text, written, solid, differs⟩ := exists_itemsText_eq_cons plain nonempty
  rw [toList_compact_arr]
  rw [written, List.cons_append] at inner ⊢
  exact value_arr solid differs inner

private theorem value_fieldsText {fields : List (String × Json)} {room : Nat}
    (nonempty : fields ≠ [])
    (inner : members room (fieldsText fields ++ '}' :: rest) =
      some (fields.map fun field => (some field.1, field.2), rest)) :
    value (room + 1) ((compact (.obj fields)).toList ++ rest) = some (.obj fields, rest) := by
  obtain ⟨text, written⟩ := exists_fieldsText_eq_cons nonempty
  rw [toList_compact_obj]
  rw [written, List.cons_append] at inner ⊢
  exact value_obj inner

private theorem length_compact_pos {json : Json} (plain : json.Plain) :
    0 < json.compact.toList.length := by
  obtain ⟨c, text, written, -⟩ := exists_compact_eq_cons plain
  rw [written, List.length_cons]
  exact Nat.succ_pos _

private theorem length_compact_arr (items : List Json) :
    (compact (.arr items)).toList.length = (itemsText items).length + 2 := by
  simp [compact, itemsText]

private theorem length_compact_obj (fields : List (String × Json)) :
    (compact (.obj fields)).toList.length = (fieldsText fields).length + 2 := by
  simp [compact, fieldsText]

/-- With some room, every text that is short enough for it is read back, whatever closes it. A
character takes at most two calls: one for the value that starts there and one for the list
that it is in. -/
structure ReadsBack (room : Nat) : Prop where
  value (json : Json) (rest : Rest) (plain : json.Plain) (closed : Closed rest)
    (enough : 2 * json.compact.toList.length ≤ room) :
    Reader.value room (json.compact.toList ++ rest) = some (json, rest)
  items (items : List Json) (rest : Rest) (nonempty : items ≠ []) (plain : PlainItems items)
    (enough : 2 * (itemsText items).length < room) :
    Reader.items room (itemsText items ++ ']' :: rest) = some (items, rest)
  members (fields : List (String × Json)) (rest : Rest) (nonempty : fields ≠ [])
    (plain : PlainFields fields) (enough : 2 * (fieldsText fields).length < room) :
    Reader.members room (fieldsText fields ++ '}' :: rest) =
      some (fields.map fun field => (some field.1, field.2), rest)

namespace ReadsBack

variable {room : Nat}

private theorem value_succ (reads : ReadsBack room) (json : Json) (rest : Rest) (plain : json.Plain)
    (closed : Closed rest) (enough : 2 * json.compact.toList.length ≤ room + 1) :
    Reader.value (room + 1) (json.compact.toList ++ rest) = some (json, rest) := by
  cases json with
  | null => rfl
  | bool value => cases value <;> rfl
  | int number => exact value_int room number closed
  | decimal literal => exact plain.elim
  | str text => exact value_str room text
  | garbled => exact plain.elim
  | arr items =>
    rcases eq_or_ne items [] with rfl | nonempty
    · rfl
    · rw [length_compact_arr] at enough
      exact value_itemsText plain nonempty (reads.items items rest nonempty plain (by omega))
  | obj fields =>
    rcases eq_or_ne fields [] with rfl | nonempty
    · rfl
    · rw [length_compact_obj] at enough
      exact value_fieldsText nonempty (reads.members fields rest nonempty plain (by omega))

private theorem items_succ (reads : ReadsBack room) (items : List Json) (rest : Rest)
    (nonempty : items ≠ []) (plain : PlainItems items)
    (enough : 2 * (itemsText items).length < room + 1) :
    Reader.items (room + 1) (itemsText items ++ ']' :: rest) = some (items, rest) := by
  obtain ⟨item, items, rfl⟩ := List.exists_cons_of_ne_nil nonempty
  obtain ⟨own, others⟩ := plain
  rcases eq_or_ne items [] with rfl | nonempty
  · rw [itemsText_singleton] at enough ⊢
    exact items_last (reads.value item _ own (closed_cons (by simp)) (by omega))
  · rw [itemsText_cons item nonempty] at enough ⊢
    simp only [List.length_append, List.length_cons] at enough
    rw [List.append_assoc, List.cons_append]
    exact items_more (reads.value item _ own (closed_cons (by simp)) (by omega))
      (reads.items items rest nonempty others (by omega))

private theorem members_succ (reads : ReadsBack room) (fields : List (String × Json)) (rest : Rest)
    (nonempty : fields ≠ []) (plain : PlainFields fields)
    (enough : 2 * (fieldsText fields).length < room + 1) :
    Reader.members (room + 1) (fieldsText fields ++ '}' :: rest) =
      some (fields.map fun field => (some field.1, field.2), rest) := by
  obtain ⟨⟨name, json⟩, fields, rfl⟩ := List.exists_cons_of_ne_nil nonempty
  obtain ⟨own, others⟩ := plain
  rcases eq_or_ne fields [] with rfl | nonempty
  · rw [fieldsText_singleton] at enough ⊢
    simp only [List.length_append, List.length_cons] at enough
    rw [List.append_assoc, List.cons_append]
    exact members_last (reads.value json _ own (closed_cons (by simp)) (by omega))
  · rw [fieldsText_cons name json nonempty] at enough ⊢
    simp only [List.length_append, List.length_cons] at enough
    rw [List.append_assoc, List.cons_append, List.append_assoc, List.cons_append]
    exact members_more (reads.value json _ own (closed_cons (by simp)) (by omega))
      (reads.members fields rest nonempty others (by omega))

end ReadsBack

private theorem readsBack (room : Nat) : ReadsBack room := by
  induction room with
  | zero =>
    refine ⟨fun json _ plain _ enough => ?_, fun _ _ _ _ none => ?_, fun _ _ _ _ none => ?_⟩
    · have nonempty := length_compact_pos plain
      omega
    · exact absurd none (Nat.not_lt_zero _)
    · exact absurd none (Nat.not_lt_zero _)
  | succ room ih => exact ⟨ih.value_succ, ih.items_succ, ih.members_succ⟩

end Texts

end Reader

theorem parse?_compact {json : Json} (plain : json.Plain) : parse? json.compact = some json := by
  have reads := Reader.readsBack (2 * json.compact.toList.length + 2)
  have read := reads.value json [] plain Reader.closed_nil (by omega)
  rw [List.append_nil] at read
  rw [parse?, read]
  rfl

end SymbolAtlas.Json
