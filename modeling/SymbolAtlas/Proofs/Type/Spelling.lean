import SymbolAtlas.Registry
import SymbolAtlas.Type.Basic

/-! The spelling of a type tells its layers, their qualifiers and its leaf apart, unless
the text of the leaf itself looks like a layer or a qualifier. -/

namespace SymbolAtlas

/-- A pointer or a reference around a type, with qualifiers of its own. -/
structure Layer where
  wrapper : Wrapper
  quals : Qualifiers
deriving DecidableEq, Repr

/-- What a type is made of, the layers from the outside in. -/
structure Skeleton where
  layers : List Layer := []
  quals : Qualifiers := {}
  text : String
deriving DecidableEq, Repr

/-- A text that holds no mark of a layer and does not start with a qualifier. -/
structure Legible (text : String) : Prop where
  star : '*' ∉ text.toList
  ampersand : '&' ∉ text.toList
  const : ¬ "const ".toList <+: text.toList
  volatile : ¬ "volatile ".toList <+: text.toList

namespace Ty

def wrappers : Ty → List Wrapper
  | level _ wrapper inner => wrapper :: inner.wrappers
  | absent | leaf _ _ => []

/-- A missing inner type counts as a leaf of its own. -/
def skeleton (nameOf : Nat → Option String) : Ty → Skeleton
  | absent => { text := "<unknown>" }
  | leaf quals base => { quals, text := base.text nameOf }
  | level quals wrapper inner =>
    let within := inner.skeleton nameOf
    { within with layers := ⟨wrapper, quals⟩ :: within.layers }

end Ty

namespace Qualifiers

def ahead (quals : Qualifiers) : List Char :=
  (if quals.isConst then "const ".toList else []) ++
    if quals.isVolatile then "volatile ".toList else []

def behind (quals : Qualifiers) : List Char :=
  (if quals.isConst then " const".toList else []) ++
    if quals.isVolatile then " volatile".toList else []

private theorem behind_injective :
    ∀ quals other : Qualifiers, quals.behind = other.behind → quals = other
  | ⟨c, v⟩, ⟨c', v'⟩ => by
    cases c <;> cases v <;> cases c' <;> cases v' <;> decide

end Qualifiers

def Layer.chars (layer : Layer) : List Char :=
  layer.wrapper.mark.toList ++ layer.quals.behind

def Skeleton.leafChars (skeleton : Skeleton) : List Char :=
  skeleton.quals.ahead ++ skeleton.text.toList

def Skeleton.chars (skeleton : Skeleton) : List Char :=
  skeleton.leafChars ++ skeleton.layers.reverse.flatMap Layer.chars

namespace Ty

private theorem toList_withQualifiers_before (quals : Qualifiers) (base : String) :
    (withQualifiers quals false base).toList = quals.ahead ++ base.toList := by
  obtain ⟨c, v⟩ := quals
  cases c <;> cases v <;>
    simp [withQualifiers, Qualifiers.words, Qualifiers.ahead]

private theorem toList_withQualifiers_after (quals : Qualifiers) (base : String) :
    (withQualifiers quals true base).toList = base.toList ++ quals.behind := by
  obtain ⟨c, v⟩ := quals
  cases c <;> cases v <;>
    simp [withQualifiers, Qualifiers.words, Qualifiers.behind]

private theorem toList_innerSpelling (nameOf : Nat → Option String) (type : Ty)
    (plain : .elaborated ∉ type.wrappers) :
    (type.innerSpelling nameOf).toList = (type.skeleton nameOf).chars := by
  induction type with
  | absent => simp [innerSpelling, skeleton, Skeleton.chars, Skeleton.leafChars, Qualifiers.ahead]
  | leaf quals base =>
    rw [innerSpelling, toList_withQualifiers_before]
    simp [skeleton, Skeleton.chars, Skeleton.leafChars]
  | level quals wrapper inner ih =>
    obtain ⟨own, rest⟩ : wrapper ≠ .elaborated ∧ .elaborated ∉ inner.wrappers := by
      simpa [wrappers, eq_comm] using plain
    have after : wrapper.qualifiedAfter = true := by
      cases wrapper <;> first | rfl | exact absurd rfl own
    rw [innerSpelling, after, toList_withQualifiers_after, String.toList_append, ih rest]
    simp [skeleton, Skeleton.chars, Skeleton.leafChars, Layer.chars]

private theorem wrappers_skeleton (nameOf : Nat → Option String) (type : Ty) :
    (type.skeleton nameOf).layers.map Layer.wrapper = type.wrappers := by
  induction type with
  | absent | leaf => rfl
  | level quals wrapper inner ih => simp [skeleton, wrappers, ih]

end Ty

/-- Nothing, or the beginning of a further layer. -/
def Onward (rest : List Char) : Prop :=
  rest = [] ∨ ∃ mark later, rest = ' ' :: mark :: later ∧ (mark = '*' ∨ mark = '&')

def Unmarked (text : List Char) : Prop :=
  '*' ∉ text ∧ '&' ∉ text

private theorem Onward.eq_nil {text rest : List Char} (whole : Onward (text ++ rest))
    (onward : Onward rest) (unmarked : Unmarked text) : text = [] := by
  match text with
  | [] => rfl
  | [c] =>
    obtain empty | ⟨mark, later, shape, marks⟩ := whole
    · simp at empty
    -- the mark would have to be the blank that the rest starts with
    · obtain ⟨-, rfl⟩ : c = ' ' ∧ rest = mark :: later := by simpa using shape
      obtain empty | ⟨_, _, blank, -⟩ := onward
      · simp at empty
      · obtain ⟨rfl, -⟩ : mark = ' ' ∧ _ := by simpa using blank
        exact absurd marks (by decide)
  | c :: d :: more =>
    obtain empty | ⟨mark, later, shape, marks⟩ := whole
    · simp at empty
    · obtain ⟨-, rfl, -⟩ : c = ' ' ∧ d = mark ∧ _ := by simpa using shape
      obtain rfl | rfl := marks
      · exact absurd (by simp) unmarked.1
      · exact absurd (by simp) unmarked.2

/-- A text without marks ends where the first layer begins. -/
theorem Onward.append_inj {text other rest rest' : List Char}
    (same : text ++ rest = other ++ rest') (onward : Onward rest) (onward' : Onward rest')
    (unmarked : Unmarked text) (unmarked' : Unmarked other) : text = other ∧ rest = rest' := by
  obtain ⟨more, rfl, rfl⟩ | ⟨more, rfl, rfl⟩ := List.append_eq_append_iff.1 same
  · have none_more : more = [] := onward.eq_nil onward'
      ⟨fun star => unmarked'.1 (by simp [star]), fun mark => unmarked'.2 (by simp [mark])⟩
    subst none_more
    simp
  · have none_more : more = [] := onward'.eq_nil onward
      ⟨fun star => unmarked.1 (by simp [star]), fun mark => unmarked.2 (by simp [mark])⟩
    subst none_more
    simp

namespace Qualifiers

private theorem unmarked_behind : ∀ quals : Qualifiers, Unmarked quals.behind
  | ⟨c, v⟩ => by cases c <;> cases v <;> (unfold Unmarked; decide)

private theorem unmarked_ahead : ∀ quals : Qualifiers, Unmarked quals.ahead
  | ⟨c, v⟩ => by cases c <;> cases v <;> (unfold Unmarked; decide)

private theorem blank_of_behind {quals : Qualifiers} {rest later : List Char} {c : Char}
    (onward : Onward rest) (shape : quals.behind ++ rest = c :: later) : c = ' ' := by
  obtain ⟨isConst, isVolatile⟩ := quals
  cases isConst with
  | true => exact (List.cons.inj shape).1.symm
  | false =>
    cases isVolatile with
    | true => exact (List.cons.inj shape).1.symm
    | false =>
      obtain rfl | ⟨mark, more, rfl, -⟩ := onward
      · cases shape
      · exact (List.cons.inj shape).1.symm

end Qualifiers

namespace Layer

private theorem append_inj {layer other : Layer} {rest rest' : List Char}
    (same : layer.chars ++ rest = other.chars ++ rest') (plain : layer.wrapper ≠ .elaborated)
    (plain' : other.wrapper ≠ .elaborated) (onward : Onward rest) (onward' : Onward rest') :
    layer = other ∧ rest = rest' := by
  obtain ⟨wrapper, quals⟩ := layer
  obtain ⟨wrapper', quals'⟩ := other
  have within : quals.behind ++ rest = quals'.behind ++ rest' →
      quals = quals' ∧ rest = rest' := fun alike => by
    obtain ⟨words, rests⟩ :=
      Onward.append_inj alike onward onward' quals.unmarked_behind quals'.unmarked_behind
    exact ⟨Qualifiers.behind_injective _ _ words, rests⟩
  cases wrapper <;> cases wrapper' <;>
    simp [Layer.chars, Wrapper.mark] at same plain plain' ⊢
  case pointer.pointer | lvalueReference.lvalueReference | rvalueReference.rvalueReference =>
    exact within same
  case lvalueReference.rvalueReference =>
    exact absurd (Qualifiers.blank_of_behind onward same) (by decide)
  case rvalueReference.lvalueReference =>
    exact absurd (Qualifiers.blank_of_behind onward' same.symm) (by decide)

variable {layers others : List Layer}

private theorem onward_flatMap (plain : ∀ layer ∈ layers, layer.wrapper ≠ .elaborated) :
    Onward (layers.flatMap Layer.chars) := by
  cases layers with
  | nil => exact .inl rfl
  | cons layer layers =>
    have own := plain layer List.mem_cons_self
    obtain ⟨wrapper, quals⟩ := layer
    cases wrapper with
    | elaborated => exact absurd rfl own
    | pointer =>
      exact .inr ⟨'*', quals.behind ++ layers.flatMap Layer.chars,
        by simp [Layer.chars, Wrapper.mark], .inl rfl⟩
    | lvalueReference =>
      exact .inr ⟨'&', quals.behind ++ layers.flatMap Layer.chars,
        by simp [Layer.chars, Wrapper.mark], .inr rfl⟩
    | rvalueReference =>
      exact .inr ⟨'&', '&' :: quals.behind ++ layers.flatMap Layer.chars,
        by simp [Layer.chars, Wrapper.mark], .inr rfl⟩

private theorem flatMap_inj (same : layers.flatMap Layer.chars = others.flatMap Layer.chars)
    (plain : ∀ layer ∈ layers, layer.wrapper ≠ .elaborated)
    (plain' : ∀ layer ∈ others, layer.wrapper ≠ .elaborated) : layers = others := by
  have some_chars : ∀ layer : Layer, layer.wrapper ≠ .elaborated → layer.chars ≠ [] := by
    rintro ⟨wrapper, quals⟩ own
    cases wrapper <;> simp [Layer.chars, Wrapper.mark] at own ⊢
  induction layers generalizing others with
  | nil =>
    cases others with
    | nil => rfl
    | cons other others =>
      exact absurd (List.append_eq_nil_iff.1 same.symm).1 (some_chars other (plain' _ (by simp)))
  | cons layer layers ih =>
    cases others with
    | nil => exact absurd (List.append_eq_nil_iff.1 same).1 (some_chars layer (plain _ (by simp)))
    | cons other others =>
      have rest := fun inner member => plain inner (List.mem_cons_of_mem layer member)
      have rest' := fun inner member => plain' inner (List.mem_cons_of_mem other member)
      rw [List.flatMap_cons, List.flatMap_cons] at same
      obtain ⟨rfl, tails⟩ := append_inj same (plain layer (by simp)) (plain' other (by simp))
        (onward_flatMap rest) (onward_flatMap rest')
      rw [ih tails rest rest']

end Layer

namespace Legible

/-- An optional word in front of texts that do not start with it can be told from none. -/
theorem word_inj {word text other : List Char} {given given' : Bool}
    (same : (if given then word else []) ++ text = (if given' then word else []) ++ other)
    (apart : ¬ word <+: text) (apart' : ¬ word <+: other) : given = given' ∧ text = other := by
  cases given <;> cases given' <;> simp at same
  · exact ⟨rfl, same⟩
  · exact absurd (same ▸ List.prefix_append word other) apart
  · exact absurd (same ▸ List.prefix_append word text) apart'
  · exact ⟨rfl, same⟩

variable {text other : String}

private theorem unmarked (legible : Legible text) (quals : Qualifiers) :
    Unmarked (quals.ahead ++ text.toList) :=
  ⟨by simpa using ⟨quals.unmarked_ahead.1, legible.star⟩,
    by simpa using ⟨quals.unmarked_ahead.2, legible.ampersand⟩⟩

private theorem ahead_inj (legible : Legible text) (legible' : Legible other)
    {quals quals' : Qualifiers} (same : quals.ahead ++ text.toList = quals'.ahead ++ other.toList) :
    quals = quals' ∧ text = other := by
  have past_volatile : ∀ {text : String} (isVolatile : Bool), Legible text →
      ¬ "const ".toList <+: (if isVolatile then "volatile ".toList else []) ++ text.toList := by
    intro text isVolatile legible
    cases isVolatile with
    | false => exact legible.const
    | true => simp
  obtain ⟨isConst, isVolatile⟩ := quals
  obtain ⟨isConst', isVolatile'⟩ := quals'
  simp only [Qualifiers.ahead, List.append_assoc] at same
  obtain ⟨rfl, rest⟩ := word_inj same (past_volatile _ legible) (past_volatile _ legible')
  obtain ⟨rfl, texts⟩ := word_inj rest legible.volatile legible'.volatile
  exact ⟨rfl, String.toList_inj.1 texts⟩

end Legible

private theorem Skeleton.chars_inj {one other : Skeleton} (same : one.chars = other.chars)
    (plain : ∀ layer ∈ one.layers, layer.wrapper ≠ .elaborated)
    (plain' : ∀ layer ∈ other.layers, layer.wrapper ≠ .elaborated)
    (legible : Legible one.text) (legible' : Legible other.text) : one = other := by
  have inward : ∀ {layers : List Layer}, (∀ layer ∈ layers, layer.wrapper ≠ .elaborated) →
      ∀ layer ∈ layers.reverse, layer.wrapper ≠ .elaborated :=
    fun plain layer member => plain layer (List.mem_reverse.1 member)
  obtain ⟨leaves, marks⟩ := Onward.append_inj same (Layer.onward_flatMap (inward plain))
    (Layer.onward_flatMap (inward plain')) (legible.unmarked _) (legible'.unmarked _)
  have layers := List.reverse_inj.1 (Layer.flatMap_inj marks (inward plain) (inward plain'))
  obtain ⟨quals, text⟩ := legible.ahead_inj legible' leaves
  cases one
  cases other
  simp_all

namespace Ty

variable {nameOf : Nat → Option String} {type : Ty}

private theorem plain_layers (plain : .elaborated ∉ type.wrappers) :
    ∀ layer ∈ (type.skeleton nameOf).layers, layer.wrapper ≠ .elaborated := by
  intro layer member elaborated
  have wrapped := List.mem_map_of_mem (f := Layer.wrapper) member
  rw [wrappers_skeleton, elaborated] at wrapped
  exact plain wrapped

/-- Two types without elaborated names are spelled alike in a registry exactly when they have
the same layers, the same qualifiers and the same text as their leaf. -/
theorem spelling_eq_iff (registry : Registry) (one other : Ty)
    (given : one ≠ .absent) (given' : other ≠ .absent)
    (plain : .elaborated ∉ one.wrappers) (plain' : .elaborated ∉ other.wrappers)
    (legible : Legible (one.skeleton registry.nameOf?).text)
    (legible' : Legible (other.skeleton registry.nameOf?).text) :
    one.spelling registry.nameOf? = other.spelling registry.nameOf? ↔
      one.skeleton registry.nameOf? = other.skeleton registry.nameOf? := by
  have spelled : ∀ {type : Ty}, type ≠ .absent → .elaborated ∉ type.wrappers →
      (type.spelling registry.nameOf?).toList = (type.skeleton registry.nameOf?).chars := by
    intro type given plain
    rw [← toList_innerSpelling _ type plain]
    cases type with
    | absent => exact absurd rfl given
    | leaf | level => rfl
  rw [← String.toList_inj, spelled given plain, spelled given' plain']
  constructor
  · intro same
    exact Skeleton.chars_inj same (plain_layers plain) (plain_layers plain') legible legible'
  · exact congrArg Skeleton.chars

/-- A record in a namespace. -/
def namespaced : Registry where
  entries := #[⟨⟨[⟨"N", "N", "N"⟩]⟩, { part := ⟨"N", "N", "N"⟩, kind := .scope, parent := none }⟩,
    ⟨⟨[⟨"N", "N", "N"⟩, ⟨"S", "S", "S"⟩]⟩,
      { part := ⟨"S", "S", "S"⟩, kind := .record .structKeyword, parent := some 0 }⟩]
  contains := [⟨0, 1⟩]

/-- A reference to a qualified pointer to the record, named by its symbol or by an alias. -/
theorem spelling_eq_iff_namespaced :
    let within (base : Leaf) : Ty :=
      .level {} .lvalueReference (.level ⟨true, true⟩ .pointer (.leaf ⟨true, false⟩ base))
    let one := within (.record (some 1))
    let other := within (.typedef none "N::S")
    one ≠ other ∧ one.spelling namespaced.nameOf? = "const N::S * const volatile &" ∧
      one.spelling namespaced.nameOf? = other.spelling namespaced.nameOf? ∧
      Legible (one.skeleton namespaced.nameOf?).text ∧
      one.skeleton namespaced.nameOf? = other.skeleton namespaced.nameOf? := by
  intro within one other
  have legible : Legible "N::S" := ⟨by decide, by decide, by decide, by decide⟩
  have named : (one.skeleton namespaced.nameOf?).text = "N::S" := by decide +kernel
  have spelled : one.spelling namespaced.nameOf? = "const N::S * const volatile &" := by
    decide +kernel
  have alike : one.spelling namespaced.nameOf? = other.spelling namespaced.nameOf? := by
    decide +kernel
  refine ⟨by decide, spelled, alike, by rwa [named], ?_⟩
  exact (spelling_eq_iff namespaced one other (by decide) (by decide) (by decide) (by decide)
    (by rwa [named]) legible).1 alike

/-- An alias that starts with a qualifier is spelled like a qualified type. -/
example : spelling (fun _ => none) (.leaf {} (.typedef none "const T")) =
    spelling (fun _ => none) (.leaf ⟨true, false⟩ (.typedef none "T")) := by
  decide +kernel

end Ty

end SymbolAtlas
