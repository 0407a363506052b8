import Mathlib.Data.List.TakeWhile
import SymbolAtlas.Options

/-! Argument lists as a compiler reads them, from left to right: the last standard holds,
and of a macro the last mention. The arguments that options stand for mention what the
options hold. -/

namespace SymbolAtlas

/-- What an argument says about the standard and about macros. -/
inductive Directive where
  | standard (name : String)
  | define (define : Define)
  | undefine (name : String)
  | other
deriving DecidableEq, Repr

namespace Directive

def ofArgument (argument : String) : Directive :=
  match argument.toList with
  | '-' :: 's' :: 't' :: 'd' :: '=' :: name => .standard (String.ofList name)
  | '-' :: 'D' :: text =>
    .define ⟨String.ofList (text.takeWhile (· != '=')),
      String.ofList (text.dropWhile (· != '=')).tail⟩
  | '-' :: 'U' :: name => .undefine (String.ofList name)
  | _ => .other

private theorem ofArgument_standard (name : String) :
    ofArgument ("-std=" ++ name) = .standard name := by
  simp [ofArgument]

private theorem ofArgument_include (dir : String) : ofArgument ("-I" ++ dir) = .other := by
  simp [ofArgument]

private theorem ofArgument_undefine (name : String) :
    ofArgument ("-U" ++ name) = .undefine name := by
  simp [ofArgument]

private theorem ofArgument_define {given : Define} (plain : '=' ∉ given.name.toList) :
    ofArgument given.argument = .define given := by
  have within : ∀ char ∈ given.name.toList, (char != '=') = true := by
    intro char member
    rw [bne_iff_ne]
    rintro rfl
    exact plain member
  obtain ⟨name, value⟩ := given
  simp only [Define.argument]
  split
  · rename_i bare
    have empty : value = "" := by simpa using bare
    simp [ofArgument, empty, List.takeWhile_eq_self_iff.2 within,
      List.dropWhile_eq_nil_iff.2 within]
  · simp [ofArgument, List.takeWhile_append_of_pos within, List.dropWhile_append_of_pos within]

end Directive

/-- What the last mention of a macro has made of it. -/
inductive MacroState where
  | defined (value : String)
  | undefined
deriving DecidableEq, Repr

/-- What a compiler knows after it has read some arguments. -/
@[ext]
structure Reading where
  standard : Option String := none
  /-- There is no state of a macro that has not been mentioned. -/
  macros : String → Option MacroState := fun _ => none

namespace Reading

def mention (reading : Reading) (name : String) (state : MacroState) : Reading :=
  { reading with macros := fun other => if other = name then some state else reading.macros other }

def next (reading : Reading) (argument : String) : Reading :=
  match Directive.ofArgument argument with
  | .standard name => { reading with standard := some name }
  | .define given => reading.mention given.name (.defined given.value)
  | .undefine name => reading.mention name .undefined
  | .other => reading

def after (reading : Reading) (arguments : List String) : Reading :=
  arguments.foldl next reading

def of (arguments : List String) : Reading :=
  after {} arguments

theorem after_append (reading : Reading) (earlier later : List String) :
    reading.after (earlier ++ later) = (reading.after earlier).after later :=
  List.foldl_append

private theorem after_cons (reading : Reading) (argument : String) (arguments : List String) :
    reading.after (argument :: arguments) = (reading.next argument).after arguments :=
  rfl

private theorem after_others (reading : Reading) {arguments : List String}
    (others : ∀ argument ∈ arguments, Directive.ofArgument argument = .other) :
    reading.after arguments = reading := by
  induction arguments with
  | nil => rfl
  | cons argument arguments ih =>
    obtain ⟨own, rest⟩ := List.forall_mem_cons.1 others
    have same : reading.next argument = reading := by rw [next, own]
    rw [after_cons, same, ih rest]

end Reading

/-- The value in the first entry for a name. -/
def Define.valueIn? (name : String) (defines : List Define) : Option String :=
  (defines.find? (·.name == name)).map Define.value

theorem Define.valueIn?_cons (name : String) (given : Define) (defines : List Define) :
    valueIn? name (given :: defines) =
      if name = given.name then some given.value else valueIn? name defines := by
  by_cases same : name = given.name
  · simp [valueIn?, same]
  · simp [valueIn?, same, Ne.symm same]

/-- In a table no name has a second entry. -/
theorem Define.valueIn?_eq_none {given : Define} {defines : List Define}
    (strict : Ascending.Strict Define.compare (given :: defines)) :
    valueIn? given.name defines = none := by
  obtain ⟨below, -⟩ := List.pairwise_cons.1 strict
  rw [valueIn?, Option.map_eq_none_iff, List.find?_eq_none]
  intro other member same
  have less : Ord.compare given.name other.name = .lt := below other member
  rw [beq_iff_eq] at same
  rw [same, Std.compare_self] at less
  cases less

namespace Reading

private theorem after_undefines (reading : Reading) (names : List String) :
    reading.after (names.map ("-U" ++ ·)) = { reading with
      macros := fun name => if name ∈ names then some .undefined else reading.macros name } := by
  induction names generalizing reading with
  | nil => simp [after]
  | cons name names ih =>
    rw [List.map_cons, after_cons, ih]
    ext1
    · simp [next, Directive.ofArgument_undefine, mention]
    · funext other
      by_cases own : other = name <;>
        simp [next, Directive.ofArgument_undefine, mention, own]

private theorem after_defines (reading : Reading) {defines : List Define}
    (strict : Ascending.Strict Define.compare defines)
    (plain : ∀ given ∈ defines, '=' ∉ given.name.toList) :
    reading.after (defines.map Define.argument) = { reading with
      macros := fun name =>
        ((Define.valueIn? name defines).map .defined).or (reading.macros name) } := by
  induction defines generalizing reading with
  | nil => rfl
  | cons given defines ih =>
    obtain ⟨own, plain⟩ := List.forall_mem_cons.1 plain
    have once := Define.valueIn?_eq_none strict
    have read : reading.next given.argument =
        reading.mention given.name (.defined given.value) := by
      rw [next, Directive.ofArgument_define own]
    rw [List.map_cons, after_cons, read, ih _ (List.pairwise_cons.1 strict).2 plain]
    ext1
    · rfl
    · funext name
      simp only [Define.valueIn?_cons]
      by_cases same : name = given.name
      · simp [mention, same, once]
      · simp [mention, same]

end Reading

namespace Options

def standard? (options : Options) : Option String :=
  if options.standard.isEmpty then none else some options.standard

/-- What options say about a macro: to undefine it comes after to define it. -/
def mention? (options : Options) (name : String) : Option MacroState :=
  if name ∈ options.undefines.toList then some .undefined
  else (Define.valueIn? name options.defines.toList).map .defined

/-- No name of a macro has a sign of equality in it, and no flag of its own is a standard
or mentions a macro. -/
structure Plain (options : Options) : Prop where
  names : ∀ given ∈ options.defines.toList, '=' ∉ given.name.toList
  flags : ∀ flag ∈ options.flags, Directive.ofArgument flag = .other

end Options

theorem Reading.after_args (reading : Reading) {options : Options} (plain : options.Plain) :
    reading.after options.args =
      { standard := options.standard?.or reading.standard
        macros := fun name => (options.mention? name).or (reading.macros name) } := by
  have standard : reading.after
      (if options.standard.isEmpty then [] else ["-std=" ++ options.standard]) =
        { reading with standard := options.standard?.or reading.standard } := by
    rw [Options.standard?]
    split
    · rfl
    · rw [after_cons, next, Directive.ofArgument_standard]
      rfl
  have included : ∀ argument ∈ options.includeDirs.toList.map ("-I" ++ ·),
      Directive.ofArgument argument = .other := by
    intro argument member
    obtain ⟨dir, -, rfl⟩ := List.mem_map.1 member
    exact Directive.ofArgument_include dir
  rw [Options.args, after_append, after_append, after_append, after_append, standard,
    after_others _ included, after_defines _ options.defines.strict plain.names, after_undefines,
    after_others _ plain.flags]
  ext1
  · rfl
  · funext name
    simp only [Options.mention?]
    split <;> rfl

end SymbolAtlas
