import SymbolAtlas.Project
import SymbolAtlas.Proofs.Options.Reading

/-! Two ways to lay the options of a file over those of its project: to merge them, and to
append the arguments of the file to those of the project. A compiler reads the same from
both but for macros that the project undefines and the file defines. -/

namespace SymbolAtlas

namespace Chain

variable {α : Type} {cmp : α → α → Ordering} [Std.TransCmp cmp] [Std.LawfulEqCmp cmp]

private theorem mem_insert {chain : Chain cmp} {x y : α} :
    y ∈ (chain.insert x).toList ↔ y = x ∨ y ∈ chain.toList := by
  refine ⟨Ascending.eq_or_mem_of_mem_insert, ?_⟩
  rintro (rfl | member)
  · obtain ⟨z, member, same⟩ := Ascending.exists_mem_insert cmp y chain.toList
    cases Std.LawfulEqCmp.eq_of_compare same
    exact member
  · exact (Ascending.sublist_insert cmp x chain.toList).subset member

private theorem mem_insertAll {chain : Chain cmp} {xs : List α} {y : α} :
    y ∈ (chain.insertAll xs).toList ↔ y ∈ xs ∨ y ∈ chain.toList := by
  induction xs generalizing chain with
  | nil => simp [insertAll]
  | cons x xs ih =>
    have first : chain.insertAll (x :: xs) = (chain.insert x).insertAll xs := rfl
    rw [first, ih, mem_insert, List.mem_cons, or_left_comm, or_assoc]

end Chain

namespace MacroTable

variable {table : MacroTable} {defines : List Define}

private theorem mem_putAll {given : Define} (member : given ∈ (table.putAll defines).toList) :
    given ∈ defines ∨ given ∈ table.toList := by
  induction defines generalizing table with
  | nil => exact .inr member
  | cons define defines ih =>
    rcases ih member with later | earlier
    · exact .inl (List.mem_cons_of_mem _ later)
    · rcases Ascending.eq_or_mem_of_mem_put earlier with rfl | old
      · exact .inl List.mem_cons_self
      · exact .inr old

private theorem valueIn?_put (name : String) (given : Define) (defines : List Define) :
    Define.valueIn? name (Ascending.put Define.compare given defines) =
      if name = given.name then some given.value else Define.valueIn? name defines := by
  induction defines with
  | nil => exact Define.valueIn?_cons name given []
  | cons define defines ih =>
    simp only [Ascending.put]
    split
    · exact Define.valueIn?_cons name given _
    · rename_i equal
      have equal : Ord.compare given.name define.name = .eq := equal
      have same := Std.LawfulEqCmp.eq_of_compare equal
      rw [Define.valueIn?_cons, Define.valueIn?_cons, ← same]
      split <;> rfl
    · rename_i greater
      have apart : given.name ≠ define.name := fun same => by
        have greater : Ord.compare given.name define.name = .gt := greater
        rw [same, Std.compare_self] at greater
        cases greater
      rw [Define.valueIn?_cons, Define.valueIn?_cons, ih]
      by_cases own : name = given.name
      · simp [own, apart]
      · simp [own]

/-- Of two tables the one laid over the other decides. -/
theorem valueIn?_putAll (name : String) (strict : Ascending.Strict Define.compare defines) :
    Define.valueIn? name (table.putAll defines).toList =
      (Define.valueIn? name defines).or (Define.valueIn? name table.toList) := by
  induction defines generalizing table with
  | nil => rfl
  | cons given defines ih =>
    have once := Define.valueIn?_eq_none strict
    have first : table.putAll (given :: defines) = (table.put given).putAll defines := rfl
    have put : Define.valueIn? name (table.put given).toList =
        if name = given.name then some given.value else Define.valueIn? name table.toList :=
      valueIn?_put name given table.toList
    rw [first, ih (List.pairwise_cons.1 strict).2, put, Define.valueIn?_cons]
    by_cases same : name = given.name
    · simp [same, once]
    · simp [same]

end MacroTable

namespace Options

/-- These options undefine a macro that the others define. -/
def Revokes (options other : Options) (name : String) : Prop :=
  name ∈ options.undefines.toList ∧ ∃ value, other.mention? name = some (.defined value)

private theorem standard?_mergedWith (options other : Options) :
    (options.mergedWith other).standard? = other.standard?.or options.standard? := by
  simp only [standard?, mergedWith]
  by_cases bare : other.standard.isEmpty <;> simp [bare]

private theorem mention?_mergedWith_of_revokes {options other : Options} {name : String}
    (revoked : options.Revokes other name) :
    (options.mergedWith other).mention? name = some .undefined := by
  have member : name ∈ (options.mergedWith other).undefines.toList :=
    Chain.mem_insertAll.2 (.inr revoked.1)
  rw [mention?, if_pos member]

private theorem mention?_mergedWith {options other : Options} {name : String}
    (held : ¬ options.Revokes other name) :
    (options.mergedWith other).mention? name =
      (other.mention? name).or (options.mention? name) := by
  have undefined : name ∈ (options.mergedWith other).undefines.toList ↔
      name ∈ other.undefines.toList ∨ name ∈ options.undefines.toList := Chain.mem_insertAll
  have defined : Define.valueIn? name (options.mergedWith other).defines.toList =
      (Define.valueIn? name other.defines.toList).or
        (Define.valueIn? name options.defines.toList) :=
    MacroTable.valueIn?_putAll name other.defines.strict
  by_cases above : name ∈ other.undefines.toList
  · simp [mention?, undefined, above]
  · by_cases below : name ∈ options.undefines.toList
    · have silent : other.mention? name = none := by
        cases said : Define.valueIn? name other.defines.toList with
        | none => simp [mention?, above, said]
        | some value =>
          exact absurd ⟨below, value, by simp [mention?, above, said]⟩ held
      rw [silent]
      simp [mention?, undefined, below]
    · simp only [mention?, undefined, above, below, or_self, if_false, defined, Option.map_or]

private theorem Plain.mergedWith {options other : Options} (plain : options.Plain)
    (plain' : other.Plain) : (options.mergedWith other).Plain where
  names given member := (MacroTable.mem_putAll member).elim (plain'.names given) (plain.names given)
  flags flag member := (List.mem_append.1 member).elim (plain.flags flag) (plain'.flags flag)

end Options

namespace Project

/-- The arguments of a file after those of its project set the same standard as merged options.
They let the file decide on every macro that it mentions; merged options do so too, but for a
macro that the project undefines and the file defines. The two agree when there is none, and only
then. -/
theorem layers_read (project : Project) (input : InputFile) (plain : project.options.Plain)
    (plain' : input.options.Plain) :
    let appended := Reading.of (project.inputArgs input)
    let merged := Reading.of (project.options.mergedWith input.options).args
    appended.standard = input.options.standard?.or project.options.standard? ∧
    merged.standard = appended.standard ∧
    (∀ name, appended.macros name =
      (input.options.mention? name).or (project.options.mention? name)) ∧
    (∀ name, ¬ project.options.Revokes input.options name →
      merged.macros name = appended.macros name) ∧
    (∀ name, project.options.Revokes input.options name → merged.macros name = some .undefined) ∧
    (merged = appended ↔ ∀ name, ¬ project.options.Revokes input.options name) := by
  intro appended merged
  have appended_eq : appended =
      { standard := input.options.standard?.or project.options.standard?
        macros := fun name =>
          (input.options.mention? name).or (project.options.mention? name) } := by
    simp only [appended, Reading.of, inputArgs, Reading.after_append, Reading.after_args _ plain,
      Reading.after_args _ plain', Option.or_none]
  have merged_eq : merged =
      { standard := input.options.standard?.or project.options.standard?
        macros := (project.options.mergedWith input.options).mention? } := by
    simp only [merged, Reading.of, Reading.after_args _ (plain.mergedWith plain'), Option.or_none,
      Options.standard?_mergedWith]
  have agrees : ∀ name, ¬ project.options.Revokes input.options name →
      merged.macros name = appended.macros name := by
    intro name held
    rw [appended_eq, merged_eq]
    exact Options.mention?_mergedWith held
  have revoked : ∀ name, project.options.Revokes input.options name →
      merged.macros name = some .undefined := by
    intro name revoked
    rw [merged_eq]
    exact Options.mention?_mergedWith_of_revokes revoked
  refine ⟨by rw [appended_eq], by rw [appended_eq, merged_eq], fun name => by rw [appended_eq],
    agrees, revoked, ?_, ?_⟩
  · rintro same name ⟨member, value, defined⟩
    have lost := revoked name ⟨member, value, defined⟩
    rw [same, appended_eq] at lost
    simp [defined] at lost
  · intro held
    ext1
    · rw [appended_eq, merged_eq]
    · funext name
      exact agrees name (held name)

/-- A project for C++17 without a macro, and a file that defines it. -/
theorem layers_read_revoked :
    let project : Project := {
      name := "engine"
      options := { standard := "c++17", undefines := Chain.empty.insert "DEBUG" } }
    let input : InputFile := {
      path := ⟨"trace.cc"⟩
      options := { defines := Chain.empty.put ⟨"DEBUG", "1"⟩ } }
    project.options.Plain ∧ input.options.Plain ∧
    project.options.Revokes input.options "DEBUG" ∧
    (Reading.of (project.inputArgs input)).macros "DEBUG" = some (.defined "1") ∧
    (Reading.of (project.options.mergedWith input.options).args).macros "DEBUG" =
      some .undefined ∧
    Reading.of (project.options.mergedWith input.options).args ≠
      Reading.of (project.inputArgs input) := by
  intro project input
  have plain : project.options.Plain := ⟨by decide, by decide⟩
  have plain' : input.options.Plain := ⟨by decide, by decide⟩
  have defined : input.options.mention? "DEBUG" = some (.defined "1") := by decide
  have revoked : project.options.Revokes input.options "DEBUG" := ⟨by decide, "1", defined⟩
  obtain ⟨-, -, appended, -, undefined, agree⟩ := layers_read project input plain plain'
  refine ⟨plain, plain', revoked, ?_, undefined "DEBUG" revoked, ?_⟩
  · rw [appended, defined]
    rfl
  · exact fun same => agree.1 same "DEBUG" revoked

end Project

end SymbolAtlas
