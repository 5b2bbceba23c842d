import Mathlib.Data.List.TakeWhile
import TableQuery.Proofs.ClauseGrammar
import TableQuery.Table.Search

/-! What a compiled clause accepts. A condition is a test of one cell; a blank clause accepts every
row, a clause whose tokens are an expression accepts the rows that make its derivation true, and any
other clause accepts none. -/

namespace TableQuery.Clause

theorem tokensFrom_eq_nil_iff (joined : Bool) (text : List Char) :
    tokensFrom joined text = [] ↔ ∀ c ∈ text, Text.isBlank c = true := by
  rw [tokensFrom]
  split
  next blank => simpa [Text.trimStart, List.dropWhile_eq_nil_iff] using blank
  next c rest start =>
    refine iff_of_false (List.cons_ne_nil _ _) fun blank => ?_
    rw [Text.trimStart, List.dropWhile_eq_nil_iff.mpr blank] at start
    exact absurd start (List.cons_ne_nil _ _).symm

theorem tokens_eq_nil_iff (text : List Char) :
    tokens text = [] ↔ ∀ c ∈ text, Text.isBlank c = true :=
  tokensFrom_eq_nil_iff false text

theorem read_of_tokens_eq_nil {text : List Char} (blank : tokens text = []) :
    read text = .ok none := by
  rw [read, blank]

theorem read_of_tokens_ne_nil {text : List Char} (present : tokens text ≠ []) :
    read text = (parse (tokens text)).map some := by
  rw [read]
  split
  next blank => exact absurd blank present
  next => rfl

theorem derivable_ne_nil {tokens : List Token} (derivable : Derivable .expression tokens) :
    tokens ≠ [] := by
  rintro rfl
  obtain ⟨tree, accepted⟩ := parse_eq_ok_iff.mpr derivable
  simp [parse, operand] at accepted

theorem read_eq_tree_iff (text : List Char) :
    (∃ tree, read text = .ok (some tree)) ↔ Derivable .expression (tokens text) := by
  by_cases blank : tokens text = []
  · refine iff_of_false ?_ fun derivable => derivable_ne_nil derivable blank
    rw [read_of_tokens_eq_nil blank]
    simp
  · rw [read_of_tokens_ne_nil blank, ← parse_eq_ok_iff]
    cases parse (tokens text) <;> simp [Except.map]

theorem read_of_derivation {text : List Char} (derivation : Derivation .expression (tokens text)) :
    ∃ tree, read text = .ok (some tree) ∧ ∀ truth, tree.value truth = derivation.value truth := by
  obtain ⟨tree, accepted, means⟩ := parse_of_derivation derivation
  refine ⟨tree, ?_, means⟩
  rw [read_of_tokens_ne_nil (derivable_ne_nil ⟨derivation⟩), accepted]
  rfl

theorem read_of_not_derivable {text : List Char} (present : tokens text ≠ [])
    (not : ¬Derivable .expression (tokens text)) : ∃ error, read text = .error error := by
  rw [← parse_eq_ok_iff, not_exists] at not
  rw [read_of_tokens_ne_nil present]
  cases result : parse (tokens text) with
  | ok tree => exact absurd result (not tree)
  | error error => exact ⟨error, rfl⟩

end TableQuery.Clause

namespace TableQuery

namespace Filter

theorem foldl_or_holds (row : Row) (first : Filter) (rest : List Filter) :
    (rest.foldl .or first).holds row = (first.holds row || rest.any (holds row)) := by
  induction rest generalizing first with
  | nil => simp
  | cons next rest ih => rw [List.foldl_cons, ih, List.any_cons, holds, Bool.or_assoc]

theorem foldl_and_holds (row : Row) (first : Filter) (rest : List Filter) :
    (rest.foldl .and first).holds row = (first.holds row && rest.all (holds row)) := by
  induction rest generalizing first with
  | nil => simp
  | cons next rest ih => rw [List.foldl_cons, ih, List.all_cons, holds, Bool.and_assoc]

theorem chain_or_holds (row : Row) (filters : List Filter) :
    (chain .or filters).holds row = filters.any (holds row) := by
  cases filters with
  | nil => rfl
  | cons first rest => rw [chain, foldl_or_holds, List.any_cons]

theorem chain_and_holds (row : Row) (filters : List Filter) :
    (chain .and filters).holds row = (!filters.isEmpty && filters.all (holds row)) := by
  cases filters with
  | nil => rfl
  | cons first rest => rw [chain, foldl_and_holds, List.all_cons]; rfl

end Filter

namespace Engine

/-- Whether a cell passes a value: the predicate it calls, if that one is registered, and else the
value as a pattern of the text shown for the cell. -/
def cellPasses (engine : Engine) (value : List Char) (cell : Cell) : Bool :=
  let called := (Call.parse? value).bind fun call =>
    (engine.functions.predicate? call.name).map fun predicate => predicate cell call.args
  called.getD (Pattern.covers engine.caseSensitive value cell.display.toList)

def fieldPasses (engine : Engine) (fields : List String) (row : Row) (negated : Bool)
    (value written : List Char) : Bool :=
  match resolveField written fields with
  | some column => engine.cellPasses value (Row.cellAt row column) != negated
  | none => false

/-- Whether a row passes a condition, with the two pseudo-fields for some field and for every field
of at least one. -/
def conditionPasses (engine : Engine) (fields : List String) (row : Row)
    (condition : Clause.Condition) : Bool :=
  let passes := fun field : String =>
    engine.fieldPasses fields row condition.negated condition.value field.toList
  if condition.field = ['O', 'R', '*'] then fields.any passes
  else if condition.field = ['A', 'N', 'D', '*'] then !fields.isEmpty && fields.all passes
  else engine.fieldPasses fields row condition.negated condition.value condition.field

theorem cellTest_accepts (engine : Engine) (value : List Char) (cell : Cell) :
    (engine.cellTest value).accepts cell = engine.cellPasses value cell := by
  unfold cellTest cellPasses
  cases Call.parse? value with
  | none => rfl
  | some call =>
    cases registered : engine.functions.predicate? call.name <;>
      simp [registered, CellTest.accepts]

theorem bindField_holds (engine : Engine) (fields : List String) (row : Row) (negated : Bool)
    (value written : List Char) :
    (engine.bindField fields negated value written).holds row =
      engine.fieldPasses fields row negated value written := by
  unfold bindField fieldPasses
  cases resolveField written fields with
  | none => rfl
  | some column =>
    simp only [Filter.holds, ColumnTest.holds, cellTest_accepts]
    rfl

theorem bindCondition_holds (engine : Engine) (fields : List String) (row : Row)
    (condition : Clause.Condition) :
    (engine.bindCondition fields condition).holds row =
      engine.conditionPasses fields row condition := by
  unfold bindCondition conditionPasses bindEach
  split
  · rw [Filter.chain_or_holds, List.any_map]
    simp only [Function.comp_def, bindField_holds]
  · split
    · rw [Filter.chain_and_holds, List.all_map, List.isEmpty_map]
      simp only [Function.comp_def, bindField_holds]
    · exact bindField_holds engine fields row _ _ _

/-- A bound tree holds of a row when the conditions the row passes make the tree true. -/
theorem bind_holds (engine : Engine) (fields : List String) (row : Row) (tree : Clause.Tree) :
    (engine.bind fields tree).holds row = tree.value (engine.conditionPasses fields row) := by
  induction tree with
  | condition c => exact bindCondition_holds engine fields row c
  | and left right ihLeft ihRight => rw [bind, Filter.holds, ihLeft, ihRight, Clause.Tree.value]
  | or left right ihLeft ihRight => rw [bind, Filter.holds, ihLeft, ihRight, Clause.Tree.value]

theorem compile_of_tree {engine : Engine} {fields : List String} {clause : String}
    {tree : Option Clause.Tree} (found : Clause.read clause.toList = .ok tree) :
    (engine.compile clause fields).filter = tree.map (engine.bind fields) := by
  simp only [compile, found]

theorem compile_of_error {engine : Engine} {fields : List String} {clause : String}
    {error : Clause.ParseError} (failed : Clause.read clause.toList = .error error) :
    (engine.compile clause fields).filter = some (.never error.message) := by
  simp only [compile, failed]

theorem compile_accepts_of_blank {engine : Engine} {fields : List String} {clause : String}
    (blank : Clause.tokens clause.toList = []) (row : Row) :
    (engine.compile clause fields).accepts row = true := by
  rw [Program.accepts, compile_of_tree (Clause.read_of_tokens_eq_nil blank)]
  rfl

theorem compile_accepts_of_derivation {engine : Engine} {fields : List String} {clause : String}
    (derivation : Clause.Derivation .expression (Clause.tokens clause.toList)) (row : Row) :
    (engine.compile clause fields).accepts row =
      derivation.value (engine.conditionPasses fields row) := by
  obtain ⟨tree, found, means⟩ := Clause.read_of_derivation derivation
  rw [Program.accepts, compile_of_tree found, ← means, ← bind_holds]
  rfl

theorem compile_accepts_of_not_derivable {engine : Engine} {fields : List String} {clause : String}
    (present : Clause.tokens clause.toList ≠ [])
    (not : ¬Clause.Derivable .expression (Clause.tokens clause.toList)) (row : Row) :
    (engine.compile clause fields).accepts row = false := by
  obtain ⟨error, failed⟩ := Clause.read_of_not_derivable present not
  rw [Program.accepts, compile_of_error failed]
  rfl

/-- A row for which more of the conditions of a clause hold passes it as well, whatever the engines,
the fields and the rows are of which the conditions speak. -/
theorem compile_accepts_mono {engine loose : Engine} {fields others : List String} {clause : String}
    {row other : Row}
    (less : ∀ condition, .condition condition ∈ Clause.tokens clause.toList →
      engine.conditionPasses fields row condition = true →
      loose.conditionPasses others other condition = true)
    (accepted : (engine.compile clause fields).accepts row = true) :
    (loose.compile clause others).accepts other = true := by
  by_cases blank : Clause.tokens clause.toList = []
  · exact compile_accepts_of_blank blank other
  by_cases derivable : Clause.Derivable .expression (Clause.tokens clause.toList)
  · obtain ⟨derivation⟩ := derivable
    rw [compile_accepts_of_derivation derivation] at accepted ⊢
    exact derivation.value_mono less accepted
  · rw [compile_accepts_of_not_derivable blank derivable] at accepted
    cases accepted

theorem compile_accepts_congr {engine : Engine} {fields others : List String} {clause : String}
    {row other : Row}
    (agree : ∀ condition, .condition condition ∈ Clause.tokens clause.toList →
      engine.conditionPasses fields row condition = engine.conditionPasses others other condition) :
    (engine.compile clause fields).accepts row = (engine.compile clause others).accepts other :=
  Bool.eq_iff_iff.mpr
    ⟨compile_accepts_mono fun condition member => (agree condition member ▸ ·),
      compile_accepts_mono fun condition member => (agree condition member ▸ ·)⟩

/-- The meaning of a clause: blank clauses accept every row, clauses that are expressions accept the
rows on which they are true, and all others accept no row. -/
theorem compile_accepts (engine : Engine) (fields : List String) (clause : String) :
    ((Clause.tokens clause.toList = [] ↔ ∀ c ∈ clause.toList, Text.isBlank c = true) ∧
      (Clause.tokens clause.toList = [] →
        ∀ row, (engine.compile clause fields).accepts row = true)) ∧
    (((∃ tree, Clause.read clause.toList = .ok (some tree)) ↔
        Clause.Derivable .expression (Clause.tokens clause.toList)) ∧
      ∀ derivation : Clause.Derivation .expression (Clause.tokens clause.toList),
        (∀ text, .malformed text ∉ Clause.tokens clause.toList) ∧
        ∀ row, (engine.compile clause fields).accepts row =
          derivation.value (engine.conditionPasses fields row)) ∧
    (Clause.tokens clause.toList ≠ [] →
      ¬Clause.Derivable .expression (Clause.tokens clause.toList) →
        ∀ row, (engine.compile clause fields).accepts row = false) := by
  refine ⟨⟨Clause.tokens_eq_nil_iff _, compile_accepts_of_blank⟩, ⟨Clause.read_eq_tree_iff _, ?_⟩,
    compile_accepts_of_not_derivable⟩
  intro derivation
  exact ⟨Clause.not_mem_malformed derivation, compile_accepts_of_derivation derivation⟩

end Engine

end TableQuery
