import TableQuery.Proofs.ClauseComposition
import TableQuery.Proofs.ConditionText

/-! Conditions on a pseudo-field. `OR*` asks for some field and `AND*` for every field, but each
name is bound again as if it had been written out, so a name may end up at another column or at
none. Where every name binds to its own field, negating one pseudo-field is the complement of the
other. It need not be elsewhere, since a name without a column fails whether or not the condition
negates. -/

namespace TableQuery

namespace Clause

def anyField : List Char := ['O', 'R', '*']

def everyField : List Char := ['A', 'N', 'D', '*']

theorem tokensFrom_pseudoField {field value : List Char}
    (pseudo : field = anyField ∨ field = everyField) (single : '\'' ∉ value)
    (joined negated : Bool) (after : List Char) :
    tokensFrom joined (Condition.chars ⟨field, negated, value⟩ ++ after) =
      .condition ⟨field, negated, value⟩ :: tokensFrom true after := by
  have plain : field.all isPlain = true ∧ field ≠ [] := by
    rcases pseudo with rfl | rfl <;> decide
  exact tokensFrom_condition (List.all_eq_true.mp plain.1) plain.2 single joined negated after

end Clause

/-- Fields whose names each bind to their own column: none is empty, and none ends with one declared
before it. So no two are the same. -/
structure BindInPlace (fields : List String) : Prop where
  named : ∀ field ∈ fields, field.toList ≠ []
  clear : fields.Pairwise fun earlier later => ¬earlier.toList <:+ later.toList

theorem resolveFrom_append {written : List Char} {before : List String}
    (clear : ∀ field ∈ before, field.toList = [] ∨ ¬field.toList <:+ written) (column : Nat)
    (rest : List String) :
    resolveFrom written column (before ++ rest) =
      resolveFrom written (column + before.length) rest := by
  induction before generalizing column with
  | nil => rfl
  | cons field before ih =>
    have later := ih (fun other member => clear other (List.mem_cons_of_mem _ member)) (column + 1)
    have shift : column + 1 + before.length = column + (before.length + 1) := by omega
    rw [List.cons_append, resolveFrom, later, List.length_cons, shift]
    rcases clear field List.mem_cons_self with empty | apart
    · rw [if_pos (by rw [empty]; rfl)]
    · have other : written ≠ field.toList := fun same => apart (same ▸ List.suffix_rfl)
      by_cases empty : field.toList.isEmpty = true
      · rw [if_pos empty]
      · rw [if_neg empty, if_neg other, if_neg (by simpa using apart)]

theorem BindInPlace.resolveField_eq {fields : List String} (places : BindInPlace fields)
    {index : Nat} {field : String} (here : fields[index]? = some field) :
    resolveField field.toList fields = some index := by
  obtain ⟨within, found⟩ := List.getElem?_eq_some_iff.mp here
  have parted : fields = fields.take index ++ field :: fields.drop (index + 1) := by
    rw [← found, ← List.drop_eq_getElem_cons within, List.take_append_drop]
  have present : field.toList ≠ [] := places.named field (List.mem_of_getElem? here)
  have clear := places.clear
  rw [parted, List.pairwise_append] at clear
  have before : ∀ other ∈ fields.take index, other.toList = [] ∨ ¬other.toList <:+ field.toList :=
    fun other member => .inr (clear.2.2 other member field List.mem_cons_self)
  have length : (fields.take index).length = index := List.length_take_of_le (Nat.le_of_lt within)
  rw [parted, resolveField, resolveFrom_append before, resolveFrom, if_neg (by simpa using present),
    if_pos rfl, length, Nat.zero_add]

namespace Engine

variable (engine : Engine) (fields : List String) (value : List Char)

/-- Whether a condition on a column lets a row through: its cell passes the value, or fails it where
the condition negates. -/
def columnPasses (negated : Bool) (row : Row) (column : Nat) : Bool :=
  engine.cellPasses value (Row.cellAt row column) != negated

theorem fieldPasses_eq_true_iff (negated : Bool) (row : Row) (written : List Char) :
    engine.fieldPasses fields row negated value written = true ↔
      ∃ column, resolveField written fields = some column ∧
        engine.columnPasses value negated row column = true := by
  rw [fieldPasses]
  cases resolveField written fields with
  | none => simp
  | some column => simp [columnPasses]

theorem anyField_holds (negated : Bool) (row : Row) :
    (engine.bindCondition fields ⟨Clause.anyField, negated, value⟩).holds row = true ↔
      ∃ field ∈ fields, ∃ column, resolveField field.toList fields = some column ∧
        engine.columnPasses value negated row column = true := by
  have bound : engine.conditionPasses fields row ⟨Clause.anyField, negated, value⟩ =
      fields.any fun field => engine.fieldPasses fields row negated value field.toList := rfl
  rw [bindCondition_holds, bound, List.any_eq_true]
  simp only [fieldPasses_eq_true_iff]

theorem everyField_holds (negated : Bool) (row : Row) :
    (engine.bindCondition fields ⟨Clause.everyField, negated, value⟩).holds row = true ↔
      fields ≠ [] ∧ ∀ field ∈ fields, ∃ column, resolveField field.toList fields = some column ∧
        engine.columnPasses value negated row column = true := by
  have bound : engine.conditionPasses fields row ⟨Clause.everyField, negated, value⟩ =
      (!fields.isEmpty &&
        fields.all fun field => engine.fieldPasses fields row negated value field.toList) := rfl
  rw [bindCondition_holds, bound, Bool.and_eq_true, List.all_eq_true]
  simp only [fieldPasses_eq_true_iff, Bool.not_eq_true', List.isEmpty_eq_false_iff, ne_eq]

section InPlace

variable {fields} (places : BindInPlace fields)
include places

theorem anyField_holds_iff_column (negated : Bool) (row : Row) :
    (engine.bindCondition fields ⟨Clause.anyField, negated, value⟩).holds row = true ↔
      ∃ column < fields.length, engine.columnPasses value negated row column = true := by
  rw [anyField_holds]
  constructor
  · rintro ⟨field, member, column, bound, passes⟩
    obtain ⟨index, here⟩ := List.mem_iff_getElem?.mp member
    obtain ⟨within, -⟩ := List.getElem?_eq_some_iff.mp here
    have same := Option.some.inj ((places.resolveField_eq here).symm.trans bound)
    exact ⟨column, same ▸ within, passes⟩
  · rintro ⟨column, within, passes⟩
    exact ⟨fields[column], List.getElem_mem within, column,
      places.resolveField_eq (List.getElem?_eq_getElem within), passes⟩

theorem everyField_holds_iff_column (negated : Bool) (row : Row) :
    (engine.bindCondition fields ⟨Clause.everyField, negated, value⟩).holds row = true ↔
      fields ≠ [] ∧
        ∀ column < fields.length, engine.columnPasses value negated row column = true := by
  rw [everyField_holds]
  refine and_congr_right fun _ => ⟨fun all column within => ?_, fun all field member => ?_⟩
  · obtain ⟨bound, found, passes⟩ := all fields[column] (List.getElem_mem within)
    have same := (places.resolveField_eq (List.getElem?_eq_getElem within)).symm.trans found
    exact Option.some.inj same ▸ passes
  · obtain ⟨index, here⟩ := List.mem_iff_getElem?.mp member
    obtain ⟨within, -⟩ := List.getElem?_eq_some_iff.mp here
    exact ⟨index, places.resolveField_eq here, all index within⟩

theorem everyField_negated (present : fields ≠ []) (negated : Bool) (row : Row) :
    (engine.bindCondition fields ⟨Clause.everyField, !negated, value⟩).holds row =
      !(engine.bindCondition fields ⟨Clause.anyField, negated, value⟩).holds row := by
  have turned (column : Nat) : engine.columnPasses value (!negated) row column =
      !engine.columnPasses value negated row column := by
    rw [columnPasses, columnPasses]
    cases engine.cellPasses value (row.cellAt column) <;> cases negated <;> rfl
  rw [Bool.eq_iff_iff, engine.everyField_holds_iff_column value places, Bool.not_eq_true',
    ← Bool.not_eq_true, engine.anyField_holds_iff_column value places]
  constructor
  · rintro ⟨-, all⟩ ⟨column, within, passes⟩
    have fails := all column within
    rw [turned, passes] at fails
    cases fails
  · intro absent
    refine ⟨present, fun column within => ?_⟩
    rw [turned, Bool.not_eq_true', ← Bool.not_eq_true]
    exact fun passes => absent ⟨column, within, passes⟩

end InPlace

theorem compile_accepts_of_tree {clause : String} {tree : Clause.Tree}
    (found : Clause.read clause.toList = .ok (some tree)) (row : Row) :
    (engine.compile clause fields).accepts row =
      tree.value fun condition => (engine.bindCondition fields condition).holds row := by
  rw [compile_accepts_of_read found]
  congr 1
  funext condition
  rw [bindCondition_holds]

/-- Pseudo-fields stand for the condition on every name. Wherever they are written in a clause they
are read as a condition, and in its tree they count by what they hold of a row: `OR*` when some name
binds to a column that passes, `AND*` when there are fields and every name does. Where names bind to
their own fields, these are some column and every column, and to negate one of the two is the
complement of the other. -/
theorem pseudo_fields_expand :
    (∀ field, field = Clause.anyField ∨ field = Clause.everyField → '\'' ∉ value →
      ∀ joined negated after,
        Clause.tokensFrom joined (Clause.Condition.chars ⟨field, negated, value⟩ ++ after) =
          .condition ⟨field, negated, value⟩ :: Clause.tokensFrom true after) ∧
    (∀ clause tree, Clause.read clause.toList = .ok (some tree) → ∀ row,
      (engine.compile clause fields).accepts row =
        tree.value fun condition => (engine.bindCondition fields condition).holds row) ∧
    (∀ negated row,
      ((engine.bindCondition fields ⟨Clause.anyField, negated, value⟩).holds row = true ↔
        ∃ field ∈ fields, ∃ column, resolveField field.toList fields = some column ∧
          engine.columnPasses value negated row column = true) ∧
      ((engine.bindCondition fields ⟨Clause.everyField, negated, value⟩).holds row = true ↔
        fields ≠ [] ∧ ∀ field ∈ fields, ∃ column,
          resolveField field.toList fields = some column ∧
            engine.columnPasses value negated row column = true)) ∧
    (BindInPlace fields →
      (∀ index field, fields[index]? = some field →
        resolveField field.toList fields = some index) ∧
      ∀ negated row,
        ((engine.bindCondition fields ⟨Clause.anyField, negated, value⟩).holds row = true ↔
          ∃ column < fields.length, engine.columnPasses value negated row column = true) ∧
        ((engine.bindCondition fields ⟨Clause.everyField, negated, value⟩).holds row = true ↔
          fields ≠ [] ∧
            ∀ column < fields.length, engine.columnPasses value negated row column = true) ∧
        (fields ≠ [] →
          (engine.bindCondition fields ⟨Clause.everyField, !negated, value⟩).holds row =
            !(engine.bindCondition fields ⟨Clause.anyField, negated, value⟩).holds row)) := by
  refine ⟨?_, fun clause tree found => engine.compile_accepts_of_tree fields found, ?_, ?_⟩
  · intro field pseudo single
    exact Clause.tokensFrom_pseudoField pseudo single
  · exact fun negated row =>
      ⟨engine.anyField_holds fields value negated row,
        engine.everyField_holds fields value negated row⟩
  · intro places
    refine ⟨fun index field here => places.resolveField_eq here, fun negated row => ?_⟩
    exact ⟨engine.anyField_holds_iff_column value places negated row,
      engine.everyField_holds_iff_column value places negated row,
      fun present => engine.everyField_negated value places present negated row⟩

/-- A name that ends with an earlier one binds to no column, so no row passes for every field. -/
example :
    let fields := ["name", "firstname"]
    let row : Row := [.text "x", .text "y"]
    let holds (field : List Char) (negated : Bool) : Bool :=
      (bindCondition {} fields ⟨field, negated, ['z']⟩).holds row
    resolveField "firstname".toList fields = none ∧
      holds Clause.anyField false = false ∧ holds Clause.everyField true = false := by
  decide +kernel

end Engine

end TableQuery
