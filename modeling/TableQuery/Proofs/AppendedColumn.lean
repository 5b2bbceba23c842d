import TableQuery.Proofs.PseudoFields
import TableQuery.Table.Totals

/-! A column appended behind the others. A written name binds to the first field of that name unless
an earlier field comes in its way, so fields declared later make no difference to it. In each row
the new cell comes after the place of the last field, where short rows are filled up with nulls and
long rows give way, so the cells that names can reach stay where they are. A clause that names its
columns thus selects the same rows as before. -/

namespace TableQuery

/-- A name that binds has only fields before it that are empty or no suffix of it. The columns are
counted from `start`, as the search through the fields does. -/
theorem resolveFrom_found {written : List Char} {fields : List String} {start column : Nat}
    (found : resolveFrom written start fields = some column) :
    ∃ before after, fields = before ++ String.ofList written :: after ∧
      start + before.length = column ∧ written ≠ [] ∧
      ∀ field ∈ before, field.toList = [] ∨ ¬field.toList <:+ written := by
  induction fields generalizing start with
  | nil => cases found
  | cons field rest ih =>
    -- A field that is passed over joins those before the one that binds.
    have passed (apart : field.toList = [] ∨ ¬field.toList <:+ written)
        (later : resolveFrom written (start + 1) rest = some column) :
        ∃ before after, field :: rest = before ++ String.ofList written :: after ∧
          start + before.length = column ∧ written ≠ [] ∧
          ∀ other ∈ before, other.toList = [] ∨ ¬other.toList <:+ written := by
      obtain ⟨before, after, rfl, place, present, clear⟩ := ih later
      refine ⟨field :: before, after, rfl, ?_, present, List.forall_mem_cons.mpr ⟨apart, clear⟩⟩
      rw [List.length_cons]
      omega
    rw [resolveFrom] at found
    by_cases empty : field.toList.isEmpty = true
    · rw [if_pos empty] at found
      exact passed (.inl (List.isEmpty_iff.mp empty)) found
    rw [if_neg empty] at found
    by_cases same : written = field.toList
    · rw [if_pos same, Option.some.injEq] at found
      refine ⟨[], rest, ?_, found, ?_, List.forall_mem_nil _⟩
      · rw [same, String.ofList_toList, List.nil_append]
      · rw [same]
        exact fun none => empty (List.isEmpty_iff.mpr none)
    rw [if_neg same] at found
    by_cases suffix : field.toList.isSuffixOf written = true
    · rw [if_pos suffix] at found
      cases found
    · rw [if_neg suffix] at found
      exact passed (.inr fun ends => suffix (List.isSuffixOf_iff_suffix.mpr ends)) found

theorem resolveField_eq_some_iff {written : List Char} {fields : List String} {column : Nat} :
    resolveField written fields = some column ↔
      ∃ before after, fields = before ++ String.ofList written :: after ∧ before.length = column ∧
        written ≠ [] ∧ ∀ field ∈ before, field.toList = [] ∨ ¬field.toList <:+ written := by
  constructor
  · intro found
    obtain ⟨before, after, parted, place, named⟩ := resolveFrom_found found
    exact ⟨before, after, parted, by omega, named⟩
  · rintro ⟨before, after, rfl, rfl, present, clear⟩
    rw [resolveField, resolveFrom_append clear, resolveFrom, String.toList_ofList,
      if_neg (by simpa using present), if_pos rfl, Nat.zero_add]

theorem resolveField_lt {written : List Char} {fields : List String} {column : Nat}
    (found : resolveField written fields = some column) : column < fields.length := by
  obtain ⟨before, after, rfl, rfl, -⟩ := resolveField_eq_some_iff.mp found
  rw [List.length_append, List.length_cons]
  omega

theorem resolveField_append {written : List Char} {fields : List String} {column : Nat}
    (found : resolveField written fields = some column) (more : List String) :
    resolveField written (fields ++ more) = some column := by
  obtain ⟨before, after, rfl, named⟩ := resolveField_eq_some_iff.mp found
  exact resolveField_eq_some_iff.mpr
    ⟨before, after ++ more, by rw [List.append_assoc, List.cons_append], named⟩

namespace Table

theorem fieldIndex?_of_resolveField {table : Table} {written : List Char} {column : Nat}
    (found : resolveField written table.fields = some column) :
    table.fieldIndex? (String.ofList written) = some column := by
  obtain ⟨before, after, parted, place, present, clear⟩ := resolveField_eq_some_iff.mp found
  have other : ∀ field ∈ before, (field == String.ofList written) = false := by
    intro field member
    rw [beq_eq_false_iff_ne]
    rintro rfl
    rcases clear _ member with empty | apart
    · exact present (by rwa [String.toList_ofList] at empty)
    · exact apart ⟨[], String.toList_ofList⟩
  rw [fieldIndex?, parted, List.findIdx?_append, List.findIdx?_eq_none_iff.mpr other,
    List.findIdx?_cons, beq_self_eq_true, if_pos rfl, ← place]
  simp

theorem cellAt_insertCell {column width : Nat} (reached : column < width) (row : Row)
    (value : Cell) : Row.cellAt (insertCell width row value) column = row.cellAt column := by
  rw [insertCell, Row.cellAt, Row.cellAt, List.getElem?_insertIdx_of_lt reached]
  by_cases within : column < row.length
  · rw [List.getElem?_append_left within]
  · have filled : column - row.length < width - row.length := by omega
    rw [List.getElem?_append_right (by omega), List.getElem?_replicate_of_lt filled,
      List.getElem?_eq_none (by omega)]
    rfl

theorem normalizeColumn_length (table : Table) (input : ColumnInput) :
    (table.normalizeColumn input).length = table.rowCount := by
  cases input with
  | cells cells => exact Row.fit_length table.rowCount cells
  | keyed cells => simp [normalizeColumn]

theorem addColumn_last (table : Table) (name : String) (input : ColumnInput) :
    table.addColumn name input none =
      { table with
        fields := table.fields ++ [name],
        rows := List.zipWith (insertCell table.fieldCount) table.rows
          (table.normalizeColumn input) } := by
  rw [addColumn, insertionPoint, fieldCount, List.insertIdx_length_self]

end Table

def Clause.Condition.NamesColumn (condition : Clause.Condition) (fields : List String) : Prop :=
  condition.field ≠ Clause.anyField ∧ condition.field ≠ Clause.everyField ∧
    ∃ column, resolveField condition.field fields = some column

namespace Engine

variable (engine : Engine) (table : Table)

theorem conditionPasses_of_field {condition : Clause.Condition}
    (notAny : condition.field ≠ Clause.anyField) (notEvery : condition.field ≠ Clause.everyField)
    (fields : List String) (row : Row) :
    engine.conditionPasses fields row condition =
      engine.fieldPasses fields row condition.negated condition.value condition.field :=
  (if_neg notAny).trans (if_neg notEvery)

theorem conditionPasses_insertCell {condition : Clause.Condition} {fields : List String}
    (named : condition.NamesColumn fields) (more : List String) (row : Row) (value : Cell) :
    engine.conditionPasses (fields ++ more) (Table.insertCell fields.length row value) condition =
      engine.conditionPasses fields row condition := by
  obtain ⟨notAny, notEvery, column, found⟩ := named
  rw [engine.conditionPasses_of_field notAny notEvery,
    engine.conditionPasses_of_field notAny notEvery, fieldPasses, fieldPasses,
    resolveField_append found, found]
  simp only [Table.cellAt_insertCell (resolveField_lt found)]

theorem positions_addColumn {clause : String}
    (named : ∀ condition, .condition condition ∈ Clause.tokens clause.toList →
      condition.NamesColumn table.fields) (name : String) (input : ColumnInput) :
    engine.positions (table.addColumn name input none) clause = engine.positions table clause := by
  have accepts (pair : Row × Cell) :
      (engine.compile clause (table.fields ++ [name])).accepts
          (Table.insertCell table.fieldCount pair.1 pair.2) =
        (engine.compile clause table.fields).accepts pair.1 :=
    compile_accepts_congr fun condition member =>
      engine.conditionPasses_insertCell (named condition member) [name] pair.1 pair.2
  have paired : (table.rows.zip (table.normalizeColumn input)).map Prod.fst = table.rows :=
    List.map_fst_zip (Nat.le_of_eq (table.normalizeColumn_length input).symm)
  rw [Table.addColumn_last]
  change places (engine.compile clause (table.fields ++ [name])).accepts
      (List.zipWith (Table.insertCell table.fieldCount) table.rows (table.normalizeColumn input)) =
    places (engine.compile clause table.fields).accepts table.rows
  rw [← List.map_uncurry_zip_eq_zipWith, places_map]
  conv_rhs => rw [← paired, places_map]
  exact congrArg (fun test => places test _) (funext accepts)

end Engine

/-- A name that a clause binds to a column means that column everywhere, also once more fields
follow. So a column appended to a table, be it given or computed from the rows, does not disturb
the clauses that name their columns, whatever it is called and holds and however long the rows
are. -/
theorem appended_column_unnoticed (table : Table) :
    (∀ written column, resolveField written table.fields = some column →
      table.fieldIndex? (String.ofList written) = some column ∧
        ∀ more, resolveField written (table.fields ++ more) = some column) ∧
    ∀ (engine : Engine) (clause : String),
      (∀ condition, .condition condition ∈ Clause.tokens clause.toList →
        condition.NamesColumn table.fields) →
        (∀ name input, engine.positions (table.addColumn name input none) clause =
          engine.positions table clause) ∧
        ∀ name average, engine.positions (table.sumRows name average) clause =
          engine.positions table clause := by
  refine ⟨fun written column found => ?_, fun engine clause named => ⟨?_, ?_⟩⟩
  · exact ⟨Table.fieldIndex?_of_resolveField found, resolveField_append found⟩
  · exact engine.positions_addColumn table named
  · exact fun name average => engine.positions_addColumn table named name _

theorem appended_column_unnoticed_ragged :
    let table : Table :=
      { fields := ["name", "age"],
        rows := [[.text "Ann", .integer 30, .text "x"], [.text "Bob"], []] }
    let clause := "name='A%' OR (age='' AND name!='')"
    (∀ condition, .condition condition ∈ Clause.tokens clause.toList →
        condition.NamesColumn table.fields) ∧
      ({} : Engine).positions (table.addColumn "me" (.cells [.text "y"]) none) clause = [0, 1] ∧
      ({} : Engine).positions (table.sumRows "age" false) clause = [0, 1] := by
  intro table clause
  have lexed : Clause.tokens clause.toList =
      [.condition ⟨"name".toList, false, "A%".toList⟩, .or, .leftParen,
        .condition ⟨"age".toList, false, []⟩, .and, .condition ⟨"name".toList, true, []⟩,
        .rightParen] := by
    decide +kernel
  have first : resolveField "name".toList table.fields = some 0 := by decide +kernel
  have second : resolveField "age".toList table.fields = some 1 := by decide +kernel
  have named : ∀ condition, .condition condition ∈ Clause.tokens clause.toList →
      condition.NamesColumn table.fields := by
    intro condition member
    rw [lexed] at member
    simp only [List.mem_cons, reduceCtorEq, Clause.Token.condition.injEq, List.not_mem_nil,
      false_or, or_false] at member
    rcases member with rfl | rfl | rfl
    · exact ⟨by decide, by decide, 0, first⟩
    · exact ⟨by decide, by decide, 1, second⟩
    · exact ⟨by decide, by decide, 0, first⟩
  have before : ({} : Engine).positions table clause = [0, 1] := by decide +kernel
  obtain ⟨added, summed⟩ := (appended_column_unnoticed table).2 {} clause named
  exact ⟨named, (added "me" _).trans before, (summed "age" false).trans before⟩

end TableQuery
