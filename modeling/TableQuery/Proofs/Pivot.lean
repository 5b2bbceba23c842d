import TableQuery.Proofs.Rectangular

/-! Pivots. The names of the fields behind the first become the labels of the rows, the labels of
the rows become the names of the fields, and the other cells are transposed. A second pivot moves
every cell back. So two pivots change the labels alone, which are texts from then on. -/

namespace TableQuery

/-- The row with its label, the first cell, as the text shown for it. -/
def Row.labelled (row : Row) : Row := row.modifyHead fun label => .text label.display

theorem Row.labelled_eq {row : Row} (labelled : row ≠ []) :
    row.labelled = .text (Row.cellAt row 0).display :: row.tail := by
  obtain ⟨label, cells, rfl⟩ := List.exists_cons_of_ne_nil labelled
  rfl

namespace Table

variable {table : Table} {first : String} {others : List String}

theorem Rectangular.cell?_position (rect : table.Rectangular) (index column : Nat) :
    table.cell? index (.position column) = (table.rows[index]?).bind (·[column]?) := by
  rw [cell?, resolve]
  split
  next within => rfl
  next outside =>
    cases here : table.rows[index]? with
    | none => rfl
    | some row =>
      have width := rect row (List.mem_of_getElem? here)
      exact (List.getElem?_eq_none (by omega)).symm

theorem Rectangular.getElem?_columnAt (rect : table.Rectangular) {column : Nat}
    (within : column < table.fieldCount) (index : Nat) :
    (table.columnAt column)[index]? = table.cell? index (.position column) := by
  rw [rect.cell?_position, columnAt, List.getElem?_map]
  cases here : table.rows[index]? with
  | none => rfl
  | some row =>
    have width := rect row (List.mem_of_getElem? here)
    have reached : row[column]? = some row[column] := List.getElem?_eq_getElem (by omega)
    rw [Option.map_some, Option.bind_some, Row.cellAt, reached, Option.getD_some]

theorem pivot_of_named (named : table.fields = first :: others) :
    table.pivot =
      { table with
        fields := first :: table.rows.map fun row => (Row.cellAt row 0).display,
        rows := others.mapIdx fun offset name => .text name :: table.columnAt (offset + 1) } := by
  rw [pivot, named]

section Named

variable (named : table.fields = first :: others)
include named

theorem fieldCount_of_named : table.fieldCount = others.length + 1 := by
  rw [fieldCount, named, List.length_cons]

theorem fieldCount_pivot : table.pivot.fieldCount = table.rowCount + 1 := by
  rw [pivot_of_named named, fieldCount, List.length_cons, List.length_map, rowCount]

theorem rowCount_pivot : table.pivot.rowCount = others.length := by
  rw [pivot_of_named named, rowCount, List.length_mapIdx]

theorem getElem?_rows_pivot (index : Nat) :
    table.pivot.rows[index]? =
      others[index]?.map fun name => .text name :: table.columnAt (index + 1) := by
  rw [pivot_of_named named, List.getElem?_mapIdx]

theorem labels_pivot : (table.pivot.rows.map fun row => (Row.cellAt row 0).display) = others := by
  apply List.ext_getElem?
  intro index
  rw [List.getElem?_map, getElem?_rows_pivot named, Option.map_map]
  exact Option.map_id'

theorem cell?_pivot (rect : table.Rectangular) (index offset : Nat) :
    table.pivot.cell? offset (.position (index + 1)) =
      table.cell? index (.position (offset + 1)) := by
  have width := fieldCount_of_named named
  rw [rect.pivot.cell?_position, getElem?_rows_pivot named, Option.bind_map]
  by_cases within : offset < others.length
  · rw [List.getElem?_eq_getElem within, ← rect.getElem?_columnAt (by omega)]
    rfl
  · -- Behind the last name the pivot has no row and the table no column.
    have outside : ¬offset + 1 < table.fieldCount := by omega
    rw [List.getElem?_eq_none (by omega), cell?, resolve, if_neg outside]
    rfl

theorem columnAt_pivot (rect : table.Rectangular) {index : Nat} {row : Row}
    (here : table.rows[index]? = some row) : table.pivot.columnAt (index + 1) = row.tail := by
  have within : index < table.rowCount := (List.getElem?_eq_some_iff.mp here).1
  have width := fieldCount_pivot named
  apply List.ext_getElem?
  intro offset
  rw [rect.pivot.getElem?_columnAt (by omega), cell?_pivot named rect, rect.cell?_position, here,
    Option.bind_some, List.getElem?_tail]

theorem pivot_pivot (rect : table.Rectangular) :
    table.pivot.pivot = { table with rows := table.rows.map Row.labelled } := by
  have renamed := congrArg Table.fields (pivot_of_named named)
  have valid := congrArg Table.valid (pivot_of_named named)
  rw [pivot_of_named renamed, labels_pivot named, valid, ← named]
  congr 1
  -- The names are back, so only the rows are left: a label that has been a name, then a column.
  apply List.ext_getElem?
  intro index
  rw [List.getElem?_mapIdx, List.getElem?_map, List.getElem?_map, Option.map_map]
  apply Option.map_congr
  intro row here
  have width := rect row (List.mem_of_getElem? here)
  have labelled : row ≠ [] := by
    rintro rfl
    rw [fieldCount_of_named named] at width
    cases width
  rw [Row.labelled_eq labelled, Function.comp_apply, columnAt_pivot named rect here]

end Named

theorem labelled_of_text {row : Row} {label : String} (text : row.head? = some (.text label)) :
    row.labelled = row := by
  obtain ⟨cells, rfl⟩ := List.head?_eq_some_iff.mp text
  rfl

/-- A rectangular table with a field is back after two pivots, its labels turned into the texts
shown for them, and exactly back where the labels are texts. One pivot gives a row for each field
behind the first and a field for each row behind the first field, and it moves each cell behind the
labels to the place where its row and its column have changed places. -/
theorem pivot_twice (table : Table) (rect : table.Rectangular) (named : table.fields ≠ []) :
    table.pivot.pivot = { table with rows := table.rows.map Row.labelled } ∧
    ((∀ row ∈ table.rows, ∃ label, row.head? = some (.text label)) →
      table.pivot.pivot = table) ∧
    (table.pivot.rowCount = table.fieldCount - 1 ∧
      table.pivot.fieldCount = table.rowCount + 1) ∧
    ∀ index offset, table.pivot.cell? offset (.position (index + 1)) =
      table.cell? index (.position (offset + 1)) := by
  obtain ⟨first, others, here⟩ := List.exists_cons_of_ne_nil named
  have back := pivot_pivot here rect
  refine ⟨back, fun texts => ?_, ⟨?_, fieldCount_pivot here⟩, cell?_pivot here rect⟩
  · have unchanged : table.rows.map Row.labelled = table.rows.map id := by
      apply List.map_congr_left
      intro row member
      obtain ⟨label, text⟩ := texts row member
      exact labelled_of_text text
    rw [back, unchanged, List.map_id]
  · rw [rowCount_pivot here, fieldCount_of_named here, Nat.add_sub_cancel]

/-- Labels of several kinds, and a table that has no rows. -/
theorem pivot_twice_labels :
    let table : Table :=
      { fields := ["quarter", "north", "south"],
        rows := [[.integer 1, .text "a", .null], [.null, .boolean true, .integer 4]] }
    let bare : Table := { fields := ["a", "b", "c"], rows := [] }
    (table.Rectangular ∧ table.fields ≠ []) ∧ (bare.Rectangular ∧ bare.fields ≠ []) ∧
      table.pivot =
        { fields := ["quarter", "1", ""],
          rows := [[.text "north", .text "a", .boolean true],
            [.text "south", .null, .integer 4]] } ∧
      table.pivot.pivot =
        { fields := ["quarter", "north", "south"],
          rows := [[.text "1", .text "a", .null], [.text "", .boolean true, .integer 4]] } ∧
      bare.pivot = { fields := ["a"], rows := [[.text "b"], [.text "c"]] } ∧
      bare.pivot.pivot = bare := by
  intro table bare
  have rect : table.Rectangular := by decide
  have empty : bare.Rectangular := by decide
  have back := (pivot_twice table rect (by decide)).1
  have exact_back := (pivot_twice bare empty (by decide)).2.1 (List.forall_mem_nil _)
  refine ⟨⟨rect, by decide⟩, ⟨empty, by decide⟩, by decide +kernel, ?_, by decide +kernel,
    exact_back⟩
  rw [back]
  decide +kernel

end Table

end TableQuery
