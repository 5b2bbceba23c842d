import TableQuery.Proofs.PaddedReading

/-! Columns put in and taken out. Field list and rows are edited apart, and a row may end before the
place of the new column or run on behind the last field. A row that ends before is filled up with
nulls, which is how its missing cells are read anyhow, so in every row the new cell comes to stand
under its name and the cells behind it move on by one place. Taking the column out moves them back,
and of the edits only the nulls are left. -/

namespace TableQuery

/-- The cell that is given for a row, null where there is none. Of several entries under the
position of the row the last one counts. -/
def ColumnInput.cellFor : ColumnInput → Nat → Cell
  | .cells given, index => Row.cellAt given index
  | .keyed given, index => (given.reverse.lookup index).getD .null

theorem map_zipWith_left {α β γ δ : Type} {combine : α → β → γ} {read : γ → δ} {left : α → δ}
    (same : ∀ a b, read (combine a b) = left a) {lefts : List α} {rights : List β}
    (enough : lefts.length ≤ rights.length) :
    (List.zipWith combine lefts rights).map read = lefts.map left := by
  have paired := List.map_fst_zip enough
  conv_rhs => rw [← paired, List.map_map]
  rw [← List.map_uncurry_zip_eq_zipWith, List.map_map]
  exact List.map_congr_left fun pair _ => same pair.1 pair.2

namespace Row

theorem fit_eq_project (width : Nat) (row : Row) :
    Row.fit width row = Row.project row (List.range width) := by
  have whole : Row.project (Row.fit width row) (List.range width) = Row.fit width row := by
    have fitted := map_range_getElem? (Row.fit width row) Cell.null
    rwa [Row.fit_length] at fitted
  rw [← whole, Row.project_fit fun _ member => List.mem_range.mp member]

def filled (width : Nat) (row : Row) : Row := row ++ List.replicate (width - row.length) .null

theorem le_length_filled (width : Nat) (row : Row) : width ≤ (Row.filled width row).length := by
  rw [filled, List.length_append, List.length_replicate]
  omega

theorem cellAt_filled (width : Nat) (row : Row) (column : Nat) :
    (Row.filled width row).cellAt column = row.cellAt column := by
  rw [filled, cellAt, cellAt]
  by_cases reached : column < row.length
  · rw [List.getElem?_append_left reached]
  · rw [List.getElem?_append_right (by omega), List.getElem?_replicate,
      List.getElem?_eq_none (by omega)]
    split <;> rfl

end Row

namespace Table

section InsertCell

variable {column : Nat} (row : Row) (value : Cell)

theorem insertCell_eq :
    insertCell column row value = (Row.filled column row).insertIdx column value := rfl

theorem cellAt_insertCell_self : Row.cellAt (insertCell column row value) column = value := by
  rw [insertCell_eq, Row.cellAt, List.getElem?_insertIdx_self,
    if_pos (Row.le_length_filled column row), Option.getD_some]

theorem cellAt_insertCell_behind {index : Nat} (behind : column < index) :
    Row.cellAt (insertCell column row value) index = row.cellAt (index - 1) := by
  rw [insertCell_eq, Row.cellAt, List.getElem?_insertIdx_of_gt behind]
  exact Row.cellAt_filled column row (index - 1)

theorem eraseIdx_insertCell :
    (insertCell column row value).eraseIdx column = Row.filled column row := by
  rw [insertCell_eq, List.eraseIdx_insertIdx_self]

end InsertCell

variable (table : Table) (name : String) (input : ColumnInput) (place : Option Nat)

theorem insertionPoint_eq (length : Nat) :
    insertionPoint length place = min (place.getD length) length := by
  cases place with
  | none => exact (Nat.min_self length).symm
  | some place => rfl

theorem normalizeColumn_eq :
    table.normalizeColumn input = (List.range table.rowCount).map input.cellFor := by
  cases input with
  | cells cells => exact Row.fit_eq_project table.rowCount cells
  | keyed cells => rfl

theorem columnAt_addColumn_self :
    (table.addColumn name input place).columnAt (insertionPoint table.fieldCount place) =
      table.normalizeColumn input := by
  have paired := List.map_snd_zip (Nat.le_of_eq (table.normalizeColumn_length input))
  conv_rhs => rw [← paired]
  rw [columnAt, addColumn, ← List.map_uncurry_zip_eq_zipWith, List.map_map]
  exact List.map_congr_left fun pair _ => cellAt_insertCell_self pair.1 pair.2

theorem columnAt_addColumn_of_kept {index old : Nat}
    (kept : ∀ (row : Row) value,
      Row.cellAt (insertCell (insertionPoint table.fieldCount place) row value) index =
        row.cellAt old) :
    (table.addColumn name input place).columnAt index = table.columnAt old :=
  map_zipWith_left kept (Nat.le_of_eq (table.normalizeColumn_length input).symm)

theorem rowCount_addColumn : (table.addColumn name input place).rowCount = table.rowCount := by
  have same := table.normalizeColumn_length input
  rw [rowCount, addColumn, List.length_zipWith, same, rowCount, Nat.min_self]

theorem fields_addColumn : ∃ before after,
    table.fields = before ++ after ∧ before.length = insertionPoint table.fieldCount place ∧
      (table.addColumn name input place).fields = before ++ name :: after :=
  List.exists_of_modifyTailIdx (List.cons name) (insertionPoint_le table.fieldCount place)

theorem fieldCount_addColumn :
    (table.addColumn name input place).fieldCount = table.fieldCount + 1 :=
  List.length_insertIdx_of_le_length (insertionPoint_le table.fieldCount place) name

theorem column?_position {index : Nat} (within : index < table.fieldCount) :
    table.column? (.position index) = some (table.columnAt index) := by
  rw [column?, resolve, if_pos within, Option.map_some]

theorem column?_position_behind {index : Nat} (behind : table.fieldCount ≤ index) :
    table.column? (.position index) = none := by
  rw [column?, resolve, if_neg (Nat.not_lt.mpr behind), Option.map_none]

theorem column?_addColumn_self :
    (table.addColumn name input place).column?
        (.position (insertionPoint table.fieldCount place)) =
      some (table.normalizeColumn input) := by
  have inside := insertionPoint_le table.fieldCount place
  have width := table.fieldCount_addColumn name input place
  rw [column?_position _ (by omega), columnAt_addColumn_self]

theorem column?_addColumn_before {index : Nat}
    (before : index < insertionPoint table.fieldCount place) :
    (table.addColumn name input place).column? (.position index) =
      table.column? (.position index) := by
  have inside := insertionPoint_le table.fieldCount place
  have width := table.fieldCount_addColumn name input place
  rw [column?_position _ (by omega), column?_position _ (by omega),
    table.columnAt_addColumn_of_kept name input place (cellAt_insertCell before)]

theorem column?_addColumn_behind {index : Nat}
    (behind : insertionPoint table.fieldCount place < index) :
    (table.addColumn name input place).column? (.position index) =
      table.column? (.position (index - 1)) := by
  have width := table.fieldCount_addColumn name input place
  by_cases within : index < table.fieldCount + 1
  · rw [column?_position _ (by omega), column?_position _ (by omega),
      table.columnAt_addColumn_of_kept name input place
        fun row value => cellAt_insertCell_behind row value behind]
  · rw [column?_position_behind _ (by omega), column?_position_behind _ (by omega)]

theorem removeColumn_addColumn :
    (table.addColumn name input place).removeColumn
        (.position (insertionPoint table.fieldCount place)) =
      { table with
        rows := table.rows.map (Row.filled (insertionPoint table.fieldCount place)) } := by
  have inside := insertionPoint_le table.fieldCount place
  have width := table.fieldCount_addColumn name input place
  have resolved : (table.addColumn name input place).resolve
      (.position (insertionPoint table.fieldCount place)) =
        some (insertionPoint table.fieldCount place) := if_pos (by omega)
  have rows : (table.addColumn name input place).rows.map
        (fun row => row.eraseIdx (insertionPoint table.fieldCount place)) =
      table.rows.map (Row.filled (insertionPoint table.fieldCount place)) :=
    map_zipWith_left eraseIdx_insertCell (Nat.le_of_eq (table.normalizeColumn_length input).symm)
  simp only [removeColumn, resolved, removeColumnAt, rows]
  rw [addColumn, List.eraseIdx_insertIdx_self]

theorem column?_filled (width : Nat) (field : FieldRef) :
    ({ table with rows := table.rows.map (Row.filled width) } : Table).column? field =
      table.column? field := by
  have same (column : Nat) :
      ({ table with rows := table.rows.map (Row.filled width) } : Table).columnAt column =
        table.columnAt column := by
    rw [columnAt, List.map_map]
    exact List.map_congr_left fun row _ => Row.cellAt_filled width row column
  cases field <;> exact congrArg (Option.map · _) (funext same)

/-- A column put in at a place, or at the end where the place is missing or lies behind it, comes to
stand there with one cell for each row. No row is lost, and each other column is the column of the
old table that stood in its place or, behind the new one, one place before. Taken out again, the new
column leaves a table with the fields and the columns of the old one, however they are asked for. -/
theorem added_column_moves_others (table : Table) (name : String) (input : ColumnInput)
    (place : Option Nat) :
    let column := min (place.getD table.fieldCount) table.fieldCount
    let wider := table.addColumn name input place
    let narrowed := wider.removeColumn (.position column)
    wider.rowCount = table.rowCount ∧
    (∃ before after, table.fields = before ++ after ∧ before.length = column ∧
      wider.fields = before ++ name :: after) ∧
    wider.column? (.position column) =
      some ((List.range table.rowCount).map input.cellFor) ∧
    (∀ index < column, wider.column? (.position index) = table.column? (.position index)) ∧
    (∀ index > column, wider.column? (.position index) = table.column? (.position (index - 1))) ∧
    narrowed.fields = table.fields ∧ narrowed.rowCount = table.rowCount ∧
    ∀ field, narrowed.column? field = table.column? field := by
  intro column wider narrowed
  have here : insertionPoint table.fieldCount place = column := insertionPoint_eq place _
  have removed : narrowed = { table with rows := table.rows.map (Row.filled column) } := by
    have taken := table.removeColumn_addColumn name input place
    rw [here] at taken
    exact taken
  refine ⟨table.rowCount_addColumn name input place, ?_, ?_, ?_, ?_, ?_, ?_, ?_⟩
  · rw [← here]
    exact table.fields_addColumn name input place
  · rw [← normalizeColumn_eq, ← here]
    exact table.column?_addColumn_self name input place
  · intro index before
    exact table.column?_addColumn_before name input place (here.symm ▸ before)
  · intro index behind
    exact table.column?_addColumn_behind name input place (here.symm ▸ behind)
  · rw [removed]
  · rw [removed, rowCount, List.length_map, rowCount]
  · intro field
    rw [removed]
    exact table.column?_filled column field

/-- A row that ends before the new column keeps the nulls that it was filled up with. -/
example :
    let table : Table := { fields := ["a", "b"], rows := [[.integer 1], [], [.null, .null, .null]] }
    ((table.addColumn "c" (.keyed [(1, .text "x"), (1, .text "y")]) (some 7)).removeColumn
        (.position 2)).rows = [[.integer 1, .null], [.null, .null], [.null, .null, .null]] := by
  decide

end Table

end TableQuery
