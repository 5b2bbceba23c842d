import TableQuery.Proofs.AppendedColumn
import TableQuery.Proofs.Pivot
import TableQuery.Proofs.Projection

/-! Ragged tables. A row that ends early is read as if nulls followed, and cells past the last field
are read by nothing. Each reader gets there in its own way: some take a null for a missing cell,
others pass over the missing cells where nulls would count for nothing. So a table gives the same
answers as the table whose rows are padded to the field list. -/

namespace TableQuery

namespace Row

variable {width : Nat}

theorem getElem?_fit {column : Nat} (within : column < width) (row : Row) :
    (Row.fit width row)[column]? = some (row.cellAt column) := by
  have taken : (row.take width).length = min width row.length := List.length_take
  rw [fit, cellAt]
  by_cases reached : column < row.length
  · rw [List.getElem?_append_left (by omega), List.getElem?_take_of_lt within,
      List.getElem?_eq_getElem reached, Option.getD_some]
  · have filled : column - (row.take width).length < width - row.length := by omega
    rw [List.getElem?_append_right (by omega), List.getElem?_replicate_of_lt filled,
      List.getElem?_eq_none (by omega), Option.getD_none]

theorem cellAt_fit {column : Nat} (within : column < width) (row : Row) :
    (Row.fit width row).cellAt column = row.cellAt column := by
  rw [cellAt, getElem?_fit within, Option.getD_some]

theorem project_fit {columns : List Nat} (within : ∀ column ∈ columns, column < width)
    (row : Row) : Row.project (Row.fit width row) columns = Row.project row columns :=
  List.map_congr_left fun column member => cellAt_fit (within column member) row

end Row

theorem foldl_present {β : Type} {step : β → Cell → β}
    (skips : ∀ result, step result .null = result) (rows : List Row) (column : Nat) (start : β) :
    (rows.filterMap (·[column]?)).foldl step start =
      (rows.map fun row => row.cellAt column).foldl step start := by
  rw [List.foldl_filterMap, List.foldl_map]
  congr 1
  funext result row
  rw [Row.cellAt]
  cases row[column]? with
  | none => exact (skips result).symm
  | some cell => rfl

theorem Kind.join_null (kind : Kind) : kind.join .null = kind := by
  cases kind <;> rfl

namespace Table

variable (table : Table)

theorem columnKinds_eq :
    table.columnKinds = table.allColumns.map fun column =>
      (table.columnAt column).foldl (fun kind cell => kind.join cell.kind) .null := by
  have skips (kind : Kind) : kind.join (Cell.kind .null) = kind := kind.join_null
  exact List.map_congr_left fun column _ => foldl_present skips table.rows column Kind.null

def totals (average : Bool) : Row :=
  table.allColumns.map fun column => aggregate (table.columnAt column) average

theorem sumColumns_eq (average : Bool) :
    table.sumColumns average = { table with rows := table.rows ++ [table.totals average] } := by
  have skips (tally : Tally) : tally.add .null = tally := rfl
  have passed (column : Nat) : Tally.ofCells (table.rows.filterMap (·[column]?)) =
      Tally.ofCells (table.columnAt column) := foldl_present skips table.rows column {}
  simp only [sumColumns, totals, aggregate, passed]

def padded : Table := { table with rows := table.rows.map (Row.fit table.fieldCount) }

theorem padded_rectangular : table.padded.Rectangular := by
  intro row member
  obtain ⟨row, _, rfl⟩ := List.mem_map.mp member
  exact Row.fit_length table.fieldCount row

theorem lt_of_mem_selectedColumns {fields : Option (List FieldRef)} {column : Nat}
    (member : column ∈ table.selectedColumns fields) : column < table.fieldCount := by
  cases fields with
  | none => exact List.mem_range.mp member
  | some fields =>
    obtain ⟨field, _, found⟩ := List.mem_filterMap.mp member
    exact resolve_lt found

theorem map_rows_padded {α : Type} (read : Row → α)
    (same : ∀ row, read (Row.fit table.fieldCount row) = read row) :
    table.padded.rows.map read = table.rows.map read := by
  rw [padded, List.map_map]
  exact List.map_congr_left fun row _ => same row

theorem columnAt_padded {column : Nat} (within : column < table.fieldCount) :
    table.padded.columnAt column = table.columnAt column :=
  table.map_rows_padded _ (Row.cellAt_fit within)

theorem column?_padded (field : FieldRef) : table.padded.column? field = table.column? field := by
  have same : table.padded.resolve field = table.resolve field := by cases field <;> rfl
  rw [column?, column?, same]
  apply Option.map_congr
  intro column found
  exact table.columnAt_padded (resolve_lt found)

theorem columnKinds_padded : table.padded.columnKinds = table.columnKinds := by
  rw [columnKinds_eq, columnKinds_eq]
  apply List.map_congr_left
  intro column member
  rw [table.columnAt_padded (List.mem_range.mp member)]

theorem totals_padded (average : Bool) : table.padded.totals average = table.totals average := by
  apply List.map_congr_left
  intro column member
  rw [table.columnAt_padded (List.mem_range.mp member)]

theorem selectedColumns_padded (fields : Option (List FieldRef)) :
    table.padded.selectedColumns fields = table.selectedColumns fields := by
  cases fields <;> rfl

theorem selectedNames_padded (fields : Option (List FieldRef)) :
    table.padded.selectedNames fields = table.selectedNames fields := by
  rw [selectedNames, selectedColumns_padded]
  rfl

theorem toMatrix_padded (fields : Option (List FieldRef)) :
    table.padded.toMatrix fields = table.toMatrix fields := by
  rw [toMatrix, selectedColumns_padded]
  exact table.map_rows_padded _
    (Row.project_fit fun _ member => table.lt_of_mem_selectedColumns member)

theorem exportAs_padded (shape : OutputShape) (fields : Option (List FieldRef))
    (options : Delimited.Options) :
    table.padded.exportAs shape fields options = table.exportAs shape fields options := by
  have picked : table.padded.toTable fields = table.toTable fields := by
    rw [toTable, toTable, selectedNames_padded, toMatrix_padded]
  rw [← (table.picks_toTable fields).exportAs_eq, ← picked,
    (table.padded.picks_toTable fields).exportAs_eq]

theorem toRecords_padded (fields : Option (List FieldRef)) :
    table.padded.toRecords fields = table.toRecords fields :=
  Exported.records.inj (table.exportAs_padded .records fields {})

theorem reorder_padded (fields : List FieldRef) :
    table.padded.reorder fields = table.reorder fields := by
  have names := table.selectedNames_padded (some fields)
  have rows := table.toMatrix_padded (some fields)
  change ({ table with
      fields := table.padded.selectedNames (some fields),
      rows := table.padded.toMatrix (some fields) } : Table) = _
  rw [names, rows]
  rfl

theorem pivot_padded (named : table.fields ≠ []) : table.padded.pivot = table.pivot := by
  obtain ⟨first, others, here⟩ := List.exists_cons_of_ne_nil named
  have width := fieldCount_of_named here
  -- The first column, from which the names come, is a column of the table as there is a field.
  have labels := table.map_rows_padded (fun row => (Row.cellAt row 0).display)
    fun row => congrArg Cell.display (Row.cellAt_fit (by omega) row)
  have columns : (others.mapIdx fun offset name =>
        Cell.text name :: table.padded.columnAt (offset + 1)) =
      others.mapIdx fun offset name => .text name :: table.columnAt (offset + 1) := by
    apply List.ext_getElem?
    intro offset
    rw [List.getElem?_mapIdx, List.getElem?_mapIdx]
    apply Option.map_congr
    intro name present
    have within : offset < others.length := (List.getElem?_eq_some_iff.mp present).1
    rw [table.columnAt_padded (by omega)]
  have here' : table.padded.fields = first :: others := here
  rw [pivot_of_named here', pivot_of_named here, labels, columns]
  rfl

end Table

namespace Engine

variable (engine : Engine)

theorem fieldPasses_fit (fields : List String) (row : Row) (negated : Bool)
    (value written : List Char) :
    engine.fieldPasses fields (Row.fit fields.length row) negated value written =
      engine.fieldPasses fields row negated value written := by
  rw [fieldPasses, fieldPasses]
  cases found : resolveField written fields with
  | none => rfl
  | some column => simp only [Row.cellAt_fit (resolveField_lt found)]

theorem accepts_fit (clause : String) (fields : List String) (row : Row) :
    (engine.compile clause fields).accepts (Row.fit fields.length row) =
      (engine.compile clause fields).accepts row := by
  apply compile_accepts_congr
  intro condition _
  simp only [conditionPasses, fieldPasses_fit]

theorem positions_padded (table : Table) (clause : String) :
    engine.positions table.padded clause = engine.positions table clause := by
  have accepts := funext (engine.accepts_fit clause table.fields)
  change places (engine.compile clause table.fields).accepts
    (table.rows.map (Row.fit table.fieldCount)) = _
  rw [places_map]
  exact congrArg (fun test => places test table.rows) accepts

theorem matchingRows_padded (table : Table) (clause : String) :
    engine.matchingRows table.padded clause =
      (engine.matchingRows table clause).map (Row.fit table.fieldCount) := by
  have accepts := funext (engine.accepts_fit clause table.fields)
  change (table.rows.map (Row.fit table.fieldCount)).filter
    (engine.compile clause table.fields).accepts = _
  rw [List.filter_map]
  exact congrArg (fun test => (table.rows.filter test).map (Row.fit table.fieldCount)) accepts

end Engine

namespace Table

variable (table : Table)

theorem search_positions_padded (engine : Engine) (clause : String) :
    table.padded.searchWith engine clause .positions =
      table.searchWith engine clause .positions :=
  congrArg Found.positions (engine.positions_padded table clause)

theorem search_records_padded (engine : Engine) (clause : String) :
    table.padded.searchWith engine clause .records = table.searchWith engine clause .records := by
  rw [searchWith, engine.matchingRows_padded]
  exact congrArg Found.records
    (toRecords_padded { table with rows := engine.matchingRows table clause } none)

/-- A table reads as its padded form, however short or long its rows are. Searches find the same
places and records, every export of every selection is the same, and so are the columns and their
kinds. A projection makes the same table of both, and so does a pivot if there is a field. To both
the sums of the columns append the same row. -/
theorem reads_as_padded :
    table.padded.Rectangular ∧
    (∀ engine clause,
      table.padded.searchWith engine clause .positions =
        table.searchWith engine clause .positions ∧
      table.padded.searchWith engine clause .records =
        table.searchWith engine clause .records) ∧
    (∀ shape fields options,
      table.padded.exportAs shape fields options = table.exportAs shape fields options) ∧
    (∀ field, table.padded.column? field = table.column? field) ∧
    table.padded.columnKinds = table.columnKinds ∧
    (∀ fields, table.padded.reorder fields = table.reorder fields) ∧
    (table.fields ≠ [] → table.padded.pivot = table.pivot) ∧
    ∀ average, ∃ totals : Row,
      table.sumColumns average = { table with rows := table.rows ++ [totals] } ∧
      table.padded.sumColumns average =
        { table.padded with rows := table.padded.rows ++ [totals] } := by
  refine ⟨table.padded_rectangular, fun engine clause => ⟨?_, ?_⟩, table.exportAs_padded,
    table.column?_padded, table.columnKinds_padded, table.reorder_padded, table.pivot_padded,
    fun average => ⟨table.totals average, table.sumColumns_eq average, ?_⟩⟩
  · exact table.search_positions_padded engine clause
  · exact table.search_records_padded engine clause
  · rw [table.padded.sumColumns_eq, totals_padded]

/-- Without a field a pivot leaves the rows, and these differ. -/
example :
    let table : Table := { fields := [], rows := [[.integer 1]] }
    table.pivot.rows = [[.integer 1]] ∧ table.padded.pivot.rows = [[]] := by
  decide

end Table

end TableQuery
