import TableQuery.Store

/-! Columns picked in the table and columns picked on the way out. A table is given out through the
names and the cells of the chosen columns alone, so a table that holds just these gives out the
same in every shape, with short rows filled, names repeated and unknown references left out alike.
-/

namespace TableQuery

theorem map_range_getElem? {α : Type} (items : List α) (default : α) :
    ((List.range items.length).map fun i => (items[i]?).getD default) = items := by
  apply List.ext_getElem
  · simp
  · intro i short long
    simp [long]

namespace Table

theorem project_allColumns {table : Table} {row : Row} (fits : row.length = table.fieldCount) :
    Row.project row table.allColumns = row := by
  rw [Row.project, allColumns, ← fits]
  exact map_range_getElem? row .null

theorem selectedNames_none (table : Table) : table.selectedNames none = table.fields :=
  map_range_getElem? table.fields ""

def membersOf (table : Table) (columns : List Nat) (row : Row) : List (String × Json) :=
  columns.map fun column => (table.fieldName column, (row.cellAt column).toJson)

theorem recordOf_eq_foldl (table : Table) (columns : List Nat) (row : Row) :
    table.recordOf columns row =
      (table.membersOf columns row).foldl
        (fun (record : Record) member => record.insert member.1 member.2) [] := by
  rw [membersOf, List.foldl_map]
  rfl

/-- A table that holds what a selection picks of another one. -/
structure Picks (part table : Table) (fields : Option (List FieldRef)) : Prop where
  names : part.fields = table.selectedNames fields
  rows : part.rows = table.toMatrix fields

theorem picks_reorder (table : Table) (fields : List FieldRef) :
    (table.reorder fields).Picks table (some fields) := ⟨rfl, rfl⟩

theorem picks_toTable (table : Table) (fields : Option (List FieldRef)) :
    (table.toTable fields).Picks table fields := ⟨rfl, rfl⟩

namespace Picks

variable {part table : Table} {fields : Option (List FieldRef)} (picks : part.Picks table fields)
include picks

theorem fieldCount_eq : part.fieldCount = (table.selectedColumns fields).length := by
  rw [fieldCount, picks.names, selectedNames, List.length_map]

theorem selectedNames_eq : part.selectedNames none = table.selectedNames fields := by
  rw [← picks.names, selectedNames_none]

theorem toMatrix_eq : part.toMatrix none = table.toMatrix fields := by
  have kept : part.toMatrix none = part.rows.map id := by
    refine List.map_congr_left fun row member => project_allColumns ?_
    rw [picks.rows] at member
    obtain ⟨whole, _, rfl⟩ := List.mem_map.mp member
    rw [picks.fieldCount_eq, Row.project, List.length_map]
  rw [kept, List.map_id, picks.rows]

/-- Columns are named by their places in the part and by their numbers in the whole, but the members
are the same one by one, repeated names included. -/
theorem membersOf_eq (row : Row) :
    part.membersOf part.allColumns (Row.project row (table.selectedColumns fields)) =
      table.membersOf (table.selectedColumns fields) row := by
  have width := picks.fieldCount_eq
  apply List.ext_getElem
  · simp [membersOf, allColumns, width]
  · intro place inside found
    have short : place < (table.selectedColumns fields).length := by
      simpa [membersOf] using found
    simp [membersOf, allColumns, fieldName, Row.cellAt, Row.project, picks.names, selectedNames,
      short]

theorem toRecords_eq : part.toRecords none = table.toRecords fields := by
  rw [toRecords, toRecords, picks.rows, toMatrix, projectRows, List.map_map]
  refine List.map_congr_left fun row _ => ?_
  rw [Function.comp_apply, recordOf_eq_foldl, recordOf_eq_foldl, ← picks.membersOf_eq row]
  rfl

theorem toRecordTable_eq : part.toRecordTable none = table.toRecordTable fields := by
  rw [toRecordTable, toRecordTable, picks.selectedNames_eq, picks.toMatrix_eq]

theorem toDelimited_eq (options : Delimited.Options) :
    part.toDelimited options none = table.toDelimited options fields := by
  rw [toDelimited, toDelimited, textRows, textRows, picks.selectedNames_eq, picks.toMatrix_eq]

theorem rowCount_eq : part.rowCount = table.rowCount := by
  rw [rowCount, picks.rows, toMatrix, projectRows, List.length_map]
  rfl

theorem exportAs_eq (shape : OutputShape) (options : Delimited.Options) :
    part.exportAs shape none options = table.exportAs shape fields options := by
  cases shape with
  | matrix => exact congrArg Exported.matrix picks.toMatrix_eq
  | records => exact congrArg Exported.records picks.toRecords_eq
  | recordTable => exact congrArg Exported.recordTable picks.toRecordTable_eq
  | spreadsheet =>
    rw [exportAs, exportAs, toSpreadsheet, toSpreadsheet, picks.selectedNames_eq, picks.toMatrix_eq]
  | delimited => rw [exportAs, exportAs, picks.toDelimited_eq, picks.rowCount_eq]
  | table => rw [exportAs, exportAs, toTable, toTable, picks.selectedNames_eq, picks.toMatrix_eq]

end Picks

end Table

namespace Store

theorem perform_select (store : Store) (query : Query) {fields : List FieldRef}
    (selected : query.fields? = some fields) (committed : Bool) (shape : OutputShape)
    (options : Delimited.Options) :
    (store.perform (.query query committed shape none options)).1 =
      (store.perform
        (.query { query with select := none } committed shape (some fields) options)).1 := by
  have whole : store.answerTable query =
      (store.answerTable { query with select := none }).reorder fields := by
    rw [answerTable, selected]
    rfl
  have picks := (store.answerTable { query with select := none }).picks_reorder fields
  rw [← whole] at picks
  cases committed
  · exact congrArg Answer.exported (picks.exportAs_eq shape options)
  · exact congrArg Answer.exported (picks.exportAs_eq shape options)

end Store

/-- Picking columns in a table and picking them on the way out agree, in every shape and for every
selection. So does a query that selects fields with the query that selects none and is given out
with these fields, whether it is committed or not. -/
theorem projections_agree :
    (∀ (table : Table) (fields : List FieldRef) (shape : OutputShape) (options : Delimited.Options),
      table.exportAs shape (some fields) options =
        (table.reorder fields).exportAs shape none options) ∧
    ∀ (store : Store) (filter order : Option String) (select : String) (fields : List FieldRef),
      Query.fieldsOf select = some fields →
        ∀ (committed : Bool) (shape : OutputShape) (options : Delimited.Options),
          (store.perform
            (.query { select := some select, filter := filter, order := order } committed shape none
              options)).1 =
          (store.perform
            (.query { filter := filter, order := order } committed shape (some fields)
              options)).1 := by
  refine ⟨?_, ?_⟩
  · intro table fields shape options
    exact ((table.picks_reorder fields).exportAs_eq shape options).symm
  · intro store filter order select fields selected committed shape options
    exact store.perform_select { select := some select, filter := filter, order := order } selected
      committed shape options

end TableQuery
