import TableQuery.Table.Source

/-! Edits of tables. New rows and columns are brought to the shape of the table, positions past the
end mean the end, and references that do not resolve change nothing. -/

namespace TableQuery

inductive RowInput
  | cells (cells : List Cell)
  | keyed (record : Record)

/-- A column in the order of the rows, or keyed by row positions, where a later entry replaces an
earlier one. -/
inductive ColumnInput
  | cells (cells : List Cell)
  | keyed (cells : List (Nat × Cell))

namespace Table

def normalizeRow (table : Table) : RowInput → Row
  | .cells cells => Row.fit table.fieldCount cells
  | .keyed record => recordRow table.fields record

def reorder (table : Table) (fields : List FieldRef) : Table :=
  let columns := table.resolveAll fields
  { table with fields := columns.map table.fieldName, rows := table.projectRows columns }

def insertionPoint (length : Nat) : Option Nat → Nat
  | some place => min place length
  | none => length

def addRow (table : Table) (input : RowInput) (place : Option Nat) : Table :=
  { table with
    rows := table.rows.insertIdx (insertionPoint table.rowCount place) (table.normalizeRow input) }

def addRows (table : Table) (inputs : List RowInput) : Table :=
  inputs.foldl (fun table input => table.addRow input none) table

def normalizeColumn (table : Table) : ColumnInput → List Cell
  | .cells cells => Row.fit table.rowCount cells
  | .keyed cells =>
    (List.range table.rowCount).map fun index => (cells.reverse.lookup index).getD Cell.null

/-- A row that ends before the new column is filled up to it. -/
def insertCell (column : Nat) (row : Row) (value : Cell) : Row :=
  (row ++ List.replicate (column - row.length) Cell.null).insertIdx column value

def addColumn (table : Table) (name : String) (input : ColumnInput) (place : Option Nat) : Table :=
  let column := insertionPoint table.fieldCount place
  { table with
    fields := table.fields.insertIdx column name,
    rows := List.zipWith (insertCell column) table.rows (table.normalizeColumn input) }

def removeRow (table : Table) (index : Nat) : Table :=
  { table with rows := table.rows.eraseIdx index }

/-- The positions of several rows, highest first and each once, so that a removal does not move the
rows still to be removed. -/
def descending (indices : List Nat) : List Nat :=
  (indices.mergeSort fun a b => b ≤ a).eraseReps

def removeRows (table : Table) (indices : List Nat) : Table :=
  (descending indices).foldl removeRow table

def removeColumnAt (table : Table) (column : Nat) : Table :=
  { table with
    fields := table.fields.eraseIdx column,
    rows := table.rows.map fun row => row.eraseIdx column }

def removeColumn (table : Table) (field : FieldRef) : Table :=
  match table.resolve field with
  | some column => table.removeColumnAt column
  | none => table

def replaceRow (table : Table) (index : Nat) (input : RowInput) : Table :=
  { table with rows := table.rows.set index (table.normalizeRow input) }

def renameField (table : Table) (field : FieldRef) (name : String) : Table :=
  match table.resolve field with
  | some column => { table with fields := table.fields.set column name }
  | none => table

/-- The first column becomes the names of the new fields, and every other field a row that starts
with its name. A table without fields stays as it is. -/
def pivot (table : Table) : Table :=
  match table.fields with
  | [] => table
  | first :: others =>
    { table with
      fields := first :: table.rows.map fun row => (Row.cellAt row 0).display,
      rows := others.mapIdx fun offset name => .text name :: table.columnAt (offset + 1) }

end Table

end TableQuery
