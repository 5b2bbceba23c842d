import TableQuery.Cell.Kind

/-! Tables: an ordered list of field names and a list of rows. A row may be shorter or longer than
the field list; a missing cell reads as null, and cells past the last field are never shown. -/

namespace TableQuery

structure Table where
  fields : List String
  rows : List Row
  valid : Bool := true
deriving DecidableEq, Inhabited

inductive FieldRef
  | name (written : String)
  | position (index : Nat)
deriving DecidableEq, Inhabited

def FieldRef.display : FieldRef → String
  | .name written => written
  | .position index => "#" ++ String.ofList (Text.digitChars index)

/-- The cell in a column, null where the row ends before it. -/
def Row.cellAt (row : Row) (column : Nat) : Cell := (row[column]?).getD .null

def Row.project (row : Row) (columns : List Nat) : Row := columns.map row.cellAt

def Row.fit (width : Nat) (row : Row) : Row :=
  row.take width ++ List.replicate (width - row.length) .null

theorem Row.fit_length (width : Nat) (row : Row) : (Row.fit width row).length = width := by
  simp only [Row.fit, List.length_append, List.length_take, List.length_replicate]
  omega

namespace Table

def empty : Table := { fields := [], rows := [] }

def invalid : Table := { fields := [], rows := [], valid := false }

def withFields (fields : List String) : Table := { fields := fields, rows := [] }

def fieldCount (table : Table) : Nat := table.fields.length

def rowCount (table : Table) : Nat := table.rows.length

def isEmpty (table : Table) : Bool := table.rows.isEmpty

def fieldIndex? (table : Table) (name : String) : Option Nat :=
  table.fields.findIdx? (· == name)

def resolve (table : Table) : FieldRef → Option Nat
  | .name written => table.fieldIndex? written
  | .position index => if index < table.fieldCount then some index else none

def resolveAll (table : Table) (fields : List FieldRef) : List Nat :=
  fields.filterMap table.resolve

def allColumns (table : Table) : List Nat := List.range table.fieldCount

def selectedColumns (table : Table) : Option (List FieldRef) → List Nat
  | some fields => table.resolveAll fields
  | none => table.allColumns

def fieldName (table : Table) (column : Nat) : String := (table.fields[column]?).getD ""

def projectRows (table : Table) (columns : List Nat) : List Row :=
  table.rows.map fun row => Row.project row columns

def row? (table : Table) (index : Nat) : Option Row := table.rows[index]?

/-- The cells of a row keyed by the names of some columns. A name that comes twice keeps its first
place and takes its last value. -/
def recordOf (table : Table) (columns : List Nat) (row : Row) : Record :=
  columns.foldl
    (fun record column => record.insert (table.fieldName column) (row.cellAt column).toJson) []

def record? (table : Table) (index : Nat) : Option Record :=
  (table.row? index).map (table.recordOf table.allColumns)

def columnAt (table : Table) (column : Nat) : List Cell :=
  table.rows.map fun row => row.cellAt column

def column? (table : Table) (field : FieldRef) : Option (List Cell) :=
  (table.resolve field).map table.columnAt

def cell? (table : Table) (index : Nat) (field : FieldRef) : Option Cell := do
  let column ← table.resolve field
  let row ← table.row? index
  row[column]?

def setAt (table : Table) (index column : Nat) (value : Cell) : Table :=
  { table with rows := table.rows.modify index fun row => row.set column value }

/-- Overwrites a cell that is there; a row is never made longer. -/
def setCell? (table : Table) (index : Nat) (field : FieldRef) (value : Cell) : Option Table := do
  let column ← table.resolve field
  let _ ← table.cell? index field
  return table.setAt index column value

def columnKinds (table : Table) : List Kind :=
  table.allColumns.map fun column =>
    (table.rows.filterMap (·[column]?)).foldl (fun kind cell => kind.join cell.kind) .null

end Table

end TableQuery
