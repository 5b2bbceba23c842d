import TableQuery.Delimited.Writer
import TableQuery.Table.Basic
import TableQuery.Text.Lowercase

/-! Tables given out as a matrix, as records, as delimited text and in other shapes. A selection of
fields picks and orders the columns; every row is given with one cell for each of them. -/

namespace TableQuery

inductive OutputShape
  | matrix
  | records
  | recordTable
  /-- A matrix under a row of the field names. -/
  | spreadsheet
  | delimited
  | table
deriving DecidableEq

namespace OutputShape

def ofText? (text : String) : Except String OutputShape :=
  match Text.lowercase (Text.trimmed text) with
  | "matrix" | "array" => .ok .matrix
  | "records" | "recordset" => .ok .records
  | "recordtable" | "record_table" => .ok .recordTable
  | "spreadsheet" | "sheet" => .ok .spreadsheet
  | "csv" | "text" => .ok .delimited
  | "table" => .ok .table
  | other => .error ("Unknown output shape: " ++ other)

def name : OutputShape → String
  | .matrix => "Matrix"
  | .records => "Records"
  | .recordTable => "RecordTable"
  | .spreadsheet => "Spreadsheet"
  | .delimited => "Csv"
  | .table => "Table"

end OutputShape

structure RecordTable where
  fields : List String
  rows : List (List Json)

inductive Exported
  | matrix (rows : List Row)
  | records (records : List Record)
  | recordTable (content : RecordTable)
  | spreadsheet (rows : List Row)
  | delimited (text : String) (rows : Nat)
  | table (table : Table)

def RecordTable.toJson (content : RecordTable) : Json :=
  .object [("fields", .array (content.fields.map Json.text)),
    ("table", .array (content.rows.map Json.array))]

namespace Table

def toMatrix (table : Table) (fields : Option (List FieldRef)) : List Row :=
  table.projectRows (table.selectedColumns fields)

def toRecords (table : Table) (fields : Option (List FieldRef)) : List Record :=
  table.rows.map (table.recordOf (table.selectedColumns fields))

def selectedNames (table : Table) (fields : Option (List FieldRef)) : List String :=
  (table.selectedColumns fields).map table.fieldName

def toRecordTable (table : Table) (fields : Option (List FieldRef)) : RecordTable :=
  { fields := table.selectedNames fields,
    rows := (table.toMatrix fields).map fun row => row.map Cell.toJson }

def toSpreadsheet (table : Table) (fields : Option (List FieldRef)) : List Row :=
  (table.selectedNames fields).map Cell.text :: table.toMatrix fields

def textRows (options : Delimited.Options) (table : Table) (fields : Option (List FieldRef)) :
    List (List String) :=
  let rows := (table.toMatrix fields).map fun row => row.map Cell.display
  if options.header then table.selectedNames fields :: rows else rows

def toDelimited (table : Table) (options : Delimited.Options) (fields : Option (List FieldRef)) :
    String :=
  Delimited.write options (textRows options table fields)

def toTable (table : Table) (fields : Option (List FieldRef)) : Table :=
  { fields := table.selectedNames fields, rows := table.toMatrix fields }

def exportAs (table : Table) (shape : OutputShape) (fields : Option (List FieldRef))
    (options : Delimited.Options) : Exported :=
  match shape with
  | .matrix => .matrix (table.toMatrix fields)
  | .records => .records (table.toRecords fields)
  | .recordTable => .recordTable (table.toRecordTable fields)
  | .spreadsheet => .spreadsheet (table.toSpreadsheet fields)
  | .delimited => .delimited (table.toDelimited options fields) table.rowCount
  | .table => .table (table.toTable fields)

end Table

namespace Exported

def matrixJson (rows : List Row) : Json := .array (rows.map fun row => .array (row.map Cell.toJson))

def toJson : Exported → Json
  | .matrix rows => matrixJson rows
  | .spreadsheet rows => matrixJson rows
  | .records given => .array (given.map Json.object)
  | .recordTable content => content.toJson
  | .delimited text _ => .text text
  | .table content => (content.toRecordTable none).toJson

def rowCount : Exported → Nat
  | .matrix rows => rows.length
  | .spreadsheet rows => rows.length - 1
  | .records given => given.length
  | .recordTable content => content.rows.length
  | .delimited _ rows => rows
  | .table content => content.rowCount

def shape : Exported → OutputShape
  | .matrix _ => .matrix
  | .spreadsheet _ => .spreadsheet
  | .records _ => .records
  | .recordTable _ => .recordTable
  | .delimited _ _ => .delimited
  | .table _ => .table

def table? : Exported → Option Table
  | .table content => some content
  | _ => none

def records? : Exported → Option (List Record)
  | .records given => some given
  | _ => none

def matrix? : Exported → Option (List Row)
  | .matrix rows => some rows
  | .spreadsheet rows => some rows
  | _ => none

def text? : Exported → Option String
  | .delimited text _ => some text
  | _ => none

end Exported

end TableQuery
