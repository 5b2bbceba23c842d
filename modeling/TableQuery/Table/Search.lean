import TableQuery.Clause.Filter
import TableQuery.Table.Basic
import TableQuery.Text.Lowercase

/-! The rows of a table that pass a clause, given in one of several styles. -/

namespace TableQuery

inductive SearchStyle
  | rows
  | positions
  | table
  | records
deriving DecidableEq

namespace SearchStyle

def ofText? (text : String) : Except String SearchStyle :=
  match Text.lowercase text with
  | "rows" => .ok .rows
  | "index" => .ok .positions
  | "table" => .ok .table
  | "records" => .ok .records
  | other => .error ("Unknown search style: " ++ other)

def name : SearchStyle → String
  | .rows => "Rows"
  | .positions => "Index"
  | .table => "Table"
  | .records => "Records"

end SearchStyle

inductive Found
  | rows (rows : List Row)
  | positions (positions : List Nat)
  | table (table : Table)
  | records (records : List Record)

namespace Engine

def positions (engine : Engine) (table : Table) (clause : String) : List Nat :=
  let program := engine.compile clause table.fields
  (table.rows.zipIdx.filter fun (row, _) => program.accepts row).map Prod.snd

def matchingRows (engine : Engine) (table : Table) (clause : String) : List Row :=
  table.rows.filter (engine.compile clause table.fields).accepts

end Engine

namespace Table

def searchWith (table : Table) (engine : Engine) (clause : String) : SearchStyle → Found
  | .rows => .rows (engine.matchingRows table clause)
  | .positions => .positions (engine.positions table clause)
  | .table => .table { fields := table.fields, rows := engine.matchingRows table clause }
  | .records =>
    .records ((engine.matchingRows table clause).map (table.recordOf table.allColumns))

def search (table : Table) (clause : String) (style : SearchStyle) : Found :=
  table.searchWith {} clause style

end Table

end TableQuery
