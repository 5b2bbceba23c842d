import TableQuery.Table.Edit

/-! Sums and averages of rows and columns. Cells with no numeric reading are skipped. The sum is
taken in double arithmetic from the left; of integers alone it is an integer again, kept to 64
bits. -/

namespace TableQuery

structure Tally where
  total : Binary64 := .zero
  count : Nat := 0
  integersOnly : Bool := true

namespace Tally

def add (tally : Tally) (cell : Cell) : Tally :=
  match cell.number? with
  | some x =>
    { total := tally.total.add x, count := tally.count + 1,
      integersOnly := tally.integersOnly && cell.kind == .integer }
  | none => tally

def ofCells (cells : List Cell) : Tally := cells.foldl add {}

/-- Nothing counted is null. -/
def result (tally : Tally) (average : Bool) : Cell :=
  if tally.count = 0 then .null
  else if average then .double (tally.total.div (.ofInt tally.count))
  else if tally.integersOnly then
    .integer (.ofInt (tally.total.truncate Int64.minValue.toInt Int64.maxValue.toInt))
  else .double tally.total

end Tally

def aggregate (cells : List Cell) (average : Bool) : Cell := (Tally.ofCells cells).result average

namespace Table

def sumColumns (table : Table) (average : Bool) : Table :=
  let totals := table.allColumns.map fun column =>
    aggregate (table.rows.filterMap (·[column]?)) average
  { table with rows := table.rows ++ [totals] }

/-- Appends a column of the totals of the rows, all their cells included. -/
def sumRows (table : Table) (name : String) (average : Bool) : Table :=
  table.addColumn name (.cells (table.rows.map fun row => aggregate row average)) none

end Table

end TableQuery
