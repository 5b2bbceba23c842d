import TableQuery.Table.Basic

/-! Removal of rows that match an earlier kept row. A missing cell matches a missing cell only. -/

namespace TableQuery

inductive DuplicateCheck
  | firstField
  | allFields
deriving DecidableEq, Inhabited

def Cell.equals? : Option Cell → Option Cell → Bool
  | none, none => true
  | some a, some b => a.equals b
  | _, _ => false

def Row.agrees (column : Nat) (a b : Row) : Bool := Cell.equals? a[column]? b[column]?

def DuplicateCheck.agrees (check : DuplicateCheck) (columns : List Nat) (a b : Row) : Bool :=
  match check with
  | .firstField => (columns.take 1).all fun column => Row.agrees column a b
  | .allFields => columns.all fun column => Row.agrees column a b

def keepFirst (same : Row → Row → Bool) : List Row → List Row → List Row
  | _, [] => []
  | kept, row :: rest =>
    if kept.any (same row) then keepFirst same kept rest
    else row :: keepFirst same (kept ++ [row]) rest

def Table.removeDuplicates (table : Table) (fields : Option (List FieldRef))
    (check : DuplicateCheck) : Table :=
  let columns := table.selectedColumns fields
  if columns.isEmpty then table
  else { table with rows := keepFirst (check.agrees columns) [] table.rows }

end TableQuery
