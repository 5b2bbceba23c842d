import TableQuery.Cell.Order
import TableQuery.Table.Basic
import TableQuery.Text.Split

/-! Sorting by several keys. The first key whose cells differ decides; rows equal on every key keep
their order. A key may change cells before they are compared, and keys of unknown fields are left
out. -/

namespace TableQuery

structure SortKey where
  field : FieldRef
  descending : Bool := false
  primer : Option (Cell → Cell) := none

namespace SortKey

def compare (key : SortKey) (a b : Option Cell) : Ordering :=
  let order := match key.primer with
    | some primer => Cell.compare? (a.map primer) (b.map primer)
    | none => Cell.compare? a b
  if key.descending then order.swap else order

/-- Keys from fields and flags side by side; fields without a flag are ascending. -/
def ofFlags : List FieldRef → List Bool → List SortKey
  | [], _ => []
  | field :: fields, [] => { field := field } :: ofFlags fields []
  | field :: fields, flag :: flags => { field := field, descending := flag } :: ofFlags fields flags

end SortKey

namespace OrderClause

def isQuote (c : Char) : Bool := c == '"' || c == '\''

def stripQuotes (text : List Char) : List Char :=
  ((text.dropWhile isQuote).reverse.dropWhile isQuote).reverse

/-- The direction that a word names, true for descending. -/
def direction? (word : List Char) : Option Bool :=
  match word.map Char.toLower with
  | ['d', 'e', 's', 'c'] => some true
  | ['a', 's', 'c'] => some false
  | _ => none

/-- A trimmed part of a clause: a name, with a direction as its last word if it has one. -/
def key (part : List Char) : List Char × Bool :=
  match Text.cutAtLastBlank part with
  | some (name, word) =>
    match direction? word with
    | some descending => (stripQuotes (Text.trim name), descending)
    | none => (stripQuotes part, false)
  | none => (stripQuotes part, false)

end OrderClause

def SortKey.ofClause (clause : String) : List SortKey :=
  let parts := ((Text.splitAt ',' clause.toList).map Text.trim).filter (!·.isEmpty)
  parts.map fun part =>
    let (name, descending) := OrderClause.key part
    { field := .name (String.ofList name), descending := descending }

namespace Table

def resolvedKeys (table : Table) (keys : List SortKey) : List (Nat × SortKey) :=
  keys.filterMap fun key => (table.resolve key.field).map fun column => (column, key)

def compareRows (keys : List (Nat × SortKey)) (a b : Row) : Ordering :=
  match keys with
  | [] => .eq
  | (column, key) :: rest => (key.compare a[column]? b[column]?).then (compareRows rest a b)

def rowOrder (table : Table) (keys : List SortKey) (a b : Row) : Ordering :=
  compareRows (table.resolvedKeys keys) a b

def sortByKeys (table : Table) (keys : List SortKey) : Table :=
  { table with rows := table.rows.mergeSort fun a b => (table.rowOrder keys a b).isLE }

def sortByFlags (table : Table) (fields : List FieldRef) (descending : List Bool) : Table :=
  table.sortByKeys (SortKey.ofFlags fields descending)

def orderBy (table : Table) (clause : String) : Table := table.sortByKeys (SortKey.ofClause clause)

end Table

end TableQuery
