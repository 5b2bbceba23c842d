import TableQuery.Cell.Basic

/-! The order of cells for sorting: a missing cell first, then null, then everything with a numeric
reading by its number, then the rest by its text. Every cell has a key, and cells compare as their
keys do, so the order is total however kinds are mixed. -/

namespace TableQuery

inductive SortValue
  | missing
  | null
  | number (key : Int)
  | text (key : String)
deriving DecidableEq

namespace SortValue

def rank : SortValue → Nat
  | .missing => 0
  | .null => 1
  | .number _ => 2
  | .text _ => 3

def compare : SortValue → SortValue → Ordering
  | .number a, .number b => Ord.compare a b
  | .text a, .text b => Ord.compare a b
  | a, b => Ord.compare a.rank b.rank

end SortValue

namespace Cell

def sortValue : Cell → SortValue
  | .null => .null
  | cell =>
    match cell.number? with
    | some x => .number x.orderKey
    | none => .text cell.display

/-- A cell that a short row does not have comes before all others. -/
def sortValue? : Option Cell → SortValue
  | none => .missing
  | some cell => cell.sortValue

def compare (a b : Cell) : Ordering := a.sortValue.compare b.sortValue

def compare? (a b : Option Cell) : Ordering := (sortValue? a).compare (sortValue? b)

end Cell

end TableQuery
