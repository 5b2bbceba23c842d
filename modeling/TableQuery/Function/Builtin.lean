import TableQuery.Cell.Kind
import TableQuery.Function.Registry
import TableQuery.Text.Lowercase
import TableQuery.Text.Uppercase

/-! The functions that every session has: comparisons of the numeric reading of a cell, membership
and emptiness as predicates; addition, case changes, appending and clearing as setters. -/

namespace TableQuery.Registry

def numberArg? (arg : String) : Option Binary64 := Binary64.read? arg.toList

def compareFirst (holds : Binary64 → Binary64 → Bool) : Predicate := fun cell args =>
  match cell.number?, args.head?.bind numberArg? with
  | some x, some bound => holds x bound
  | _, _ => false

/-- The first two arguments that write numbers are the bounds. -/
def between : Predicate := fun cell args =>
  match cell.number?, args.filterMap numberArg? with
  | some x, low :: high :: _ => low.atMost x && x.atMost high
  | _, _ => false

def isIn : Predicate := fun cell args =>
  args.any fun arg => spells arg (cell.display.toList.map Char.toLower)

def isBlankCell : Predicate := fun cell _ => (Text.trim cell.display.toList).isEmpty

def wholeDelta? (delta : Binary64) : Option Int :=
  if delta.isWhole then
    let bound := Int64.maxValue.toInt + 1
    let n := delta.truncate (-bound) bound
    if -bound < n ∧ n < bound then some n else none
  else none

/-- A whole number added to an integer gives an integer unless that needs more than 64 bits. -/
def addTo : Setter := fun cell args =>
  let delta := (args.head?.bind numberArg?).getD .zero
  match cell, cell.number? with
  | .integer n, _ =>
    match wholeDelta? delta with
    | some whole =>
      match Text.wordOf? (n.toInt + whole) with
      | some sum => .integer sum
      | none => .double ((Binary64.ofInt n.toInt).add delta)
    | none => .double ((Binary64.ofInt n.toInt).add delta)
  | _, some x => .double (x.add delta)
  | _, none => cell

def onText (change : String → String) : Setter := fun cell _ =>
  match cell with
  | .text s => .text (change s)
  | other => other

def append : Setter := fun cell args => .text (cell.display ++ String.intercalate "," args)

def clear : Setter := fun _ _ => .null

def builtins : Registry where
  predicates := [
    ("gt", compareFirst fun x bound => bound.less x),
    ("gte", compareFirst fun x bound => bound.atMost x),
    ("lt", compareFirst fun x bound => x.less bound),
    ("lte", compareFirst fun x bound => x.atMost bound),
    ("between", between),
    ("in", isIn),
    ("empty", isBlankCell)]
  setters := [
    ("add", addTo),
    ("upper", onText Text.uppercase),
    ("lower", onText Text.lowercase),
    ("concat", append),
    ("clear", clear)]

end TableQuery.Registry
