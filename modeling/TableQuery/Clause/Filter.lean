import TableQuery.Clause.Tree
import TableQuery.Function.Call
import TableQuery.Function.Registry
import TableQuery.Pattern

/-! Clauses bound to the fields of a table. A condition tests the cell of one column, by a registered
predicate where its value calls one and by its value as a pattern otherwise. The pseudo-fields `OR*`
and `AND*` stand for one condition on every field. What cannot be bound is never true. -/

namespace TableQuery

structure Engine where
  caseSensitive : Bool := false
  functions : Registry := {}

inductive CellTest
  | pattern (chars : List Char) (caseSensitive : Bool)
  | function (predicate : Predicate) (args : List String)

def CellTest.accepts (test : CellTest) (cell : Cell) : Bool :=
  match test with
  | .pattern chars caseSensitive => Pattern.covers caseSensitive chars cell.display.toList
  | .function predicate args => predicate cell args

structure ColumnTest where
  field : String
  column : Nat
  negated : Bool
  value : String
  test : CellTest

def ColumnTest.holds (condition : ColumnTest) (row : Row) : Bool :=
  condition.test.accepts ((row[condition.column]?).getD .null) != condition.negated

inductive Filter
  | and (left right : Filter)
  | or (left right : Filter)
  | test (condition : ColumnTest)
  | never (reason : String)

namespace Filter

def holds (row : Row) : Filter → Bool
  | .and left right => left.holds row && right.holds row
  | .or left right => left.holds row || right.holds row
  | .test condition => condition.holds row
  | .never _ => false

def chain (join : Filter → Filter → Filter) : List Filter → Filter
  | [] => .never "empty group"
  | first :: rest => rest.foldl join first

def indent (level : Nat) : String := String.ofList (List.replicate (2 * level) ' ')

def describeTest (condition : ColumnTest) : String :=
  (if condition.negated then "NOT_MATCH(" else "MATCH(") ++ condition.field ++ "#" ++
    String.ofList (Text.digitChars condition.column) ++ ", " ++ Text.quoted condition.value ++ ")"

def describeAt (level : Nat) : Filter → String
  | .and left right =>
    indent level ++ "AND\n" ++ left.describeAt (level + 1) ++ "\n" ++ right.describeAt (level + 1)
  | .or left right =>
    indent level ++ "OR\n" ++ left.describeAt (level + 1) ++ "\n" ++ right.describeAt (level + 1)
  | .test condition => indent level ++ describeTest condition
  | .never reason => indent level ++ "NEVER(" ++ reason ++ ")"

end Filter

/-- The column of a written name, tried against the fields in order. A field whose name is a proper
suffix of the written name comes in the way of those after it. -/
def resolveFrom (written : List Char) : Nat → List String → Option Nat
  | _, [] => none
  | column, field :: rest =>
    if field.toList.isEmpty then resolveFrom written (column + 1) rest
    else if written = field.toList then some column
    else if field.toList.isSuffixOf written then none
    else resolveFrom written (column + 1) rest

def resolveField (written : List Char) (fields : List String) : Option Nat :=
  resolveFrom written 0 fields

namespace Engine

def cellTest (engine : Engine) (value : List Char) : CellTest :=
  match Call.parse? value with
  | none => .pattern value engine.caseSensitive
  | some call =>
    match engine.functions.predicate? call.name with
    | some predicate => .function predicate call.args
    | none => .pattern value engine.caseSensitive

def bindField (engine : Engine) (fields : List String) (negated : Bool) (value field : List Char) :
    Filter :=
  match resolveField field fields with
  | some column =>
    .test { field := String.ofList field, column := column, negated := negated,
            value := String.ofList value, test := engine.cellTest value }
  | none => .never ("unresolved field '" ++ String.ofList field ++ "'")

def bindEach (engine : Engine) (fields : List String) (condition : Clause.Condition) :
    List Filter :=
  fields.map fun field => engine.bindField fields condition.negated condition.value field.toList

def bindCondition (engine : Engine) (fields : List String) (condition : Clause.Condition) :
    Filter :=
  if condition.field = ['O', 'R', '*'] then
    Filter.chain .or (engine.bindEach fields condition)
  else if condition.field = ['A', 'N', 'D', '*'] then
    Filter.chain .and (engine.bindEach fields condition)
  else engine.bindField fields condition.negated condition.value condition.field

def bind (engine : Engine) (fields : List String) : Clause.Tree → Filter
  | .condition c => engine.bindCondition fields c
  | .and left right => .and (engine.bind fields left) (engine.bind fields right)
  | .or left right => .or (engine.bind fields left) (engine.bind fields right)

end Engine

structure Program where
  source : String
  /-- Absent for a blank clause, which every row passes. -/
  filter : Option Filter

namespace Program

def accepts (program : Program) (row : Row) : Bool :=
  match program.filter with
  | some filter => filter.holds row
  | none => true

def describe (program : Program) : String :=
  match program.filter with
  | some filter => filter.describeAt 0
  | none => "ALL"

end Program

/-- The program of a clause. A clause with an error passes no row. -/
def Engine.compile (engine : Engine) (clause : String) (fields : List String) : Program where
  source := clause
  filter :=
    match Clause.read clause.toList with
    | .ok tree => tree.map (engine.bind fields)
    | .error error => some (.never error.message)

end TableQuery
