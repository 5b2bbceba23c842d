import TableQuery.Function.Call
import TableQuery.Function.Registry

/-! Lists of assignments such as `field='value', other='$add(1)'`. Commas inside quotes and
parentheses divide nothing, and a piece without an equals sign or without a field is left out. -/

namespace TableQuery

inductive AssignedValue
  | literal (text : String)
  | call (call : Call)
deriving DecidableEq

structure Assignment where
  field : String
  value : AssignedValue
deriving DecidableEq

namespace Assignment

def newCell? (assignment : Assignment) (functions : Registry) (current : Cell) : Option Cell :=
  match assignment.value with
  | .literal text => some (.text text)
  | .call call => (functions.setter? call.name).map fun setter => setter current call.args

/-- Where the scan of a list is: the quote it is in, the parentheses open around it, and the piece
so far with its last character first. -/
structure Scan where
  quote : Option Char := none
  depth : Nat := 0
  piece : List Char := []

def Scan.step? (scan : Scan) (c : Char) : Option Scan :=
  match scan.quote with
  | some quote =>
    some { scan with quote := if c = quote then none else some quote, piece := c :: scan.piece }
  | none =>
    if c = '\'' ∨ c = '"' then some { scan with quote := some c, piece := c :: scan.piece }
    else if c = '(' then some { scan with depth := scan.depth + 1, piece := c :: scan.piece }
    else if c = ')' then some { scan with depth := scan.depth - 1, piece := c :: scan.piece }
    else if c = ',' ∧ scan.depth = 0 then none
    else some { scan with piece := c :: scan.piece }

/-- The pieces of a list. The last one counts only if it is not blank. -/
def piecesFrom (scan : Scan) : List Char → List (List Char)
  | [] => if (Text.trim scan.piece).isEmpty then [] else [scan.piece.reverse]
  | c :: rest =>
    match scan.step? c with
    | some next => piecesFrom next rest
    | none => scan.piece.reverse :: piecesFrom {} rest

def pieces (clause : List Char) : List (List Char) := piecesFrom {} clause

def inner? (quote : Char) (value : List Char) : Option (List Char) :=
  match value with
  | [] => none
  | c :: rest =>
    if c = quote ∧ rest.getLast? = some quote then some rest.dropLast else none

def unquote (value : List Char) : List Char :=
  match inner? '\'' value with
  | some inner => inner
  | none => (inner? '"' value).getD value

def valueOf (text : List Char) : AssignedValue :=
  match Call.parse? text with
  | some call => .call call
  | none => .literal (String.ofList text)

def ofPiece? (piece : List Char) : Option Assignment := do
  let (before, after) ← Text.cutAt '=' piece
  let field := Text.trim before
  if field.isEmpty then none
  else some { field := String.ofList field, value := valueOf (unquote (Text.trim after)) }

def ofClause (clause : String) : List Assignment := (pieces clause.toList).filterMap ofPiece?

end Assignment

end TableQuery
