import TableQuery.Clause.Lexer

/-! Clauses as trees. AND binds tighter than OR, both lean to the left, and parentheses group. The
parser goes through the tokens once. For each group that is still open it keeps the left sides of a
pending OR and of a pending AND, and it is either before an operand or after one. -/

namespace TableQuery.Clause

inductive Tree
  | condition (condition : Condition)
  | and (left right : Tree)
  | or (left right : Tree)
deriving DecidableEq

inductive ParseError
  | trailing (token : Token)
  /-- A group that something other than its closing parenthesis follows. -/
  | unclosed
  | malformed (text : List Char)
  | unexpected (token : Token)
  | endOfClause
deriving DecidableEq

def ParseError.message : ParseError → String
  | .trailing token => "Unexpected token after expression: " ++ token.display
  | .unclosed => "Expected closing parenthesis"
  | .malformed text => "Malformed condition: " ++ String.ofList text
  | .unexpected token => "Unexpected token: " ++ token.display
  | .endOfClause => "Unexpected end of query"

structure Pending where
  disjunction : Option Tree := none
  conjunction : Option Tree := none

namespace Pending

def conjoin (pending : Pending) (operand : Tree) : Tree :=
  match pending.conjunction with
  | some left => .and left operand
  | none => operand

def close (pending : Pending) (operand : Tree) : Tree :=
  match pending.disjunction with
  | some left => .or left (pending.conjoin operand)
  | none => pending.conjoin operand

end Pending

mutual

def operand (pending : Pending) (outer : List Pending) : List Token → Except ParseError Tree
  | [] => .error .endOfClause
  | .condition c :: rest => operator pending outer (.condition c) rest
  | .leftParen :: rest => operand {} (pending :: outer) rest
  | .malformed text :: _ => .error (.malformed text)
  | token :: _ => .error (.unexpected token)

def operator (pending : Pending) (outer : List Pending) (left : Tree) :
    List Token → Except ParseError Tree
  | [] => if outer.isEmpty then .ok (pending.close left) else .error .unclosed
  | .and :: rest => operand { pending with conjunction := some (pending.conjoin left) } outer rest
  | .or :: rest => operand { disjunction := some (pending.close left) } outer rest
  | .rightParen :: rest =>
    match outer with
    | [] => .error (.trailing .rightParen)
    | enclosing :: outer => operator enclosing outer (pending.close left) rest
  | token :: _ => if outer.isEmpty then .error (.trailing token) else .error .unclosed

end

def parse (tokens : List Token) : Except ParseError Tree := operand {} [] tokens

/-- The tree of a clause, none of a clause without tokens. -/
def read (text : List Char) : Except ParseError (Option Tree) :=
  match tokens text with
  | [] => .ok none
  | found => (parse found).map some

end TableQuery.Clause
