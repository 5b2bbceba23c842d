import TableQuery.Text.Alphanumeric
import TableQuery.Text.Blank
import TableQuery.Text.Split

/-! Calls of named functions, written `$name(a, b)` at the start of a value. What follows the first
closing parenthesis is ignored. -/

namespace TableQuery

structure Call where
  name : String
  args : List String
deriving DecidableEq

namespace Call

def isNameChar (c : Char) : Bool := Text.isAlphanumeric c || c == '_'

/-- The arguments between the parentheses; blanks alone are no argument. -/
def argsOf (inner : List Char) : List String :=
  if (Text.trim inner).isEmpty then []
  else (Text.splitAt ',' inner).map fun arg => String.ofList (Text.trim arg)

def ofBody? (body : List Char) : Option Call := do
  let (before, rest) ← Text.cutAt '(' body
  let (inner, _) ← Text.cutAt ')' rest
  let name := Text.trim before
  if name.isEmpty || !name.all isNameChar then none
  else some { name := String.ofList name, args := argsOf inner }

def parse? (value : List Char) : Option Call :=
  match Text.trimStart value with
  | '$' :: body => ofBody? body
  | _ => none

end Call

end TableQuery
