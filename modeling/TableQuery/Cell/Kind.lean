import TableQuery.Cell.Basic
import TableQuery.Text.Digits

/-! Kinds of cells, and the cell that a raw text stands for. The kind of a column is the join of the
kinds of its cells, with null below everything, integer below double, and mixed above all. -/

namespace TableQuery

inductive Kind
  | text
  | integer
  | double
  | boolean
  | null
  | mixed
deriving DecidableEq, Inhabited

namespace Kind

def name : Kind → String
  | .text => "String"
  | .integer => "Integer"
  | .double => "Float"
  | .boolean => "Boolean"
  | .null => "Null"
  | .mixed => "Mixed"

def join : Kind → Kind → Kind
  | .null, b => b
  | a, .null => a
  | .integer, .double => .double
  | .double, .integer => .double
  | a, b => if a = b then a else .mixed

end Kind

def spells (text : String) (word : List Char) : Bool := text.toList.map Char.toLower == word

def isNullText (text : String) : Bool :=
  text.isEmpty || spells text ['n', 'u', 'l', 'l']

def isTrueText (text : String) : Bool := spells text ['t', 'r', 'u', 'e']

def isFalseText (text : String) : Bool := spells text ['f', 'a', 'l', 's', 'e']

namespace Kind

def ofText (text : String) : Kind :=
  if isNullText text then .null
  else if isTrueText text || isFalseText text then .boolean
  else if (Text.word? text.toList).isSome then .integer
  else if (Binary64.read? text.toList).isSome then .double
  else .text

end Kind

namespace Cell

def kind : Cell → Kind
  | .null => .null
  | .boolean _ => .boolean
  | .integer _ => .integer
  | .double _ => .double
  | .text _ => .text

def infer (text : String) : Cell :=
  match Kind.ofText text with
  | .null | .mixed => .null
  | .boolean => .boolean (isTrueText text)
  | .integer => match Text.word? text.toList with
    | some n => .integer n
    | none => .text text
  | .double => match Binary64.read? text.toList with
    | some x => .double x
    | none => .text text
  | .text => .text text

/-- The cell of a raw text as a given kind; a text that does not fit the kind stays a text. -/
def ofText (text : String) (kind : Kind) : Cell :=
  if isNullText text then .null
  else match kind with
  | .text => .text text
  | .integer => match Text.word? text.toList with
    | some n => .integer n
    | none => .text text
  | .double => match Binary64.read? text.toList with
    | some x => .double x
    | none => .text text
  | .boolean => .boolean (isTrueText text)
  | .null => .null
  | .mixed => infer text

end Cell

end TableQuery
