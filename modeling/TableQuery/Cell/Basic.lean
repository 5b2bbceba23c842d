import TableQuery.Binary64.Arithmetic
import TableQuery.Binary64.Written
import TableQuery.Json.Printer
import TableQuery.Text.Blank

/-! Cells, the values of a table. A cell has a text to show and, for all but null and plain words, a
numeric reading. -/

namespace TableQuery

inductive Cell
  | null
  | boolean (value : Bool)
  | integer (value : Int64)
  | double (value : Binary64)
  | text (value : String)
deriving DecidableEq, Inhabited

namespace Cell

def isNull : Cell → Bool
  | .null => true
  | _ => false

def display : Cell → String
  | .null => ""
  | .boolean true => "true"
  | .boolean false => "false"
  | .integer n => String.ofList (Text.wordChars n)
  | .double x => x.toText
  | .text s => s

def numberIn (text : String) : Option Binary64 :=
  (Binary64.read? (Text.trim text.toList)).filter Binary64.isFinite

/-- The numeric reading: of numbers that are finite, of truth values as one and zero, and of texts
that write a finite number. -/
def number? : Cell → Option Binary64
  | .null => none
  | .boolean value => some (.ofInt (if value then 1 else 0))
  | .integer n => some (.ofInt n.toInt)
  | .double x => if x.isFinite then some x else none
  | .text s => numberIn s

/-- Cells are equal when they are of one kind and equal as values of it, so not-a-number equals
nothing and the two zeros are equal. -/
def equals : Cell → Cell → Bool
  | .null, .null => true
  | .boolean a, .boolean b => a == b
  | .integer a, .integer b => a == b
  | .double a, .double b => a.equals b
  | .text a, .text b => a == b
  | _, _ => false

/-- The cell of a datum. Arrays and objects are kept as their text, and an integer that a cell
cannot hold becomes a double. -/
def ofJson : Json → Cell
  | .null => .null
  | .boolean value => .boolean value
  | .integer n =>
    match Text.wordOf? n with
    | some word => .integer word
    | none => .double (.ofInt n)
  | .double x => .double x
  | .text s => .text s
  | .array items => .text (Json.compact (.array items))
  | .object members => .text (Json.compact (.object members))

def toJson : Cell → Json
  | .null => .null
  | .boolean value => .boolean value
  | .integer n => .integer n.toInt
  | .double x => if x.isFinite then .double x else .null
  | .text s => .text s

end Cell

abbrev Row := List Cell

end TableQuery
