import TableQuery.Json.Reader
import TableQuery.Table.Basic

/-! The stored form of a table: an object of its fields and rows, or the two as a pair, where every
cell carries the name of its kind. A member that is missing or comes twice makes the form
unreadable; members of other names are passed over. -/

namespace TableQuery.Table

def taggedCell : Cell → Json
  | .null => .text "Null"
  | .boolean value => .object [("Boolean", .boolean value)]
  | .integer n => .object [("Integer", .integer n.toInt)]
  | .double x => .object [("Float", if x.isFinite then .double x else .null)]
  | .text s => .object [("String", .text s)]

def toTagged (table : Table) : Json :=
  .object [("fields", .array (table.fields.map Json.text)),
    ("rows", .array (table.rows.map fun row => .array (row.map taggedCell)))]

def cellOfTagged? : Json → Option Cell
  | .text "Null" => some .null
  | .object [("Null", .null)] => some .null
  | .object [("Boolean", .boolean value)] => some (.boolean value)
  | .object [("Integer", .integer n)] => (Text.wordOf? n).map .integer
  | .object [("Float", .integer n)] => some (.double (.ofInt n))
  | .object [("Float", .double x)] => if x.isFinite then some (.double x) else none
  | .object [("String", .text s)] => some (.text s)
  | _ => none

def nameOfTagged? : Json → Option String
  | .text name => some name
  | _ => none

def rowOfTagged? : Json → Option Row
  | .array cells => cells.mapM cellOfTagged?
  | _ => none

def ofParts? : Json → Json → Option Table
  | .array fields, .array rows => do
    let fields ← fields.mapM nameOfTagged?
    let rows ← rows.mapM rowOfTagged?
    return { fields := fields, rows := rows }
  | _, _ => none

def onlyUnder? (members : Record) (key : String) : Option Json :=
  match members.filter (·.1 == key) with
  | [(_, value)] => some value
  | _ => none

def ofTagged? : Json → Option Table
  | .object members => do
    let fields ← onlyUnder? members "fields"
    let rows ← onlyUnder? members "rows"
    ofParts? fields rows
  | .array [fields, rows] => ofParts? fields rows
  | _ => none

/-- Inside a member that is neither the fields nor the rows. -/
def isPassedOver (frames : List Json.Frame) : Bool :=
  match frames.getLast? with
  | some (.object _ key) => key != "fields" && key != "rows"
  | _ => false

def readTagged? (text : String) : Option Table :=
  (Json.readVerbatim? isPassedOver text).bind ofTagged?

end TableQuery.Table
