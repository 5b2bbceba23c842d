import TableQuery.Session.Basic

/-! What the shell shows: a table in aligned columns with at most two hundred of its rows, the other
outcomes as they are, and the help page. -/

namespace TableQuery.Screen

def rowLimit : Nat := 200

/-- A null cell is named here, so that it differs from an empty text. -/
def cellText : Cell → String
  | .null => "NULL"
  | cell => cell.display

def pad (width : Nat) (text : String) : String :=
  text ++ String.ofList (List.replicate (width - text.length) ' ')

def widthOf (texts : List String) : Nat := texts.foldl (fun width text => max width text.length) 0

def columnWidths (rows : List (List String)) (columns : Nat) : List Nat :=
  (List.range columns).map fun column => widthOf (rows.map fun row => (row[column]?).getD "")

def gridLine (widths : List Nat) (row : List String) : String :=
  String.intercalate " | " (List.zipWith pad widths row)

def rule (widths : List Nat) : String :=
  String.intercalate "-+-" (widths.map fun width => String.ofList (List.replicate width '-'))

def gridLines (table : Table) : List String :=
  let shown := (table.toMatrix none).take rowLimit
  let rows := shown.map fun row => row.map cellText
  let widths := columnWidths (table.fields :: rows) table.fieldCount
  gridLine widths table.fields :: rule widths :: rows.map (gridLine widths)

def hiddenLines (table : Table) : List String :=
  if table.rowCount ≤ rowLimit then []
  else ["... " ++ Store.countText (table.rowCount - rowLimit) ++ " more rows not shown"]

def tableLines (table : Table) : List String :=
  if table.isEmpty then ["No results found."]
  else gridLines table ++ hiddenLines table ++
    ["", Store.countText table.rowCount ++ " rows returned"]

def commandLines : List String :=
  [("load <path>", "Load a CSV, TSV or JSON file"),
    ("fields", "List field names and types"),
    ("show", "Show every row"),
    ("where <clause>", "Filter rows, e.g. where name=\"J_n\" AND age!=\"30\""),
    ("sort <order-by>", "Sort rows, e.g. sort age DESC, name"),
    ("select <fields> [where <clause>]", "Project fields, optionally filtered"),
    ("update <set> where <clause>",
      "Assign values, e.g. update age=\"$add(1)\" where OR*=\"%x%\""),
    ("delete <clause>", "Remove matching rows"),
    ("insert <csv row>", "Append a row"),
    ("distinct [fields]", "Remove duplicate rows"),
    ("commit on|off", "Make query results replace the data"),
    ("export csv|json|records [file]", "Print or write the last result"),
    ("logs [n]", "Show recent log entries"),
    ("help", "Show this help"),
    ("quit", "Exit")].map fun (command, purpose) => "  " ++ pad 34 command ++ " - " ++ purpose

def helpLines (predicates setters : List String) : List String :=
  ["Tabula - in-memory table shell", "", "Usage:",
    "  tabula [--generate-config] [FILE.csv|FILE.tsv|FILE.json]", "", "Commands:"] ++
  commandLines ++
  ["", "Clause syntax:",
    "  field=\"value\" / field!=\"value\"   % matches any run, _ one character",
    "  AND binds tighter than OR; use ( ) to group",
    "  OR*=\"x\" / AND*=\"x\" test every field",
    "  field=\"$gt(10)\" calls a predicate: " ++ String.intercalate " " predicates,
    "  update field=\"$add(1)\" calls a setter: " ++ String.intercalate " " setters, ""]

def outcomeLines : Outcome → List String
  | .table table => tableLines table
  | .text text => [text]
  | .message text => [text]
  | .help predicates setters => helpLines predicates setters
  | .quit => []

/-- The prompt has a star while query results replace the data. -/
def prompt (session : Session) : String := if session.commit then "tabula*> " else "tabula> "

def twoDigits (n : Nat) : String := if n < 10 then "0" ++ Store.countText n else Store.countText n

def clockText (milliseconds : Nat) : String :=
  let seconds := milliseconds / 1000
  let rest := milliseconds % 1000
  twoDigits (seconds / 3600 % 24) ++ ":" ++ twoDigits (seconds / 60 % 60) ++ ":" ++
    twoDigits (seconds % 60) ++ "." ++ (if rest < 100 then "0" else "") ++ twoDigits rest

end TableQuery.Screen
