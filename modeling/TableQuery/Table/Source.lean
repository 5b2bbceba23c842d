import TableQuery.Delimited.Reader
import TableQuery.Json.Reader
import TableQuery.Table.Basic

/-! Tables built from a matrix of cells, from records, from a data document and from delimited text.
A document is a matrix, a sequence of records or a pair of field list and matrix; its shape is
decided by its first element alone, and what does not fit its shape is rejected as a whole. -/

namespace TableQuery

inductive Header
  | names (fields : List String)
  | firstRow
  /-- Names "0", "1" and so on, as many as the first row has cells. -/
  | positional
deriving DecidableEq

inductive Shape
  | matrix
  | records
  | recordTable
  | unknown
deriving DecidableEq

inductive Rejection
  | rowNotArray
  | recordNotObject
  | malformedRecordTable
  | unknownShape
  | notADocument
deriving DecidableEq

namespace Rejection

def reason : Rejection → String
  | .rowNotArray => "matrix row is not an array"
  | .recordNotObject => "record sequence contains a non-object"
  | .malformedRecordTable => "record table has malformed fields or rows"
  | .unknownShape => "unrecognised data shape"
  | .notADocument => "JSON parse error"

def message (rejection : Rejection) : String :=
  "Source data rejected, table marked invalid: " ++ rejection.reason

end Rejection

def Shape.name : Shape → String
  | .matrix => "Matrix"
  | .records => "RecordSequence"
  | .recordTable => "RecordTable"
  | .unknown => "Unknown"

def Shape.classify : Json → Shape
  | .array [] => .matrix
  | .array (.array _ :: _) => .matrix
  | .array (.object _ :: _) => .records
  | .object members =>
    match Record.get? members "fields", Record.get? members "table" with
    | some (.array _), some (.array _) => .recordTable
    | _, _ => .unknown
  | _ => .unknown

namespace Table

def positionalNames (width : Nat) : List String :=
  (List.range width).map fun i => String.ofList (Text.digitChars i)

def ofMatrix (rows : List Row) : Header → Table
  | .names fields => { fields := fields, rows := rows }
  | .firstRow =>
    match rows with
    | [] => empty
    | first :: rest => { fields := first.map Cell.display, rows := rest }
  | .positional => { fields := positionalNames ((rows.head?.map List.length).getD 0), rows := rows }

def recordCell (record : Record) (field : String) : Cell :=
  match record.get? field with
  | some value => Cell.ofJson value
  | none => .null

def recordRow (fields : List String) (record : Record) : Row := fields.map (recordCell record)

/-- The first record gives the fields and their order. -/
def ofRecords (records : List Record) : Table :=
  let fields := (records.head?.map Record.keys).getD []
  { fields := fields, rows := records.map (recordRow fields) }

def rowOfJson? : Json → Option Row
  | .array items => some (items.map Cell.ofJson)
  | _ => none

def fieldOfJson? : Json → Option String
  | .text name => some name
  | .integer n => some (Json.integerLiteral n)
  | .double x => some (Json.doubleLiteral x)
  | _ => none

def itemsUnder (record : Record) (key : String) : List Json :=
  match record.get? key with
  | some (.array items) => items
  | _ => []

def ofJson? (document : Json) (header : Header) : Except Rejection Table :=
  match Shape.classify document, document with
  | .matrix, .array items =>
    match items.mapM rowOfJson? with
    | some rows => .ok (ofMatrix rows header)
    | none => .error .rowNotArray
  | .records, .array items =>
    match items.mapM Json.members? with
    | some records => .ok (ofRecords records)
    | none => .error .recordNotObject
  | .recordTable, .object members =>
    match (itemsUnder members "fields").mapM fieldOfJson?,
        (itemsUnder members "table").mapM rowOfJson? with
    | some fields, some rows => .ok { fields := fields, rows := rows }
    | _, _ => .error .malformedRecordTable
  | _, _ => .error .unknownShape

def readJson? (text : String) (header : Header) : Except Rejection Table :=
  match Json.read? text with
  | some document => ofJson? document header
  | none => .error .notADocument

def orInvalid : Except Rejection Table → Table
  | .ok table => table
  | .error _ => invalid

def ofJson (document : Json) (header : Header) : Table := orInvalid (ofJson? document header)

def cellOfText (options : Delimited.Options) (text : String) : Cell :=
  if options.inferTypes then Cell.infer text else .text text

def ofDelimitedRows (options : Delimited.Options) (rows : List (List String)) (header : Header) :
    Table :=
  let cells := fun (rows : List (List String)) => rows.map fun row => row.map (cellOfText options)
  match header, rows with
  | .firstRow, first :: rest => ofMatrix (cells rest) (.names first)
  | header, rows => ofMatrix (cells rows) header

def readDelimited (options : Delimited.Options) (text : String) (header : Header) : Table :=
  ofDelimitedRows options (Delimited.read options text) header

def ofDelimited (options : Delimited.Options) (text : String) : Table :=
  readDelimited options text (if options.header then .firstRow else .positional)

end Table

end TableQuery
