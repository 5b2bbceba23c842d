import TableQuery.Clause.Filter
import TableQuery.Delimited.Options
import TableQuery.Table.Duplicates
import TableQuery.Text.Quoted
import TableQuery.Toml.Printer
import TableQuery.Toml.Reader

/-! Settings in three sections: delimited text, queries and logging. What a document does not say
keeps its default, and keys that are no setting are passed over. -/

namespace TableQuery

structure Settings where
  separator : String := ","
  newline : String := "\r\n"
  stripNewlines : Bool := false
  inferTypes : Bool := false
  header : Bool := true
  caseSensitive : Bool := false
  duplicateCheck : DuplicateCheck := .firstField
  logLevel : String := "info"
deriving DecidableEq, Inhabited

inductive SettingsError
  | unreadable
  | separatorLength (separator : String)
  | emptyNewline
  | noFile (path : String)
deriving DecidableEq

def SettingsError.message : SettingsError → String
  | .unreadable => "Invalid configuration"
  | .separatorLength separator =>
    "csv.separator must be one or two characters, got " ++ Text.quoted separator
  | .emptyNewline => "csv.newline must not be empty"
  | .noFile path => "Failed to read config " ++ path

namespace Settings

def delimited (settings : Settings) : Delimited.Options where
  separator := settings.separator
  newline := settings.newline
  stripNewlines := settings.stripNewlines
  inferTypes := settings.inferTypes
  header := settings.header

def fault? (settings : Settings) : Option SettingsError :=
  let width := settings.separator.toList.length
  if width < 1 ∨ 2 < width then some (.separatorLength settings.separator)
  else if settings.newline.toList.isEmpty then some .emptyNewline
  else none

def textOr (default : String) : Option Toml → Option String
  | none => some default
  | some (.text value) => some value
  | some _ => none

def booleanOr (default : Bool) : Option Toml → Option Bool
  | none => some default
  | some (.boolean value) => some value
  | some _ => none

def checkOfName? : String → Option DuplicateCheck
  | "first-field" => some .firstField
  | "all-fields" => some .allFields
  | _ => none

def checkName : DuplicateCheck → String
  | .firstField => "first-field"
  | .allFields => "all-fields"

def isEmptyGroup : Toml → Bool
  | .array items => items.isEmpty
  | .table _ members => members.isEmpty
  | .tables members => members.isEmpty
  | _ => false

/-- A check is given by its name, or by an empty group under its name. -/
def checkOr (default : DuplicateCheck) : Option Toml → Option DuplicateCheck
  | none => some default
  | some (.text name) => checkOfName? name
  | some (.table _ [(name, group)]) => if isEmptyGroup group then checkOfName? name else none
  | some _ => none

/-- The values of a section in the order of its keys. A section is a table, or an array that gives
the values in this order, or a moment, which sets none of them. -/
def section? (keys : List String) : Option Toml → Option (List (Option Toml))
  | none => some (keys.map fun _ => none)
  | some (.table _ members) => some (keys.map fun key => members.lookup key)
  | some (.array items) => some (keys.mapIdx fun i _ => items[i]?)
  | some (.tables earlier) =>
    some (keys.mapIdx fun i _ => (earlier.reverse[i]?).map (.table .opened))
  | some (.moment _) => some (keys.map fun _ => none)
  | some _ => none

def ofMembers? (members : Toml.Members) : Option Settings := do
  let delimited ← section? ["separator", "newline", "strip_newlines", "infer_types", "header"]
    (members.lookup "csv")
  let [separator, newline, stripNewlines, inferTypes, header] := delimited | none
  let query ← section? ["case_sensitive", "duplicate_check"] (members.lookup "query")
  let [caseSensitive, duplicateCheck] := query | none
  let logging ← section? ["level"] (members.lookup "logging")
  let [level] := logging | none
  let default : Settings := {}
  return {
    separator := ← textOr default.separator separator
    newline := ← textOr default.newline newline
    stripNewlines := ← booleanOr default.stripNewlines stripNewlines
    inferTypes := ← booleanOr default.inferTypes inferTypes
    header := ← booleanOr default.header header
    caseSensitive := ← booleanOr default.caseSensitive caseSensitive
    duplicateCheck := ← checkOr default.duplicateCheck duplicateCheck
    logLevel := ← textOr default.logLevel level }

def read (document : String) : Except SettingsError Settings :=
  match (Toml.read? document).bind ofMembers? with
  | none => .error .unreadable
  | some settings =>
    match settings.fault? with
    | some fault => .error fault
    | none => .ok settings

def textLine (key value : String) : String :=
  key ++ " = " ++ String.ofList (Toml.written value.toList) ++ "\n"

def booleanLine (key : String) (value : Bool) : String :=
  key ++ " = " ++ (if value then "true" else "false") ++ "\n"

def write (settings : Settings) : String :=
  "[csv]\n" ++
  textLine "separator" settings.separator ++
  textLine "newline" settings.newline ++
  booleanLine "strip_newlines" settings.stripNewlines ++
  booleanLine "infer_types" settings.inferTypes ++
  booleanLine "header" settings.header ++
  "\n[query]\n" ++
  booleanLine "case_sensitive" settings.caseSensitive ++
  textLine "duplicate_check" (checkName settings.duplicateCheck) ++
  "\n[logging]\n" ++
  textLine "level" settings.logLevel

def commentedDefault : String := String.intercalate "\n" [
  "# Tabula Configuration File",
  "# Location: ~/.config/tabula/config.toml (Linux)",
  "#           ~/Library/Application Support/tabula/config.toml (macOS)",
  "#           %APPDATA%\\tabula\\config.toml (Windows)",
  "",
  "[csv]",
  "# Cell separator, one or two characters (\"\\t\" for TSV)",
  "separator = \",\"",
  "",
  "# Row terminator",
  "newline = \"\\r\\n\"",
  "",
  "# Remove line breaks inside cells when exporting",
  "strip_newlines = false",
  "",
  "# Turn numeric and boolean looking cells into typed values on load",
  "infer_types = false",
  "",
  "# First row holds the field names",
  "header = true",
  "",
  "[query]",
  "# Match values with exact case (wildcards are case-insensitive otherwise)",
  "case_sensitive = false",
  "",
  "# How duplicates are detected: \"first-field\" or \"all-fields\"",
  "duplicate_check = \"first-field\"",
  "",
  "[logging]",
  "# Default filter when RUST_LOG is not set (e.g. \"debug\", \"query=trace\")",
  "level = \"info\"",
  ""]

end Settings

end TableQuery
