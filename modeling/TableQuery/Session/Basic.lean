import TableQuery.Command
import TableQuery.Function.Builtin
import TableQuery.Journal
import TableQuery.Settings
import TableQuery.Store

/-! A session carries out commands on a store. It touches no file itself: a command that needs one
asks for it, and goes on with whatever the answer is. -/

namespace TableQuery

inductive Outcome
  | table (table : Table)
  | text (text : String)
  | message (text : String)
  | help (predicates setters : List String)
  | quit
deriving DecidableEq

inductive SessionError
  | noData
  | cannotRead (path : String)
  | cannotWrite (path : String)
  | notTabular (path : String)
deriving DecidableEq

def SessionError.message : SessionError → String
  | .noData => "No data loaded. Use 'load <file>' first."
  | .cannotRead path => "Failed to read " ++ path
  | .cannotWrite path => "Failed to write " ++ path
  | .notTabular path => path ++ " does not contain tabular data"

structure Session where
  settings : Settings := {}
  functions : Registry := Registry.builtins
  store : Option Store := none
  commit : Bool := false
  journal : Journal := {}

abbrev Reply := Except SessionError Outcome × Session

/-- A command up to its end or to the file it asks for. -/
inductive Step
  | done (reply : Reply)
  | read (path : String) (resume : Option String → Reply)
  | write (path : String) (text : String) (resume : Bool → Reply)

def Store.configure (store : Store) (settings : Settings) : Store :=
  { store with
    engine := { store.engine with caseSensitive := settings.caseSensitive },
    duplicateCheck := settings.duplicateCheck }

namespace Session

def storeOf (session : Session) (table : Table) : Store :=
  { Store.ofTable table with engine := { functions := session.functions } }.configure
    session.settings

def withTable (session : Session) (table : Table) : Session :=
  { session with store := some (session.storeOf table) }

def note (time : String) (session : Session) (level : Level) (message : String) : Session :=
  { session with journal := session.journal.record time level "store" message }

def noteAll (time : String) (session : Session) (messages : List String) : Session :=
  messages.foldl (fun session message => session.note time .info message) session

def perform (time : String) (session : Session) (verb : Verb) (outcome : Answer → Outcome) :
    Reply :=
  match session.store with
  | none => (.error .noData, session)
  | some store =>
    let (answer, store) := store.perform verb
    let session := noteAll time session (Store.notes verb answer store)
    (.ok (outcome answer), { session with store := some store })

def showQuery (time : String) (session : Session) (query : Query) : Reply :=
  session.perform time (.query query session.commit .table none {}) fun answer =>
    match answer with
    | .exported (.table table) => .table table
    | _ => .table .empty

def countMessage (before after : String) : Answer → Outcome
  | .count n => .message (before ++ Store.countText n ++ after)
  | _ => .message (before ++ after)

def fieldLine (name : String) (kind : Kind) : String := name ++ " (" ++ kind.name ++ ")"

def fieldLines (table : Table) : String :=
  String.intercalate "\n" (List.zipWith fieldLine table.fields table.columnKinds)

def insertedRows (settings : Settings) (text : String) : List RowInput :=
  (Delimited.read settings.delimited text).map fun row =>
    .cells (row.map (Table.cellOfText settings.delimited))

/-- The extension of a file name: what follows its last point, unless that is its first
character. -/
def extensionOf (path : String) : String :=
  let name := (path.toList.reverse.takeWhile (· != '/'))
  match Text.cutAt '.' name with
  | some (reversed, before) =>
    if before.isEmpty || (reversed.isEmpty && before == ['.']) then ""
    else Text.lowercase (String.ofList reversed.reverse)
  | none => ""

def occurs (piece : List Char) : List Char → Bool
  | [] => piece.isEmpty
  | c :: rest => piece.isPrefixOf (c :: rest) || occurs piece rest

/-- The options for a file: tabs divide its cells if its extension asks for it, and its own line
ends are followed. -/
def fileOptions (options : Delimited.Options) (extension text : String) : Delimited.Options :=
  let options := if extension = "tsv" then { options with separator := "\t" } else options
  if !occurs options.newline.toList text.toList && text.toList.contains '\n' then
    { options with newline := "\n" }
  else options

def tableOfFile (options : Delimited.Options) (path text : String) : Except Rejection Table :=
  let extension := extensionOf path
  if extension = "json" then
    Table.readJson? text (if options.header then .firstRow else .positional)
  else .ok (Table.ofDelimited (fileOptions options extension text) text)

def loadedMessage (path : String) (table : Table) : String :=
  "Loaded " ++ Store.countText table.rowCount ++ " rows x " ++
    Store.countText table.fieldCount ++ " fields from " ++ path

def finishLoad (time : String) (session : Session) (path : String) : Option String → Reply
  | none => (.error (.cannotRead path), session)
  | some text =>
    match tableOfFile session.settings.delimited path text with
    | .error rejection =>
      (.error (.notTabular path), session.note time .warn rejection.message)
    | .ok table =>
      let message := loadedMessage path table
      (.ok (.message message), (session.note time .info message).withTable table)

def formatted (settings : Settings) (table : Table) : FileFormat → String
  | .delimited => table.toDelimited settings.delimited none
  | .recordTable => Json.pretty (table.toRecordTable none).toJson
  | .records => Json.pretty (.array ((table.toRecords none).map Json.object))

def finishGive (session : Session) (path : String) (table : Table) (written : Bool) : Reply :=
  if written then
    (.ok (.message ("Exported " ++ Store.countText table.rowCount ++ " rows to " ++ path)), session)
  else (.error (.cannotWrite path), session)

def give (session : Session) (format : FileFormat) (path : Option String) : Step :=
  match session.store with
  | none => .done (.error .noData, session)
  | some store =>
    let text := formatted session.settings store.working format
    match path with
    | none => .done (.ok (.text text), session)
    | some path => .write path text (finishGive session path store.working)

def listFields (session : Session) : Reply :=
  match session.store with
  | none => (.error .noData, session)
  | some store => (.ok (.text (fieldLines store.backup)), session)

def setCommit (session : Session) (on : Bool) : Reply :=
  let change := if on then "now replace" else "no longer replace"
  (.ok (.message ("Query results " ++ change ++ " the data")), { session with commit := on })

def execute (time : String) (session : Session) : Command → Step
  | .load path => .read path (session.finishLoad time path)
  | .fields => .done session.listFields
  | .list => .done (session.showQuery time {})
  | .filter clause => .done (session.showQuery time { filter := some clause })
  | .sort clause => .done (session.showQuery time { order := some clause })
  | .select fields clause =>
    .done (session.showQuery time { select := some fields, filter := clause })
  | .update assignments clause =>
    .done (session.perform time (.update assignments clause) (countMessage "Updated " " rows"))
  | .delete clause =>
    .done (session.perform time (.delete clause) (countMessage "Deleted " " rows"))
  | .insert text =>
    .done (session.perform time (.insert (insertedRows session.settings text))
      (countMessage "Inserted " " rows"))
  | .distinct fields =>
    .done (session.perform time (.distinct (fields.map fieldList))
      (countMessage "Removed " " duplicate rows"))
  | .commit on => .done (session.setCommit on)
  | .give format path => session.give format path
  | .logs count =>
    .done (.ok (.text (String.intercalate "\n"
      ((session.journal.recent count).map Entry.display))), session)
  | .help =>
    .done (.ok (.help session.functions.predicateNames session.functions.setterNames), session)
  | .quit => .done (.ok .quit, session)

end Session

end TableQuery
