import TableQuery.Assignment
import TableQuery.Table.Duplicates
import TableQuery.Table.Export
import TableQuery.Table.Search
import TableQuery.Table.Sort
import TableQuery.Table.Totals

/-! A store holds a table twice: the backup, which lasts, and a working copy, which every verb makes
anew from the backup. A query changes the backup only when it is committed; the verbs that edit
always commit. -/

namespace TableQuery

structure Query where
  select : Option String := none
  filter : Option String := none
  order : Option String := none
deriving DecidableEq, Inhabited

def fieldList (text : String) : List FieldRef :=
  (((Text.splitAt ',' text.toList).map Text.trim).filter (!·.isEmpty)).map fun name =>
    .name (String.ofList name)

namespace Query

/-- Nothing and a star select every field. -/
def fieldsOf (select : String) : Option (List FieldRef) :=
  let chars := Text.trim select.toList
  if chars.isEmpty || chars == ['*'] then none else some (fieldList (String.ofList chars))

def fields? (query : Query) : Option (List FieldRef) := query.select.bind fieldsOf

end Query

structure Store where
  backup : Table
  working : Table
  engine : Engine := {}
  duplicateCheck : DuplicateCheck := .firstField

inductive Verb
  | query (query : Query) (commit : Bool) (shape : OutputShape) (fields : Option (List FieldRef))
      (options : Delimited.Options)
  | update (assignments clause : String)
  | delete (clause : String)
  | insert (rows : List RowInput)
  | distinct (fields : Option (List FieldRef))
  | reset

inductive Answer
  | exported (exported : Exported)
  | count (count : Nat)
  | nothing

namespace Table

def keepRows (table : Table) (positions : List Nat) : Table :=
  { table with rows := positions.filterMap table.row? }

def assignAt (functions : Registry) (assignment : Assignment) (column : Nat) (table : Table)
    (index : Nat) : Table :=
  match (table.row? index).bind fun row =>
      assignment.newCell? functions (Row.cellAt row column) with
  | some value => table.setAt index column value
  | none => table

/-- One assignment to the rows at some positions. An unknown field is passed over. -/
def assign (functions : Registry) (positions : List Nat) (table : Table) (assignment : Assignment) :
    Table :=
  match table.fieldIndex? assignment.field with
  | some column => positions.foldl (assignAt functions assignment column) table
  | none => table

end Table

namespace Store

def ofTable (table : Table) : Store := { backup := table, working := table }

def rowCount (store : Store) : Nat := store.backup.rowCount

def fieldCount (store : Store) : Nat := store.backup.fieldCount

/-- A clause with its values in single quotes; callers may write double ones. -/
def singleQuoted (clause : String) : String :=
  String.ofList (clause.toList.map fun c => if c = '"' then '\'' else c)

def reset (store : Store) : Store := { store with working := store.backup }

def commit (store : Store) : Store := { store with backup := store.working }

def matching (store : Store) (clause : String) : List Nat :=
  store.engine.positions store.working (singleQuoted clause)

def filterWorking (store : Store) : Option String → Table
  | some clause => store.working.keepRows (store.matching clause)
  | none => store.working

def orderTable (table : Table) : Option String → Table
  | some clause => table.orderBy clause
  | none => table

def selectFields (table : Table) : Option (List FieldRef) → Table
  | some fields => table.reorder fields
  | none => table

def answerTable (store : Store) (query : Query) : Table :=
  selectFields (orderTable (store.reset.filterWorking query.filter) query.order) query.fields?

def query (store : Store) (query : Query) (committed : Bool) : Store :=
  let store := { store with working := store.answerTable query }
  if committed then store.commit else store

/-- All rows that match are found before any is changed. -/
def update (store : Store) (assignments clause : String) : Nat × Store :=
  let store := store.reset
  let positions := store.matching clause
  let working := (Assignment.ofClause assignments).foldl
    (Table.assign store.engine.functions positions) store.working
  (positions.length, { store with working := working }.commit)

def delete (store : Store) (clause : String) : Nat × Store :=
  let store := store.reset
  let positions := store.matching clause
  (positions.length, { store with working := store.working.removeRows positions }.commit)

def insert (store : Store) (rows : List RowInput) : Nat × Store :=
  let store := store.reset
  (rows.length, { store with working := store.working.addRows rows }.commit)

def distinct (store : Store) (fields : Option (List FieldRef)) : Nat × Store :=
  let store := store.reset
  let working := store.working.removeDuplicates fields store.duplicateCheck
  (store.working.rowCount - working.rowCount, { store with working := working }.commit)

def perform (store : Store) : Verb → Answer × Store
  | .query query committed shape fields options =>
    let store := store.query query committed
    (.exported (store.working.exportAs shape fields options), store)
  | .update assignments clause =>
    let (count, store) := store.update assignments clause
    (.count count, store)
  | .delete clause =>
    let (count, store) := store.delete clause
    (.count count, store)
  | .insert rows =>
    let (count, store) := store.insert rows
    (.count count, store)
  | .distinct fields =>
    let (count, store) := store.distinct fields
    (.count count, store)
  | .reset => (.nothing, store.reset)

def countText (n : Nat) : String := String.ofList (Text.digitChars n)

def commitNote (store : Store) : String := "Committed " ++ countText store.rowCount ++ " rows"

def notes (verb : Verb) (answer : Answer) (store : Store) : List String :=
  match verb, answer with
  | .query _ true _ _ _, _ => [store.commitNote]
  | .update _ _, .count n => ["update touched " ++ countText n ++ " rows", store.commitNote]
  | .delete _, .count n => ["delete removed " ++ countText n ++ " rows", store.commitNote]
  | .insert _, .count n => ["insert appended " ++ countText n ++ " rows", store.commitNote]
  | .distinct _, .count n => ["distinct removed " ++ countText n ++ " rows", store.commitNote]
  | _, _ => []

end Store

end TableQuery
