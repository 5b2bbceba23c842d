import TableQuery.Proofs.ColumnEdits
import TableQuery.Proofs.DocumentRoundTrip
import TableQuery.Proofs.SessionFrames

/-! Rows put in at the end of a table. A new row is given by position, by the names of the fields or
as text, and each builder brings it to the field list in its own way. Cell by cell they agree, so
that records and delimited text put in are the rows of the tables read from them, padded to the
field list, and all that was there before stays as it was. -/

namespace TableQuery

namespace RowInput

def cellFor : RowInput → Nat → String → Cell
  | .cells given, column, _ => Row.cellAt given column
  | .keyed record, _, field => Table.recordCell record field

def rowFor (fields : List String) (input : RowInput) : Row := fields.mapIdx input.cellFor

theorem rowFor_length (fields : List String) (input : RowInput) :
    (input.rowFor fields).length = fields.length := List.length_mapIdx

theorem rowFor_cells (fields : List String) (given : List Cell) :
    (cells given).rowFor fields = Row.fit fields.length given := by
  apply List.ext_getElem?
  intro column
  by_cases within : column < fields.length
  · rw [Row.getElem?_fit within, rowFor, List.getElem?_mapIdx, List.getElem?_eq_getElem within]
    rfl
  · have behind : fields.length ≤ column := Nat.not_lt.mp within
    rw [List.getElem?_eq_none ((rowFor_length fields _).trans_le behind),
      List.getElem?_eq_none ((Row.fit_length _ _).trans_le behind)]

theorem rowFor_keyed (fields : List String) (record : Record) :
    (keyed record).rowFor fields = Table.recordRow fields record := by
  apply List.ext_getElem?
  intro column
  rw [rowFor, List.getElem?_mapIdx, Table.recordRow, List.getElem?_map]
  rfl

end RowInput

namespace Table

theorem normalizeRow_eq (table : Table) (input : RowInput) :
    table.normalizeRow input = input.rowFor table.fields := by
  cases input with
  | cells given => exact (RowInput.rowFor_cells table.fields given).symm
  | keyed record => exact (RowInput.rowFor_keyed table.fields record).symm

def appended (table : Table) (rows : List Row) : Table := { table with rows := table.rows ++ rows }

theorem addRow_none (table : Table) (input : RowInput) :
    table.addRow input none = table.appended [input.rowFor table.fields] := by
  rw [addRow, insertionPoint, rowCount, List.insertIdx_length_self, normalizeRow_eq, appended]

theorem addRows_eq (table : Table) (inputs : List RowInput) :
    table.addRows inputs = table.appended (inputs.map (RowInput.rowFor table.fields)) := by
  induction inputs generalizing table with
  | nil => rw [addRows, List.foldl_nil, List.map_nil, appended, List.append_nil]
  | cons input inputs ih =>
    rw [addRows, List.foldl_cons, ← addRows, ih, addRow_none]
    simp only [appended, List.map_cons, List.append_assoc, List.singleton_append]

section Records

variable {table : Table} (distinct : table.fields.Nodup) (stored : table.Storable)
include distinct stored

theorem recordRow_of_storable {row : Row} (member : row ∈ table.rows) :
    recordRow table.fields (table.recordOf table.allColumns row) =
      Row.fit table.fieldCount row := by
  have names : table.allColumns.map table.fieldName = table.fields := table.selectedNames_none
  have data : ∀ cell ∈ Row.project row table.allColumns, cell.hasDatum = true := by
    intro cell inside
    obtain ⟨column, _, rfl⟩ := List.mem_map.mp inside
    rw [Row.cellAt]
    cases reached : row[column]? with
    | none => rfl
    | some cell => exact stored row member cell (List.mem_of_getElem? reached)
  rw [← names] at distinct
  have back := recordRow_recordOf distinct data
  rw [names] at back
  rw [back, Row.fit_eq_project, allColumns]

theorem map_recordRow_toRecords :
    (table.toRecords none).map (recordRow table.fields) =
      table.rows.map (Row.fit table.fieldCount) := by
  rw [toRecords, List.map_map]
  exact List.map_congr_left fun row member => recordRow_of_storable distinct stored member

theorem ofRecords_toRecords (present : table.rows ≠ []) :
    ofRecords (table.toRecords none) =
      { fields := table.fields, rows := table.rows.map (Row.fit table.fieldCount) } := by
  have keys : ((table.toRecords none).head?.map Record.keys).getD [] = table.fields := by
    obtain ⟨first, others, rows⟩ := List.exists_cons_of_ne_nil present
    have named : table.allColumns.map table.fieldName = table.fields := table.selectedNames_none
    rw [← named] at distinct
    rw [toRecords, rows, ← named]
    exact keys_recordOf distinct first
  rw [ofRecords, keys, map_recordRow_toRecords distinct stored]

end Records

end Table

namespace Store

def appended (store : Store) (rows : List Row) : Store :=
  { store with backup := store.backup.appended rows, working := store.backup.appended rows }

theorem insert_eq (store : Store) (inputs : List RowInput) :
    store.insert inputs =
      (inputs.length, store.appended (inputs.map (RowInput.rowFor store.backup.fields))) := by
  have added := store.backup.addRows_eq inputs
  rw [insert, appended, ← added]
  rfl

/-- A name that stands twice in the field list is filled twice, a name without a field is dropped
and a field without a name is null. -/
example :
    let store := Store.ofTable { fields := ["a", "b", "a"], rows := [] }
    (store.insert [.keyed [("c", .integer 3), ("a", .integer 1)], .cells [.integer 4]]).2.backup =
      { fields := ["a", "b", "a"],
        rows := [[.integer 1, .null, .integer 1], [.integer 4, .null, .null]] } := by
  decide

theorem insert_toRecords (store : Store) {table : Table} (same : table.fields = store.backup.fields)
    (distinct : table.fields.Nodup) (stored : table.Storable) :
    store.insert ((table.toRecords none).map .keyed) =
      (table.rowCount, store.appended (table.rows.map (Row.fit store.fieldCount))) := by
  have rows : ((table.toRecords none).map RowInput.keyed).map (RowInput.rowFor table.fields) =
      table.rows.map (Row.fit table.fieldCount) := by
    rw [List.map_map, ← Table.map_recordRow_toRecords distinct stored]
    exact List.map_congr_left fun record _ => RowInput.rowFor_keyed table.fields record
  have width : table.fieldCount = store.fieldCount := congrArg List.length same
  rw [insert_eq, ← same, rows, width, List.length_map, Table.toRecords, List.length_map,
    Table.rowCount]

end Store

namespace Command

theorem read_insert {blank : Char} (gap : Text.isBlank blank = true) {typed : List Char}
    (filled : Text.trim typed ≠ []) :
    read (String.ofList ("insert".toList ++ blank :: typed)) =
      .ok (.insert (String.ofList (Text.trim typed))) := by
  have asked (rest : List Char) : readVerb "insert".toList rest =
      (required "insert" "<csv row>" rest).map fun rest => .insert (.ofList rest) := by rfl
  rw [read_line (by decide) (Text.no_blank_of_any (by decide)) gap, asked, required,
    List.isEmpty_eq_false_iff.mpr filled, if_neg Bool.false_ne_true]
  rfl

end Command

namespace Session

theorem insertedRows_eq (settings : Settings) (text : String) :
    insertedRows settings text =
      (Table.ofDelimited { settings.delimited with header := false } text).rows.map .cells := by
  have rows : (Table.ofDelimited { settings.delimited with header := false } text).rows =
      (Delimited.read settings.delimited text).map
        (List.map (Table.cellOfText settings.delimited)) := rfl
  rw [rows, List.map_map]
  rfl

theorem execute_insert {session : Session} {store : Store} (present : session.store = some store)
    (time text : String) :
    let options := { session.settings.delimited with header := false }
    let rows := (Table.ofDelimited options text).rows.map (Row.fit store.fieldCount)
    ∃ journal,
      session.execute time (.insert text) =
        .done (.ok (.message ("Inserted " ++ Store.countText rows.length ++ " rows")),
          { session with store := some (store.appended rows), journal := journal }) := by
  intro options rows
  have inserted : store.insert (insertedRows session.settings text) =
      (rows.length, store.appended rows) := by
    have fitted : (insertedRows session.settings text).map (RowInput.rowFor store.backup.fields) =
        rows := by
      rw [insertedRows_eq, List.map_map]
      exact List.map_congr_left fun row _ => RowInput.rowFor_cells store.backup.fields row
    rw [Store.insert_eq, fitted, ← fitted, List.length_map]
  have performed : store.perform (.insert (insertedRows session.settings text)) =
      (.count rows.length, store.appended rows) := by
    rw [Store.perform, inserted]
  obtain ⟨journal, made⟩ := perform_eq present time (.insert (insertedRows session.settings text))
    (countMessage "Inserted " " rows")
  rw [performed] at made
  exact ⟨journal, congrArg Step.done made⟩

end Session

namespace Store

/-- Rows put in come after the rows that were there, one for each input and each with one cell for
each field, and nothing else changes. Records of a table with the same fields, which differ and hold
no not-a-number and no infinity, are its rows padded, and so is the table that is read from these
records. A line of the shell puts in the padded rows of the table that is read from its text. -/
theorem insert_appends (store : Store) :
    (∀ inputs : List RowInput,
      let rows := inputs.map (RowInput.rowFor store.backup.fields)
      store.insert inputs = (inputs.length, store.appended rows) ∧
      ∀ row ∈ rows, row.length = store.fieldCount) ∧
    (∀ table : Table, table.fields = store.backup.fields → table.fields.Nodup → table.Storable →
      let records := table.toRecords none
      let rows := table.rows.map (Row.fit store.fieldCount)
      store.insert (records.map .keyed) = (table.rowCount, store.appended rows) ∧
      (table.rows ≠ [] → Table.ofRecords records = { fields := table.fields, rows := rows })) ∧
    ∀ session : Session, session.store = some store →
      ∀ blank typed, Text.isBlank blank = true → Text.trimmed typed ≠ "" →
      let options := { session.settings.delimited with header := false }
      let rows := (Table.ofDelimited options (Text.trimmed typed)).rows.map
        (Row.fit store.fieldCount)
      Command.read (String.ofList ("insert".toList ++ blank :: typed.toList)) =
        .ok (.insert (Text.trimmed typed)) ∧
      ∀ time, ∃ journal,
        session.execute time (.insert (Text.trimmed typed)) =
          .done (.ok (.message ("Inserted " ++ countText rows.length ++ " rows")),
            { session with store := some (store.appended rows), journal := journal }) := by
  refine ⟨?inputs, ?records, ?typed⟩
  case inputs =>
    intro inputs rows
    refine ⟨store.insert_eq inputs, ?_⟩
    intro row member
    obtain ⟨input, _, rfl⟩ := List.mem_map.mp member
    exact input.rowFor_length store.backup.fields
  case records =>
    intro table same distinct stored records rows
    refine ⟨store.insert_toRecords same distinct stored, ?_⟩
    intro present
    have width : table.fieldCount = store.fieldCount := congrArg List.length same
    simp only [rows, ← width]
    exact Table.ofRecords_toRecords distinct stored present
  case typed =>
    intro session present blank typed gap filled options rows
    have visible : Text.trim typed.toList ≠ [] := by
      intro nothing
      rw [Text.trimmed, nothing] at filled
      exact filled rfl
    exact ⟨Command.read_insert gap visible,
      fun time => Session.execute_insert present time (Text.trimmed typed)⟩

theorem insert_appends_ragged :
    let store := Store.ofTable { fields := ["a", "b"], rows := [[.text "old"]] }
    let table : Table :=
      { fields := ["a", "b"], rows := [[.integer 1], [.null, .boolean true, .text "cut"]] }
    let session : Session := { settings := { inferTypes := true }, store := some store }
    let rows := [[.integer 1, .null], [.null, .boolean true]]
    let typedRows := [[.integer 5, .null], [.text "x", .text " y"]]
    (store.insert ((table.toRecords none).map .keyed)).2 = store.appended rows ∧
      (Table.ofRecords (table.toRecords none)).rows = rows ∧
      Command.read "insert\t 5\r\nx, y,z " = .ok (.insert "5\r\nx, y,z") ∧
      ∃ journal, session.execute "" (.insert "5\r\nx, y,z") =
        .done (.ok (.message "Inserted 2 rows"),
          { session with store := some (store.appended typedRows), journal := journal }) := by
  intro store table session rows typedRows
  obtain ⟨_, records, typed⟩ := insert_appends store
  obtain ⟨inserted, built⟩ := records table rfl (by decide) (by decide)
  obtain ⟨read, executed⟩ := typed session rfl '\t' " 5\r\nx, y,z " (by decide) (by decide)
  have text : Text.trimmed " 5\r\nx, y,z " = "5\r\nx, y,z" := by decide
  have given : (Table.ofDelimited { session.settings.delimited with header := false }
      "5\r\nx, y,z").rows.map (Row.fit store.fieldCount) = typedRows := by decide +kernel
  have count : countText typedRows.length = "2" := by decide
  rw [text, given, count] at executed
  rw [text] at read
  refine ⟨congrArg Prod.snd inserted, ?_, read, executed ""⟩
  rw [built (by decide)]
  rfl

end Store

end TableQuery
