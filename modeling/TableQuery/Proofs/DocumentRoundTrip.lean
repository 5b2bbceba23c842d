import TableQuery.Table.Export
import TableQuery.Table.Source

/-! Tables given out as data documents and read back. Every cell that has a datum is the cell of its
datum, so a matrix, a pair of field list and matrix, and a sheet under its header come back as they
went. Records come back when the field names differ: then every name keeps its own member, in the
order of the columns. -/

namespace TableQuery

theorem mapM_map_eq_some {α β : Type} {read? : β → Option α} {write : α → β} {items : List α}
    (back : ∀ item ∈ items, read? (write item) = some item) :
    (items.map write).mapM read? = some items := by
  induction items with
  | nil => rfl
  | cons item items ih =>
    rw [List.map_cons, List.mapM_cons, back item List.mem_cons_self,
      ih fun other member => back other (List.mem_cons_of_mem item member)]
    rfl

namespace Cell

def hasDatum : Cell → Bool
  | .double x => x.isFinite
  | _ => true

theorem ofJson_toJson {cell : Cell} (stored : cell.hasDatum = true) :
    ofJson cell.toJson = cell := by
  cases cell with
  | integer n => simp only [toJson, ofJson, Text.wordOf?_toInt]
  | double x =>
    have finite : x.isFinite = true := stored
    rw [toJson, if_pos finite, ofJson]
  | _ => rfl

theorem map_ofJson_toJson {cells : List Cell} (stored : ∀ cell ∈ cells, cell.hasDatum = true) :
    cells.map (fun cell => ofJson cell.toJson) = cells := by
  have same : cells.map (fun cell => ofJson cell.toJson) = cells.map id :=
    List.map_congr_left fun cell member => ofJson_toJson (stored cell member)
  rw [same, List.map_id]

end Cell

namespace Record

theorem insert_of_fresh {key : String} (value : Json) {record : Record}
    (fresh : key ∉ record.keys) : record.insert key value = record ++ [(key, value)] := by
  induction record with
  | nil => rfl
  | cons member rest ih =>
    have apart : member.1 ≠ key := fun same => fresh (same ▸ List.mem_cons_self)
    have later : key ∉ keys rest := fun inside => fresh (List.mem_cons_of_mem _ inside)
    rw [insert, if_neg apart, ih later, List.cons_append]

theorem foldl_insert_of_fresh {α : Type} (key : α → String) (value : α → Json) (items : List α)
    (record : Record) (distinct : (record.keys ++ items.map key).Nodup) :
    items.foldl (fun record item => record.insert (key item) (value item)) record =
      record ++ items.map fun item => (key item, value item) := by
  induction items generalizing record with
  | nil => exact (List.append_nil record).symm
  | cons item items ih =>
    have fresh : key item ∉ record.keys := by
      intro inside
      exact (List.nodup_append.mp distinct).2.2 _ inside _ List.mem_cons_self rfl
    have still : (keys (record ++ [(key item, value item)]) ++ items.map key).Nodup := by
      rw [keys, List.map_append, List.append_assoc]
      exact distinct
    rw [List.foldl_cons, insert_of_fresh (value item) fresh, ih _ still, List.append_assoc]
    rfl

theorem get?_of_mem {record : Record} (distinct : record.keys.Nodup) {key : String} {value : Json}
    (member : (key, value) ∈ record) : record.get? key = some value := by
  induction record with
  | nil => cases member
  | cons first rest ih =>
    obtain ⟨fresh, distinct⟩ := List.nodup_cons.mp distinct
    rcases List.mem_cons.mp member with rfl | later
    · exact List.lookup_cons_self
    · have apart : key ≠ first.1 := by
        rintro rfl
        exact fresh (List.mem_map.mpr ⟨_, later, rfl⟩)
      rw [get?, List.lookup_cons, beq_eq_false_iff_ne.mpr apart]
      exact ih distinct later

end Record

namespace Table

def Storable (table : Table) : Prop := ∀ row ∈ table.rows, ∀ cell ∈ row, cell.hasDatum = true

instance (table : Table) : Decidable table.Storable :=
  inferInstanceAs (Decidable (∀ row ∈ table.rows, ∀ cell ∈ row, cell.hasDatum = true))

theorem ofJson_of_matrix {items : List Json} {rows : List Row}
    (shape : Shape.classify (.array items) = .matrix) (read : items.mapM rowOfJson? = some rows)
    (header : Header) : ofJson (.array items) header = ofMatrix rows header := by
  unfold ofJson ofJson?
  simp only [shape, read, orInvalid]

theorem ofJson_of_records {items : List Json} {records : List Record}
    (shape : Shape.classify (.array items) = .records)
    (read : items.mapM Json.members? = some records) (header : Header) :
    ofJson (.array items) header = ofRecords records := by
  unfold ofJson ofJson?
  simp only [shape, read, orInvalid]

theorem ofJson_of_recordTable {members : Record} {fields : List String} {rows : List Row}
    (shape : Shape.classify (.object members) = .recordTable)
    (names : (itemsUnder members "fields").mapM fieldOfJson? = some fields)
    (read : (itemsUnder members "table").mapM rowOfJson? = some rows) (header : Header) :
    ofJson (.object members) header = { fields := fields, rows := rows } := by
  unfold ofJson ofJson?
  simp only [shape, names, read, orInvalid]

section Rows

variable {rows : List Row} (stored : ∀ row ∈ rows, ∀ cell ∈ row, cell.hasDatum = true)

include stored

theorem mapM_rowOfJson? :
    (rows.map fun row => Json.array (row.map Cell.toJson)).mapM rowOfJson? = some rows := by
  apply mapM_map_eq_some
  intro row member
  rw [rowOfJson?, List.map_map]
  exact congrArg some (Cell.map_ofJson_toJson (stored row member))

theorem ofJson_matrixJson (header : Header) :
    ofJson (Exported.matrixJson rows) header = ofMatrix rows header := by
  have shape : Shape.classify (Exported.matrixJson rows) = .matrix := by cases rows <;> rfl
  exact ofJson_of_matrix shape (mapM_rowOfJson? stored) header

theorem ofJson_recordTable (fields : List String) (header : Header) :
    ofJson
        (RecordTable.toJson { fields := fields, rows := rows.map fun row => row.map Cell.toJson })
        header = { fields := fields, rows := rows } := by
  have names : (fields.map Json.text).mapM fieldOfJson? = some fields :=
    mapM_map_eq_some fun _ _ => rfl
  rw [RecordTable.toJson, List.map_map]
  apply ofJson_of_recordTable
  · rfl
  · exact names
  · exact mapM_rowOfJson? stored

theorem ofJson_sheet (fields : List String) :
    ofJson (Exported.matrixJson (fields.map Cell.text :: rows)) .firstRow =
      { fields := fields, rows := rows } := by
  have all_stored : ∀ row ∈ fields.map Cell.text :: rows, ∀ cell ∈ row, cell.hasDatum = true := by
    intro row member
    rcases List.mem_cons.mp member with rfl | data
    · intro cell inside
      obtain ⟨name, _, rfl⟩ := List.mem_map.mp inside
      rfl
    · exact stored row data
  have shown : (fields.map Cell.text).map Cell.display = fields := by
    rw [List.map_map]
    exact List.map_id fields
  rw [ofJson_matrixJson all_stored, ofMatrix, shown]

end Rows

section Records

variable {table : Table} {columns : List Nat} (distinct : (columns.map table.fieldName).Nodup)

include distinct

theorem recordOf_of_distinct (row : Row) :
    table.recordOf columns row =
      columns.map fun column => (table.fieldName column, (row.cellAt column).toJson) :=
  Record.foldl_insert_of_fresh _ _ columns [] distinct

theorem keys_recordOf (row : Row) :
    (table.recordOf columns row).keys = columns.map table.fieldName := by
  rw [recordOf_of_distinct distinct, Record.keys, List.map_map]
  rfl

theorem recordRow_recordOf {row : Row}
    (stored : ∀ cell ∈ Row.project row columns, cell.hasDatum = true) :
    recordRow (columns.map table.fieldName) (table.recordOf columns row) =
      Row.project row columns := by
  rw [recordRow, List.map_map]
  apply List.map_congr_left
  intro column member
  have keyed : (table.recordOf columns row).get? (table.fieldName column) =
      some (row.cellAt column).toJson := by
    apply Record.get?_of_mem
    · rw [keys_recordOf distinct]
      exact distinct
    · rw [recordOf_of_distinct distinct]
      exact List.mem_map_of_mem member
  have has : (row.cellAt column).hasDatum = true := stored _ (List.mem_map_of_mem member)
  rw [Function.comp_apply, recordCell, keyed]
  exact Cell.ofJson_toJson has

theorem ofJson_records {rows : List Row} (present : rows ≠ [])
    (stored : ∀ row ∈ rows.map (fun row => Row.project row columns),
      ∀ cell ∈ row, cell.hasDatum = true)
    (header : Header) :
    ofJson (.array ((rows.map (table.recordOf columns)).map Json.object)) header =
      { fields := columns.map table.fieldName,
        rows := rows.map fun row => Row.project row columns } := by
  have members : ((rows.map (table.recordOf columns)).map Json.object).mapM Json.members? =
      some (rows.map (table.recordOf columns)) := mapM_map_eq_some fun _ _ => rfl
  obtain ⟨first, others, rfl⟩ := List.exists_cons_of_ne_nil present
  have names : (((first :: others).map (table.recordOf columns)).head?.map Record.keys).getD [] =
      columns.map table.fieldName := keys_recordOf distinct first
  rw [ofJson_of_records rfl members, ofRecords, names, List.map_map]
  congr 1
  apply List.map_congr_left
  intro row member
  exact recordRow_recordOf distinct (stored _ (List.mem_map_of_mem member))

end Records

/-- What is given out as a document reads back as the selected part of the table: as a pair of field
list and matrix under any header, as a matrix under the selected names, as a sheet under its own
first row and, when the names differ and there is a row, as records. -/
theorem documents_read_back (table : Table) (fields : Option (List FieldRef))
    (options : Delimited.Options) (stored : (table.toTable fields).Storable) :
    (table.toTable fields).valid = true ∧
    (∀ header, ofJson (table.exportAs .recordTable fields options).toJson header =
      table.toTable fields) ∧
    ofJson (table.exportAs .matrix fields options).toJson (.names (table.toTable fields).fields) =
      table.toTable fields ∧
    ofJson (table.exportAs .spreadsheet fields options).toJson .firstRow = table.toTable fields ∧
    ((table.toTable fields).fields.Nodup → table.rows ≠ [] →
      ∀ header, ofJson (table.exportAs .records fields options).toJson header =
        table.toTable fields) := by
  refine ⟨rfl, ?_, ?_, ?_, ?_⟩
  · intro header
    exact ofJson_recordTable stored (table.selectedNames fields) header
  · exact ofJson_matrixJson stored (.names (table.selectedNames fields))
  · exact ofJson_sheet stored (table.selectedNames fields)
  · intro distinct present header
    exact ofJson_records distinct present stored header

theorem documents_read_back_ragged :
    let table : Table :=
      { fields := ["n", "t", "n"],
        rows := [[.double (.ofInt 30)], [.integer (-1), .text "null", .boolean true, .text "x"]] }
    let fields := some [FieldRef.name "t", .position 0, .name "absent"]
    (table.toTable fields).Storable ∧ (table.toTable fields).fields.Nodup ∧ table.rows ≠ [] ∧
      ofJson (table.exportAs .records fields {}).toJson .positional =
        { fields := ["t", "n"],
          rows := [[.null, .double (.ofInt 30)], [.text "null", .integer (-1)]] } := by
  intro table fields
  have stored : (table.toTable fields).Storable := by decide +kernel
  have distinct : (table.toTable fields).fields.Nodup := by decide
  have present : table.rows ≠ [] := by decide
  obtain ⟨_, _, _, _, records⟩ := documents_read_back table fields {} stored
  exact ⟨stored, distinct, present, records distinct present .positional⟩

end Table

end TableQuery
