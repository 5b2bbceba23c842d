import TableQuery.Proofs.AssignmentText
import TableQuery.Proofs.QuotedValue
import TableQuery.Proofs.StoreUpdate

/-! Counted rows of an update that sets one field to a text. The clause looks at a missing cell as
at a null, so it selects rows that end before the field as well, and the update counts every row
that it selects. But a cell is only set where there is one. So a counted row holds the text just
when it reaches the field, and a shorter one stays as it was. -/

namespace TableQuery

theorem Assignment.isField_of_letters {field : List Char} (present : field ≠ [])
    (letters : ∀ c ∈ field, Text.isAlphanumeric c = true) : IsField field where
  present := present
  trimmed := Text.trim_of_no_blank fun c member => Text.isBlank_of_isAlphanumeric (letters c member)
  plain c member sign := by
    have others : signs.any Text.isAlphanumeric = false := by decide +kernel
    exact List.any_eq_false.mp others c sign (letters c member)

def Assignment.ofText (field value : String) : String := field ++ "='" ++ value ++ "'"

theorem Assignment.ofClause_ofText {field value : String} (named : field ≠ "")
    (letters : ∀ c ∈ field.toList, Text.isAlphanumeric c = true) (single : '\'' ∉ value.toList)
    (literal : Call.parse? value.toList = none) :
    ofClause (ofText field value) = [{ field := field, value := .literal value }] := by
  have present : field.toList ≠ [] := by simpa using named
  have text : ofText field value = String.ofList (written field.toList '\'' value.toList) := by
    rw [← String.toList_inj, String.toList_ofList]
    simp [ofText, written, quoted]
  rw [text, ofClause_written (isField_of_letters present letters) (.inl rfl) single, valueOf,
    literal, String.ofList_toList, String.ofList_toList]

theorem Row.assign_literal (functions : Registry) {fields : List String} {field text : String}
    {column : Nat} (found : fields.idxOf? field = some column) (row : Row) :
    Row.assign functions fields row { field := field, value := .literal text } =
      row.set column (.text text) :=
  Row.assign_of_column functions found row

namespace Store

section OfText

variable {store : Store} {field value clause : String} {column : Nat} (named : field ≠ "")
  (letters : ∀ c ∈ field.toList, Text.isAlphanumeric c = true)
  (found : store.backup.fieldIndex? field = some column) (single : '\'' ∉ value.toList)
  (literal : Call.parse? value.toList = none)
include named letters found single literal

theorem update_ofText_backup :
    (store.update (Assignment.ofText field value) clause).2.backup =
      { store.backup with
        rows := store.backup.rows.mapIdx fun index row =>
          if index ∈ store.reset.matching clause then row.set column (.text value) else row } := by
  -- No place is selected twice, so each row is set once.
  have once : (store.reset.matching clause).Nodup :=
    store.engine.positions_nodup store.backup (singleQuoted clause)
  have made : (store.update (Assignment.ofText field value) clause).2.backup =
      (Assignment.ofClause (Assignment.ofText field value)).foldl
        (Table.assign store.engine.functions (store.reset.matching clause)) store.backup := rfl
  rw [made, Assignment.ofClause_ofText named letters single literal, List.foldl_cons,
    List.foldl_nil, Table.assign_eq store.engine.functions once]
  simp only [Row.assign_literal store.engine.functions found]

theorem row_update_ofText {index : Nat} {row : Row} (here : store.backup.rows[index]? = some row)
    (selected : store.selects clause row = true) :
    (store.update (Assignment.ofText field value) clause).2.backup.rows[index]? =
      some (row.set column (.text value)) := by
  have member : index ∈ store.reset.matching clause :=
    (store.mem_matching_reset clause).mpr ⟨row, here, selected⟩
  rw [update_ofText_backup named letters found single literal, List.getElem?_mapIdx, here,
    Option.map_some, if_pos member]

theorem cell?_update_ofText {index : Nat} {row : Row} (here : store.backup.rows[index]? = some row)
    (selected : store.selects clause row = true) :
    (store.update (Assignment.ofText field value) clause).2.backup.cell? index (.name field) =
      if column < row.length then some (.text value) else none := by
  have resolved :
      (store.update (Assignment.ofText field value) clause).2.backup.resolve (.name field) =
        some column := by
    rw [update_ofText_backup named letters found single literal]
    exact found
  rw [Table.cell?, resolved, Table.row?,
    row_update_ofText named letters found single literal here selected]
  exact List.getElem?_set.trans (if_pos rfl)

end OfText

/-- An update that sets a field to a text counts the rows that its clause selects. A counted row
holds the text exactly when it reaches the field; one that ends before it has no cell there and
stays as it was. -/
theorem counted_rows_read_back (store : Store) (field value clause : String) (column : Nat)
    (named : field ≠ "") (letters : ∀ c ∈ field.toList, Text.isAlphanumeric c = true)
    (found : store.backup.fieldIndex? field = some column) (single : '\'' ∉ value.toList)
    (literal : Call.parse? value.toList = none) :
    let counted := (store.update (Assignment.ofText field value) clause).1
    let after := (store.update (Assignment.ofText field value) clause).2.backup
    counted = store.backup.rows.countP (store.selects clause) ∧
    ∀ index row, store.backup.rows[index]? = some row → store.selects clause row = true →
      (after.cell? index (.name field) = some (.text value) ↔ column < row.length) ∧
      (row.length ≤ column →
        after.cell? index (.name field) = none ∧ after.rows[index]? = some row) := by
  intro counted after
  refine ⟨store.update_count clause _, fun index row here selected => ?_⟩
  rw [cell?_update_ofText named letters found single literal here selected,
    row_update_ofText named letters found single literal here selected]
  refine ⟨by simp, fun short => ⟨if_neg (Nat.not_lt.mpr short), ?_⟩⟩
  rw [List.set_eq_of_length_le short]

theorem counted_rows_read_back_ragged :
    let store := ofTable
      { fields := ["id", "name"],
        rows := [[.text "1", .text "Ann"], [.text "2"], [.text "3", .null, .text "x"]] }
    let value := "a, \"b\" (c)=d"
    ("name" ≠ "" ∧ (∀ c ∈ "name".toList, Text.isAlphanumeric c = true) ∧
        store.backup.fieldIndex? "name" = some 1 ∧ '\'' ∉ value.toList ∧
        Call.parse? value.toList = none) ∧
      (store.update (Assignment.ofText "name" value) "id!='1'").1 = 2 ∧
      (store.update (Assignment.ofText "name" value) "id!='1'").2.backup.cell? 2 (.name "name") =
        some (.text value) ∧
      (store.update (Assignment.ofText "name" value) "id!='1'").2.backup.rows[1]? =
        some [.text "2"] := by
  intro store value
  have letters : ∀ c ∈ "name".toList, Text.isAlphanumeric c = true :=
    List.all_eq_true.mp (by decide +kernel)
  have found : store.backup.fieldIndex? "name" = some 1 := by decide +kernel
  have single : '\'' ∉ value.toList := by decide +kernel
  have literal : Call.parse? value.toList = none := by decide +kernel
  obtain ⟨counted, reads⟩ := counted_rows_read_back store "name" value "id!='1'" 1 (by decide)
    letters found single literal
  have long := reads 2 [.text "3", .null, .text "x"] rfl (by decide +kernel)
  have short := reads 1 [.text "2"] rfl (by decide +kernel)
  refine ⟨⟨by decide, letters, found, single, literal⟩, ?_, long.1.mpr (by decide),
    (short.2 (by decide)).2⟩
  rw [counted]
  decide +kernel

/-- Delimited text gives a row that ends before the field. The clause selects it and the update
counts it, but it still has no cell there. -/
theorem short_row_counted_unset :
    let store := ofTable (Table.ofDelimited {} "id,name\r\n1,Ann\r\n2\r\n")
    let answer := store.update (Assignment.ofText "name" "Bea") "id='2'"
    ((∀ c ∈ "name".toList, Text.isAlphanumeric c = true) ∧
        store.backup.fieldIndex? "name" = some 1 ∧ '\'' ∉ "Bea".toList ∧
        Call.parse? "Bea".toList = none) ∧
      store.backup.rows = [[.text "1", .text "Ann"], [.text "2"]] ∧
      store.selects "id='2'" [.text "2"] = true ∧
      answer.1 = 1 ∧
      answer.2.backup.rows = [[.text "1", .text "Ann"], [.text "2"]] ∧
      answer.2.backup.cell? 1 (.name "name") = none := by
  intro store answer
  have letters : ∀ c ∈ "name".toList, Text.isAlphanumeric c = true :=
    List.all_eq_true.mp (by decide +kernel)
  exact ⟨⟨letters, by decide +kernel, by decide +kernel, by decide +kernel⟩, by decide +kernel,
    by decide +kernel, by decide +kernel, by decide +kernel, by decide +kernel⟩

end Store

end TableQuery
