import TableQuery.Proofs.StoreDurability

/-! Rectangular tables: every row has exactly one cell for each field. Edits bring new rows and
columns to the shape of the table, so whatever is asked of them a rectangular table stays
rectangular, and so do both tables of a store under its verbs. -/

namespace TableQuery

namespace Table

/-- Every row has exactly one cell for each field. -/
def Rectangular (table : Table) : Prop := ∀ row ∈ table.rows, row.length = table.fieldCount

instance (table : Table) : Decidable table.Rectangular :=
  inferInstanceAs (Decidable (∀ row ∈ table.rows, row.length = table.fieldCount))

inductive Edit
  | setCell (index : Nat) (field : FieldRef) (value : Cell)
  | reorder (fields : List FieldRef)
  | addRow (input : RowInput) (place : Option Nat)
  | addRows (inputs : List RowInput)
  | addColumn (name : String) (input : ColumnInput) (place : Option Nat)
  | removeRow (index : Nat)
  | removeRows (indices : List Nat)
  | removeColumn (field : FieldRef)
  | replaceRow (index : Nat) (input : RowInput)
  | renameField (field : FieldRef) (name : String)
  | sumColumns (average : Bool)
  | sumRows (name : String) (average : Bool)
  | pivot
  | removeDuplicates (fields : Option (List FieldRef)) (check : DuplicateCheck)
  | sortByKeys (keys : List SortKey)
  | sortByFlags (fields : List FieldRef) (descending : List Bool)
  | orderBy (clause : String)

/-- A table after an edit. Where there is no cell to set, the table stays as it is. -/
def edit (table : Table) : Edit → Table
  | .setCell index field value => (table.setCell? index field value).getD table
  | .reorder fields => table.reorder fields
  | .addRow input place => table.addRow input place
  | .addRows inputs => table.addRows inputs
  | .addColumn name input place => table.addColumn name input place
  | .removeRow index => table.removeRow index
  | .removeRows indices => table.removeRows indices
  | .removeColumn field => table.removeColumn field
  | .replaceRow index input => table.replaceRow index input
  | .renameField field name => table.renameField field name
  | .sumColumns average => table.sumColumns average
  | .sumRows name average => table.sumRows name average
  | .pivot => table.pivot
  | .removeDuplicates fields check => table.removeDuplicates fields check
  | .sortByKeys keys => table.sortByKeys keys
  | .sortByFlags fields descending => table.sortByFlags fields descending
  | .orderBy clause => table.orderBy clause

def edited (table : Table) (edits : List Edit) : Table := edits.foldl edit table

theorem normalizeRow_length (table : Table) (input : RowInput) :
    (table.normalizeRow input).length = table.fieldCount := by
  cases input with
  | cells cells => exact Row.fit_length table.fieldCount cells
  | keyed record => exact List.length_map _

theorem insertionPoint_le (length : Nat) (place : Option Nat) :
    insertionPoint length place ≤ length := by
  cases place with
  | none => exact Nat.le_refl length
  | some place => exact Nat.min_le_right place length

theorem resolve_lt {table : Table} {field : FieldRef} {column : Nat}
    (found : table.resolve field = some column) : column < table.fieldCount := by
  cases field with
  | name written =>
    have first : table.fields.findIdx? (· == written) = some column := found
    exact (List.findIdx?_eq_some_iff_getElem.mp first).1
  | position index =>
    rw [resolve] at found
    split at found
    next within =>
      cases found
      exact within
    next => cases found

theorem mem_modify {α : Type} {items : List α} {index : Nat} {change : α → α} {item : α}
    (member : item ∈ items.modify index change) :
    ∃ old ∈ items, item = old ∨ item = change old := by
  obtain ⟨place, here⟩ := List.mem_iff_getElem?.mp member
  rw [List.getElem?_modify] at here
  obtain ⟨old, present, made⟩ := Option.map_eq_some_iff.mp here
  refine ⟨old, List.mem_of_getElem? present, ?_⟩
  by_cases changed : index = place
  · exact .inr (by simpa [changed] using made.symm)
  · exact .inl (by simpa [changed] using made.symm)

theorem mem_zipWith {α β γ : Type} {combine : α → β → γ} {lefts : List α} {rights : List β}
    {item : γ} (member : item ∈ List.zipWith combine lefts rights) :
    ∃ left ∈ lefts, ∃ right ∈ rights, item = combine left right := by
  rw [← List.map_uncurry_zip_eq_zipWith] at member
  obtain ⟨pair, zipped, made⟩ := List.mem_map.mp member
  obtain ⟨left_member, right_member⟩ := List.of_mem_zip zipped
  exact ⟨pair.1, left_member, pair.2, right_member, made.symm⟩

theorem keepFirst_sublist (same : Row → Row → Bool) (kept rows : List Row) :
    (keepFirst same kept rows).Sublist rows := by
  induction rows generalizing kept with
  | nil => exact List.Sublist.refl []
  | cons row rows ih =>
    rw [keepFirst]
    split
    next => exact (ih kept).cons row
    next => exact (ih _).cons_cons row

theorem reorder_rectangular (table : Table) (fields : List FieldRef) :
    (table.reorder fields).Rectangular := by
  intro row member
  obtain ⟨old, _, rfl⟩ := List.mem_map.mp member
  simp [reorder, Row.project, fieldCount]

namespace Rectangular

variable {table : Table}

theorem with_rows (rect : table.Rectangular) {rows : List Row}
    (drawn : ∀ row ∈ rows, row ∈ table.rows ∨ row.length = table.fieldCount) :
    Rectangular { table with rows := rows } := by
  intro row member
  rcases drawn row member with old | new
  · exact rect row old
  · exact new

theorem with_sublist (rect : table.Rectangular) {rows : List Row}
    (within : rows.Sublist table.rows) : Rectangular { table with rows := rows } :=
  rect.with_rows fun _ member => .inl (within.subset member)

theorem setAt (rect : table.Rectangular) (index column : Nat) (value : Cell) :
    (table.setAt index column value).Rectangular := by
  apply rect.with_rows
  intro row member
  obtain ⟨old, present, rfl | rfl⟩ := mem_modify member
  · exact .inl present
  · exact .inr ((List.length_set).trans (rect old present))

theorem setCell? (rect : table.Rectangular) (index : Nat) (field : FieldRef) (value : Cell) :
    ((table.setCell? index field value).getD table).Rectangular := by
  cases made : table.setCell? index field value with
  | none => exact rect
  | some changed =>
    simp only [Table.setCell?, Option.bind_eq_bind, Option.bind_eq_some_iff] at made
    obtain ⟨column, _, cell, _, same⟩ := made
    cases same
    exact rect.setAt index column value

theorem addRow (rect : table.Rectangular) (input : RowInput) (place : Option Nat) :
    (table.addRow input place).Rectangular := by
  apply rect.with_rows
  intro row member
  rcases (List.mem_insertIdx (insertionPoint_le table.rowCount place)).mp member with new | old
  · exact .inr (new ▸ table.normalizeRow_length input)
  · exact .inl old

theorem addRows (rect : table.Rectangular) (inputs : List RowInput) :
    (table.addRows inputs).Rectangular :=
  List.foldlRecOn inputs _ rect fun _ kept input _ => kept.addRow input none

theorem addColumn (rect : table.Rectangular) (name : String) (input : ColumnInput)
    (place : Option Nat) : (table.addColumn name input place).Rectangular := by
  have within := insertionPoint_le table.fieldCount place
  intro row member
  obtain ⟨old, present, cell, _, rfl⟩ := mem_zipWith member
  have width : old.length = table.fieldCount := rect old present
  have wider : (table.addColumn name input place).fieldCount = table.fieldCount + 1 :=
    List.length_insertIdx_of_le_length within name
  rw [wider, insertCell, List.length_insertIdx_of_le_length, List.length_append,
    List.length_replicate]
  · omega
  · rw [List.length_append, List.length_replicate]
    omega

theorem removeRow (rect : table.Rectangular) (index : Nat) : (table.removeRow index).Rectangular :=
  rect.with_sublist (List.eraseIdx_sublist table.rows index)

theorem removeRows (rect : table.Rectangular) (indices : List Nat) :
    (table.removeRows indices).Rectangular :=
  List.foldlRecOn (descending indices) _ rect fun _ kept index _ => kept.removeRow index

theorem removeColumn (rect : table.Rectangular) (field : FieldRef) :
    (table.removeColumn field).Rectangular := by
  rw [Table.removeColumn]
  split
  next column found =>
    have within : column < table.fieldCount := resolve_lt found
    intro row member
    obtain ⟨old, present, rfl⟩ := List.mem_map.mp member
    have width : old.length = table.fieldCount := rect old present
    have narrower : (table.removeColumnAt column).fieldCount = table.fieldCount - 1 :=
      List.length_eraseIdx_of_lt within
    rw [narrower, List.length_eraseIdx_of_lt (by omega), width]
  next => exact rect

theorem replaceRow (rect : table.Rectangular) (index : Nat) (input : RowInput) :
    (table.replaceRow index input).Rectangular := by
  apply rect.with_rows
  intro row member
  rcases List.mem_or_eq_of_mem_set member with old | new
  · exact .inl old
  · exact .inr (new ▸ table.normalizeRow_length input)

theorem renameField (rect : table.Rectangular) (field : FieldRef) (name : String) :
    (table.renameField field name).Rectangular := by
  rw [Table.renameField]
  split
  next column found =>
    intro row member
    exact (rect row member).trans List.length_set.symm
  next => exact rect

theorem sumColumns (rect : table.Rectangular) (average : Bool) :
    (table.sumColumns average).Rectangular := by
  apply rect.with_rows
  intro row member
  rcases List.mem_append.mp member with old | new
  · exact .inl old
  · rw [List.mem_singleton.mp new, List.length_map, allColumns, List.length_range]
    exact .inr rfl

theorem pivot (rect : table.Rectangular) : table.pivot.Rectangular := by
  rw [Table.pivot]
  split
  next => exact rect
  next first others _ =>
    intro row member
    obtain ⟨offset, _, rfl⟩ := List.mem_mapIdx.mp member
    simp [columnAt, fieldCount]

theorem removeDuplicates (rect : table.Rectangular) (fields : Option (List FieldRef))
    (check : DuplicateCheck) : (table.removeDuplicates fields check).Rectangular := by
  rw [Table.removeDuplicates]
  split
  next => exact rect
  next => exact rect.with_sublist (keepFirst_sublist _ [] table.rows)

theorem sortByKeys (rect : table.Rectangular) (keys : List SortKey) :
    (table.sortByKeys keys).Rectangular :=
  rect.with_rows fun _ member => .inl (List.mem_mergeSort.mp member)

theorem edit (rect : table.Rectangular) (edit : Edit) : (table.edit edit).Rectangular := by
  cases edit with
  | setCell index field value => exact rect.setCell? index field value
  | reorder fields => exact table.reorder_rectangular fields
  | addRow input place => exact rect.addRow input place
  | addRows inputs => exact rect.addRows inputs
  | addColumn name input place => exact rect.addColumn name input place
  | removeRow index => exact rect.removeRow index
  | removeRows indices => exact rect.removeRows indices
  | removeColumn field => exact rect.removeColumn field
  | replaceRow index input => exact rect.replaceRow index input
  | renameField field name => exact rect.renameField field name
  | sumColumns average => exact rect.sumColumns average
  | sumRows name average => exact rect.addColumn name _ none
  | pivot => exact rect.pivot
  | removeDuplicates fields check => exact rect.removeDuplicates fields check
  | sortByKeys keys => exact rect.sortByKeys keys
  | sortByFlags fields descending => exact rect.sortByKeys _
  | orderBy clause => exact rect.sortByKeys _

theorem edited (rect : table.Rectangular) (edits : List Edit) : (table.edited edits).Rectangular :=
  List.foldlRecOn edits _ rect fun _ kept edit _ => kept.edit edit

theorem keepRows (rect : table.Rectangular) (positions : List Nat) :
    (table.keepRows positions).Rectangular := by
  apply rect.with_rows
  intro row member
  obtain ⟨index, _, here⟩ := List.mem_filterMap.mp member
  exact .inl (List.mem_of_getElem? here)

theorem assign (rect : table.Rectangular) (functions : Registry) (positions : List Nat)
    (assignment : Assignment) : (table.assign functions positions assignment).Rectangular := by
  rw [Table.assign]
  split
  next column _ =>
    refine List.foldlRecOn positions _ rect fun current kept index _ => ?_
    rw [assignAt]
    split
    next value _ => exact kept.setAt index column value
    next => exact kept
  next => exact rect

end Rectangular

end Table

namespace Store

structure Rectangular (store : Store) : Prop where
  backup : store.backup.Rectangular
  working : store.working.Rectangular

theorem answerTable_rectangular {store : Store} (rect : store.backup.Rectangular) (query : Query) :
    (store.answerTable query).Rectangular := by
  have filtered : (store.reset.filterWorking query.filter).Rectangular := by
    cases query.filter with
    | none => exact rect
    | some clause => exact rect.keepRows _
  have ordered : (orderTable (store.reset.filterWorking query.filter) query.order).Rectangular := by
    cases query.order with
    | none => exact filtered
    | some clause => exact filtered.sortByKeys _
  rw [answerTable]
  cases query.fields? with
  | none => exact ordered
  | some fields => exact Table.reorder_rectangular _ fields

theorem Rectangular.perform {store : Store} (rect : store.Rectangular) (verb : Verb) :
    (store.perform verb).2.Rectangular := by
  cases verb with
  | query query committed shape fields options =>
    have answer := answerTable_rectangular rect.backup query
    cases committed with
    | false => exact ⟨rect.backup, answer⟩
    | true => exact ⟨answer, answer⟩
  | update assignments clause =>
    have changed : ((Assignment.ofClause assignments).foldl
        (Table.assign store.engine.functions (store.reset.matching clause))
        store.backup).Rectangular :=
      List.foldlRecOn _ _ rect.backup fun _ kept assignment _ => kept.assign _ _ assignment
    exact ⟨changed, changed⟩
  | delete clause =>
    have smaller := rect.backup.removeRows (store.reset.matching clause)
    exact ⟨smaller, smaller⟩
  | insert rows =>
    have larger := rect.backup.addRows rows
    exact ⟨larger, larger⟩
  | distinct fields =>
    have smaller := rect.backup.removeDuplicates fields store.duplicateCheck
    exact ⟨smaller, smaller⟩
  | reset => exact ⟨rect.backup, rect.backup⟩

theorem Rectangular.after {store : Store} (rect : store.Rectangular) (verbs : List Verb) :
    (store.after verbs).Rectangular :=
  List.foldlRecOn verbs _ rect fun _ kept verb _ => kept.perform verb

end Store

/-- A rectangular table stays rectangular under all edits and, once it is wrapped in a store, under
all verbs, in the backup and in the working copy. -/
theorem rectangular_preserved {table : Table} (rect : table.Rectangular) (edits : List Table.Edit)
    (engine : Engine) (check : DuplicateCheck) (verbs : List Verb) :
    (table.edited edits).Rectangular ∧
      Store.Rectangular (Store.after
        { backup := table.edited edits, working := table.edited edits, engine := engine,
          duplicateCheck := check } verbs) := by
  have kept := rect.edited edits
  exact ⟨kept, Store.Rectangular.after ⟨kept, kept⟩ verbs⟩

theorem rectangular_preserved_people :
    let table : Table :=
      { fields := ["name", "age"], rows := [[.text "Ann", .integer 30], [.text "Bob", .null]] }
    let edits : List Table.Edit :=
      [.addColumn "city" (.cells [.text "Rome"]) (some 9), .addRow (.cells []) (some 0),
        .removeRows [7, 1, 1], .pivot]
    let verbs : List Verb :=
      [.insert [.cells []], .query { select := some "Bob, name" } true .matrix none {}, .reset]
    table.Rectangular ∧ (table.edited edits).Rectangular ∧
      Store.Rectangular (Store.after
        { backup := table.edited edits, working := table.edited edits, engine := {},
          duplicateCheck := .allFields } verbs) := by
  intro table edits verbs
  have rect : table.Rectangular := by decide
  exact ⟨rect, rectangular_preserved rect edits {} .allFields verbs⟩

end TableQuery
