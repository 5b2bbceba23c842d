import TableQuery.Proofs.SearchPositions

/-! Updates as a map of rows. The store carries out one assignment after another, each on all
selected rows; row by row this is the same as carrying out all assignments on one row after the
other. The rows selected stay those selected before the first assignment. -/

namespace TableQuery

/-- A row after one assignment. The row stays as it is where no field has the name, where the row
does not reach the first field of that name, and where the setter is not registered. -/
def Row.assign (functions : Registry) (fields : List String) (row : Row)
    (assignment : Assignment) : Row :=
  match fields.idxOf? assignment.field with
  | none => row
  | some column =>
    match row[column]? with
    | none => row
    | some current =>
      match assignment.value with
      | .literal text => row.set column (.text text)
      | .call call =>
        match functions.setter? call.name with
        | none => row
        | some setter => row.set column (setter current call.args)

theorem mapIdx_eq_map {α : Type} {items : List α} {change : Nat → α → α} {same : α → α}
    (uniform : ∀ index item, items[index]? = some item → change index item = same item) :
    items.mapIdx change = items.map same := by
  apply List.ext_getElem?
  intro index
  rw [List.getElem?_mapIdx, List.getElem?_map]
  exact Option.map_congr (uniform index)

theorem mapIdx_eq_self {α : Type} {change : Nat → α → α}
    (kept : ∀ index item, change index item = item) (items : List α) :
    items.mapIdx change = items := by
  have mapped : items.mapIdx change = items.map id :=
    mapIdx_eq_map fun index item _ => kept index item
  rw [mapped, List.map_id]

theorem foldl_modify {α : Type} (change : α → α) {positions : List Nat} (once : positions.Nodup)
    (items : List α) :
    positions.foldl (fun items index => items.modify index change) items =
      items.mapIdx fun index item => if index ∈ positions then change item else item := by
  induction positions generalizing items with
  | nil =>
    exact (mapIdx_eq_self (by simp) items).symm
  | cons first positions ih =>
    obtain ⟨fresh, once⟩ := List.nodup_cons.mp once
    rw [List.foldl_cons, ih once]
    apply List.ext_getElem?
    intro index
    by_cases here : index = first
    · subst here
      rw [List.getElem?_mapIdx, List.getElem?_mapIdx, List.getElem?_modify_eq]
      cases items[index]? <;> simp [fresh]
    · have elsewhere : first ≠ index := fun same => here same.symm
      simp [here, elsewhere]

theorem modify_congr {α : Type} {items : List α} {index : Nat} {first second : α → α}
    (same : ∀ item, items[index]? = some item → first item = second item) :
    items.modify index first = items.modify index second := by
  apply List.ext_getElem?
  intro place
  by_cases here : index = place
  · subst here
    rw [List.getElem?_modify_eq, List.getElem?_modify_eq]
    exact Option.map_congr same
  · rw [List.getElem?_modify_ne _ _ here, List.getElem?_modify_ne _ _ here]

theorem Row.assign_of_unknown (functions : Registry) {fields : List String}
    {assignment : Assignment} (unknown : fields.idxOf? assignment.field = none) (row : Row) :
    Row.assign functions fields row assignment = row := by
  simp only [Row.assign, unknown]

theorem Row.assign_of_reached (functions : Registry) {fields : List String}
    {assignment : Assignment} {column : Nat}
    (found : fields.idxOf? assignment.field = some column) {row : Row} {current : Cell}
    (reached : row[column]? = some current) :
    Row.assign functions fields row assignment =
      ((assignment.newCell? functions current).map (row.set column)).getD row := by
  simp only [Row.assign, found, reached, Assignment.newCell?]
  cases assignment.value with
  | literal text => rfl
  | call call => cases registered : functions.setter? call.name <;> simp [registered]

/-- Where the row ends before the column, the cell read in its place makes no difference. -/
theorem Row.assign_of_column (functions : Registry) {fields : List String}
    {assignment : Assignment} {column : Nat}
    (found : fields.idxOf? assignment.field = some column) (row : Row) :
    Row.assign functions fields row assignment =
      ((assignment.newCell? functions (row.cellAt column)).map (row.set column)).getD row := by
  cases reached : row[column]? with
  | none =>
    have short : row.length ≤ column := List.getElem?_eq_none_iff.mp reached
    have kept : Row.assign functions fields row assignment = row := by
      simp only [Row.assign, found, reached]
    cases assignment.newCell? functions (row.cellAt column) with
    | none => exact kept
    | some value => exact kept.trans (List.set_eq_of_length_le short).symm
  | some current =>
    rw [Row.assign_of_reached functions found reached, Row.cellAt, reached, Option.getD_some]

namespace Table

variable (functions : Registry) (positions : List Nat)

theorem assignAt_eq (assignment : Assignment) {column : Nat} (table : Table)
    (found : table.fields.idxOf? assignment.field = some column) (index : Nat) :
    assignAt functions assignment column table index =
      { table with
        rows := table.rows.modify index fun row =>
          Row.assign functions table.fields row assignment } := by
  rw [assignAt]
  split
  next value given =>
    obtain ⟨row, present, given⟩ := Option.bind_eq_some_iff.mp given
    rw [setAt]
    congr 1
    apply modify_congr
    intro item here
    have same : row = item := Option.some.inj (present.symm.trans here)
    rw [Row.assign_of_column functions found, ← same, given]
    rfl
  next absent =>
    have kept : table.rows.modify index
        (fun row => Row.assign functions table.fields row assignment) = table.rows := by
      refine (modify_congr fun row here => ?_).trans (List.modify_id index table.rows)
      have unset := Option.bind_eq_none_iff.mp absent row here
      rw [Row.assign_of_column functions found, unset]
      rfl
    rw [kept]

theorem foldl_assignAt_eq (assignment : Assignment) {column : Nat} (table : Table)
    (found : table.fields.idxOf? assignment.field = some column) (positions : List Nat) :
    positions.foldl (assignAt functions assignment column) table =
      { table with
        rows := positions.foldl
          (fun rows index => rows.modify index fun row =>
            Row.assign functions table.fields row assignment) table.rows } := by
  induction positions generalizing table with
  | nil => rfl
  | cons index positions ih =>
    rw [List.foldl_cons, assignAt_eq functions assignment table found]
    exact ih _ found

theorem assign_eq {positions : List Nat} (once : positions.Nodup) (table : Table)
    (assignment : Assignment) :
    table.assign functions positions assignment =
      { table with
        rows := table.rows.mapIdx fun index row =>
          if index ∈ positions then Row.assign functions table.fields row assignment
          else row } := by
  cases found : table.fields.idxOf? assignment.field with
  | some column =>
    have same : table.fieldIndex? assignment.field = some column := found
    simp only [assign, same]
    rw [foldl_assignAt_eq functions assignment table found, foldl_modify _ once]
  | none =>
    have same : table.fieldIndex? assignment.field = none := found
    simp only [assign, same]
    rw [mapIdx_eq_self fun index row => ?_]
    rw [Row.assign_of_unknown functions found, ite_self]

/-- All assignments to all selected rows are one pass over the rows as well, in which a selected
row takes the assignments from left to right. -/
theorem foldl_assign_eq {positions : List Nat} (once : positions.Nodup) (table : Table)
    (assignments : List Assignment) :
    assignments.foldl (assign functions positions) table =
      { table with
        rows := table.rows.mapIdx fun index row =>
          if index ∈ positions then assignments.foldl (Row.assign functions table.fields) row
          else row } := by
  induction assignments generalizing table with
  | nil => rw [mapIdx_eq_self (by simp)]; rfl
  | cons assignment assignments ih =>
    rw [List.foldl_cons, assign_eq functions once, ih, List.mapIdx_mapIdx]
    congr 2
    funext index row
    by_cases selected : index ∈ positions <;> simp [selected]

end Table

namespace Store

def updatedRow (store : Store) (assignments clause : String) (row : Row) : Row :=
  if store.selects clause row then
    (Assignment.ofClause assignments).foldl
      (Row.assign store.engine.functions store.backup.fields) row
  else row

def updated (store : Store) (assignments clause : String) : Table :=
  { store.backup with rows := store.backup.rows.map (store.updatedRow assignments clause) }

/-- An update changes each row by itself, counts the rows selected, and leaves both tables equal. -/
theorem update_eq (store : Store) (assignments clause : String) :
    store.update assignments clause =
      (store.backup.rows.countP (store.selects clause),
        { store with
          backup := store.updated assignments clause
          working := store.updated assignments clause }) := by
  have once : (store.reset.matching clause).Nodup :=
    store.engine.positions_nodup store.backup (singleQuoted clause)
  have count : (store.reset.matching clause).length =
      store.backup.rows.countP (store.selects clause) :=
    store.engine.positions_length store.backup (singleQuoted clause)
  -- The positions were found in the backup, so being one of them is being a row it selects.
  have rows : store.backup.rows.mapIdx (fun index row =>
      if index ∈ store.reset.matching clause then
        (Assignment.ofClause assignments).foldl
          (Row.assign store.engine.functions store.backup.fields) row
      else row) = store.backup.rows.map (store.updatedRow assignments clause) := by
    apply mapIdx_eq_map
    intro index row here
    have member : index ∈ store.reset.matching clause ↔ store.selects clause row = true := by
      rw [mem_matching_reset, here]
      simp
    simp only [member, updatedRow]
  have working : (Assignment.ofClause assignments).foldl
      (Table.assign store.engine.functions (store.reset.matching clause)) store.backup =
        store.updated assignments clause := by
    rw [Table.foldl_assign_eq store.engine.functions once, rows, updated]
  rw [← count]
  exact congrArg (fun table => ((store.reset.matching clause).length,
    { store with backup := table, working := table })) working

end Store

end TableQuery
