import TableQuery.Proofs.RowRemoval
import TableQuery.Proofs.SearchPositions

/-! One clause selects one set of rows. A query keeps the selected rows, a deletion keeps all
others, an update and a deletion count them, and a search lists them in each of its styles. The two
sets of positions share out the rows of the backup, so nothing is lost and nothing is kept twice. -/

namespace TableQuery

/-- Two lists of positions that share out the rows of a table, both in the order of the rows. -/
structure Table.SharedOut (table : Table) (chosen others : List Nat) : Prop where
  chosen_rise : chosen.Pairwise (· < ·)
  others_rise : others.Pairwise (· < ·)
  each_once : (chosen ++ others).Perm (List.range table.rowCount)

namespace Table

variable (table : Table) (test : Row → Bool)

theorem sharedOut_places :
    table.SharedOut (places test table.rows) (places (fun row => !test row) table.rows) where
  chosen_rise := places_strict test table.rows
  others_rise := places_strict _ table.rows
  each_once := places_append_perm test table.rows

theorem keepRows_places :
    table.keepRows (places test table.rows) = { table with rows := table.rows.filter test } := by
  rw [keepRows]
  exact congrArg (fun rows => { table with rows := rows }) (filterMap_places test table.rows)

theorem removeRows_places :
    table.removeRows (places test table.rows) =
      { table with rows := table.rows.filter fun row => !test row } := by
  rw [removeRows_eq, ← map_fst_filter_zipIdx _ table.rows 0]
  congr 2
  apply List.filter_congr
  intro place member
  have here : table.rows[place.2]? = some place.1 := List.mem_zipIdx_iff_getElem?.mp member
  have chosen : place.2 ∈ places test table.rows ↔ test place.1 = true := by
    rw [mem_places, here]
    simp
  cases passes : test place.1 <;> simp [chosen, passes]

end Table

namespace Store

variable (store : Store) (clause : String)

theorem matching_reset :
    store.reset.matching clause = places (store.selects clause) store.backup.rows := rfl

theorem matching_length :
    (store.reset.matching clause).length = store.backup.rows.countP (store.selects clause) := by
  rw [matching_reset, places_length]

def rejected : Table :=
  { store.backup with rows := store.backup.rows.filter fun row => !store.selects clause row }

theorem query_filter_working (committed : Bool) :
    (store.query { filter := some clause } committed).working =
      { store.backup with rows := store.backup.rows.filter (store.selects clause) } := by
  have kept : store.answerTable { filter := some clause } =
      store.backup.keepRows (store.reset.matching clause) := rfl
  rw [matching_reset, Table.keepRows_places] at kept
  cases committed <;> exact kept

theorem delete_eq :
    store.delete clause =
      (store.backup.rows.countP (store.selects clause),
        { store with backup := store.rejected clause, working := store.rejected clause }) := by
  have working : store.backup.removeRows (store.reset.matching clause) = store.rejected clause := by
    rw [matching_reset, Table.removeRows_places, rejected]
  rw [← working, ← matching_length]
  rfl

theorem update_count (assignments : String) :
    (store.update assignments clause).1 = store.backup.rows.countP (store.selects clause) :=
  store.matching_length clause

theorem delete_again :
    (store.delete clause).2.delete clause = (0, (store.delete clause).2) := by
  have none_left : (store.rejected clause).rows.countP (store.selects clause) = 0 := by
    rw [List.countP_eq_zero]
    intro row member
    have refused := (List.mem_filter.mp member).2
    simpa using refused
  have all_stay : (store.rejected clause).rows.filter (fun row => !store.selects clause row) =
      (store.rejected clause).rows := by
    rw [rejected, List.filter_filter]
    simp only [Bool.and_self]
  rw [delete_eq, delete_eq]
  refine Prod.ext none_left ?_
  -- The deletion changed neither the fields nor the engine, so the clause still means the same.
  have settled : { store with
      backup := store.rejected clause, working := store.rejected clause }.rejected clause =
        store.rejected clause :=
    congrArg (fun rows => { store.backup with rows := rows }) all_stay
  rw [settled]

/-- For every clause the rows of the backup are shared out between chosen ones and others. A query
with this filter keeps the chosen rows and a deletion the others, deletions and updates count the
chosen rows, a search lists them in each of its styles, and a second deletion finds none. -/
theorem verbs_select_alike :
    ∃ chosen others : List Nat,
      store.backup.SharedOut chosen others ∧
      (∀ index, index ∈ chosen ↔
        ∃ row, store.backup.rows[index]? = some row ∧ store.selects clause row = true) ∧
      (∀ committed, (store.query { filter := some clause } committed).working =
        store.backup.keepRows chosen) ∧
      (store.delete clause).2.backup = store.backup.keepRows others ∧
      (∀ committed,
        (store.delete clause).1 =
          (store.query { filter := some clause } committed).working.rowCount ∧
        ∀ assignments, (store.update assignments clause).1 =
          (store.query { filter := some clause } committed).working.rowCount) ∧
      store.backup.searchWith store.engine (singleQuoted clause) .positions = .positions chosen ∧
      store.backup.searchWith store.engine (singleQuoted clause) .rows =
        .rows (store.backup.keepRows chosen).rows ∧
      store.backup.searchWith store.engine (singleQuoted clause) .table =
        .table { fields := store.backup.fields, rows := (store.backup.keepRows chosen).rows } ∧
      store.backup.searchWith store.engine (singleQuoted clause) .records =
        .records ((store.backup.keepRows chosen).rows.map
          (store.backup.recordOf store.backup.allColumns)) ∧
      (store.delete clause).2.delete clause = (0, (store.delete clause).2) := by
  have kept := store.backup.keepRows_places (store.selects clause)
  have left := store.backup.keepRows_places fun row => !store.selects clause row
  refine ⟨places (store.selects clause) store.backup.rows,
    places (fun row => !store.selects clause row) store.backup.rows,
    store.backup.sharedOut_places (store.selects clause),
    fun index => mem_places (store.selects clause) store.backup.rows, ?_, ?_, ?_, rfl, ?_, ?_, ?_,
    store.delete_again clause⟩
  · intro committed
    rw [query_filter_working, kept]
  · rw [delete_eq, left, rejected]
  · intro committed
    have filtered : (store.query { filter := some clause } committed).working.rowCount =
        store.backup.rows.countP (store.selects clause) := by
      rw [query_filter_working, List.countP_eq_length_filter]
      rfl
    rw [filtered, delete_eq]
    exact ⟨rfl, fun assignments => store.update_count clause assignments⟩
  · rw [kept]
    rfl
  · rw [kept]
    rfl
  · rw [kept]
    rfl

end Store

end TableQuery
