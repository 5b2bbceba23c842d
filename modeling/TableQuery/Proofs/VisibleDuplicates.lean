import Mathlib.Data.List.Forall2
import TableQuery.Proofs.DuplicateRows
import TableQuery.Proofs.Rectangular

/-! What the removal of duplicates leaves to be seen. A missing cell is shown as a null, yet it
matches no null when rows are compared. So a row that ends early and a row that holds nulls in its
place both stay and are shown alike. This is the only way in which rows that stay can be alike, and
it takes rows that end early. -/

namespace TableQuery

def Row.Alike (a b : Row) : Prop := List.Forall₂ (fun x y => Cell.equals x y = true) a b

/-- The one row ends before a column where the other holds a null. -/
def Row.EndsBeforeNull (column : Nat) (a b : Row) : Prop :=
  a[column]? = none ∧ b[column]? = some .null

def Table.ShowsAlike (table : Table) (first second : Nat) : Prop :=
  ∃ a b, (table.toMatrix none)[first]? = some a ∧ (table.toMatrix none)[second]? = some b ∧
    a.Alike b

namespace Row

variable {a b : Row}

theorem alike_project_iff {columns : List Nat} :
    (Row.project a columns).Alike (Row.project b columns) ↔
      ∀ column ∈ columns, (a.cellAt column).equals (b.cellAt column) = true := by
  rw [Alike, project, project, List.forall₂_map_left_iff, List.forall₂_map_right_iff,
    List.forall₂_same]

theorem same_or_endsBeforeNull {column : Nat}
    (equal : (a.cellAt column).equals (b.cellAt column) = true) :
    Cell.Same a[column]? b[column]? ∨ EndsBeforeNull column a b ∨ EndsBeforeNull column b a := by
  rw [cellAt, cellAt] at equal
  cases here : a[column]? with
  | none =>
    cases there : b[column]? with
    | none => exact .inl .missing
    | some y =>
      rw [here, there] at equal
      cases y with
      | null => exact .inr (.inl ⟨here, there⟩)
      | _ => cases equal
  | some x =>
    cases there : b[column]? with
    | none =>
      rw [here, there] at equal
      cases x with
      | null => exact .inr (.inr ⟨there, here⟩)
      | _ => cases equal
    | some y =>
      rw [here, there] at equal
      exact .inl (Cell.same_of_equals equal)

end Row

namespace Table

variable {table : Table}

theorem fields_removeDuplicates (fields : Option (List FieldRef)) (check : DuplicateCheck) :
    (table.removeDuplicates fields check).fields = table.fields := by
  rw [removeDuplicates]
  split <;> rfl

theorem mem_of_kept {fields : Option (List FieldRef)} {check : DuplicateCheck} {row : Row}
    (member : row ∈ (table.removeDuplicates fields check).rows) : row ∈ table.rows := by
  rw [removeDuplicates] at member
  split at member
  · exact member
  · exact (keepFirst_sublist _ [] table.rows).subset member

/-- As no two of the rows that stay match, those shown alike differ in what they are missing. -/
theorem endsBeforeNull_of_kept (named : table.fields ≠ []) {first second : Nat}
    (different : first ≠ second)
    (alike : (table.removeDuplicates none .allFields).ShowsAlike first second) :
    ∃ a b, (table.removeDuplicates none .allFields).rows[first]? = some a ∧
      (table.removeDuplicates none .allFields).rows[second]? = some b ∧
      ∃ column < table.fieldCount,
        Row.EndsBeforeNull column a b ∨ Row.EndsBeforeNull column b a := by
  have selected : table.selectedColumns none ≠ [] := by
    simpa [selectedColumns, allColumns, fieldCount] using named
  obtain ⟨_, _, shown, shown', alike⟩ := alike
  rw [toMatrix, selectedColumns_removeDuplicates, projectRows, List.getElem?_map,
    Option.map_eq_some_iff] at shown shown'
  obtain ⟨a, here, rfl⟩ := shown
  obtain ⟨b, there, rfl⟩ := shown'
  refine ⟨a, b, here, there, ?_⟩
  by_contra absent
  apply not_matches_of_kept selected different here there
  intro column member
  rcases Row.same_or_endsBeforeNull (Row.alike_project_iff.mp alike column member) with
    same | ends
  · exact same
  · exact absurd ⟨column, List.mem_range.mp member, ends⟩ absent

end Table

namespace Store

/-- Under the check of all fields, two rows that stay are shown alike only if one of them ends
before a column where the other holds a null. So none are shown alike where every row reaches the
last field. -/
theorem distinct_alike (store : Store) (all : store.duplicateCheck = .allFields)
    (named : store.backup.fields ≠ []) :
    let kept := (store.distinct none).2.backup
    (∀ first second, first ≠ second → kept.ShowsAlike first second →
      ∃ a b, kept.rows[first]? = some a ∧ kept.rows[second]? = some b ∧
        ∃ column < kept.fieldCount, Row.EndsBeforeNull column a b ∨ Row.EndsBeforeNull column b a) ∧
    ((∀ row ∈ store.backup.rows, store.backup.fieldCount ≤ row.length) →
      ∀ first second, first ≠ second → ¬kept.ShowsAlike first second) := by
  intro kept
  have removed : kept = store.backup.removeDuplicates none .allFields := by
    rw [← all]
    rfl
  have width : kept.fieldCount = store.backup.fieldCount := by
    rw [removed, Table.fieldCount, Table.fields_removeDuplicates, Table.fieldCount]
  have ends : ∀ first second, first ≠ second → kept.ShowsAlike first second →
      ∃ a b, kept.rows[first]? = some a ∧ kept.rows[second]? = some b ∧
        ∃ column < kept.fieldCount,
          Row.EndsBeforeNull column a b ∨ Row.EndsBeforeNull column b a := by
    rw [width, removed]
    exact fun first second => Table.endsBeforeNull_of_kept named
  refine ⟨ends, fun reach first second different alike => ?_⟩
  -- A row that reaches the last field ends before none.
  have reached {index : Nat} {row : Row} (here : kept.rows[index]? = some row) {column : Nat}
      (within : column < kept.fieldCount) : row[column]? ≠ none := by
    rw [removed] at here
    have long := reach row (Table.mem_of_kept (List.mem_of_getElem? here))
    rw [ne_eq, List.getElem?_eq_none_iff]
    omega
  obtain ⟨a, b, here, there, column, within, before | before⟩ := ends first second different alike
  · exact reached here within before.1
  · exact reached there within before.1

/-- A row that ends early stays beside a null. Rows with a cell for each field do not stay twice,
but for a not-a-number, which is not alike to itself. -/
theorem distinct_alike_ragged :
    let ragged : Store :=
      { ofTable
          { fields := ["id", "note"], rows := [[.integer 1, .null], [.integer 1], [.integer 1]] }
        with duplicateCheck := .allFields }
    let full : Store :=
      { ofTable
          { fields := ["x"], rows := [[.double .nan], [.null, .null], [.null], [.double .nan]] }
        with duplicateCheck := .allFields }
    (ragged.duplicateCheck = .allFields ∧ ragged.backup.fields ≠ []) ∧
      (full.duplicateCheck = .allFields ∧ full.backup.fields ≠ [] ∧
        ∀ row ∈ full.backup.rows, full.backup.fieldCount ≤ row.length) ∧
      (ragged.distinct none).2.backup.rows = [[.integer 1, .null], [.integer 1]] ∧
      (∃ column < 2, Row.EndsBeforeNull column [.integer 1, .null] [.integer 1] ∨
        Row.EndsBeforeNull column [.integer 1] [.integer 1, .null]) ∧
      (full.distinct none).2.backup.rows = [[.double .nan], [.null, .null], [.double .nan]] ∧
      ∀ first second, first ≠ second → ¬(full.distinct none).2.backup.ShowsAlike first second := by
  intro ragged full
  have named : ragged.backup.fields ≠ [] := by decide
  have named' : full.backup.fields ≠ [] := by decide
  have reach : ∀ row ∈ full.backup.rows, full.backup.fieldCount ≤ row.length := by decide
  have kept : (ragged.distinct none).2.backup.rows = [[.integer 1, .null], [.integer 1]] := by
    decide +kernel
  have alike : Row.Alike [.integer 1, .null] [.integer 1, .null] :=
    List.forall₂_same.mpr (by decide)
  obtain ⟨a, b, here, there, ends⟩ :=
    (distinct_alike ragged rfl named).1 0 1 (by decide) ⟨_, _, rfl, rfl, alike⟩
  rw [kept] at here there
  cases here
  cases there
  exact ⟨⟨rfl, named⟩, ⟨rfl, named', reach⟩, kept, ends, by decide +kernel,
    (distinct_alike full rfl named').2 reach⟩

/-- Delimited text gives a row that ends with an empty cell and a row that ends before it. Neither
is removed, and both are shown with a null. -/
theorem distinct_leaves_alike :
    let store : Store :=
      { ofTable (Table.ofDelimited { inferTypes := true } "id,note\r\n1,\r\n1\r\n") with
        duplicateCheck := .allFields }
    (store.duplicateCheck = .allFields ∧ store.backup.fields = ["id", "note"]) ∧
      (store.distinct none).1 = 0 ∧
      (store.distinct none).2.backup.rows = [[.integer 1, .null], [.integer 1]] ∧
      (store.distinct none).2.backup.toMatrix none =
        [[.integer 1, .null], [.integer 1, .null]] ∧
      (store.distinct none).2.backup.ShowsAlike 0 1 := by
  intro store
  have shown : (store.distinct none).2.backup.toMatrix none =
      [[.integer 1, .null], [.integer 1, .null]] := by decide +kernel
  have alike : Row.Alike [.integer 1, .null] [.integer 1, .null] :=
    List.forall₂_same.mpr (by decide)
  refine ⟨⟨rfl, by decide +kernel⟩, by decide +kernel, by decide +kernel, shown,
    [.integer 1, .null], [.integer 1, .null], ?_, ?_, alike⟩
  · rw [shown]
    rfl
  · rw [shown]
    rfl

end Store

end TableQuery
