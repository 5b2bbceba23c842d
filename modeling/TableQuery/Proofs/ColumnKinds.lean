import Mathlib.Data.List.Forall2
import Mathlib.Order.BoundedOrder.Lattice
import TableQuery.Table.Basic

/-! The kinds of the columns. The join of kinds is the least upper bound in the order that has null
below every kind, integer below double and mixed above all. So a column has the least kind above the
kinds of its cells, and that depends on which rows there are, not on their order or number. -/

namespace TableQuery

namespace Kind

/-- Null lies below every kind, integer below double, and every kind below mixed. -/
instance : LE Kind where
  le a b := a = b ∨ a = .null ∨ b = .mixed ∨ a = .integer ∧ b = .double

instance (a b : Kind) : Decidable (a ≤ b) :=
  inferInstanceAs (Decidable (a = b ∨ a = .null ∨ b = .mixed ∨ a = .integer ∧ b = .double))

instance : SemilatticeSup Kind where
  sup := join
  le_refl _ := .inl rfl
  le_trans a b c := by cases a <;> cases b <;> cases c <;> decide
  le_antisymm a b := by cases a <;> cases b <;> decide
  le_sup_left a b := by cases a <;> cases b <;> decide
  le_sup_right a b := by cases a <;> cases b <;> decide
  sup_le a b c := by cases a <;> cases b <;> cases c <;> decide

instance : OrderBot Kind where
  bot := .null
  bot_le _ := .inr (.inl rfl)

theorem join_le_iff {a b bound : Kind} : a.join b ≤ bound ↔ a ≤ bound ∧ b ≤ bound := sup_le_iff

theorem foldl_join_le_iff {cells : List Cell} {start bound : Kind} :
    cells.foldl (fun kind cell => kind.join cell.kind) start ≤ bound ↔
      start ≤ bound ∧ ∀ cell ∈ cells, cell.kind ≤ bound := by
  induction cells generalizing start with
  | nil => simp
  | cons cell cells ih => rw [List.foldl_cons, ih, join_le_iff, List.forall_mem_cons, and_assoc]

end Kind

namespace Table

def kindAt (rows : List Row) (column : Nat) : Kind :=
  (rows.filterMap (·[column]?)).foldl (fun kind cell => kind.join cell.kind) .null

theorem columnKinds_eq_map (table : Table) :
    table.columnKinds = table.allColumns.map (kindAt table.rows) := rfl

theorem kindAt_le_iff {rows : List Row} {column : Nat} {bound : Kind} :
    kindAt rows column ≤ bound ↔
      ∀ row ∈ rows, ∀ cell, row[column]? = some cell → cell.kind ≤ bound := by
  have least : Kind.null ≤ bound := bot_le
  rw [kindAt, Kind.foldl_join_le_iff, and_iff_right least]
  simp only [List.mem_filterMap]
  constructor
  · intro below row member cell found
    exact below cell ⟨row, member, found⟩
  · rintro below cell ⟨row, member, found⟩
    exact below row member cell found

section Rows

variable {few many : List Row}

theorem kindAt_mono (within : few ⊆ many) (column : Nat) :
    kindAt few column ≤ kindAt many column :=
  kindAt_le_iff.mpr fun row member => kindAt_le_iff.mp le_rfl row (within member)

theorem kindAt_congr (same : ∀ row, row ∈ few ↔ row ∈ many) (column : Nat) :
    kindAt few column = kindAt many column :=
  le_antisymm (kindAt_mono (fun row => (same row).mp) column)
    (kindAt_mono (fun row => (same row).mpr) column)

end Rows

/-- The kinds of the columns depend on which rows there are. Neither the order of the rows nor how
often they come makes a difference, and taking rows away can only lower the kind of a column. -/
theorem column_kinds_by_members (table : Table) (rows : List Row) :
    let changed := { table with rows := rows }
    (rows.Perm table.rows → changed.columnKinds = table.columnKinds) ∧
    ((∀ row, row ∈ rows ↔ row ∈ table.rows) → changed.columnKinds = table.columnKinds) ∧
    (rows ⊆ table.rows → List.Forall₂ (· ≤ ·) changed.columnKinds table.columnKinds) := by
  intro changed
  have alike (same : ∀ row, row ∈ rows ↔ row ∈ table.rows) :
      changed.columnKinds = table.columnKinds :=
    List.map_congr_left fun column _ => kindAt_congr same column
  refine ⟨fun shuffled => alike fun _ => shuffled.mem_iff, alike, fun within => ?_⟩
  rw [columnKinds_eq_map, columnKinds_eq_map, List.forall₂_map_left_iff,
    List.forall₂_map_right_iff]
  exact List.forall₂_same.mpr fun column _ => kindAt_mono within column

/-- With the one row that holds a double, a boolean and a third cell, these columns lose a kind each. -/
theorem column_kinds_by_members_ragged :
    let table : Table :=
      { fields := ["size", "note", "done"],
        rows := [[.integer 2, .null], [.double (.ofInt 3), .boolean true, .text "yes"], [.integer 1],
          [.null, .text "x"]] }
    let rows : List Row := [[.null, .text "x"], [.integer 2, .null], [.integer 2, .null]]
    rows ⊆ table.rows ∧
      List.Forall₂ (· ≤ ·) { table with rows := rows }.columnKinds table.columnKinds ∧
      table.columnKinds = [.double, .mixed, .text] ∧
      { table with rows := rows }.columnKinds = [.integer, .text, .null] := by
  intro table rows
  have within : rows ⊆ table.rows := by decide
  exact ⟨within, (column_kinds_by_members table rows).2.2 within, by decide, by decide⟩

end Table

end TableQuery
