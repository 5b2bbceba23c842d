import TableQuery.Proofs.ColumnEdits
import TableQuery.Table.Totals

/-! Totals of rows. A row that ends early is totalled like the row filled up with nulls, since a null
counts for nothing. But the tally of a row goes on behind the last field, where no column shows the
cells, so a row has the total of its fitted form for certain only if none of those cells counts. -/

namespace TableQuery

def Uncounted (cells : List Cell) : Prop := ∀ cell ∈ cells, cell.number? = none

theorem uncounted_append {before after : List Cell} :
    Uncounted (before ++ after) ↔ Uncounted before ∧ Uncounted after :=
  List.forall_mem_append

namespace Tally

theorem add_of_number {tally : Tally} {cell : Cell} {x : Binary64} (counts : cell.number? = some x) :
    (tally.add cell).count = tally.count + 1 := by
  rw [add, counts]

theorem add_of_uncounted {tally : Tally} {cell : Cell} (skipped : cell.number? = none) :
    tally.add cell = tally := by
  rw [add, skipped]

theorem count_foldl (cells : List Cell) (tally : Tally) :
    (cells.foldl add tally).count = tally.count + cells.countP (·.number?.isSome) := by
  induction cells generalizing tally with
  | nil => rfl
  | cons cell rest ih =>
    rw [List.foldl_cons, ih]
    cases reading : cell.number? with
    | none => rw [add_of_uncounted reading, List.countP_cons_of_neg (by simp [reading])]
    | some x =>
      rw [add_of_number reading, List.countP_cons_of_pos (by simp [reading])]
      omega

theorem foldl_of_uncounted {cells : List Cell} (skipped : Uncounted cells) (tally : Tally) :
    cells.foldl add tally = tally := by
  induction cells with
  | nil => rfl
  | cons cell rest ih =>
    obtain ⟨here, later⟩ := List.forall_mem_cons.mp skipped
    rw [List.foldl_cons, add_of_uncounted here, ih later]

theorem countP_eq_zero_iff {cells : List Cell} :
    cells.countP (·.number?.isSome) = 0 ↔ Uncounted cells := by
  rw [List.countP_eq_zero]
  exact forall₂_congr fun cell _ => by rw [Option.not_isSome_iff_eq_none]

theorem foldl_eq_self_iff {cells : List Cell} {tally : Tally} :
    cells.foldl add tally = tally ↔ Uncounted cells := by
  constructor
  · intro same
    have counted := count_foldl cells tally
    rw [same] at counted
    exact countP_eq_zero_iff.mp (by omega)
  · intro skipped
    exact foldl_of_uncounted skipped tally

theorem result_eq_null_iff {tally : Tally} {average : Bool} :
    tally.result average = .null ↔ tally.count = 0 := by
  rw [result]
  by_cases nothing : tally.count = 0
  · rw [if_pos nothing]
    exact ⟨fun _ => nothing, fun _ => rfl⟩
  · rw [if_neg nothing]
    refine ⟨fun null => ?_, fun zero => absurd zero nothing⟩
    repeat' split at null
    all_goals cases null

theorem ofCells_append (before after : List Cell) :
    ofCells (before ++ after) = after.foldl add (ofCells before) :=
  List.foldl_append

end Tally

theorem aggregate_eq_null_iff {cells : List Cell} {average : Bool} :
    aggregate cells average = .null ↔ Uncounted cells := by
  rw [aggregate, Tally.result_eq_null_iff, Tally.ofCells, Tally.count_foldl,
    ← Tally.countP_eq_zero_iff]
  exact Eq.congr (Nat.zero_add _) rfl

namespace Row

variable (width : Nat) (row : Row)

theorem fit_of_length {width : Nat} {row : Row} (fits : row.length = width) :
    Row.fit width row = row := by
  rw [fit, List.take_of_length_le (by omega), fits, Nat.sub_self, List.replicate_zero,
    List.append_nil]

theorem ofCells_fit : Tally.ofCells (Row.fit width row) = Tally.ofCells (row.take width) := by
  have nulls : Uncounted (List.replicate (width - row.length) Cell.null) := by
    intro cell member
    rw [List.eq_of_mem_replicate member]
    rfl
  rw [fit, Tally.ofCells_append, Tally.foldl_of_uncounted nulls]

/-- The tally of a row is that of its fitted form, continued behind the last field. -/
theorem ofCells_eq_foldl_surplus :
    Tally.ofCells row = (row.drop width).foldl Tally.add (Tally.ofCells (Row.fit width row)) := by
  rw [ofCells_fit, ← Tally.ofCells_append, List.take_append_drop]

theorem uncounted_iff :
    Uncounted row ↔ Uncounted (row.take width) ∧ Uncounted (row.drop width) := by
  rw [← uncounted_append, List.take_append_drop]

end Row

namespace Table

variable (table : Table) (name : String) (average : Bool)

theorem normalizeColumn_of_length {cells : List Cell} (each : cells.length = table.rowCount) :
    table.normalizeColumn (.cells cells) = cells :=
  Row.fit_of_length each

theorem column?_sumRows :
    (table.sumRows name average).column? (.position table.fieldCount) =
      some (table.rows.map fun row => aggregate row average) := by
  have each := table.column?_addColumn_self name
    (.cells (table.rows.map fun row => aggregate row average)) none
  rwa [normalizeColumn_of_length _ (List.length_map _)] at each

/-- The appended column holds for each row the total of all its cells, and the table has its other
columns as before. The total of a row continues that of its fitted form, in which missing cells
are passed over, with the cells behind the last field. So a row is tallied like its fitted form
exactly if none of those counts, and then it has the same total. Where the fields have nothing to
total, such rows are the only ones with the total of their fitted form. -/
theorem row_totals_run_past_fields (table : Table) (name : String) (average : Bool) :
    let wider := table.sumRows name average
    wider.fields = table.fields ++ [name] ∧
    wider.column? (.position table.fieldCount) =
      some (table.rows.map fun row => aggregate row average) ∧
    (∀ index < table.fieldCount,
      wider.column? (.position index) = table.column? (.position index)) ∧
    ∀ row : Row,
      let fitted := Row.fit table.fieldCount row
      let surplus := row.drop table.fieldCount
      aggregate fitted average = aggregate (row.take table.fieldCount) average ∧
      Tally.ofCells row = surplus.foldl Tally.add (Tally.ofCells fitted) ∧
      (Tally.ofCells row = Tally.ofCells fitted ↔ Uncounted surplus) ∧
      (Uncounted surplus → aggregate row average = aggregate fitted average) ∧
      (aggregate fitted average = .null →
        (aggregate row average = aggregate fitted average ↔ Uncounted surplus)) := by
  intro wider
  refine ⟨?_, table.column?_sumRows name average, fun index before => ?_, fun row => ?_⟩
  · exact congrArg Table.fields (table.addColumn_last name _)
  · exact table.column?_addColumn_before name _ none before
  · intro fitted surplus
    have passed : Tally.ofCells fitted = Tally.ofCells (row.take table.fieldCount) :=
      Row.ofCells_fit table.fieldCount row
    have continued : Tally.ofCells row = surplus.foldl Tally.add (Tally.ofCells fitted) :=
      Row.ofCells_eq_foldl_surplus table.fieldCount row
    have alike : Tally.ofCells row = Tally.ofCells fitted ↔ Uncounted surplus := by
      rw [continued, Tally.foldl_eq_self_iff]
    have covered : aggregate fitted average = aggregate (row.take table.fieldCount) average :=
      congrArg (fun tally => Tally.result tally average) passed
    refine ⟨covered, continued, alike, fun skipped => ?_, fun empty => ?_⟩
    · exact congrArg (fun tally => Tally.result tally average) (alike.mpr skipped)
    · have nothing : Uncounted (row.take table.fieldCount) :=
        aggregate_eq_null_iff.mp (covered ▸ empty)
      rw [empty, aggregate_eq_null_iff, Row.uncounted_iff table.fieldCount]
      exact and_iff_right nothing

/-- A number behind the last field is counted, though the row is shown without it. -/
theorem surplus_number_counted :
    let table := Table.ofDelimited { inferTypes := true } "a,b\r\n1,2,5\r\n"
    let row : Row := [.integer 1, .integer 2, .integer 5]
    table.fields = ["a", "b"] ∧ table.rows = [row] ∧
      table.toMatrix none = [[.integer 1, .integer 2]] ∧
      (table.sumRows "total" false).column? (.name "total") = some [.integer 8] ∧
      (table.rows.map fun row => aggregate (Row.fit table.fieldCount row) false) =
        [.integer 3] := by
  decide +kernel

end Table

end TableQuery
