import TableQuery.Table.Edit

/-! Removal of several rows at once. The positions are put in falling order and each is taken once,
so that every removal leaves the rows still to be removed where they were. What stays are the rows
at the other positions, whatever the order of the list and however often it names a position. -/

namespace TableQuery

section Repetitions

variable {α : Type} [DecidableEq α]

-- Runs are cut down by a loop that gathers its result backwards; the equation by cons is what an
-- induction on the list needs.
theorem eraseReps_loop_cons (first second : α) (rest gathered : List α) :
    List.eraseRepsBy.loop (fun a b => a == b) first (second :: rest) gathered =
      if first = second then List.eraseRepsBy.loop (fun a b => a == b) first rest gathered
      else List.eraseRepsBy.loop (fun a b => a == b) second rest (first :: gathered) := by
  rw [List.eraseRepsBy.loop]
  by_cases same : first = second
  · rw [if_pos same, beq_iff_eq.mpr same]
  · rw [if_neg same, beq_eq_false_iff_ne.mpr same]

theorem eraseReps_loop (first : α) (rest gathered : List α) :
    List.eraseRepsBy.loop (fun a b => a == b) first rest gathered =
      gathered.reverse ++ List.eraseRepsBy.loop (fun a b => a == b) first rest [] := by
  induction rest generalizing first gathered with
  | nil => exact List.reverse_cons
  | cons second rest ih =>
    rw [eraseReps_loop_cons, eraseReps_loop_cons]
    by_cases same : first = second
    · rw [if_pos same, if_pos same, ih]
    · rw [if_neg same, if_neg same, ih second (first :: gathered), ih second [first],
        List.reverse_cons, List.append_assoc, List.reverse_singleton]

theorem eraseReps_cons_cons (first second : α) (rest : List α) :
    (first :: second :: rest).eraseReps =
      if first = second then (first :: rest).eraseReps
      else first :: (second :: rest).eraseReps := by
  have step := eraseReps_loop_cons first second rest []
  rw [eraseReps_loop second rest [first]] at step
  exact step

theorem mem_eraseReps (items : List α) (item : α) : item ∈ items.eraseReps ↔ item ∈ items := by
  cases items with
  | nil => rfl
  | cons first rest =>
    induction rest generalizing first with
    | nil => rfl
    | cons second rest ih =>
      rw [eraseReps_cons_cons]
      by_cases same : first = second
      · rw [if_pos same, ih, same]
        simp
      · rw [if_neg same, List.mem_cons, ih]
        simp

end Repetitions

theorem eraseReps_falling (numbers : List Nat) (falling : numbers.Pairwise (· ≥ ·)) :
    numbers.eraseReps.Pairwise (· > ·) := by
  cases numbers with
  | nil => exact List.Pairwise.nil
  | cons first rest =>
    induction rest generalizing first with
    | nil => exact List.pairwise_singleton _ first
    | cons second rest ih =>
      obtain ⟨highest, falling⟩ := List.pairwise_cons.mp falling
      rw [eraseReps_cons_cons]
      by_cases same : first = second
      · subst same
        rw [if_pos rfl]
        exact ih first falling
      · rw [if_neg same]
        refine List.pairwise_cons.mpr ⟨?_, ih second falling⟩
        intro other member
        have known : other ∈ second :: rest := (mem_eraseReps _ other).mp member
        have second_highest : second ≥ other := by
          rcases List.mem_cons.mp known with here | later
          · omega
          · exact (List.pairwise_cons.mp falling).1 other later
        have above := highest second List.mem_cons_self
        omega

namespace Table

theorem mem_descending (indices : List Nat) (index : Nat) :
    index ∈ descending indices ↔ index ∈ indices := by
  rw [descending, mem_eraseReps, List.mem_mergeSort]

theorem descending_falling (indices : List Nat) : (descending indices).Pairwise (· > ·) := by
  have transitive (a b c : Nat) (first : decide (b ≤ a) = true) (second : decide (c ≤ b) = true) :
      decide (c ≤ a) = true := by
    simp only [decide_eq_true_eq] at *
    omega
  have total (a b : Nat) : (decide (b ≤ a) || decide (a ≤ b)) = true := by
    simp only [Bool.or_eq_true, decide_eq_true_eq]
    omega
  apply eraseReps_falling
  exact (List.pairwise_mergeSort transitive total indices).imp fun above => of_decide_eq_true above

end Table

section Outside

variable {α : Type}

theorem outside_of_below {removed : List Nat} {start : Nat}
    (below : ∀ index ∈ removed, index < start) (items : List α) :
    ((items.zipIdx start).filter fun (_, index) => index ∉ removed).map Prod.fst = items := by
  rw [List.filter_eq_self.mpr, List.zipIdx_map_fst]
  intro place member
  have from_start : start ≤ place.2 := List.le_snd_of_mem_zipIdx member
  refine decide_eq_true fun inside => ?_
  have before := below place.2 inside
  omega

/-- One removal above all others leaves out one more position. The items are counted from `start`,
so that the induction on them can reach the place of the removal. -/
theorem outside_eraseIdx {removed : List Nat} {highest : Nat}
    (below : ∀ index ∈ removed, index < highest) (items : List α) {start : Nat}
    (reached : start ≤ highest) :
    (((items.eraseIdx (highest - start)).zipIdx start).filter
        fun (_, index) => index ∉ removed).map Prod.fst =
      ((items.zipIdx start).filter fun (_, index) => index ∉ highest :: removed).map Prod.fst := by
  induction items generalizing start with
  | nil => rfl
  | cons item rest ih =>
    rw [List.zipIdx_cons]
    by_cases here : start = highest
    · subst here
      have all_below : ∀ index ∈ start :: removed, index < start + 1 := by
        intro index member
        rcases List.mem_cons.mp member with same | other
        · omega
        · have before := below index other
          omega
      rw [Nat.sub_self, List.eraseIdx_cons_zero, outside_of_below below,
        List.filter_cons_of_neg (by simp), outside_of_below all_below]
    · have later : start + 1 ≤ highest := by omega
      have offset : highest - start = highest - (start + 1) + 1 := by omega
      rw [offset, List.eraseIdx_cons_succ, List.zipIdx_cons]
      by_cases inside : start ∈ removed
      · rw [List.filter_cons_of_neg (by simp [inside]), List.filter_cons_of_neg (by simp [inside]),
          ih later]
      · rw [List.filter_cons_of_pos (by simp [inside]),
          List.filter_cons_of_pos (by simp [inside, here]), List.map_cons, List.map_cons, ih later]

theorem foldl_eraseIdx {removed : List Nat} (falling : removed.Pairwise (· > ·))
    (items : List α) :
    removed.foldl List.eraseIdx items =
      (items.zipIdx.filter fun (_, index) => index ∉ removed).map Prod.fst := by
  induction removed generalizing items with
  | nil => exact (outside_of_below (by simp) items).symm
  | cons highest removed ih =>
    obtain ⟨below, falling⟩ := List.pairwise_cons.mp falling
    rw [List.foldl_cons, ih falling]
    exact outside_eraseIdx below items (Nat.zero_le highest)

end Outside

namespace Table

theorem foldl_removeRow (indices : List Nat) (table : Table) :
    indices.foldl removeRow table =
      { table with rows := indices.foldl List.eraseIdx table.rows } := by
  induction indices generalizing table with
  | nil => rfl
  | cons index indices ih => exact ih (table.removeRow index)

theorem removeRows_eq (table : Table) (indices : List Nat) :
    table.removeRows indices =
      { table with
        rows := (table.rows.zipIdx.filter fun (_, index) => index ∉ indices).map Prod.fst } := by
  rw [removeRows, foldl_removeRow, foldl_eraseIdx (descending_falling indices)]
  simp only [mem_descending]

variable (table : Table) (indices : List Nat)

def spared : List Nat := (List.range table.rowCount).filter (· ∉ indices)

theorem spared_eq :
    table.spared indices =
      (table.rows.zipIdx.filter fun (_, index) => index ∉ indices).map Prod.snd := by
  have counted : List.range table.rowCount = table.rows.zipIdx.map Prod.snd := by
    rw [List.zipIdx_map_snd, rowCount, List.range_eq_range']
  rw [spared, counted, List.filter_map]
  rfl

theorem row?_removeRows (place : Nat) :
    (table.removeRows indices).row? place = (table.spared indices)[place]?.bind table.row? := by
  rw [removeRows_eq, spared_eq, row?, List.getElem?_map, List.getElem?_map]
  cases found : (table.rows.zipIdx.filter fun (_, index) => index ∉ indices)[place]? with
  | none => rfl
  | some stayed =>
    have member := List.mem_of_getElem? found
    have here : table.row? stayed.2 = some stayed.1 :=
      List.mem_zipIdx_iff_getElem?.mp (List.mem_filter.mp member).1
    exact here.symm

theorem removeRows_congr {others : List Nat}
    (same : ∀ index < table.rowCount, index ∈ others ↔ index ∈ indices) :
    table.removeRows others = table.removeRows indices := by
  rw [removeRows_eq, removeRows_eq]
  congr 2
  apply List.filter_congr
  intro place member
  have present : table.rows[place.2]? = some place.1 := List.mem_zipIdx_iff_getElem?.mp member
  have within : place.2 < table.rowCount := (List.getElem?_eq_some_iff.mp present).1
  exact decide_eq_decide.mpr (not_congr (same place.2 within))

/-- Bulk removal takes out a set of rows. What stays are the rows at the positions that the list
does not name, each unchanged and in the order they had, and a list that names the same positions
within the table leaves the same table, however it is ordered, repeats itself or runs past the
end. -/
theorem removes_as_set (table : Table) (indices : List Nat) :
    (table.removeRows indices).fields = table.fields ∧
    (table.removeRows indices).valid = table.valid ∧
    (∀ place, (table.removeRows indices).row? place =
      ((List.range table.rowCount).filter (· ∉ indices))[place]?.bind table.row?) ∧
    ∀ others, (∀ index < table.rowCount, index ∈ others ↔ index ∈ indices) →
      table.removeRows others = table.removeRows indices := by
  refine ⟨?_, ?_, table.row?_removeRows indices, fun others same => ?_⟩
  · rw [removeRows_eq]
  · rw [removeRows_eq]
  · exact table.removeRows_congr indices same

end Table

end TableQuery
