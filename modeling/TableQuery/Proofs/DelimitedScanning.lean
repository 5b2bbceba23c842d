import TableQuery.Delimited.Reader
import TableQuery.Delimited.Writer

/-! The reader of delimited text, followed through a text. Its steps take a character, a doubled
quote or a mark. A piece that is read as a cell by itself is read so in a row, and a row whose cells
are read is done at the newline after it or at the end of the text. Nothing of this depends on how
the cells were written. -/

namespace TableQuery.Delimited

theorem intercalate_concat (mark last : List Char) (pieces : List (List Char)) :
    mark.intercalate (pieces ++ [last]) = pieces.flatMap (· ++ mark) ++ last := by
  induction pieces with
  | nil => exact List.intercalate_singleton
  | cons piece pieces ih =>
    obtain ⟨next, others, joined⟩ := List.exists_cons_of_ne_nil
      (List.append_ne_nil_of_right_ne_nil pieces (List.cons_ne_nil last []))
    rw [joined] at ih
    rw [List.cons_append, joined, List.intercalate_cons_cons, ih, List.flatMap_cons]
    simp only [List.append_assoc]

section Scan

variable {separator newline : Mark} {mode : Mode} {cell rest : List Char} {row : List (List Char)}

theorem scan_quoted_char {c : Char} (plain : c ≠ '"') :
    scan separator newline .quoted cell row (c :: rest) =
      scan separator newline .quoted (c :: cell) row rest := by
  rw [scan, if_neg plain]

theorem scan_quoted_double :
    scan separator newline .quoted cell row ('"' :: '"' :: rest) =
      scan separator newline .quoted ('"' :: cell) row rest := by
  rw [scan, if_pos rfl, if_pos List.head?_cons, List.tail_cons]

theorem scan_quoted_end (closed : rest.head? ≠ some '"') :
    scan separator newline .quoted cell row ('"' :: rest) =
      scan separator newline .bare cell row rest := by
  rw [scan, if_pos rfl, if_neg closed]

theorem scan_outside (outside : mode ≠ .quoted) (c : Char) :
    scan separator newline mode cell row (c :: rest) =
      match separator.cut? (c :: rest), newline.cut? (c :: rest) with
      | some after, _ => scan separator newline .fresh [] (cell.reverse :: row) after
      | none, some after =>
        (cell.reverse :: row).reverse :: scan separator newline .fresh [] [] after
      | none, none =>
        if c = '"' ∧ mode = .fresh then scan separator newline .quoted cell row rest
        else scan separator newline .bare (c :: cell) row rest := by
  rw [scan.eq_3 _ _ _ _ _ _ _ outside]
  split
  next after separated => rw [separated]
  next joined =>
    rw [joined]
    split
    next after ended => rw [ended]
    next goes => rw [goes]

theorem scan_separator (outside : mode ≠ .quoted) :
    scan separator newline mode cell row (separator.chars ++ rest) =
      scan separator newline .fresh [] (cell.reverse :: row) rest := by
  have cut : separator.cut? (separator.chars ++ rest) = some rest :=
    Mark.cut?_eq_some_iff.mpr rfl
  rw [Mark.chars, List.cons_append] at cut ⊢
  rw [scan_outside outside, cut]

theorem scan_newline (outside : mode ≠ .quoted)
    (joined : separator.cut? (newline.chars ++ rest) = none) :
    scan separator newline mode cell row (newline.chars ++ rest) =
      (cell.reverse :: row).reverse :: scan separator newline .fresh [] [] rest := by
  have cut : newline.cut? (newline.chars ++ rest) = some rest := Mark.cut?_eq_some_iff.mpr rfl
  rw [Mark.chars, List.cons_append] at cut joined ⊢
  rw [scan_outside outside, joined, cut]

theorem cut?_quote {mark : Mark} (plain : mark.head ≠ '"') : mark.cut? ('"' :: rest) = none := by
  rw [Mark.cut?, if_neg fun starts => plain starts.1.symm]

theorem scan_opening (separatorPlain : separator.head ≠ '"') (newlinePlain : newline.head ≠ '"') :
    scan separator newline .fresh cell row ('"' :: rest) =
      scan separator newline .quoted cell row rest := by
  rw [scan_outside (by decide), cut?_quote separatorPlain, cut?_quote newlinePlain]
  exact if_pos ⟨rfl, rfl⟩

theorem scan_quoted_body (body : List Char) (closed : rest.head? ≠ some '"') :
    scan separator newline .quoted cell row (doubleQuotes body ++ '"' :: rest) =
      scan separator newline .bare (body.reverse ++ cell) row rest := by
  induction body generalizing cell with
  | nil => exact scan_quoted_end closed
  | cons c body ih =>
    rw [List.reverse_cons, List.append_assoc, List.singleton_append, ← ih, doubleQuotes]
    split
    next quote => rw [quote]; exact scan_quoted_double
    next plain => exact scan_quoted_char plain

end Scan

theorem scan_starts (separator newline : Mark) {mode : Mode} (cell : List Char)
    {row : List (List Char)} (text : List Char) (noticed : ¬(mode = .fresh ∧ row = [])) :
    ∃ tail cells rows, scan separator newline mode cell row text =
      (row.reverse ++ (cell.reverse ++ tail) :: cells) :: rows := by
  induction mode, cell, row, text using scan.induct separator newline with
  | case1 mode cell row unnoticed =>
    exact absurd (unnoticed.imp_right List.isEmpty_iff.mp) noticed
  | case2 mode cell row ends =>
    refine ⟨[], [], [], ?_⟩
    rw [scan, if_neg ends, List.reverse_cons, List.append_nil]
  | case3 cell row rest double ih =>
    obtain ⟨tail, cells, rows, read⟩ := ih (fun fresh => Mode.noConfusion fresh.1)
    refine ⟨'"' :: tail, cells, rows, ?_⟩
    rw [scan, if_pos rfl, if_pos double, read, List.reverse_cons, List.append_assoc]
    rfl
  | case4 cell row rest closed ih =>
    rw [scan_quoted_end closed]
    exact ih (fun fresh => Mode.noConfusion fresh.1)
  | case5 cell row c rest plain ih =>
    obtain ⟨tail, cells, rows, read⟩ := ih (fun fresh => Mode.noConfusion fresh.1)
    refine ⟨c :: tail, cells, rows, ?_⟩
    rw [scan_quoted_char plain, read, List.reverse_cons, List.append_assoc]
    rfl
  | case6 mode cell row c rest outside after cut ih =>
    simp only [List.unattach_reverse, List.unattach_attach] at ih
    obtain ⟨tail, cells, rows, read⟩ := ih (fun fresh => List.cons_ne_nil _ _ fresh.2)
    refine ⟨[], tail :: cells, rows, ?_⟩
    rw [scan_outside outside, cut]
    simpa using read
  | case7 mode cell row c rest outside goes after cut ih =>
    refine ⟨[], [], scan separator newline .fresh [] [] after, ?_⟩
    rw [scan_outside outside, goes, cut, List.reverse_cons, List.append_nil]
  | case8 mode cell row c rest outside goes stays opens ih =>
    rw [scan_outside outside, goes, stays, if_pos opens]
    exact ih (fun fresh => Mode.noConfusion fresh.1)
  | case9 mode cell row c rest outside goes stays plain ih =>
    obtain ⟨tail, cells, rows, read⟩ := ih (fun fresh => Mode.noConfusion fresh.1)
    refine ⟨c :: tail, cells, rows, ?_⟩
    rw [scan_outside outside, goes, stays, if_neg plain]
    simpa using read

/-- A piece of text that is read as a cell before all that may follow it. The reader has noticed the
cell unless the piece is empty. -/
def ReadsAs (separator newline : Mark) (follows : List Char → Prop) (piece cell : List Char) :
    Prop :=
  ∃ mode, mode ≠ Mode.quoted ∧ (mode = .fresh → piece = []) ∧
    ∀ row rest, follows rest →
      scan separator newline .fresh [] row (piece ++ rest) =
        scan separator newline mode cell.reverse row rest

section Rows

variable {α : Type} {separator newline : Mark} {follows : List Char → Prop}
  {piece cell : α → List Char}

theorem readsAs_quoted (separatorPlain : separator.head ≠ '"') (newlinePlain : newline.head ≠ '"')
    (closes : ∀ rest, follows rest → rest.head? ≠ some '"') (body : List Char) :
    ReadsAs separator newline follows ('"' :: doubleQuotes body ++ ['"']) body := by
  refine ⟨.bare, by decide, Mode.noConfusion, fun row rest next => ?_⟩
  rw [List.append_assoc, List.cons_append, List.singleton_append,
    scan_opening separatorPlain newlinePlain, scan_quoted_body body (closes rest next),
    List.append_nil]

variable (separated : ∀ rest, follows (separator.chars ++ rest))
include separated

/-- Reading the pieces of a row leaves the reader after the last one, with the cells before it done.
The row goes unnoticed only where it is a single piece and that is empty. -/
theorem scan_joined (first : α) (others : List α) (done : List (List Char))
    (reads : ∀ item ∈ first :: others,
      ReadsAs separator newline follows (piece item) (cell item)) :
    ∃ mode last before, mode ≠ .quoted ∧
      (mode = .fresh ∧ before = [] → (first :: others).map piece = [[]]) ∧
      (last.reverse :: before).reverse = done.reverse ++ (first :: others).map cell ∧
      ∀ rest, follows rest →
        scan separator newline .fresh [] done
            (separator.chars.intercalate ((first :: others).map piece) ++ rest) =
          scan separator newline mode last before rest := by
  obtain ⟨mode, outside, noticed, reads_first⟩ := reads first List.mem_cons_self
  induction others generalizing first done mode with
  | nil =>
    refine ⟨mode, (cell first).reverse, done, outside, ?_, by simp, fun rest next => ?_⟩
    · rintro ⟨fresh, -⟩
      rw [List.map_singleton, noticed fresh]
    · rw [List.map_singleton, List.intercalate_singleton]
      exact reads_first done rest next
  | cons second others ih =>
    have reads_others := fun item member => reads item (List.mem_cons_of_mem first member)
    obtain ⟨mode_second, outside_second, noticed_second, reads_second⟩ :=
      reads_others second List.mem_cons_self
    obtain ⟨after, last, before, left, -, same, goes⟩ := ih second (cell first :: done) reads_others
      mode_second outside_second noticed_second reads_second
    refine ⟨after, last, before, left, ?_, by simpa using same, fun rest next => ?_⟩
    · rintro ⟨-, rfl⟩
      have counted := congrArg List.length same
      simp only [List.length_reverse, List.length_append, List.length_map, List.length_cons,
        List.length_nil] at counted
      omega
    · rw [List.map_cons, List.map_cons, List.intercalate_cons_cons, List.append_assoc,
        List.append_assoc, reads_first done _ (separated _), scan_separator outside,
        List.reverse_reverse, ← List.map_cons, goes rest next]

variable {items : List α} (filled : items ≠ [])
  (reads : ∀ item ∈ items, ReadsAs separator newline follows (piece item) (cell item))
include filled reads

theorem scan_row_newline {rest : List Char} (ends : follows (newline.chars ++ rest))
    (joined : separator.cut? (newline.chars ++ rest) = none) :
    scan separator newline .fresh [] []
        (separator.chars.intercalate (items.map piece) ++ (newline.chars ++ rest)) =
      items.map cell :: scan separator newline .fresh [] [] rest := by
  obtain ⟨first, others, rfl⟩ := List.exists_cons_of_ne_nil filled
  obtain ⟨mode, last, before, outside, -, same, goes⟩ := scan_joined separated first others [] reads
  rw [goes _ ends, scan_newline outside joined, same]
  rfl

theorem scan_row_end (ends : follows []) (seen : items.map piece ≠ [[]]) :
    scan separator newline .fresh [] [] (separator.chars.intercalate (items.map piece)) =
      [items.map cell] := by
  obtain ⟨first, others, rfl⟩ := List.exists_cons_of_ne_nil filled
  obtain ⟨mode, last, before, -, unseen, same, goes⟩ := scan_joined separated first others [] reads
  have ended := goes [] ends
  have present : ¬(mode = .fresh ∧ before.isEmpty = true) :=
    fun gone => seen (unseen ⟨gone.1, List.isEmpty_iff.mp gone.2⟩)
  rw [List.append_nil] at ended
  rw [ended, scan, if_neg present, same]
  rfl

end Rows

end TableQuery.Delimited
