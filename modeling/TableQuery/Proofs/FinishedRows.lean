import TableQuery.Proofs.MixedQuoting

/-! Delimited text that goes on. What the reader has of a text is the rows it has finished and the
cell and the row it is in, and it reads on from there as it would have from the start of both texts.
Nothing else passes from one text to the next where no mark and no doubled quote lies across the
place at which they meet. After a newline outside quotes the reader is as it was at the start, so
the rows before it stay and the text after it is read alone. -/

namespace TableQuery.Delimited

/-- How far the reader has come: the rows it has finished, and the cell and the row it is in, both
with their last part first. -/
structure Reading where
  rows : List (List (List Char)) := []
  mode : Mode
  cell : List Char
  row : List (List Char)

def reading (separator newline : Mark) :
    Mode → List Char → List (List Char) → List Char → Reading
  | mode, cell, row, [] => { mode, cell, row }
  | .quoted, cell, row, c :: rest =>
    if c = '"' then
      if rest.head? = some '"' then reading separator newline .quoted ('"' :: cell) row rest.tail
      else reading separator newline .bare cell row rest
    else reading separator newline .quoted (c :: cell) row rest
  | mode, cell, row, c :: rest =>
    match _cell : separator.cut? (c :: rest) with
    | some after => reading separator newline .fresh [] (cell.reverse :: row) after
    | none =>
      match _row : newline.cut? (c :: rest) with
      | some after =>
        let later := reading separator newline .fresh [] [] after
        { later with rows := (cell.reverse :: row).reverse :: later.rows }
      | none =>
        if c = '"' ∧ mode = .fresh then reading separator newline .quoted cell row rest
        else reading separator newline .bare (c :: cell) row rest
termination_by _ _ _ text => text.length
decreasing_by
  · simp only [List.length_tail, List.length_cons]; omega
  · exact Nat.lt_succ_self _
  · exact Nat.lt_succ_self _
  · exact Mark.cut?_shorter _cell
  · exact Mark.cut?_shorter _row
  · exact Nat.lt_succ_self _
  · exact Nat.lt_succ_self _

def endsQuoted (options : Options) (text : String) : Prop :=
  (reading options.separatorMark options.newlineMark .fresh [] [] text.toList).mode = .quoted
deriving Decidable

theorem reading_outside {separator newline : Mark} {mode : Mode} {cell rest : List Char}
    {row : List (List Char)} (outside : mode ≠ .quoted) (c : Char) :
    reading separator newline mode cell row (c :: rest) =
      match separator.cut? (c :: rest), newline.cut? (c :: rest) with
      | some after, _ => reading separator newline .fresh [] (cell.reverse :: row) after
      | none, some after =>
        let later := reading separator newline .fresh [] [] after
        { later with rows := (cell.reverse :: row).reverse :: later.rows }
      | none, none =>
        if c = '"' ∧ mode = .fresh then reading separator newline .quoted cell row rest
        else reading separator newline .bare (c :: cell) row rest := by
  rw [reading.eq_3 _ _ _ _ _ _ _ outside]
  split
  next after separated => rw [separated]
  next joined =>
    rw [joined]
    split
    next after ended => rw [ended]
    next goes => rw [goes]

section Append

variable {options : Options} (apart : options.Apart)
include apart

theorem scan_append {rest : List Char} (follows : options.Follows rest) (mode : Mode)
    (cell : List Char) (row : List (List Char)) (text : List Char) :
    let at_end := reading options.separatorMark options.newlineMark mode cell row text
    scan options.separatorMark options.newlineMark mode cell row (text ++ rest) =
      at_end.rows ++ scan options.separatorMark options.newlineMark at_end.mode at_end.cell
        at_end.row rest := by
  have separates (c : Char) (text : List Char) : options.separatorMark.cut? (c :: text ++ rest) =
      (options.separatorMark.cut? (c :: text)).map (· ++ rest) :=
    cut?_append (List.cons_ne_nil c text) fun d next => (apart.once d (follows d next)).1
  have ends (c : Char) (text : List Char) : options.newlineMark.cut? (c :: text ++ rest) =
      (options.newlineMark.cut? (c :: text)).map (· ++ rest) :=
    cut?_append (List.cons_ne_nil c text) fun d next => (apart.once d (follows d next)).2
  induction mode, cell, row, text using
    scan.induct options.separatorMark options.newlineMark with
  | case1 | case2 => rw [reading]; rfl
  | case3 cell row text double ih =>
    obtain ⟨text, rfl⟩ := List.head?_eq_some_iff.mp double
    rw [reading, if_pos rfl, if_pos double, List.cons_append, List.cons_append, scan_quoted_double]
    exact ih
  | case4 cell row text closed ih =>
    have closes : (text ++ rest).head? ≠ some '"' := by
      rw [List.head?_append]
      cases text with
      | nil => exact fun quote => apart.plain (follows '"' quote)
      | cons c text => exact closed
    rw [reading, if_pos rfl, if_neg closed, List.cons_append, scan_quoted_end closes]
    exact ih
  | case5 cell row c text plain ih =>
    rw [reading, if_neg plain, List.cons_append, scan_quoted_char plain]
    exact ih
  | case6 mode cell row c text outside after cut ih =>
    simp only [List.unattach_reverse, List.unattach_attach] at ih
    rw [reading_outside outside, cut, List.cons_append, scan_outside outside, ← List.cons_append,
      separates, cut]
    exact ih
  | case7 mode cell row c text outside goes after cut ih =>
    rw [reading_outside outside, goes, cut, List.cons_append, scan_outside outside,
      ← List.cons_append, separates, goes, ends, cut]
    exact congrArg _ ih
  | case8 mode cell row c text outside goes stays opens ih =>
    rw [reading_outside outside, goes, stays, List.cons_append, scan_outside outside,
      ← List.cons_append, separates, goes, ends, stays]
    simp only [if_pos opens]
    exact ih
  | case9 mode cell row c text outside goes stays plain ih =>
    rw [reading_outside outside, goes, stays, List.cons_append, scan_outside outside,
      ← List.cons_append, separates, goes, ends, stays]
    simp only [if_neg plain]
    exact ih

theorem rowsOf_newline_append {text : List Char}
    (closed :
      (reading options.separatorMark options.newlineMark .fresh [] [] text).mode ≠ .quoted)
    (later : List Char) :
    rowsOf options (text ++ (options.newlineMark.chars ++ later)) =
      rowsOf options (text ++ options.newlineMark.chars) ++ rowsOf options later := by
  have goes (rest : List Char) :
      let at_end := reading options.separatorMark options.newlineMark .fresh [] [] text
      rowsOf options (text ++ (options.newlineMark.chars ++ rest)) =
        at_end.rows ++ (at_end.cell.reverse :: at_end.row).reverse :: rowsOf options rest := by
    have joined : options.separatorMark.cut? (options.newlineMark.chars ++ rest) = none :=
      if_neg fun starts => apart.differ starts.1.symm
    rw [rowsOf, scan_append apart (follows_newline options rest), scan_newline closed joined]
    rfl
  have ended := goes []
  rw [List.append_nil] at ended
  rw [goes, ended]
  simp [rowsOf, scan]

end Append

/-- Later text never changes finished rows. The separator is one character and the newline one of
the usual two. When a text does not end inside quotes, however its quotes stand otherwise, what
follows a newline after it is read as if it stood alone. -/
theorem finished_rows_stay {options : Options} {separator : Char}
    (single : options.separator.toList = [separator]) (plain : separator ∉ ['"', '\r', '\n'])
    (lines : options.newline = "\n" ∨ options.newline = "\r\n") (text later : String)
    (closed : ¬endsQuoted options text) :
    read options (text ++ options.newline ++ later) =
      read options (text ++ options.newline) ++ read options later := by
  have newline : options.newlineMark.chars = options.newline.toList := by
    apply Options.chars_newlineMark
    rcases lines with feed | both
    · rw [feed]; decide
    · rw [both]; decide
  have stays := rowsOf_newline_append (apart_of_single single plain lines) closed later.toList
  rw [newline] at stays
  simp only [read, String.toList_append, List.append_assoc, stays, List.map_append]

/-- Quotes may stand anywhere, a carriage return may come just before the newline, and the later
text may leave a quote open. -/
theorem finished_rows_stay_malformed :
    let options : Options := { separator := ";" }
    let text := "a\"b;\"c;\r\n\"\"d\"e\"\r"
    let later := ";\r\n\"f\r\n"
    options.separator.toList = [';'] ∧ ';' ∉ ['"', '\r', '\n'] ∧
      (options.newline = "\n" ∨ options.newline = "\r\n") ∧ ¬endsQuoted options text ∧
      endsQuoted options later ∧
      read options (text ++ "\r\n" ++ later) =
        [["a\"b", "c;\r\n\"de\"\r"]] ++ [["", ""], ["f\r\n"]] := by
  intro options text later
  have single : options.separator.toList = [';'] := by decide
  have plain : ';' ∉ ['"', '\r', '\n'] := by decide
  have lines : options.newline = "\n" ∨ options.newline = "\r\n" := .inr rfl
  have closed : ¬endsQuoted options text := by decide +kernel
  have finished : read options (text ++ "\r\n") = [["a\"b", "c;\r\n\"de\"\r"]] := by
    decide +kernel
  have begun : read options later = [["", ""], ["f\r\n"]] := by decide +kernel
  have stays := finished_rows_stay single plain lines text later closed
  refine ⟨single, plain, lines, closed, by decide +kernel, ?_⟩
  rw [← finished, ← begun]
  exact stays

end TableQuery.Delimited
