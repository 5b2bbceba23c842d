import Mathlib.Data.List.SplitBy
import TableQuery.Proofs.DelimitedScanning

/-! Delimited text read back after it was written. A cell comes back with each run of quotes as one
quote and, where line breaks are stripped, without them; nothing else about the rows changes. The
reader is followed through one cell, then along one row, then over all rows. -/

namespace TableQuery.Delimited

theorem intercalate_starts (mark : List Char) (c : Char) (first : List Char)
    (rest : List (List Char)) : ∃ after, mark.intercalate ((c :: first) :: rest) = c :: after := by
  cases rest with
  | nil => exact ⟨first, List.intercalate_singleton⟩
  | cons second rest =>
    refine ⟨first ++ mark ++ mark.intercalate (second :: rest), ?_⟩
    rw [List.intercalate_cons_cons]
    rfl

/-- The cell cut where not both of two neighbours are quotes, so that its pieces are the runs of
quotes and the other characters one by one. -/
def quoteRuns (cell : List Char) : List (List Char) :=
  cell.splitBy fun a b => a == '"' && b == '"'

/-- What is left of a cell: one quote of each run, and no line breaks where they are stripped. -/
def normalCell (strip : Bool) (cell : List Char) : List Char :=
  let single := (quoteRuns cell).flatMap (List.take 1)
  if strip then single.filter fun c => c ≠ '\r' ∧ c ≠ '\n' else single

def normalText (strip : Bool) (cell : String) : String :=
  String.ofList (normalCell strip cell.toList)

theorem quoteRuns_cons_cons_of_not {a b : Char} (rest : List Char) (apart : ¬(a = '"' ∧ b = '"')) :
    quoteRuns (a :: b :: rest) = [a] :: quoteRuns (b :: rest) := by
  have cut := List.splitBy_append_cons (r := fun a b => a == '"' && b == '"') (l := [a]) (a := b)
    rest (by simpa using apart)
  simpa [quoteRuns, List.splitBy_of_isChain] using cut

theorem quoteRuns_quote_quote (rest : List Char) :
    ∃ run runs, quoteRuns ('"' :: rest) = ('"' :: run) :: runs ∧
      quoteRuns ('"' :: '"' :: rest) = ('"' :: '"' :: run) :: runs := by
  obtain ⟨whole, noneEmpty, within, between⟩ :=
    List.splitBy_eq_iff.mp (rfl : quoteRuns ('"' :: rest) = _)
  match found : quoteRuns ('"' :: rest) with
  | [] => simp [found] at whole
  | [] :: runs => simp [found] at noneEmpty
  | (c :: run) :: runs =>
    rw [found] at whole within noneEmpty between
    simp only [List.flatten_cons, List.cons_append, List.cons.injEq] at whole
    obtain ⟨rfl, same⟩ := whole
    refine ⟨run, runs, rfl, List.splitBy_eq_iff.mpr ⟨by simp [same], ?_, ?_, ?_⟩⟩
    · simpa using noneEmpty
    · intro piece member
      rcases List.mem_cons.mp member with rfl | later
      · exact List.IsChain.cons_cons rfl (within _ List.mem_cons_self)
      · exact within _ (List.mem_cons_of_mem _ later)
    · rw [List.isChain_cons] at between ⊢
      refine ⟨?_, between.2⟩
      intro next first
      obtain ⟨_, present, differs⟩ := between.1 next first
      exact ⟨List.cons_ne_nil _ _, present, by simpa using differs⟩

theorem collapseQuotes_eq_runs (cell : List Char) :
    collapseQuotes cell = (quoteRuns cell).flatMap (List.take 1) := by
  induction cell using collapseQuotes.induct with
  | case1 => rfl
  | case2 c => rfl
  | case3 a b rest both ih =>
    obtain ⟨rfl, rfl⟩ := both
    obtain ⟨run, runs, single, double⟩ := quoteRuns_quote_quote rest
    rw [collapseQuotes, if_pos ⟨rfl, rfl⟩, ih, single, double]
    rfl
  | case4 a b rest apart ih =>
    rw [collapseQuotes, if_neg apart, quoteRuns_cons_cons_of_not rest apart, ih]
    rfl

theorem collapseQuotes_sublist (cell : List Char) : (collapseQuotes cell).Sublist cell := by
  induction cell using collapseQuotes.induct with
  | case1 => exact List.Sublist.refl _
  | case2 c => exact List.Sublist.refl _
  | case3 a b rest both ih =>
    rw [collapseQuotes, if_pos both]
    exact ih.trans (List.sublist_cons_self a _)
  | case4 a b rest apart ih =>
    rw [collapseQuotes, if_neg apart]
    exact ih.cons_cons a

theorem collapseQuotes_eq_self_iff (cell : List Char) :
    collapseQuotes cell = cell ↔ ¬['"', '"'] <:+: cell := by
  induction cell using collapseQuotes.induct with
  | case1 => simp [collapseQuotes]
  | case2 c => simp [collapseQuotes, List.infix_cons_iff]
  | case3 a b rest both ih =>
    obtain ⟨rfl, rfl⟩ := both
    refine iff_of_false (fun same => ?_) (not_not_intro ⟨[], rest, rfl⟩)
    have shorter := (collapseQuotes_sublist ('"' :: rest)).length_le
    rw [collapseQuotes, if_pos ⟨rfl, rfl⟩] at same
    rw [same, List.length_cons, List.length_cons] at shorter
    omega
  | case4 a b rest apart ih =>
    have here : ¬['"', '"'] <+: a :: b :: rest := by
      simpa [List.cons_prefix_cons, eq_comm] using apart
    rw [collapseQuotes, if_neg apart, List.infix_cons_iff, not_or, List.cons.injEq, ih]
    simp only [true_and, here, not_false_eq_true]

theorem normalCell_eq_self_iff (strip : Bool) (cell : List Char) :
    normalCell strip cell = cell ↔
      ¬['"', '"'] <:+: cell ∧ (strip = true → '\r' ∉ cell ∧ '\n' ∉ cell) := by
  rw [← collapseQuotes_eq_self_iff, normalCell, ← collapseQuotes_eq_runs]
  cases strip with
  | false => simp
  | true =>
    rw [if_pos rfl]
    constructor
    · intro same
      have covered : cell.Sublist (collapseQuotes cell) := by
        conv_lhs => rw [← same]
        exact List.filter_sublist
      have kept : collapseQuotes cell = cell := (collapseQuotes_sublist cell).antisymm covered
      rw [kept, List.filter_eq_self] at same
      exact ⟨kept, fun _ => ⟨fun member => by simpa using same _ member,
        fun member => by simpa using same _ member⟩⟩
    · rintro ⟨kept, unbroken⟩
      obtain ⟨noReturn, noFeed⟩ := unbroken rfl
      rw [kept, List.filter_eq_self]
      intro c member
      simp only [decide_eq_true_eq]
      exact ⟨fun same => noReturn (same ▸ member), fun same => noFeed (same ▸ member)⟩

theorem stripLineBreaks_eq (text : List Char) :
    stripLineBreaks text = text.filter fun c => c ≠ '\r' ∧ c ≠ '\n' := by
  apply List.filter_congr
  intro c _
  by_cases carriage : c = '\r' <;> by_cases feed : c = '\n' <;> simp [isLineBreak, carriage, feed]

theorem stripLineBreaks_doubleQuotes (text : List Char) :
    stripLineBreaks (doubleQuotes text) = doubleQuotes (stripLineBreaks text) := by
  induction text with
  | nil => rfl
  | cons c rest ih =>
    by_cases quote : c = '"'
    · subst quote
      simpa [stripLineBreaks, doubleQuotes, isLineBreak] using ih
    · by_cases lineBreak : isLineBreak c = true
      · simpa [stripLineBreaks, doubleQuotes, quote, lineBreak] using ih
      · simpa [stripLineBreaks, doubleQuotes, quote, lineBreak] using ih

/-- What is written between the quotes is the normal cell with its quotes doubled. -/
theorem bodyOf_eq (options : Options) (cell : List Char) :
    bodyOf options cell = doubleQuotes (normalCell options.stripNewlines cell) := by
  unfold bodyOf normalCell
  rw [← collapseQuotes_eq_runs]
  split
  · rw [stripLineBreaks_doubleQuotes, stripLineBreaks_eq]
  · rfl

theorem separatorMark_length (options : Options) : options.separatorMark.chars.length ≤ 2 := by
  unfold Options.separatorMark Mark.ofChars
  split
  next => decide
  next head tail found =>
    rw [Mark.chars, ← found]
    exact List.length_take_le 2 _

/-- Between rows the reader does not take the newline and the quote after it for a separator. -/
theorem cut?_newline_quote {options : Options}
    (apart : ¬options.separatorMark.chars <+: options.newlineMark.chars ++ ['"'])
    (rest : List Char) :
    options.separatorMark.cut? (options.newlineMark.chars ++ '"' :: rest) = none := by
  rw [Option.eq_none_iff_forall_ne_some]
  intro after found
  have starts : options.separatorMark.chars <+: options.newlineMark.chars ++ ['"'] ++ rest :=
    ⟨after, by rw [← Mark.cut?_eq_some_iff.mp found, List.append_assoc, List.singleton_append]⟩
  refine apart (List.prefix_of_prefix_length_le starts (List.prefix_append _ _) ?_)
  have short := separatorMark_length options
  simp only [Mark.chars, List.length_append, List.length_cons, List.length_nil] at short ⊢
  omega

theorem textOf_cons_cons (options : Options) (row next : List (List Char))
    (rows : List (List (List Char))) :
    textOf options (row :: next :: rows) =
      rowText options row ++ (options.newlineMark.chars ++ textOf options (next :: rows)) := by
  rw [textOf, List.map_cons, List.map_cons, List.intercalate_cons_cons, List.append_assoc]
  rfl

theorem textOf_starts_quoted (options : Options) {row : List (List Char)} (filled : row ≠ [])
    (rows : List (List (List Char))) : ∃ rest, textOf options (row :: rows) = '"' :: rest := by
  obtain ⟨first, others, rfl⟩ := List.exists_cons_of_ne_nil filled
  obtain ⟨after, starts⟩ := intercalate_starts options.separatorMark.chars '"'
    (bodyOf options first ++ ['"']) (others.map (cellText options))
  have written : rowText options (first :: others) = '"' :: after := starts
  rw [textOf, List.map_cons, written]
  exact intercalate_starts _ _ _ _

theorem mark_closes {mark : Mark} (plain : mark.head ≠ '"') (rest : List Char) :
    (mark.chars ++ rest).head? ≠ some '"' := by
  simpa [Mark.chars] using plain

theorem cellText_ne_nil (options : Options) (cell : List Char) : cellText options cell ≠ [] :=
  List.cons_ne_nil '"' _

section RoundTrip

variable {options : Options} (separatorPlain : options.separatorMark.head ≠ '"')
  (newlinePlain : options.newlineMark.head ≠ '"')
include separatorPlain newlinePlain

theorem readsAs_cellText (cell : List Char) :
    ReadsAs options.separatorMark options.newlineMark (·.head? ≠ some '"') (cellText options cell)
      (normalCell options.stripNewlines cell) := by
  rw [cellText, bodyOf_eq]
  exact readsAs_quoted separatorPlain newlinePlain (fun _ closed => closed) _

theorem scan_row {row : List (List Char)} (present : row ≠ []) :
    scan options.separatorMark options.newlineMark .fresh [] [] (rowText options row) =
      [row.map (normalCell options.stripNewlines)] := by
  have seen : row.map (cellText options) ≠ [[]] := by
    intro empty
    obtain ⟨cell, -, unwritten⟩ := List.map_eq_singleton_iff.mp empty
    exact cellText_ne_nil options cell unwritten
  exact scan_row_end (mark_closes separatorPlain) present
    (fun cell _ => readsAs_cellText separatorPlain newlinePlain cell) (by simp) seen

theorem scan_textOf (apart : ¬options.separatorMark.chars <+: options.newlineMark.chars ++ ['"'])
    (rows : List (List (List Char))) (filled : ∀ row ∈ rows, row ≠ []) :
    scan options.separatorMark options.newlineMark .fresh [] [] (textOf options rows) =
      rows.map (List.map (normalCell options.stripNewlines)) := by
  induction rows with
  | nil =>
    rw [textOf, List.map_nil, List.intercalate, List.intersperse_nil, List.flatten_nil, scan]
    rfl
  | cons row rows ih =>
    have rest := ih fun other member => filled other (List.mem_cons_of_mem _ member)
    have present : row ≠ [] := filled row List.mem_cons_self
    cases rows with
    | nil =>
      rw [textOf, List.map_singleton, List.intercalate_singleton,
        scan_row separatorPlain newlinePlain present]
      rfl
    | cons next rows =>
      -- A row follows, and it starts with a quote: the newline before it is not a separator.
      obtain ⟨following, text⟩ := textOf_starts_quoted options (filled next (by simp)) rows
      have goes := cut?_newline_quote apart following
      rw [← text] at goes
      have read_row := scan_row_newline (mark_closes separatorPlain) present
        (fun cell _ => readsAs_cellText separatorPlain newlinePlain cell)
        (mark_closes newlinePlain _) goes
      rw [textOf_cons_cons, rowText, read_row, rest]
      rfl

theorem read_write_eq
    (apart : ¬options.separatorMark.chars <+: options.newlineMark.chars ++ ['"'])
    (rows : List (List String)) (filled : ∀ row ∈ rows, row ≠ []) :
    read options (write options rows) =
      rows.map (List.map (normalText options.stripNewlines)) := by
  rw [read, write, String.toList_ofList, rowsOf,
    scan_textOf separatorPlain newlinePlain apart _ (by simpa using filled)]
  simp [normalText, Function.comp_def]

end RoundTrip

theorem map_eq_self_iff {α : Type} (f : α → α) (items : List α) :
    items.map f = items ↔ ∀ item ∈ items, f item = item := by
  conv_lhs => rhs; rw [← List.map_id items]
  exact List.map_inj_left

theorem single_of_plain {cell : List Char} (plain : '"' ∉ cell) : ¬['"', '"'] <:+: cell :=
  fun pair => plain (pair.subset List.mem_cons_self)

theorem map_normalText_eq_self_iff (strip : Bool) (rows : List (List String)) :
    rows.map (List.map (normalText strip)) = rows ↔ ∀ row ∈ rows, ∀ cell ∈ row,
      ¬['"', '"'] <:+: cell.toList ∧
        (strip = true → '\r' ∉ cell.toList ∧ '\n' ∉ cell.toList) := by
  have cells (cell : String) :
      normalText strip cell = cell ↔ normalCell strip cell.toList = cell.toList := by
    rw [normalText, ← String.toList_inj, String.toList_ofList]
  simp only [← normalCell_eq_self_iff, ← cells, map_eq_self_iff]

/-- Marks that are not mistaken beside the quotes around cells. -/
structure Options.Unmistaken (options : Options) : Prop where
  separatorPlain : options.separatorMark.head ≠ '"'
  newlinePlain : options.newlineMark.head ≠ '"'
  apart : ¬options.separatorMark.chars <+: options.newlineMark.chars ++ ['"']

theorem Options.unmistaken_iff {options : Options} (least : 1 ≤ options.separator.toList.length)
    (most : options.separator.toList.length ≤ 2) (present : options.newline.toList ≠ []) :
    options.Unmistaken ↔
      options.separator.toList.head? ≠ some '"' ∧ options.newline.toList.head? ≠ some '"' ∧
        ¬options.separator.toList <+: options.newline.toList ++ ['"'] := by
  have separator := Options.chars_separatorMark least most
  have newline := Options.chars_newlineMark present
  rw [ne_eq, ne_eq, ← Mark.head_eq_iff separator, ← Mark.head_eq_iff newline, ← separator,
    ← newline]
  exact ⟨fun unmistaken => ⟨unmistaken.1, unmistaken.2, unmistaken.3⟩,
    fun ⟨separatorPlain, newlinePlain, apart⟩ => ⟨separatorPlain, newlinePlain, apart⟩⟩

/-- A separator of one character or two and a newline that are used as they are written and are not
mistaken beside the quotes around cells. -/
structure Options.WellMarked (options : Options) : Prop where
  least : 1 ≤ options.separator.toList.length
  most : options.separator.toList.length ≤ 2
  present : options.newline.toList ≠ []
  separatorPlain : options.separator.toList.head? ≠ some '"'
  newlinePlain : options.newline.toList.head? ≠ some '"'
  apart : ¬options.separator.toList <+: options.newline.toList ++ ['"']

theorem Options.WellMarked.unmistaken {options : Options} (marked : options.WellMarked) :
    options.Unmistaken :=
  (Options.unmistaken_iff marked.least marked.most marked.present).mpr
    ⟨marked.separatorPlain, marked.newlinePlain, marked.apart⟩

example : ({ separator := "\t\"", newline := "\t\t" } : Options).WellMarked := by
  constructor <;> decide

theorem map_normalText_of_single {rows : List (List String)}
    (single : ∀ row ∈ rows, ∀ cell ∈ row, ¬['"', '"'] <:+: cell.toList) :
    rows.map (List.map (normalText false)) = rows :=
  (map_normalText_eq_self_iff false rows).mpr fun row member cell inside =>
    ⟨single row member cell inside, fun strip => absurd strip Bool.false_ne_true⟩

theorem read_write_of_single {options : Options} (unmistaken : options.Unmistaken)
    (unbroken : options.stripNewlines = false) {rows : List (List String)}
    (filled : ∀ row ∈ rows, row ≠ [])
    (single : ∀ row ∈ rows, ∀ cell ∈ row, ¬['"', '"'] <:+: cell.toList) :
    read options (write options rows) = rows := by
  rw [read_write_eq unmistaken.separatorPlain unmistaken.newlinePlain unmistaken.apart rows filled,
    unbroken, map_normalText_of_single single]

/-- Writing rows and reading them back normalises each cell, and so keeps the rows exactly when no
cell has two quotes side by side and none has a line break that would be stripped. -/
theorem read_write (options : Options) (rows : List (List String))
    (separatorPlain : options.separatorMark.head ≠ '"')
    (newlinePlain : options.newlineMark.head ≠ '"')
    (apart : ¬options.separatorMark.chars <+: options.newlineMark.chars ++ ['"'])
    (filled : ∀ row ∈ rows, row ≠ []) :
    read options (write options rows) =
        rows.map (List.map (normalText options.stripNewlines)) ∧
      (read options (write options rows) = rows ↔ ∀ row ∈ rows, ∀ cell ∈ row,
        ¬['"', '"'] <:+: cell.toList ∧
          (options.stripNewlines = true → '\r' ∉ cell.toList ∧ '\n' ∉ cell.toList)) := by
  have result := read_write_eq separatorPlain newlinePlain apart rows filled
  refine ⟨result, ?_⟩
  rw [result]
  exact map_normalText_eq_self_iff options.stripNewlines rows

theorem read_write_semicolons :
    let options : Options := { separator := ";;", newline := ";\n", stripNewlines := true }
    let rows := [["a;;b", "\"\"\"c"], ["\"\r\n\""]]
    options.separatorMark.head ≠ '"' ∧ options.newlineMark.head ≠ '"' ∧
      (¬options.separatorMark.chars <+: options.newlineMark.chars ++ ['"']) ∧
      (∀ row ∈ rows, row ≠ []) ∧
      read options (write options rows) = [["a;;b", "\"c"], ["\"\""]] ∧
      read options (write options rows) ≠ rows := by
  intro options rows
  have separatorPlain : options.separatorMark.head ≠ '"' := by decide
  have newlinePlain : options.newlineMark.head ≠ '"' := by decide
  have apart : ¬options.separatorMark.chars <+: options.newlineMark.chars ++ ['"'] := by decide
  have filled : ∀ row ∈ rows, row ≠ [] := by decide
  obtain ⟨normal, lossless⟩ := read_write options rows separatorPlain newlinePlain apart filled
  refine ⟨separatorPlain, newlinePlain, apart, filled, ?_, ?_⟩
  · rw [normal]
    decide
  · rw [ne_eq, lossless]
    decide

end TableQuery.Delimited
