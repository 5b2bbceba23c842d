import TableQuery.Proofs.DelimitedRoundTrip
import TableQuery.Settings

/-! Settings that are accepted, and whether text written under them reads back. Accepted settings use
their separator and newline as they are, whatever characters these hold. Rows read back just when
neither starts with a quote and no newline before a quote starts with the separator. Otherwise one
row or two with a single cell each are already read as others. -/

namespace TableQuery

namespace Delimited

/-- Options under which all rows of texts without two quotes side by side are read back. -/
def Options.KeepsRows (options : Options) : Prop :=
  ∀ rows : List (List String), (∀ row ∈ rows, row ≠ []) →
    (∀ row ∈ rows, ∀ cell ∈ row, ¬['"', '"'] <:+: cell.toList) →
    read options (write options rows) = rows

theorem read_write_eq_self_iff (options : Options) (rows : List (List String)) :
    read options (write options rows) = rows ↔
      rowsOf options (textOf options (rows.map (List.map String.toList))) =
        rows.map (List.map String.toList) := by
  have texts (read : List (List (List Char))) :
      read.map (List.map String.ofList) = rows ↔ read = rows.map (List.map String.toList) := by
    constructor
    · rintro rfl
      simp [Function.comp_def]
    · rintro rfl
      simp [Function.comp_def]
  rw [read, write, String.toList_ofList]
  exact texts _

theorem doubleQuotes_of_plain {cell : List Char} (plain : '"' ∉ cell) : doubleQuotes cell = cell := by
  induction cell with
  | nil => rfl
  | cons c rest ih =>
    rw [List.mem_cons, not_or] at plain
    rw [doubleQuotes, if_neg (Ne.symm plain.1), ih plain.2]

section Unread

variable {options : Options}

theorem head?_scan_widened (separator newline : Mark) (done : List Char) (text cell : List Char) :
    (scan separator newline .fresh [] [done] text).head? ≠ some [cell] := by
  have noticed : ¬(Mode.fresh = .fresh ∧ [done] = []) := fun fresh => List.cons_ne_nil _ _ fresh.2
  obtain ⟨tail, cells, rows, read⟩ := scan_starts separator newline [] text noticed
  simp [read]

variable (unbroken : options.stripNewlines = false)
include unbroken

theorem cellText_of_plain {cell : List Char} (plain : '"' ∉ cell) :
    cellText options cell = '"' :: (cell ++ ['"']) := by
  have normal : normalCell false cell = cell :=
    (normalCell_eq_self_iff false cell).mpr
      ⟨single_of_plain plain, fun strip => absurd strip Bool.false_ne_true⟩
  rw [cellText, bodyOf_eq, unbroken, normal, doubleQuotes_of_plain plain, List.cons_append]

/-- A separator that starts with a quote is found at the start of a cell that holds what is left of
it, so that the cell is read as two. -/
theorem unread_of_quote_separator (quote : options.separatorMark.head = '"') :
    ∃ cell, '"' ∉ cell ∧ rowsOf options (textOf options [[cell]]) ≠ [[cell]] := by
  have short := separatorMark_length options
  have started (cell after : List Char) (plain : '"' ∉ cell)
      (starts : cell ++ ['"'] = options.separatorMark.tail ++ after) :
      rowsOf options (textOf options [[cell]]) ≠ [[cell]] := by
    have text : textOf options [[cell]] = options.separatorMark.chars ++ after := by
      simp [textOf, rowText, cellText_of_plain unbroken plain, Mark.chars, quote, starts]
    intro same
    rw [rowsOf, text, scan_separator (by decide)] at same
    exact head?_scan_widened _ _ _ after cell (by rw [same]; rfl)
  cases tail : options.separatorMark.tail with
  | nil => exact ⟨[], by simp, started [] ['"'] (by simp) (by simp [tail])⟩
  | cons c rest =>
    cases rest with
    | nil =>
      by_cases double : c = '"'
      · exact ⟨[], by simp, started [] [] (by simp) (by simp [tail, double])⟩
      · have plain : '"' ∉ [c] := by simpa [eq_comm] using double
        exact ⟨[c], plain, started [c] ['"'] plain (by simp [tail])⟩
    | cons second rest =>
      rw [Mark.chars, tail] at short
      simp at short

theorem textOf_letters :
    textOf options [[['a']], [['a']]] =
      '"' :: (doubleQuotes ['a'] ++ '"' :: (options.newlineMark.chars ++ ['"', 'a', '"'])) := by
  have cell : cellText options ['a'] = ['"', 'a', '"'] := cellText_of_plain unbroken (by decide)
  rw [textOf_cons_cons, textOf, rowText]
  simp [rowText, cell, doubleQuotes]

variable (separatorPlain : options.separatorMark.head ≠ '"')
include separatorPlain

theorem unread_of_quote_newline (quote : options.newlineMark.head = '"') :
    rowsOf options (textOf options [[['a']], [['a']]]) ≠ [[['a']], [['a']]] := by
  have noticed : ¬(Mode.quoted = .fresh ∧ ([] : List (List Char)) = []) :=
    fun fresh => Mode.noConfusion fresh.1
  obtain ⟨tail, cells, rows, read⟩ := scan_starts options.separatorMark options.newlineMark
    ['"', 'a'] (options.newlineMark.tail ++ ['"', 'a', '"']) noticed
  have body : scan options.separatorMark options.newlineMark .quoted [] []
      (doubleQuotes ['a'] ++ '"' :: (options.newlineMark.chars ++ ['"', 'a', '"'])) =
        ((['a', '"'] ++ tail) :: cells) :: rows := by
    rw [doubleQuotes, if_neg (by decide), doubleQuotes, List.cons_append, List.nil_append,
      scan_quoted_char (by decide), Mark.chars, quote, List.cons_append, scan_quoted_double, read]
    simp
  intro same
  rw [textOf_letters unbroken, rowsOf, scan_outside (by decide), cut?_quote separatorPlain] at same
  cases cut : options.newlineMark.cut?
      ('"' :: (doubleQuotes ['a'] ++ '"' :: (options.newlineMark.chars ++ ['"', 'a', '"']))) with
  | some after =>
    -- The newline stands at the start of the text, with nothing before it.
    simp [cut] at same
  | none => simp [cut, body] at same

theorem unread_of_joined (newlinePlain : options.newlineMark.head ≠ '"')
    (joined : options.separatorMark.chars <+: options.newlineMark.chars ++ ['"']) :
    rowsOf options (textOf options [[['a']], [['a']]]) ≠ [[['a']], [['a']]] := by
  obtain ⟨after, parted⟩ := joined
  have next : options.newlineMark.chars ++ ['"', 'a', '"'] =
      options.separatorMark.chars ++ (after ++ ['a', '"']) := by
    rw [← List.append_assoc, parted, List.append_assoc]
    rfl
  intro same
  rw [textOf_letters unbroken, rowsOf, scan_opening separatorPlain newlinePlain,
    scan_quoted_body ['a'] (mark_closes newlinePlain _), next, scan_separator (by decide)] at same
  exact head?_scan_widened _ _ _ _ ['a'] (by rw [same]; rfl)

end Unread

theorem keepsRows_iff {options : Options} (unbroken : options.stripNewlines = false) :
    options.KeepsRows ↔ options.Unmistaken := by
  constructor
  · intro back
    have plain_back (rows : List (List (List Char))) (filled : ∀ row ∈ rows, row ≠ [])
        (plain : ∀ row ∈ rows, ∀ cell ∈ row, '"' ∉ cell) :
        rowsOf options (textOf options rows) = rows := by
      have same := (read_write_eq_self_iff options (rows.map (List.map String.ofList))).mp
        (back _ (by simpa using filled) ?_)
      · simpa [Function.comp_def] using same
      · simp only [List.forall_mem_map, String.toList_ofList]
        exact fun row member cell inside => single_of_plain (plain row member cell inside)
    have separatorPlain : options.separatorMark.head ≠ '"' := by
      intro quote
      obtain ⟨cell, plain, unread⟩ := unread_of_quote_separator unbroken quote
      exact unread (plain_back _ (by simp) (by simpa using plain))
    have letters := plain_back [[['a']], [['a']]] (by simp) (by simp)
    have newlinePlain : options.newlineMark.head ≠ '"' :=
      fun quote => unread_of_quote_newline unbroken separatorPlain quote letters
    exact ⟨separatorPlain, newlinePlain,
      fun joined => unread_of_joined unbroken separatorPlain newlinePlain joined letters⟩
  · intro unmistaken rows filled single
    exact read_write_of_single unmistaken unbroken filled single

/-- Settings are accepted with a separator of one or two characters and with any newline. -/
theorem lengths_of_accepted {settings : Settings} (accepted : settings.fault? = none) :
    (1 ≤ settings.separator.toList.length ∧ settings.separator.toList.length ≤ 2) ∧
      settings.newline.toList ≠ [] := by
  simp only [Settings.fault?] at accepted
  split at accepted
  next => contradiction
  next width =>
    split at accepted
    next => contradiction
    next present =>
      refine ⟨by omega, ?_⟩
      simpa using present

/-- Accepted settings that strip no line breaks keep all rows exactly when neither the separator nor
the newline starts with a quote and the separator does not start the newline with a quote behind
it. -/
theorem accepted_settings_keep_rows_iff (settings : Settings) (accepted : settings.fault? = none)
    (unbroken : settings.stripNewlines = false) :
    settings.delimited.KeepsRows ↔
      settings.separator.toList.head? ≠ some '"' ∧ settings.newline.toList.head? ≠ some '"' ∧
        ¬settings.separator.toList <+: settings.newline.toList ++ ['"'] := by
  obtain ⟨⟨least, most⟩, present⟩ := lengths_of_accepted accepted
  rw [@keepsRows_iff settings.delimited unbroken]
  exact @Options.unmistaken_iff settings.delimited least most present

theorem accepted_settings_keep_rows_iff_overlapping :
    let kept : Settings := { separator := "\t\"", newline := "\t\t" }
    let lost : Settings := { separator := "\t\"", newline := "\t" }
    (kept.fault? = none ∧ kept.stripNewlines = false ∧ kept.delimited.KeepsRows) ∧
      lost.fault? = none ∧ lost.stripNewlines = false ∧ ¬lost.delimited.KeepsRows := by
  intro kept lost
  have kept_accepted : kept.fault? = none := by decide
  have lost_accepted : lost.fault? = none := by decide
  refine ⟨⟨kept_accepted, rfl, ?_⟩, lost_accepted, rfl, ?_⟩
  · rw [accepted_settings_keep_rows_iff kept kept_accepted rfl]
    decide
  · rw [accepted_settings_keep_rows_iff lost lost_accepted rfl]
    decide

/-- A quote is accepted as a separator. Each cell is then read with an empty one on either side. -/
theorem quote_separator_loses_rows :
    let settings : Settings := { separator := "\"" }
    settings.fault? = none ∧ settings.stripNewlines = false ∧
      write settings.delimited [["id"], ["1"]] = "\"id\"\r\n\"1\"" ∧
      read settings.delimited (write settings.delimited [["id"], ["1"]]) =
        [["", "id", ""], ["", "1", ""]] ∧
      ¬settings.delimited.KeepsRows := by
  intro settings
  have reread : read settings.delimited (write settings.delimited [["id"], ["1"]]) =
      [["", "id", ""], ["", "1", ""]] := by decide +kernel
  refine ⟨by decide, rfl, by decide +kernel, reread, fun keeps => ?_⟩
  have same := keeps [["id"], ["1"]] (by decide) (by decide)
  rw [reread] at same
  exact absurd same (by decide)

end Delimited

end TableQuery
