import Mathlib.Data.List.Infix
import TableQuery.Proofs.DelimitedScanning

/-! Delimited text without quotes. Whether the reader has noticed a cell is then plain from what it
holds of it, and every text is an end, a separator, a newline or a character that goes to the cell.
So nothing of the text is lost but the marks that divided it, and these can be put back. A newline
at the end is the only one that divides nothing. No mark is left in a cell, since the reader tried
it at each character that went there. -/

namespace TableQuery.Delimited

def bareRows (options : Options) (rows : List (List (List Char))) : List Char :=
  options.newlineMark.chars.intercalate (rows.map options.separatorMark.chars.intercalate)

def bareText (options : Options) (rows : List (List String)) : String :=
  String.ofList (bareRows options (rows.map (List.map String.toList)))

/-- The reader of unquoted text, which has noticed a cell just when it holds some of it. -/
def scanBare (options : Options) (cell : List Char) (row : List (List Char)) (text : List Char) :
    List (List (List Char)) :=
  scan options.separatorMark options.newlineMark (if cell = [] then .fresh else .bare) cell row text

section Steps

variable (options : Options) (cell : List Char) (row : List (List Char)) {rest : List Char}

theorem outside_bare : (if cell = [] then Mode.fresh else Mode.bare) ≠ .quoted := by
  split <;> decide

theorem scanBare_nil :
    scanBare options cell row [] =
      if cell = [] ∧ row = [] then [] else [(cell.reverse :: row).reverse] := by
  unfold scanBare
  rw [scan]
  by_cases started : cell = [] <;> simp [started]

theorem scanBare_separator :
    scanBare options cell row (options.separatorMark.chars ++ rest) =
      scanBare options [] (cell.reverse :: row) rest :=
  scan_separator (outside_bare cell)

theorem scanBare_newline
    (joined : options.separatorMark.cut? (options.newlineMark.chars ++ rest) = none) :
    scanBare options cell row (options.newlineMark.chars ++ rest) =
      (cell.reverse :: row).reverse :: scanBare options [] [] rest :=
  scan_newline (outside_bare cell) joined

theorem scanBare_char {c : Char} (plain : c ≠ '"')
    (goes : options.separatorMark.cut? (c :: rest) = none)
    (stays : options.newlineMark.cut? (c :: rest) = none) :
    scanBare options cell row (c :: rest) = scanBare options (c :: cell) row rest := by
  unfold scanBare
  rw [scan_outside (outside_bare cell), goes, stays]
  exact if_neg fun quote => plain quote.1

end Steps

/-- A property of the reader's state holds on all unquoted text when each step keeps it, from what
follows back to the text before. -/
theorem scanBare_induction (options : Options)
    {motive : List Char → List (List Char) → List Char → Prop}
    (ended : ∀ cell row, motive cell row [])
    (separated : ∀ cell row rest, motive [] (cell.reverse :: row) rest →
      motive cell row (options.separatorMark.chars ++ rest))
    (finished : ∀ cell row rest,
      options.separatorMark.cut? (options.newlineMark.chars ++ rest) = none →
      motive [] [] rest → motive cell row (options.newlineMark.chars ++ rest))
    (held : ∀ cell row c rest, c ≠ '"' → options.separatorMark.cut? (c :: rest) = none →
      options.newlineMark.cut? (c :: rest) = none → motive (c :: cell) row rest →
      motive cell row (c :: rest))
    (cell : List Char) (row : List (List Char)) (text : List Char) (plain : '"' ∉ text) :
    motive cell row text := by
  match text with
  | [] => exact ended cell row
  | c :: rest =>
    match goes : options.separatorMark.cut? (c :: rest) with
    | some after =>
      have shorter := Mark.cut?_shorter goes
      have same := Mark.cut?_eq_some_iff.mp goes
      rw [same] at plain ⊢
      apply separated
      exact scanBare_induction options ended separated finished held _ _ after
        fun quote => plain (List.mem_append_right _ quote)
    | none =>
      match stays : options.newlineMark.cut? (c :: rest) with
      | some after =>
        have shorter := Mark.cut?_shorter stays
        have same := Mark.cut?_eq_some_iff.mp stays
        rw [same] at plain goes ⊢
        apply finished _ _ _ goes
        exact scanBare_induction options ended separated finished held _ _ after
          fun quote => plain (List.mem_append_right _ quote)
      | none =>
        rw [List.mem_cons, not_or] at plain
        apply held _ _ _ _ (Ne.symm plain.1) goes stays
        exact scanBare_induction options ended separated finished held _ _ rest plain.2
termination_by text.length
decreasing_by
  · exact shorter
  · exact shorter
  · exact Nat.lt_succ_self _

section Restored

variable {options : Options} {rows : List (List (List Char))} {text : List Char}

def heldText (options : Options) (cell : List Char) (row : List (List Char)) : List Char :=
  row.reverse.flatMap (· ++ options.separatorMark.chars) ++ cell.reverse

/-- Rows from which a text is put together again. A newline at the end of the text is left out, and
without it the last row is more than an empty cell. -/
def Restores (options : Options) (rows : List (List (List Char))) (text : List Char) : Prop :=
  bareRows options rows = text ∧ rows.getLast? ≠ some [[]] ∨
    bareRows options rows ++ options.newlineMark.chars = text ∧ rows ≠ []

theorem heldText_eq (options : Options) (cell : List Char) (row : List (List Char)) :
    heldText options cell row =
      options.separatorMark.chars.intercalate (cell.reverse :: row).reverse := by
  rw [List.reverse_cons, intercalate_concat]
  rfl

theorem Restores.cons (restores : Restores options rows text) (row : List (List Char)) :
    Restores options (row :: rows)
      (options.separatorMark.chars.intercalate row ++ (options.newlineMark.chars ++ text)) := by
  cases rows with
  | nil =>
    rcases restores with ⟨rfl, -⟩ | ⟨-, none⟩
    · refine .inr ⟨?_, List.cons_ne_nil _ _⟩
      simp [bareRows]
    · exact absurd rfl none
  | cons next rows =>
    have joined : bareRows options (row :: next :: rows) =
        options.separatorMark.chars.intercalate row ++
          (options.newlineMark.chars ++ bareRows options (next :: rows)) := by
      simp only [bareRows, List.map_cons, List.intercalate_cons_cons, List.append_assoc]
    rcases restores with ⟨rfl, open_row⟩ | ⟨rfl, -⟩
    · refine .inl ⟨joined, ?_⟩
      rwa [List.getLast?_cons_cons]
    · refine .inr ⟨?_, List.cons_ne_nil _ _⟩
      simp only [joined, List.append_assoc]

theorem scanBare_restores (cell : List Char) (row : List (List Char)) (text : List Char)
    (plain : '"' ∉ text) :
    Restores options (scanBare options cell row text) (heldText options cell row ++ text) := by
  refine scanBare_induction options
    (motive := fun cell row text =>
      Restores options (scanBare options cell row text) (heldText options cell row ++ text))
    ?ended ?separated ?finished ?held cell row text plain
  case ended =>
    intro cell row
    rw [scanBare_nil, List.append_nil]
    split
    next unnoticed =>
      obtain ⟨rfl, rfl⟩ := unnoticed
      exact .inl ⟨rfl, by simp⟩
    next noticed =>
      refine .inl ⟨?_, ?_⟩
      · rw [heldText_eq, bareRows, List.map_singleton, List.intercalate_singleton]
      · intro single
        rw [List.getLast?_singleton, Option.some.injEq, List.reverse_eq_iff, List.reverse_singleton,
          List.cons.injEq, List.reverse_eq_nil_iff] at single
        exact noticed single
  case separated =>
    intro cell row rest restores
    rw [scanBare_separator]
    have moved : heldText options [] (cell.reverse :: row) =
        heldText options cell row ++ options.separatorMark.chars := by
      simp [heldText]
    rwa [moved, List.append_assoc] at restores
  case finished =>
    intro cell row rest joined restores
    rw [scanBare_newline _ _ _ joined, heldText_eq]
    exact restores.cons _
  case held =>
    intro cell row c rest plain goes stays restores
    rw [scanBare_char _ _ _ plain goes stays]
    have moved : heldText options (c :: cell) row = heldText options cell row ++ [c] := by
      simp [heldText]
    rwa [moved, List.append_assoc] at restores

end Restored

section Undivided

variable {options : Options} {cell rest : List Char}

def Options.marks (options : Options) : List Mark := [options.separatorMark, options.newlineMark]

def Undivided (options : Options) (cell : List Char) : Prop :=
  ∀ mark ∈ options.marks, ¬mark.chars <:+: cell

/-- No mark starts inside the part of a cell that is held, not even one that ends after it. -/
def Tried (options : Options) (cell rest : List Char) : Prop :=
  ∀ mark ∈ options.marks, ∀ before after, cell.reverse = before ++ after → after ≠ [] →
    ¬mark.chars <+: after ++ rest

theorem tried_nil (options : Options) (rest : List Char) : Tried options [] rest := by
  intro mark _ before after parts present
  exact absurd (List.append_eq_nil_iff.mp parts.symm).2 present

theorem Tried.cons {c : Char} (tried : Tried options cell (c :: rest))
    (cuts : ∀ mark ∈ options.marks, mark.cut? (c :: rest) = none) :
    Tried options (c :: cell) rest := by
  intro mark member before after parts present
  obtain ⟨earlier, last, rfl⟩ := (List.eq_nil_or_concat' after).resolve_left present
  rw [List.reverse_cons, ← List.append_assoc] at parts
  obtain ⟨held, same⟩ := List.append_inj' parts rfl
  obtain rfl : c = last := List.singleton_inj.mp same
  rw [List.append_assoc, List.singleton_append]
  by_cases here : earlier = []
  · rintro ⟨following, starts⟩
    rw [here, List.nil_append] at starts
    have found := Mark.cut?_eq_some_iff.mpr starts.symm
    rw [cuts mark member] at found
    contradiction
  · exact tried mark member before earlier held here

theorem Tried.undivided (tried : Tried options cell rest) : Undivided options cell.reverse := by
  rintro mark member ⟨before, after, parts⟩
  rw [List.append_assoc] at parts
  apply tried mark member before (mark.chars ++ after) parts.symm
  · exact List.append_ne_nil_of_left_ne_nil (List.cons_ne_nil _ _) after
  · rw [List.append_assoc]
    exact List.prefix_append _ _

theorem scanBare_undivided (cell : List Char) (row : List (List Char)) (text : List Char)
    (plain : '"' ∉ text) (tried : Tried options cell text)
    (before : ∀ done ∈ row, Undivided options done) :
    ∀ read ∈ scanBare options cell row text,
      read ≠ [] ∧ ∀ done ∈ read, Undivided options done := by
  -- The row that is read ends with the cell that is held.
  have closed (cell : List Char) (row : List (List Char)) (rest : List Char)
      (tried : Tried options cell rest) (before : ∀ done ∈ row, Undivided options done) :
      (cell.reverse :: row).reverse ≠ [] ∧
        ∀ done ∈ (cell.reverse :: row).reverse, Undivided options done := by
    refine ⟨by simp, fun done member => ?_⟩
    rcases List.mem_cons.mp (List.mem_reverse.mp member) with rfl | earlier
    · exact tried.undivided
    · exact before done earlier
  refine scanBare_induction options
    (motive := fun cell row text => Tried options cell text →
      (∀ done ∈ row, Undivided options done) → ∀ read ∈ scanBare options cell row text,
        read ≠ [] ∧ ∀ done ∈ read, Undivided options done)
    ?ended ?separated ?finished ?held cell row text plain tried before
  case ended =>
    intro cell row tried before read member
    rw [scanBare_nil] at member
    split at member
    next => exact absurd member List.not_mem_nil
    next =>
      rw [List.mem_singleton.mp member]
      exact closed cell row [] tried before
  case separated =>
    intro cell row rest ih tried before
    rw [scanBare_separator]
    apply ih (tried_nil options rest)
    intro done member
    rcases List.mem_cons.mp member with rfl | earlier
    · exact tried.undivided
    · exact before done earlier
  case finished =>
    intro cell row rest joined ih tried before read member
    rw [scanBare_newline _ _ _ joined] at member
    rcases List.mem_cons.mp member with rfl | later
    · exact closed cell row _ tried before
    · exact ih (tried_nil options rest) (by simp) read later
  case held =>
    intro cell row c rest plain goes stays ih tried before
    rw [scanBare_char _ _ _ plain goes stays]
    apply ih (tried.cons ?_) before
    simp [Options.marks, goes, stays]

end Undivided

theorem bareText_read (options : Options) (text : String) :
    bareText options (read options text) =
      String.ofList (bareRows options (rowsOf options text.toList)) := by
  unfold bareText read
  simp [Function.comp_def]

/-- Text without quotes is divided without loss. Its cells with the separator between them and its
rows with the newline between them make the text again, or all of it but a newline at its end, and
no mark is left in a cell. The separator and the newline are those that are used in the text. -/
theorem unquoted_text_divides (options : Options) (text : String) (plain : '"' ∉ text.toList) :
    (bareText options (read options text) = text ∧ (read options text).getLast? ≠ some [""] ∨
      bareText options (read options text) ++ String.ofList options.newlineMark.chars = text ∧
        read options text ≠ []) ∧
    ∀ row ∈ read options text, row ≠ [] ∧ ∀ cell ∈ row,
      ¬options.separatorMark.chars <:+: cell.toList ∧
        ¬options.newlineMark.chars <:+: cell.toList := by
  have restores : Restores options (rowsOf options text.toList) text.toList :=
    scanBare_restores [] [] text.toList plain
  have undivided : ∀ row ∈ rowsOf options text.toList,
      row ≠ [] ∧ ∀ cell ∈ row, Undivided options cell :=
    scanBare_undivided [] [] text.toList plain (tried_nil options _) (by simp)
  rw [bareText_read]
  constructor
  · rcases restores with ⟨whole, last⟩ | ⟨ended, present⟩
    · refine .inl ⟨by rw [whole, String.ofList_toList], ?_⟩
      rw [read, List.getLast?_map]
      intro single
      obtain ⟨row, found, empty⟩ := Option.map_eq_some_iff.mp single
      obtain ⟨cell, rfl, shown⟩ := List.map_eq_singleton_iff.mp empty
      obtain rfl : cell = [] := by simpa using shown
      exact last found
    · refine .inr ⟨?_, by simpa [read] using present⟩
      rw [← String.ofList_append, ended, String.ofList_toList]
  · simp only [read, List.forall_mem_map]
    intro row member
    obtain ⟨present, cells⟩ := undivided row member
    refine ⟨by simpa using present, fun cell inside => ?_⟩
    rw [String.toList_ofList]
    exact ⟨cells cell inside _ List.mem_cons_self,
      cells cell inside _ (List.mem_cons_of_mem _ List.mem_cons_self)⟩

theorem unquoted_text_divides_semicolons :
    let options : Options := { separator := ";;;", newline := ";\n" }
    let text := "a;;;b;\n\n;;;\n;\n"
    let rows := [["a", ";b"], ["\n", ""], [""]]
    '"' ∉ text.toList ∧ read options text = rows ∧ bareText options rows ++ ";\n" = text ∧
      ∀ row ∈ rows, ∀ cell ∈ row,
        ¬[';', ';'] <:+: cell.toList ∧ ¬[';', '\n'] <:+: cell.toList := by
  intro options text rows
  have plain : '"' ∉ text.toList := by decide
  have separator : options.separatorMark.chars = [';', ';'] := by decide
  have newline : options.newlineMark.chars = [';', '\n'] := by decide
  have reads : read options text = rows := by decide +kernel
  obtain ⟨restored, divided⟩ := unquoted_text_divides options text plain
  rw [reads, newline] at restored
  simp only [reads, separator, newline] at divided
  have last : rows.getLast? = some [""] := rfl
  obtain ⟨ended, -⟩ := restored.resolve_left fun whole => whole.2 last
  exact ⟨plain, reads, ended, fun row member => (divided row member).2⟩

end TableQuery.Delimited
