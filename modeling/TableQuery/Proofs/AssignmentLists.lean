import TableQuery.Proofs.AssignmentText

/-! Lists of assignments read back from their text. What is assigned in quotes is a piece of the
list as it stands, so a comma behind it divides, and no sign inside a value reaches the assignments
after it: the scan leaves each of them as it came to it, outside quotes and parentheses. -/

namespace TableQuery

theorem Assignment.IsField.of_all {field : List Char} (present : field ≠ [])
    (trimmed : Text.trim field = field) (plain : (field.all fun c => !signs.contains c) = true) :
    IsField field := ⟨present, trimmed, by simpa using plain⟩

/-- An assignment of a value in quotes, as it can stand in a list. The value holds anything but the
quote around it. -/
structure QuotedAssignment where
  field : String
  quote : Char
  value : String
  named : Assignment.IsField field.toList
  sign : quote = '\'' ∨ quote = '"'
  absent : quote ∉ value.toList

namespace QuotedAssignment

open Assignment (piecesFrom written)

def chars (entry : QuotedAssignment) : List Char :=
  written entry.field.toList entry.quote entry.value.toList

def text (entry : QuotedAssignment) : String := String.ofList entry.chars

def assignment (entry : QuotedAssignment) : Assignment where
  field := entry.field
  value := match Call.parse? entry.value.toList with
    | some call => .call call
    | none => .literal entry.value

def listText (entries : List QuotedAssignment) : String := String.intercalate ", " (entries.map text)

theorem toList_listText (entries : List QuotedAssignment) :
    (listText entries).toList = [',', ' '].intercalate (entries.map chars) :=
  Text.toList_intercalate_ofList chars ", " entries

theorem trim_reverse_chars (entry : QuotedAssignment) (held : List Char) :
    (Text.trim (entry.chars.reverse ++ held)).isEmpty = false := by
  have quoted : entry.chars.reverse ++ held =
      entry.quote :: (entry.chars.reverse.tail ++ held) := by
    simp [chars, written, Assignment.quoted]
  rw [quoted, List.isEmpty_eq_false_iff]
  exact Text.trim_ne_nil List.mem_cons_self (Assignment.quote_solid entry.sign)

theorem piecesFrom_chars (entry : QuotedAssignment) (held rest : List Char) :
    piecesFrom ⟨none, 0, held⟩ (entry.chars ++ rest) =
      piecesFrom ⟨none, 0, entry.chars.reverse ++ held⟩ rest :=
  Assignment.piecesFrom_written entry.named entry.sign entry.absent rest

theorem piecesFrom_listed (first : QuotedAssignment) (others : List QuotedAssignment)
    (held : List Char) :
    piecesFrom ⟨none, 0, held⟩ ([',', ' '].intercalate ((first :: others).map chars)) =
      (held.reverse ++ first.chars) :: others.map fun entry => [' '] ++ entry.chars := by
  induction others generalizing first held with
  | nil =>
    have taken := piecesFrom_chars first held []
    rw [List.append_nil, piecesFrom, trim_reverse_chars, if_neg Bool.false_ne_true] at taken
    rw [List.map_singleton, List.intercalate_singleton, taken]
    simp
  | cons next others ih =>
    have divided (piece rest : List Char) :
        piecesFrom ⟨none, 0, piece⟩ (',' :: ' ' :: rest) =
          piece.reverse :: piecesFrom ⟨none, 0, [' ']⟩ rest := rfl
    rw [List.map_cons, List.map_cons, List.intercalate_cons_cons, List.append_assoc,
      piecesFrom_chars, List.cons_append, List.cons_append, List.nil_append, divided,
      ← List.map_cons, ih next [' ']]
    simp

theorem ofPiece?_chars (entry : QuotedAssignment) {gap : List Char}
    (blank : ∀ c ∈ gap, Text.isBlank c = true) :
    Assignment.ofPiece? (gap ++ entry.chars) = some entry.assignment := by
  rw [chars, Assignment.ofPiece?_gap_written entry.named entry.sign blank, String.ofList_toList,
    Assignment.valueOf, String.ofList_toList]
  rfl

/-- A list of assignments of quoted values is read as these assignments in their order, each with
the call that its value writes or with the value as it stands between the quotes. -/
theorem quoted_assignments_read_back (entries : List QuotedAssignment) :
    Assignment.ofClause (listText entries) = entries.map assignment := by
  rw [Assignment.ofClause, Assignment.pieces, toList_listText]
  cases entries with
  | nil => rfl
  | cons first others =>
    have scanned := piecesFrom_listed first others []
    have first_read : Assignment.ofPiece? first.chars = some first.assignment :=
      ofPiece?_chars first (List.forall_mem_nil _)
    have later_read : Assignment.ofPiece? ∘ (fun entry : QuotedAssignment => [' '] ++ entry.chars) =
        some ∘ assignment := by
      funext entry
      exact ofPiece?_chars entry (List.forall_mem_singleton.mpr (by decide))
    rw [List.reverse_nil, List.nil_append] at scanned
    rw [scanned, List.filterMap_cons_some first_read, List.filterMap_map, later_read,
      List.filterMap_eq_map, List.map_cons]

/-- Commas, equals signs, an open parenthesis and the other quote stay inside their values. -/
theorem quoted_assignments_read_back_signs :
    ∃ entries : List QuotedAssignment,
      listText entries = "book title=' a=\"b\", (c ', price=\"$add(1, 2) more\", n=''" ∧
        Assignment.ofClause (listText entries) =
          [⟨"book title", .literal " a=\"b\", (c "⟩, ⟨"price", .call ⟨"add", ["1", "2"]⟩⟩,
            ⟨"n", .literal ""⟩] := by
  refine ⟨[⟨"book title", '\'', " a=\"b\", (c ", ?title, .inl rfl, by decide⟩,
    ⟨"price", '"', "$add(1, 2) more", ?price, .inr rfl, by decide⟩,
    ⟨"n", '\'', "", ?note, .inl rfl, by decide⟩], ?text, ?read⟩
  case title => exact .of_all (by decide) (by decide) (by decide)
  case price => exact .of_all (by decide) (by decide) (by decide)
  case note => exact .of_all (by decide) (by decide) (by decide)
  case text =>
    rw [← String.toList_inj, toList_listText]
    rfl
  case read =>
    rw [quoted_assignments_read_back]
    decide +kernel

end QuotedAssignment

end TableQuery
