import TableQuery.Proofs.DelimitedRoundTrip
import TableQuery.Proofs.Projection
import TableQuery.Proofs.Rectangular
import TableQuery.Proofs.SessionFrames

/-! A table given to a file of delimited text and loaded from it again. The reader of a file takes
its line ends from the text, and so may read with another newline than the text was written with.
Then the text is a single row, which has no newline between its cells, and it reads alike. -/

namespace TableQuery

namespace Session

theorem occurs_iff (piece text : List Char) : occurs piece text = true ↔ piece <:+: text := by
  induction text with
  | nil => rw [occurs, List.isEmpty_iff, List.infix_nil]
  | cons c rest ih =>
    rw [occurs, Bool.or_eq_true, List.isPrefixOf_iff_prefix, ih, List.infix_cons_iff]

/-- A file is read with the options as they are, or with a line feed for a newline that does not
stand in it. -/
theorem fileOptions_eq_or (options : Delimited.Options) {extension : String}
    (commas : extension ≠ "tsv") (text : String) :
    fileOptions options extension text = options ∨
      fileOptions options extension text = { options with newline := "\n" } ∧
        ¬options.newline.toList <:+: text.toList := by
  rw [fileOptions, if_neg commas]
  split
  next other =>
    rw [Bool.and_eq_true, Bool.not_eq_true', ← Bool.not_eq_true, occurs_iff] at other
    exact .inr ⟨rfl, other.1⟩
  next => exact .inl rfl

end Session

namespace Delimited

theorem newline_infix_textOf (options : Options) (row next : List (List Char))
    (rows : List (List (List Char))) :
    options.newline.toList <:+: textOf options (row :: next :: rows) := by
  rw [textOf_cons_cons]
  cases marked : options.newline.toList with
  | nil => exact List.nil_infix
  | cons c rest =>
    have mark : options.newlineMark.chars = c :: rest := by
      rw [Options.newlineMark, marked]
      rfl
    rw [mark]
    exact ⟨rowText options row, textOf options (next :: rows), by rw [List.append_assoc]⟩

theorem write_row_newline (options : Options) (newline : String) (row : List String) :
    write { options with newline := newline } [row] = write options [row] := by
  simp only [write, textOf, List.map_singleton, List.intercalate_singleton]
  rfl

theorem lineFeed_plain (options : Options) :
    ({ options with newline := "\n" } : Options).newlineMark.head ≠ '"' := by
  simp [Options.newlineMark, Mark.ofChars]

theorem read_write_row {options : Options} (separatorPlain : options.separatorMark.head ≠ '"')
    (newlinePlain : options.newlineMark.head ≠ '"') {row : List String} (filled : row ≠ []) :
    read options (write options [row]) = [row.map (normalText options.stripNewlines)] := by
  have cells : row.map String.toList ≠ [] := by simpa using filled
  rw [read, write, String.toList_ofList, List.map_singleton, textOf, List.map_singleton,
    List.intercalate_singleton, rowsOf, scan_row separatorPlain newlinePlain cells]
  simp [normalText, Function.comp_def]

theorem read_file {options : Options} (separatorPlain : options.separatorMark.head ≠ '"')
    (newlinePlain : options.newlineMark.head ≠ '"')
    (apart : ¬options.separatorMark.chars <+: options.newlineMark.chars ++ ['"'])
    {rows : List (List String)} (present : rows ≠ []) (filled : ∀ row ∈ rows, row ≠ [])
    {extension : String} (commas : extension ≠ "tsv") :
    read (Session.fileOptions options extension (write options rows)) (write options rows) =
      rows.map (List.map (normalText options.stripNewlines)) := by
  rcases Session.fileOptions_eq_or options commas (write options rows) with same | ⟨other, absent⟩
  · rw [same]
    exact read_write_eq separatorPlain newlinePlain apart rows filled
  · rw [other]
    cases rows with
    | nil => exact absurd rfl present
    | cons row rest =>
      cases rest with
      | nil =>
        -- The text of a single row is written alike with all newlines.
        rw [← write_row_newline options "\n"]
        exact @read_write_row { options with newline := "\n" } separatorPlain
          (lineFeed_plain options) row (filled row List.mem_cons_self)
      | cons next rows =>
        refine absurd ?_ absent
        rw [write, String.toList_ofList]
        exact newline_infix_textOf options _ _ _

end Delimited

/-- Options under which texts without two quotes side by side are written and read as they are. -/
structure Delimited.Options.Faithful (options : Options) : Prop where
  header : options.header = true
  literal : options.inferTypes = false
  unbroken : options.stripNewlines = false
  separatorPlain : options.separatorMark.head ≠ '"'
  newlinePlain : options.newlineMark.head ≠ '"'
  apart : ¬options.separatorMark.chars <+: options.newlineMark.chars ++ ['"']

theorem Delimited.Options.WellMarked.faithful {options : Options} (marked : options.WellMarked)
    (header : options.header = true) (literal : options.inferTypes = false)
    (unbroken : options.stripNewlines = false) : options.Faithful :=
  have unmistaken := marked.unmistaken
  ⟨header, literal, unbroken, unmistaken.separatorPlain, unmistaken.newlinePlain,
    unmistaken.apart⟩

/-- A rectangular table of texts without two quotes side by side. -/
structure Table.PlainTexts (table : Table) : Prop where
  rect : table.Rectangular
  wide : table.fields ≠ []
  names : ∀ name ∈ table.fields, ¬['"', '"'] <:+: name.toList
  cells : ∀ row ∈ table.rows, ∀ cell ∈ row,
    ∃ text : String, cell = .text text ∧ ¬['"', '"'] <:+: text.toList

namespace Table

theorem eq_self_of_valid {table : Table} (valid : table.valid = true) :
    { table with valid := true } = table := by
  rw [← valid]

theorem textRows_of_rectangular {table : Table} (rect : table.Rectangular)
    {options : Delimited.Options} (header : options.header = true) :
    textRows options table none =
      table.fields :: table.rows.map fun row => row.map Cell.display := by
  have rows : table.toMatrix none = table.rows := by
    conv_rhs => rw [← List.map_id table.rows]
    exact List.map_congr_left fun row member => project_allColumns (rect row member)
  rw [textRows, selectedNames_none, rows, if_pos header]

theorem ofDelimited_of_header {options : Delimited.Options} (header : options.header = true)
    {text : String} {fields : List String} {rows : List (List String)}
    (reads : Delimited.read options text = fields :: rows) :
    ofDelimited options text =
      { fields := fields, rows := rows.map (List.map (cellOfText options)) } := by
  rw [ofDelimited, if_pos header, readDelimited, reads, ofDelimitedRows, ofMatrix]

theorem map_display {read : String → Cell} {rows : List Row}
    (back : ∀ row ∈ rows, ∀ cell ∈ row, read cell.display = cell) :
    (rows.map fun row => row.map Cell.display).map (List.map read) = rows := by
  rw [List.map_map]
  conv_rhs => rw [← List.map_id rows]
  refine List.map_congr_left fun row member => ?_
  rw [Function.comp_apply, List.map_map]
  conv_rhs => rw [id_eq, ← List.map_id row]
  exact List.map_congr_left fun cell inside => back row member cell inside

section Written

variable {table : Table} (rect : table.Rectangular) {options : Delimited.Options}
  (header : options.header = true)
include rect header

theorem textRows_single (names : ∀ name ∈ table.fields, ¬['"', '"'] <:+: name.toList)
    (cells : ∀ row ∈ table.rows, ∀ cell ∈ row, ¬['"', '"'] <:+: cell.display.toList) :
    ∀ row ∈ textRows options table none, ∀ text ∈ row, ¬['"', '"'] <:+: text.toList := by
  rw [textRows_of_rectangular rect header]
  intro row member text inside
  rcases List.mem_cons.mp member with rfl | member
  · exact names text inside
  · obtain ⟨shown, found, rfl⟩ := List.mem_map.mp member
    obtain ⟨cell, held, rfl⟩ := List.mem_map.mp inside
    exact cells shown found cell held

theorem textRows_filled (wide : table.fields ≠ []) :
    ∀ row ∈ textRows options table none, row ≠ [] := by
  rw [textRows_of_rectangular rect header]
  intro row member
  rcases List.mem_cons.mp member with rfl | member
  · exact wide
  · obtain ⟨cells, found, rfl⟩ := List.mem_map.mp member
    have width : cells.length = table.fields.length := rect cells found
    have some_field : 0 < table.fields.length := List.length_pos_iff.mpr wide
    rw [← List.length_pos_iff, List.length_map]
    omega

end Written

section PlainTexts

variable {table : Table} (plain : table.PlainTexts)
include plain

theorem PlainTexts.map_display {options : Delimited.Options}
    (literal : options.inferTypes = false) :
    (table.rows.map fun row => row.map Cell.display).map (List.map (cellOfText options)) =
      table.rows := by
  apply Table.map_display
  intro row member cell inside
  obtain ⟨text, rfl, _⟩ := plain.cells row member cell inside
  rw [cellOfText, literal]
  rfl

variable {options : Delimited.Options} (faithful : options.Faithful)
include faithful

theorem PlainTexts.textRows_normal :
    (textRows options table none).map (List.map (Delimited.normalText options.stripNewlines)) =
      textRows options table none := by
  rw [faithful.unbroken]
  apply Delimited.map_normalText_of_single
  apply textRows_single plain.rect faithful.header plain.names
  intro row member cell inside
  obtain ⟨text, rfl, apart⟩ := plain.cells row member cell inside
  exact apart

theorem PlainTexts.textRows_filled : ∀ row ∈ textRows options table none, row ≠ [] :=
  Table.textRows_filled plain.rect faithful.header plain.wide

end PlainTexts

end Table

namespace Session

theorem fileOptions_same (options : Delimited.Options) {extension : String}
    (commas : extension ≠ "tsv") (text : String) :
    (fileOptions options extension text).header = options.header ∧
      (fileOptions options extension text).inferTypes = options.inferTypes := by
  rcases fileOptions_eq_or options commas text with same | ⟨same, _⟩
  · rw [same]
    exact ⟨rfl, rfl⟩
  · rw [same]
    exact ⟨rfl, rfl⟩

theorem tableOfFile_toDelimited {options : Delimited.Options} (faithful : options.Faithful)
    {table : Table} (plain : table.PlainTexts) {path : String}
    (kind : extensionOf path ≠ "json" ∧ extensionOf path ≠ "tsv") :
    tableOfFile options path (table.toDelimited options none) =
      .ok { table with valid := true } := by
  have written := Table.textRows_of_rectangular plain.rect faithful.header
  have present : Table.textRows options table none ≠ [] := by
    rw [written]
    exact List.cons_ne_nil _ _
  have reads := Delimited.read_file faithful.separatorPlain faithful.newlinePlain faithful.apart
    present (plain.textRows_filled faithful) kind.2
  rw [plain.textRows_normal faithful] at reads
  obtain ⟨header, literal⟩ := fileOptions_same options kind.2
    (Delimited.write options (Table.textRows options table none))
  have loaded := Table.ofDelimited_of_header (header.trans faithful.header) (reads.trans written)
  rw [tableOfFile, if_neg kind.1, Table.toDelimited, loaded,
    plain.map_display (literal.trans faithful.literal)]

end Session

namespace Command

theorem readVerb_export (rest : List Char) : readVerb "export".toList rest = readGive rest := by
  rfl

theorem readVerb_load (rest : List Char) : readVerb "load".toList rest =
    (required "load" "<path>" rest).map fun rest => .load (.ofList rest) := by
  rfl

section Paths

variable {path : String} (named : path ≠ "") (solid : ∀ c ∈ path.toList, Text.isBlank c = false)
include named solid

theorem read_export : read ("export csv " ++ path) = .ok (.give .delimited (some path)) := by
  have filled : path.toList ≠ [] := by simpa using named
  have line : "export csv " ++ path =
      String.ofList ("export".toList ++ ' ' :: ("csv".toList ++ ' ' :: path.toList)) := by
    rw [← String.toList_inj]
    simp
  have first : ∀ c ∈ ("csv".toList ++ ' ' :: path.toList).head?, Text.isBlank c = false := by
    rintro c ⟨⟩
    decide
  have last : ∀ c ∈ ("csv".toList ++ ' ' :: path.toList).getLast?, Text.isBlank c = false := by
    rw [List.getLast?_append, List.getLast?_cons_of_ne_nil filled,
      List.getLast?_eq_some_getLast filled, Option.some_or]
    rintro c ⟨⟩
    exact solid _ (List.getLast_mem filled)
  have format : formatOf "csv".toList = .ok .delimited := by rfl
  rw [line, read_line (by decide) (Text.no_blank_of_any (by decide)) (by decide),
    Text.trim_of_ends first last, readVerb_export, readGive,
    Text.words_append (Text.no_blank_of_any (by decide)) (by decide) (by decide),
    Text.words_of_no_blank solid filled]
  simp only [format, List.head?_cons, Option.map_some, String.ofList_toList]
  rfl

theorem read_load : read ("load " ++ path) = .ok (.load path) := by
  have filled : path.toList ≠ [] := by simpa using named
  have line : "load " ++ path = String.ofList ("load".toList ++ ' ' :: path.toList) := by
    rw [← String.toList_inj]
    simp
  rw [line, read_line (by decide) (Text.no_blank_of_any (by decide)) (by decide),
    Text.trim_of_no_blank solid, readVerb_load, required, List.isEmpty_eq_false_iff.mpr filled,
    if_neg Bool.false_ne_true]
  simp only [Except.map, String.ofList_toList]

end Paths

end Command

namespace Session

section Exported

variable {session : Session} {store : Store} {path : String}

theorem execute_export (present : session.store = some store) (time : String) :
    session.execute time (.give .delimited (some path)) =
      .write path (store.working.toDelimited session.settings.delimited none)
        (session.finishGive path store.working) := by
  rw [execute, give, present]
  rfl

theorem finishLoad_exported (faithful : session.settings.delimited.Faithful)
    (plain : store.working.PlainTexts)
    (kind : extensionOf path ≠ "json" ∧ extensionOf path ≠ "tsv") (time : String) :
    session.finishLoad time path
        (some (store.working.toDelimited session.settings.delimited none)) =
      (.ok (.message (loadedMessage path store.working)),
        (session.note time .info (loadedMessage path store.working)).withTable
          { store.working with valid := true }) := by
  rw [finishLoad, tableOfFile_toDelimited faithful plain kind]
  rfl

theorem finishGive_written (session : Session) (path : String) (table : Table) :
    (session.finishGive path table true).1.isOk = true ∧
      (session.finishGive path table true).2 = session := ⟨rfl, rfl⟩

theorem withTable_backup? (session : Session) (table : Table) :
    (session.withTable table).backup? = some table := rfl

/-- What is loaded after an export is what the session makes of the exported text, from any file
that holds what was written to it. -/
theorem execute_export_load (present : session.store = some store) (time later : String) :
    ∃ text finish resume,
      session.execute time (.give .delimited (some path)) = .write path text finish ∧
      (finish true).1.isOk = true ∧ (finish true).2 = session ∧
      session.execute later (.load path) = .read path resume ∧
      resume (some text) = session.finishLoad later path
        (some (store.working.toDelimited session.settings.delimited none)) := by
  obtain ⟨saved, unchanged⟩ := session.finishGive_written path store.working
  exact ⟨_, _, _, execute_export present time, saved, unchanged, rfl, rfl⟩

theorem executeIn_export_load (present : session.store = some store) {folder : Folder}
    (inside : (Folder.fileName? path).isSome = true) (time later : String) :
    let exported := session.executeIn time folder (.give .delimited (some path))
    exported.1.1.isOk = true ∧
      (exported.1.2.executeIn later exported.2 (.load path)).1 = session.finishLoad later path
        (some (store.working.toDelimited session.settings.delimited none)) := by
  intro exported
  obtain ⟨name, found⟩ := Option.isSome_iff_exists.mp inside
  obtain ⟨filled, written, reads⟩ := Folder.readText?_of_write? found folder
    (store.working.toDelimited session.settings.delimited none)
  obtain ⟨saved, unchanged⟩ := session.finishGive_written path store.working
  have exports : exported = (session.finishGive path store.working true, filled) := by
    simp only [exported, executeIn, execute_export present, Folder.answer, written]
  rw [exports]
  refine ⟨saved, ?_⟩
  rw [unchanged, executeIn, execute, Folder.answer, reads]

/-- A table of texts that is exported as delimited text and loaded again becomes the backup, through
any file that holds what was written to it and through the files of a folder. The options speak of
the separator and the newline that are used in the text, and the table has the flag of every table
that is loaded. -/
theorem exported_table_loads (session : Session) (store : Store) (path : String)
    (present : session.store = some store) (faithful : session.settings.delimited.Faithful)
    (plain : store.working.PlainTexts) (named : path ≠ "")
    (solid : ∀ c ∈ path.toList, Text.isBlank c = false)
    (kind : extensionOf path ≠ "json" ∧ extensionOf path ≠ "tsv") (time later : String) :
    Command.read ("export csv " ++ path) = .ok (.give .delimited (some path)) ∧
    Command.read ("load " ++ path) = .ok (.load path) ∧
    (∃ text finish resume,
      session.execute time (.give .delimited (some path)) = .write path text finish ∧
      (finish true).1.isOk = true ∧ (finish true).2 = session ∧
      session.execute later (.load path) = .read path resume ∧
      (resume (some text)).1 = .ok (.message (loadedMessage path store.working)) ∧
      (resume (some text)).2.backup? = some { store.working with valid := true }) ∧
    ∀ folder, (Folder.fileName? path).isSome = true →
      let exported := session.executeIn time folder (.give .delimited (some path))
      let loaded := exported.1.2.executeIn later exported.2 (.load path)
      exported.1.1.isOk = true ∧
      loaded.1.1 = .ok (.message (loadedMessage path store.working)) ∧
      loaded.1.2.backup? = some { store.working with valid := true } := by
  have loads := finishLoad_exported faithful plain kind later
  refine ⟨Command.read_export named solid, Command.read_load named solid, ?anyFile, ?folder⟩
  case anyFile =>
    obtain ⟨text, finish, resume, exports, saved, unchanged, opens, reads⟩ :=
      execute_export_load present time later
    rw [loads] at reads
    refine ⟨text, finish, resume, exports, saved, unchanged, opens, ?_, ?_⟩
    · rw [reads]
    · rw [reads, withTable_backup?]
  case folder =>
    intro folder inside exported loaded
    obtain ⟨saved, reads⟩ := executeIn_export_load present inside time later
    have final : loaded.1 = _ := reads.trans loads
    refine ⟨saved, ?_, ?_⟩
    · rw [final]
    · rw [final, withTable_backup?]

theorem exported_table_loads_notes :
    let several : Table :=
      { fields := ["note", "by"],
        rows := [[.text "a,\"b\"\r\n", .text "\n"], [.text "", .text "x"]] }
    let single : Table := { fields := ["a\nb"], rows := [] }
    let reloaded (session : Session) : Option Table :=
      let exported := session.executeIn "1" {} (.give .delimited (some "out.csv"))
      (exported.1.2.executeIn "2" exported.2 (.load "out.csv")).1.2.backup?
    ({} : Settings).delimited.Faithful ∧ several.PlainTexts ∧ single.PlainTexts ∧
      reloaded { store := some (Store.ofTable several) } = some several ∧
      reloaded { store := some (Store.ofTable single) } = some single := by
  intro several single reloaded
  have faithful : ({} : Settings).delimited.Faithful := by
    constructor <;> decide
  have plain : several.PlainTexts := by
    refine ⟨by decide, by decide, by decide, ?_⟩
    have apart (held : String) (same : Delimited.collapseQuotes held.toList = held.toList) :
        ∃ text : String, Cell.text held = .text text ∧ ¬['"', '"'] <:+: text.toList :=
      ⟨held, rfl, (Delimited.collapseQuotes_eq_self_iff held.toList).mp same⟩
    simp only [several, List.forall_mem_cons, List.not_mem_nil, false_imp_iff, implies_true,
      and_true]
    exact ⟨⟨apart "a,\"b\"\r\n" (by decide), apart "\n" (by decide)⟩, apart "" (by decide),
      apart "x" (by decide)⟩
  have alone : single.PlainTexts := ⟨by decide, by decide, by decide, by simp [single]⟩
  have back (session : Session) {table : Table} (usual : session.settings = {})
      (stored : session.store = some (Store.ofTable table)) (plain : table.PlainTexts)
      (valid : table.valid = true) : reloaded session = some table := by
    rw [← usual] at faithful
    obtain ⟨-, -, -, inFolder⟩ := exported_table_loads session (Store.ofTable table) "out.csv"
      stored faithful plain (by decide) (Text.no_blank_of_any (by decide)) (by decide +kernel)
      "1" "2"
    obtain ⟨-, -, same⟩ := inFolder {} (by decide +kernel)
    rw [← valid] at same
    exact same
  exact ⟨faithful, plain, alone, back _ rfl rfl plain rfl, back _ rfl rfl alone rfl⟩

/-- A valid table of texts comes back as itself through a file, with a separator of one character or
two and a newline that are not mistaken beside the quotes around cells. -/
theorem exported_valid_table_loads (session : Session) (store : Store) (path : String)
    (present : session.store = some store) (header : session.settings.header = true)
    (literal : session.settings.inferTypes = false)
    (unbroken : session.settings.stripNewlines = false)
    (marked : session.settings.delimited.WellMarked) (plain : store.working.PlainTexts)
    (valid : store.working.valid = true) (named : path ≠ "")
    (solid : ∀ c ∈ path.toList, Text.isBlank c = false)
    (kind : extensionOf path ≠ "json" ∧ extensionOf path ≠ "tsv") (time later : String) :
    Command.read ("export csv " ++ path) = .ok (.give .delimited (some path)) ∧
    Command.read ("load " ++ path) = .ok (.load path) ∧
    (∃ text finish resume,
      session.execute time (.give .delimited (some path)) = .write path text finish ∧
      (finish true).2 = session ∧ session.execute later (.load path) = .read path resume ∧
      (resume (some text)).2.backup? = some store.working) ∧
    ∀ folder, (Folder.fileName? path).isSome = true →
      let exported := session.executeIn time folder (.give .delimited (some path))
      (exported.1.2.executeIn later exported.2 (.load path)).1.2.backup? = some store.working := by
  have faithful := marked.faithful header literal unbroken
  have loads := finishLoad_exported faithful plain kind later
  rw [Table.eq_self_of_valid valid] at loads
  refine ⟨Command.read_export named solid, Command.read_load named solid, ?anyFile, ?folder⟩
  case anyFile =>
    obtain ⟨text, finish, resume, exports, -, unchanged, opens, reads⟩ :=
      execute_export_load present time later
    refine ⟨text, finish, resume, exports, unchanged, opens, ?_⟩
    rw [reads, loads, withTable_backup?]
  case folder =>
    intro folder inside exported
    obtain ⟨-, reads⟩ := executeIn_export_load present inside time later
    rw [reads, loads, withTable_backup?]

end Exported

end Session

end TableQuery
