import Mathlib.Data.List.Chain
import Mathlib.Data.List.Infix
import TableQuery.Proofs.FileRoundTrip

/-! Line ends of a file that is loaded. Which newline to read with is guessed from the whole text,
quoted cells included. Between cells that are written in quotes nothing new comes to stand side by
side, so the default newline is found in a text with line feeds only where it stands inside a cell.
There it misleads the reader, which then takes the line feed behind the field names as a part of the
last name. -/

namespace TableQuery

namespace Delimited

theorem isChain_iff_not_infix {a b : Char} {text : List Char} :
    text.IsChain (fun x y => ¬(x = a ∧ y = b)) ↔ ¬[a, b] <:+: text := by
  rw [List.isChain_iff_forall_rel_of_append_cons_cons]
  constructor
  · rintro apart ⟨before, after, rfl⟩
    exact apart (List.append_assoc _ _ _) ⟨rfl, rfl⟩
  · rintro absent x y before after rfl ⟨rfl, rfl⟩
    exact absent ⟨before, after, List.append_assoc _ _ _⟩

def Framed (text : List Char) : Prop :=
  text.head? = some '"' ∧ text.getLast? = some '"'

section Framed

variable {mark : List Char} {pieces : List (List Char)}
  (framed : ∀ piece ∈ pieces, Framed piece)
include framed

theorem framed_intercalate (present : pieces ≠ []) : Framed (mark.intercalate pieces) := by
  induction pieces with
  | nil => exact absurd rfl present
  | cons piece pieces ih =>
    cases pieces with
    | nil =>
      rw [List.intercalate_singleton]
      exact framed piece List.mem_cons_self
    | cons next pieces =>
      obtain ⟨starts, -⟩ := framed piece List.mem_cons_self
      obtain ⟨-, ends⟩ := ih (fun other member => framed other (List.mem_cons_of_mem _ member))
        (List.cons_ne_nil _ _)
      rw [List.intercalate_cons_cons]
      constructor
      · rw [List.append_assoc, List.head?_append, starts, Option.some_or]
      · rw [List.getLast?_append, ends, Option.some_or]

theorem isChain_intercalate {related : Char → Char → Prop}
    (around : ('"' :: mark ++ ['"']).IsChain related) :
    (mark.intercalate pieces).IsChain related ↔ ∀ piece ∈ pieces, piece.IsChain related := by
  induction pieces with
  | nil => simp
  | cons piece pieces ih =>
    cases pieces with
    | nil => simp
    | cons next pieces =>
      have others : ∀ other ∈ next :: pieces, Framed other :=
        fun other member => framed other (List.mem_cons_of_mem _ member)
      obtain ⟨body, closed⟩ := List.getLast?_eq_some_iff.mp (framed piece List.mem_cons_self).2
      obtain ⟨joined, opened⟩ := List.head?_eq_some_iff.mp
        (@framed_intercalate mark _ others (List.cons_ne_nil _ _)).1
      have whole : mark.intercalate (piece :: next :: pieces) =
          body ++ '"' :: (mark ++ '"' :: joined) := by
        rw [List.intercalate_cons_cons, opened, closed]
        simp
      rw [List.forall_mem_cons, ← ih others, whole, List.isChain_split, ← closed,
        ← List.cons_append, List.isChain_split, ← opened]
      exact and_congr_right fun _ => and_iff_right around

end Framed

theorem head?_doubleQuotes (cell : List Char) : (doubleQuotes cell).head? = cell.head? := by
  cases cell with
  | nil => rfl
  | cons c rest =>
    rw [doubleQuotes]
    split
    next quote => rw [quote]; rfl
    next => rfl

theorem framed_cellText (options : Options) (cell : List Char) : Framed (cellText options cell) :=
  ⟨rfl, List.getLast?_concat⟩

section Pair

variable {a b : Char} (first : a ≠ '"')
include first

theorem isChain_doubleQuotes (cell : List Char) :
    (doubleQuotes cell).IsChain (fun x y => ¬(x = a ∧ y = b)) ↔
      cell.IsChain (fun x y => ¬(x = a ∧ y = b)) := by
  induction cell with
  | nil => rfl
  | cons c rest ih =>
    rw [doubleQuotes, List.isChain_cons, ← ih, ← head?_doubleQuotes rest]
    split
    next quote => simp [quote, List.isChain_cons, first.symm]
    next => rw [List.isChain_cons]

variable (second : b ≠ '"')
include second

theorem isChain_cellText (options : Options) (cell : List Char) :
    (cellText options cell).IsChain (fun x y => ¬(x = a ∧ y = b)) ↔
      (normalCell options.stripNewlines cell).IsChain (fun x y => ¬(x = a ∧ y = b)) := by
  rw [cellText, bodyOf_eq, ← isChain_doubleQuotes first (normalCell _ cell), List.cons_append,
    List.isChain_cons, List.isChain_append]
  simp [first.symm, second.symm]

/-- A pair that the marks do not make is found in the text only inside its cells. -/
theorem pair_absent_write {options : Options}
    (separated : ('"' :: options.separatorMark.chars ++ ['"']).IsChain fun x y => ¬(x = a ∧ y = b))
    (ended : ('"' :: options.newlineMark.chars ++ ['"']).IsChain fun x y => ¬(x = a ∧ y = b))
    {rows : List (List String)} (filled : ∀ row ∈ rows, row ≠ []) :
    ¬[a, b] <:+: (write options rows).toList ↔ ∀ row ∈ rows, ∀ cell ∈ row,
      ¬[a, b] <:+: (normalText options.stripNewlines cell).toList := by
  have framed (row : List (List Char)) :
      ∀ piece ∈ row.map (cellText options), Framed piece := by
    simp [framed_cellText]
  have framed_rows : ∀ piece ∈ (rows.map (List.map String.toList)).map (rowText options),
      Framed piece := by
    simp only [List.forall_mem_map]
    intro row member
    exact framed_intercalate (framed _) (by simpa using filled row member)
  rw [write, String.toList_ofList, ← isChain_iff_not_infix, textOf,
    isChain_intercalate framed_rows ended]
  simp only [List.forall_mem_map]
  refine forall₂_congr fun row member => ?_
  rw [rowText, isChain_intercalate (framed _) separated]
  simp only [List.forall_mem_map]
  refine forall₂_congr fun cell inside => ?_
  rw [isChain_cellText first second, isChain_iff_not_infix, normalText, String.toList_ofList]

end Pair

theorem scan_row_joined {options : Options} (separatorPlain : options.separatorMark.head ≠ '"')
    (newlinePlain : options.newlineMark.head ≠ '"') {c : Char} (plain : c ≠ '"')
    {row : List (List Char)} (filled : row ≠ []) {rest : List Char}
    (goes : options.separatorMark.cut? (c :: rest) = none)
    (stays : options.newlineMark.cut? (c :: rest) = none) :
    (rowsOf options (rowText options row ++ c :: rest)).head? ≠
      some (row.map (normalCell options.stripNewlines)) := by
  obtain ⟨first, others, rfl⟩ := List.exists_cons_of_ne_nil filled
  obtain ⟨mode, last, before, outside, -, same, reads⟩ :=
    scan_joined (mark_closes separatorPlain) first others []
      fun cell _ => readsAs_cellText separatorPlain newlinePlain cell
  have noticed : ¬(Mode.bare = .fresh ∧ before = []) := fun fresh => Mode.noConfusion fresh.1
  obtain ⟨tail, cells, rows, read⟩ := scan_starts options.separatorMark options.newlineMark
    (c :: last) rest noticed
  have whole : rowsOf options (rowText options (first :: others) ++ c :: rest) =
      (before.reverse ++ ((c :: last).reverse ++ tail) :: cells) :: rows := by
    rw [← read, rowsOf, rowText, reads _ (by simpa using plain), scan_outside outside, goes, stays]
    exact if_neg fun quote => plain quote.1
  rw [whole, ← List.nil_append (List.map _ _), ← List.reverse_nil, ← same]
  simp

def Options.lineFed : Options := { newline := "\n" }

theorem Options.lineFed_faithful : Options.lineFed.Faithful := by
  constructor <;> decide

theorem toList_write_lineFed (row next : List String) (rows : List (List String)) :
    (write .lineFed (row :: next :: rows)).toList = rowText {} (row.map String.toList) ++
      '\n' :: textOf .lineFed ((next :: rows).map (List.map String.toList)) := by
  rw [write, String.toList_ofList, List.map_cons, List.map_cons, textOf_cons_cons]
  rfl

theorem read_write_lineFed {row : List String} (filled : row ≠ []) (next : List String)
    (rows : List (List String)) :
    (read {} (write .lineFed (row :: next :: rows))).head? ≠
      some (row.map (normalText false)) := by
  have joined : (rowsOf {} (rowText {} (row.map String.toList) ++
        '\n' :: textOf .lineFed ((next :: rows).map (List.map String.toList)))).head? ≠
      some ((row.map String.toList).map (normalCell false)) :=
    scan_row_joined (by decide) (by decide) (by decide) (by simpa using filled) rfl rfl
  intro same
  rw [read, toList_write_lineFed, List.head?_map] at same
  obtain ⟨first, found, named⟩ := Option.map_eq_some_iff.mp same
  have texts := congrArg (List.map String.toList) named
  apply joined
  rw [found]
  simpa [normalText, Function.comp_def] using texts

end Delimited

open Delimited (Options)

namespace Table

/-- No name and no text of the table holds a carriage return with a line feed behind it, which is
the default newline. -/
structure NewlineFree (table : Table) : Prop where
  names : ∀ name ∈ table.fields, ¬['\r', '\n'] <:+: name.toList
  cells : ∀ row ∈ table.rows, ∀ text, Cell.text text ∈ row → ¬['\r', '\n'] <:+: text.toList

theorem PlainTexts.ofTexts (fields : List String) (rows : List (List String)) (wide : fields ≠ [])
    (rect : ∀ row ∈ rows, row.length = fields.length)
    (single : ∀ row ∈ fields :: rows, ∀ text ∈ row,
      Delimited.collapseQuotes text.toList = text.toList) :
    PlainTexts { fields := fields, rows := rows.map (List.map Cell.text) } := by
  have apart (row : List String) (member : row ∈ fields :: rows) (text : String)
      (inside : text ∈ row) : ¬['"', '"'] <:+: text.toList :=
    (Delimited.collapseQuotes_eq_self_iff text.toList).mp (single row member text inside)
  constructor
  case rect => simpa [Rectangular, fieldCount] using rect
  case wide => exact wide
  case names => exact apart fields List.mem_cons_self
  case cells =>
    simp only [List.forall_mem_map]
    exact fun row member text inside =>
      ⟨text, rfl, apart row (List.mem_cons_of_mem _ member) text inside⟩

theorem NewlineFree.ofTexts (fields : List String) (rows : List (List String))
    (free : ∀ row ∈ fields :: rows, ∀ text ∈ row, ¬['\r', '\n'] <:+: text.toList) :
    NewlineFree { fields := fields, rows := rows.map (List.map Cell.text) } := by
  constructor
  case names => exact free fields List.mem_cons_self
  case cells =>
    simp only [List.forall_mem_map]
    intro row member text inside
    exact free row (List.mem_cons_of_mem _ member) text (by simpa using inside)

theorem PlainTexts.newline_absent_iff {table : Table} (plain : table.PlainTexts) :
    ¬['\r', '\n'] <:+: (table.toDelimited .lineFed none).toList ↔ table.NewlineFree := by
  have faithful := Options.lineFed_faithful
  have normal := plain.textRows_normal faithful
  have absent : ¬['\r', '\n'] <:+: (table.toDelimited .lineFed none).toList ↔
      ∀ row ∈ textRows .lineFed table none, ∀ cell ∈ row, ¬['\r', '\n'] <:+:
        (Delimited.normalText Options.lineFed.stripNewlines cell).toList :=
    Delimited.pair_absent_write (by decide) (by decide) (by decide) (by decide)
      (plain.textRows_filled faithful)
  have texts (row : Row) (member : row ∈ table.rows) :
      (∀ cell ∈ row, ¬['\r', '\n'] <:+: cell.display.toList) ↔
        ∀ text, Cell.text text ∈ row → ¬['\r', '\n'] <:+: text.toList := by
    refine ⟨fun free text inside => free (.text text) inside, fun free cell inside => ?_⟩
    obtain ⟨text, rfl, -⟩ := plain.cells row member cell inside
    exact free text inside
  have names_cells : (∀ row ∈ textRows .lineFed table none, ∀ cell ∈ row,
      ¬['\r', '\n'] <:+: cell.toList) ↔ table.NewlineFree := by
    rw [textRows_of_rectangular plain.rect faithful.header, List.forall_mem_cons]
    simp only [List.forall_mem_map]
    rw [forall₂_congr texts]
    exact ⟨fun free => ⟨free.1, free.2⟩, fun free => ⟨free.names, free.cells⟩⟩
  rw [absent, ← names_cells]
  conv_rhs => rw [← normal]
  simp only [List.forall_mem_map]

theorem PlainTexts.head?_read_lineFed {table : Table} (plain : table.PlainTexts)
    (several : table.rows ≠ []) :
    (Delimited.read {} (table.toDelimited .lineFed none)).head? ≠ some table.fields := by
  have normal := plain.textRows_normal Options.lineFed_faithful
  have written := textRows_of_rectangular plain.rect Options.lineFed_faithful.header
  rw [written, List.map_cons] at normal
  have names : table.fields.map (Delimited.normalText false) = table.fields :=
    List.head_eq_of_cons_eq normal
  obtain ⟨row, rows, found⟩ := List.exists_cons_of_ne_nil several
  rw [toDelimited, written, found, List.map_cons]
  have first := Delimited.read_write_lineFed plain.wide (row.map Cell.display)
    (rows.map fun row => row.map Cell.display)
  rwa [names] at first

end Table

namespace Session

theorem tableOfFile_csv (options : Options) {path : String} (kind : extensionOf path = "csv")
    (text : String) :
    tableOfFile options path text =
      .ok (Table.ofDelimited (fileOptions options "csv" text) text) := by
  rw [tableOfFile, kind]
  exact if_neg (by decide)

theorem fileOptions_lineFed (text : String) : fileOptions .lineFed "csv" text = .lineFed := by
  rcases fileOptions_eq_or .lineFed (by decide : "csv" ≠ "tsv") text with same | ⟨same, -⟩
  · exact same
  · exact same

theorem fileOptions_of_absent {text : String} (absent : ¬['\r', '\n'] <:+: text.toList)
    (feed : '\n' ∈ text.toList) : fileOptions {} "csv" text = .lineFed := by
  have missing : occurs ['\r', '\n'] text.toList = false :=
    Bool.eq_false_iff.mpr (mt (occurs_iff _ _).mp absent)
  simp [fileOptions, missing, feed, Options.lineFed]

section LineFed

variable {table : Table} (plain : table.PlainTexts) {path : String}
  (kind : extensionOf path = "csv")
include plain kind

theorem tableOfFile_names (single : table.rows = []) :
    tableOfFile {} path (table.toDelimited .lineFed none) = .ok { table with valid := true } := by
  have faithful : ({} : Options).Faithful := by constructor <;> decide
  have written : table.toDelimited .lineFed none = table.toDelimited {} none := by
    rw [Table.toDelimited, Table.toDelimited,
      Table.textRows_of_rectangular plain.rect Options.lineFed_faithful.header,
      Table.textRows_of_rectangular plain.rect faithful.header, single]
    exact Delimited.write_row_newline {} "\n" table.fields
  rw [written]
  exact tableOfFile_toDelimited faithful plain (by rw [kind]; decide)

variable (several : table.rows ≠ [])
include several

theorem tableOfFile_newlineFree (free : table.NewlineFree) :
    tableOfFile {} path (table.toDelimited .lineFed none) = .ok { table with valid := true } := by
  have faithful := Options.lineFed_faithful
  have absent := plain.newline_absent_iff.mpr free
  have feed : '\n' ∈ (table.toDelimited .lineFed none).toList := by
    obtain ⟨row, rows, held⟩ := List.exists_cons_of_ne_nil several
    rw [Table.toDelimited, Table.textRows_of_rectangular plain.rect faithful.header, held,
      List.map_cons, Delimited.toList_write_lineFed]
    exact List.mem_append_right _ List.mem_cons_self
  have followed := fileOptions_of_absent absent feed
  have same : tableOfFile {} path (table.toDelimited .lineFed none) =
      tableOfFile .lineFed path (table.toDelimited .lineFed none) := by
    rw [tableOfFile_csv _ kind, tableOfFile_csv _ kind, followed, fileOptions_lineFed]
  rw [same]
  exact tableOfFile_toDelimited faithful plain (by rw [kind]; decide)

theorem tableOfFile_misled (held : ¬table.NewlineFree) :
    ∃ loaded, tableOfFile {} path (table.toDelimited .lineFed none) = .ok loaded ∧
      loaded.fields ≠ table.fields := by
  have stays : fileOptions {} "csv" (table.toDelimited .lineFed none) = {} := by
    rcases fileOptions_eq_or {} (by decide : "csv" ≠ "tsv") (table.toDelimited .lineFed none)
      with same | ⟨-, absent⟩
    · exact same
    · exact absurd (plain.newline_absent_iff.mp absent) held
  have other := plain.head?_read_lineFed several
  refine ⟨_, tableOfFile_csv {} kind _, ?_⟩
  rw [stays]
  cases reads : Delimited.read {} (table.toDelimited .lineFed none) with
  | nil =>
    rw [Table.ofDelimited, Table.readDelimited, reads]
    exact plain.wide.symm
  | cons first rest =>
    rw [Table.ofDelimited_of_header rfl reads]
    rw [reads, List.head?_cons] at other
    exact fun same => other (congrArg some same)

end LineFed

/-- A table of texts whose file has line feeds is loaded with the default options, as it is when it
has no rows or no text of it holds the default newline, and under other field names when not. -/
theorem line_fed_file_loads (table : Table) (plain : table.PlainTexts) (path : String)
    (kind : extensionOf path = "csv") (folder : Folder)
    (named : (Folder.fileName? path).isSome = true) :
    ∃ written loaded,
      folder.write? path (table.toDelimited { newline := "\n" } none).toUTF8 = some written ∧
      (written.readText? path).map (tableOfFile {} path) = some (.ok loaded) ∧
      (loaded = { table with valid := true } ↔ table.rows = [] ∨ table.NewlineFree) ∧
      (loaded.fields = table.fields ↔ table.rows = [] ∨ table.NewlineFree) := by
  obtain ⟨name, found⟩ := Option.isSome_iff_exists.mp named
  obtain ⟨written, filled, reads⟩ :=
    Folder.readText?_of_write? found folder (table.toDelimited .lineFed none)
  have loads : ∀ loaded, tableOfFile {} path (table.toDelimited .lineFed none) = .ok loaded →
      (written.readText? path).map (tableOfFile {} path) = some (.ok loaded) := by
    intro loaded result
    rw [reads, Option.map_some, result]
  by_cases clear : table.rows = [] ∨ table.NewlineFree
  · have result : tableOfFile {} path (table.toDelimited .lineFed none) =
        .ok { table with valid := true } := by
      by_cases single : table.rows = []
      · exact tableOfFile_names plain kind single
      · exact tableOfFile_newlineFree plain kind single (clear.resolve_left single)
    exact ⟨written, _, filled, loads _ result, iff_of_true rfl clear, iff_of_true rfl clear⟩
  · obtain ⟨several, held⟩ := not_or.mp clear
    obtain ⟨loaded, result, renamed⟩ := tableOfFile_misled plain kind several held
    have other : loaded ≠ { table with valid := true } := by
      rintro rfl
      exact renamed rfl
    exact ⟨written, loaded, filled, loads loaded result, iff_of_false other clear,
      iff_of_false renamed clear⟩

theorem line_fed_file_loads_lone_breaks :
    let table : Table :=
      { fields := ["no\rte", "by"],
        rows := [[.text "a,\n", .text "\r"], [.text "", .text "\"x\"\n\r"]] }
    table.PlainTexts ∧ extensionOf "notes.csv" = "csv" ∧
      (Folder.fileName? "notes.csv").isSome = true ∧ table.NewlineFree ∧
      ∃ written, Folder.write? {} "notes.csv"
          (table.toDelimited { newline := "\n" } none).toUTF8 = some written ∧
        (written.readText? "notes.csv").map (tableOfFile {} "notes.csv") = some (.ok table) := by
  intro table
  let rows := [["a,\n", "\r"], ["", "\"x\"\n\r"]]
  have plain : table.PlainTexts :=
    Table.PlainTexts.ofTexts table.fields rows (by decide) (by decide) (by decide)
  have free : table.NewlineFree := Table.NewlineFree.ofTexts table.fields rows (by decide)
  have kind : extensionOf "notes.csv" = "csv" := by decide +kernel
  have named : (Folder.fileName? "notes.csv").isSome = true := by decide +kernel
  obtain ⟨written, loaded, filled, reads, same, -⟩ :=
    line_fed_file_loads table plain "notes.csv" kind {} named
  rw [same.mpr (.inr free)] at reads
  exact ⟨plain, kind, named, free, written, filled, reads⟩

/-- A cell with the default newline in it, in a file with line feeds: the row becomes a part of the
field names. -/
theorem quoted_newline_misleads :
    let table : Table := { fields := ["id", "note"], rows := [[.text "1", .text "a\r\nb"]] }
    let loaded : Table := { fields := ["id", "note\n\"1\"", "a\r\nb"], rows := [] }
    table.PlainTexts ∧ extensionOf "notes.csv" = "csv" ∧ loaded ≠ table ∧
      table.toDelimited { newline := "\n" } none = "\"id\",\"note\"\n\"1\",\"a\r\nb\"" ∧
      ∃ written, Folder.write? {} "notes.csv"
          (table.toDelimited { newline := "\n" } none).toUTF8 = some written ∧
        (written.readText? "notes.csv").map (tableOfFile {} "notes.csv") = some (.ok loaded) := by
  intro table loaded
  have plain : table.PlainTexts :=
    Table.PlainTexts.ofTexts table.fields [["1", "a\r\nb"]] (by decide) (by decide) (by decide)
  have name : Folder.fileName? "notes.csv" = some "notes.csv" := by decide +kernel
  have loads : tableOfFile {} "notes.csv" (table.toDelimited { newline := "\n" } none) =
      .ok loaded := by decide +kernel
  obtain ⟨written, filled, reads⟩ :=
    Folder.readText?_of_write? name {} (table.toDelimited { newline := "\n" } none)
  refine ⟨plain, by decide +kernel, by decide +kernel, by decide +kernel, written, filled, ?_⟩
  rw [reads, Option.map_some, loads]

end Session

end TableQuery
