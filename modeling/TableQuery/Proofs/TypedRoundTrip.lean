import TableQuery.Proofs.DecimalReading
import TableQuery.Proofs.FileRoundTrip

/-! Tables with all kinds of cells, exported as delimited text and read with kinds. The text of a
cell does not say its kind, which is guessed when it is read: null first, then a truth value, an
integer and a double, and a plain text when all of these fail. So every cell whose own text is not
taken for an earlier kind comes back, and with the text of every cell between quotes the whole table
does. -/

namespace TableQuery

/-- Texts that start as the texts of integers and doubles do. No word for null or for a truth value
starts so. -/
def StartsNumber (text : List Char) : Prop :=
  ∃ c ∈ text.head?, c.isDigit = true ∨ c ∈ ['-', 'i']

theorem StartsNumber.of_digit {text : List Char} (starts : ∃ c ∈ text.head?, c.isDigit = true) :
    StartsNumber text := by
  obtain ⟨c, first, digit⟩ := starts
  exact ⟨c, first, .inl digit⟩

theorem StartsNumber.withSign (negative : Bool) {text : List Char} (starts : StartsNumber text) :
    StartsNumber (Binary64.withSign negative text) := by
  cases negative with
  | true => exact ⟨'-', rfl, by simp⟩
  | false => exact starts

theorem startsNumber_wordChars (n : Int64) : StartsNumber (Text.wordChars n) := by
  have digits : StartsNumber (Text.digitChars n.toInt.natAbs) := .of_digit (Text.starts_digitChars _)
  unfold Text.wordChars
  split
  next => exact digits.withSign true
  next => exact digits

theorem startsNumber_plain {x : Binary64} (number : x ≠ .nan) : StartsNumber x.plain := by
  cases x with
  | nan => exact absurd rfl number
  | infinite negative =>
    have word : StartsNumber ['i', 'n', 'f'] := ⟨'i', rfl, by simp⟩
    exact word.withSign negative
  | finite negative rank =>
    have digits : StartsNumber (Binary64.positional [] (Binary64.shortest .upper rank).1
        (Binary64.shortest .upper rank).2) :=
      .of_digit (Binary64.starts_positional (fun _ => Binary64.isDigit_of_mem_shortest)
        (Binary64.shortest_ne_nil rank.isLt .upper) _)
    exact digits.withSign negative

section Spelling

variable {text : String} (starts : StartsNumber text.toList)
include starts

theorem not_spells {letter : Char} (word : List Char) (begins : letter ∈ ['n', 't', 'f']) :
    spells text (letter :: word) = false := by
  obtain ⟨c, first, number⟩ := starts
  obtain ⟨rest, chars⟩ := List.head?_eq_some_iff.mp first
  have other : c.toLower ∉ ['n', 't', 'f'] := by
    rcases number with digit | sign
    · have codes : ∀ code < 58, 48 ≤ code → (Char.ofNat code).toLower ∉ ['n', 't', 'f'] := by
        decide
      rw [Char.isDigit_iff_toNat] at digit
      rw [← Char.ofNat_toNat c]
      exact codes c.toNat (Nat.lt_succ_of_le digit.2) digit.1
    · rw [List.mem_cons, List.mem_singleton] at sign
      rcases sign with rfl | rfl <;> decide
  have differs : c.toLower ≠ letter := fun same => other (same ▸ begins)
  unfold spells
  rw [chars]
  simp [differs]

theorem ofText_of_startsNumber :
    Kind.ofText text =
      if (Text.word? text.toList).isSome then .integer
      else if (Binary64.read? text.toList).isSome then .double
      else .text := by
  have present : text.isEmpty = false := by
    obtain ⟨c, first, _⟩ := starts
    rw [← Bool.not_eq_true, String.isEmpty_iff]
    rintro rfl
    simp at first
  have null : isNullText text = false := by
    rw [isNullText, present, not_spells starts _ (by simp), Bool.or_false]
  have truth : (isTrueText text || isFalseText text) = false := by
    rw [isTrueText, isFalseText, not_spells starts _ (by simp), not_spells starts _ (by simp),
      Bool.or_false]
  rw [Kind.ofText, null, truth, if_neg Bool.false_ne_true, if_neg Bool.false_ne_true]

end Spelling

namespace Cell

/-- Cells whose texts are taken for their own kinds and are not changed between quotes. -/
def KeepsKind : Cell → Prop
  | .double x => x ≠ .nan ∧ Text.word? x.plain = none
  | .text value => Kind.ofText value = .text ∧ ¬['"', '"'] <:+: value.toList
  | _ => True

instance : DecidablePred KeepsKind
  | .double x => inferInstanceAs (Decidable (x ≠ .nan ∧ Text.word? x.plain = none))
  | .text value =>
    decidable_of_iff
      (Kind.ofText value = .text ∧ Delimited.collapseQuotes value.toList = value.toList)
      (and_congr_right' (Delimited.collapseQuotes_eq_self_iff value.toList))
  | .null => .isTrue trivial
  | .boolean _ => .isTrue trivial
  | .integer _ => .isTrue trivial

theorem infer_display {cell : Cell} (kept : cell.KeepsKind) : infer cell.display = cell := by
  cases cell with
  | null => decide
  | boolean value => cases value <;> decide
  | integer n =>
    have read : Text.word? (display (.integer n)).toList = some n := by
      simp only [display, String.toList_ofList, Text.word?_wordChars]
    have kind : Kind.ofText (display (.integer n)) = .integer := by
      rw [ofText_of_startsNumber, read]
      · rfl
      · simpa [display] using startsNumber_wordChars n
    simp only [infer, kind, read]
  | double x =>
    obtain ⟨number, whole⟩ := kept
    have word : Text.word? (display (.double x)).toList = none := by
      simpa [display, Binary64.toText] using whole
    have read : Binary64.read? (display (.double x)).toList = some x := by
      simpa [display, Binary64.toText] using Binary64.read?_plain number
    have kind : Kind.ofText (display (.double x)) = .double := by
      rw [ofText_of_startsNumber, word, read]
      · rfl
      · simpa [display, Binary64.toText] using startsNumber_plain number
    simp only [infer, kind, read]
  | text value =>
    obtain ⟨kind, _⟩ := kept
    simp only [display, infer, kind]

theorem single_display {cell : Cell} (kept : cell.KeepsKind) :
    ¬['"', '"'] <:+: cell.display.toList := by
  cases cell with
  | null => exact Delimited.single_of_plain (by decide)
  | boolean value => cases value <;> exact Delimited.single_of_plain (by decide)
  | integer n =>
    apply Delimited.single_of_plain
    rw [display, String.toList_ofList]
    exact Text.quote_not_mem_wordChars n
  | double x =>
    apply Delimited.single_of_plain
    rw [display, Binary64.toText, String.toList_ofList]
    exact Binary64.quote_not_mem_plain x
  | text value => exact kept.2

end Cell

structure Table.Typed (table : Table) : Prop where
  rect : table.Rectangular
  wide : table.fields ≠ []
  names : ∀ name ∈ table.fields, ¬['"', '"'] <:+: name.toList
  cells : ∀ row ∈ table.rows, ∀ cell ∈ row, cell.KeepsKind

namespace Table

section Typed

variable {table : Table} (typed : table.Typed)
include typed

theorem Typed.map_display {options : Delimited.Options} (kinds : options.inferTypes = true) :
    (table.rows.map fun row => row.map Cell.display).map (List.map (cellOfText options)) =
      table.rows := by
  apply Table.map_display
  intro row member cell inside
  rw [cellOfText, if_pos kinds]
  exact Cell.infer_display (typed.cells row member cell inside)

theorem Typed.read_toDelimited {options : Delimited.Options} (header : options.header = true)
    (unbroken : options.stripNewlines = false) (unmistaken : options.Unmistaken) :
    Delimited.read options (table.toDelimited options none) =
      table.fields :: table.rows.map fun row => row.map Cell.display := by
  have reads : Delimited.read options (table.toDelimited options none) =
      textRows options table none := by
    apply Delimited.read_write_of_single unmistaken unbroken
    · exact textRows_filled typed.rect header typed.wide
    · exact textRows_single typed.rect header typed.names fun row member cell inside =>
        Cell.single_display (typed.cells row member cell inside)
  exact reads.trans (textRows_of_rectangular typed.rect header)

end Typed

/-- A table that is exported under its field names and read with kinds comes back, with the flag of
every table that is read. The options speak of the separator and the newline that are used in the
text. -/
theorem typed_table_reads_back (options : Delimited.Options) (header : options.header = true)
    (kinds : options.inferTypes = true) (unbroken : options.stripNewlines = false)
    (unmistaken : options.Unmistaken) (table : Table) (typed : table.Typed) :
    ofDelimited options (table.toDelimited options none) = { table with valid := true } := by
  have reads := typed.read_toDelimited header unbroken unmistaken
  rw [ofDelimited_of_header header reads, typed.map_display kinds]

/-- A double that shows no point is kept where it is too large for an integer. -/
theorem typed_table_reads_back_kinds :
    let options : Delimited.Options := { separator := ";;;", newline := "\n", inferTypes := true }
    let table : Table :=
      { fields := ["null", "1"],
        rows := [[.integer Int64.minValue, .text "a;;\"b\"\n"],
          [.null, .double (.ofDecimal true 25 (-4))],
          [.boolean true, .double (.ofDecimal false 1 19)],
          [.text " 1", .double (.infinite true)]] }
    let text := "\"null\";;\"1\"\n\"-9223372036854775808\";;\"a;;\"\"b\"\"\n\"\n" ++
      "\"\";;\"-0.0025\"\n\"true\";;\"10000000000000000000\"\n\" 1\";;\"-inf\""
    options.header = true ∧ options.inferTypes = true ∧ options.stripNewlines = false ∧
      options.Unmistaken ∧ table.Typed ∧ table.toDelimited options none = text ∧
      ofDelimited options text = table := by
  intro options table text
  have unmistaken : options.Unmistaken := by constructor <;> decide
  have typed : table.Typed := by
    constructor
    case rect => decide
    case wide => decide
    case names => decide
    case cells => decide +kernel
  have written : table.toDelimited options none = text := by decide +kernel
  refine ⟨rfl, rfl, rfl, unmistaken, typed, written, ?_⟩
  rw [← written]
  exact typed_table_reads_back options rfl rfl rfl unmistaken table typed

/-- A valid table comes back as itself, with a separator of one character or two and a newline that
are not mistaken beside the quotes around cells. -/
theorem valid_typed_table_reads_back (options : Delimited.Options) (header : options.header = true)
    (kinds : options.inferTypes = true) (unbroken : options.stripNewlines = false)
    (marked : options.WellMarked) (table : Table) (valid : table.valid = true)
    (typed : table.Typed) :
    ofDelimited options (table.toDelimited options none) = table := by
  have reads := typed.read_toDelimited header unbroken marked.unmistaken
  rw [ofDelimited_of_header header reads, typed.map_display kinds]
  exact eq_self_of_valid valid

end Table

end TableQuery
