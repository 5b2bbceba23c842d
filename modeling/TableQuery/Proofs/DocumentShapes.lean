import TableQuery.Proofs.DocumentRoundTrip

/-! The documents that hold a table. The shape of a document is told from its first element alone,
and what follows is only then found to fit or not. So a document is accepted when all of it has one
of three shapes, and of any other document nothing is taken over. -/

namespace TableQuery

def Json.isName : Json → Bool
  | .text _ | .integer _ | .double _ => true
  | _ => false

def Json.plainText : Json → String
  | .text name => name
  | other => other.compact

/-- A document that holds a table: an array of arrays, an array of objects with at least one in it,
or an object with an array of names under `fields` and an array of arrays under `table`. -/
inductive Tabular : Json → Prop
  | matrix (rows : List (List Json)) : Tabular (.array (rows.map .array))
  | records (first : Record) (others : List Record) :
      Tabular (.array ((first :: others).map .object))
  | recordTable {members : Record} {names : List Json} {rows : List (List Json)}
      (named : members.get? "fields" = some (.array names))
      (plain : ∀ name ∈ names, name.isName = true)
      (held : members.get? "table" = some (.array (rows.map .array))) : Tabular (.object members)

theorem mapM_eq_some_iff_parts {α β γ : Type} {read? : α → Option β} {write : γ → α} {made : γ → β}
    (reads : ∀ item value, read? item = some value ↔ ∃ part, item = write part ∧ value = made part)
    (items : List α) (values : List β) :
    items.mapM read? = some values ↔
      ∃ parts : List γ, items = parts.map write ∧ values = parts.map made := by
  induction items generalizing values with
  | nil =>
    constructor
    · intro none
      exact ⟨[], rfl, (Option.some.inj none).symm⟩
    · rintro ⟨parts, unwritten, rfl⟩
      rw [List.map_eq_nil_iff.mp unwritten.symm]
      rfl
  | cons item items ih =>
    rw [List.mapM_cons]
    constructor
    · intro read
      obtain ⟨value, first, read⟩ := Option.bind_eq_some_iff.mp read
      obtain ⟨others, rest, read⟩ := Option.bind_eq_some_iff.mp read
      obtain ⟨part, rfl, rfl⟩ := (reads item value).mp first
      obtain ⟨parts, rfl, rfl⟩ := (ih others).mp rest
      exact ⟨part :: parts, rfl, (Option.some.inj read).symm⟩
    · rintro ⟨parts, written, rfl⟩
      cases parts with
      | nil => cases written
      | cons part parts =>
        obtain ⟨first, rest⟩ := List.cons.inj written
        rw [(reads item _).mpr ⟨part, first, rfl⟩, (ih _).mpr ⟨parts, rest, rfl⟩]
        rfl

namespace Shape

theorem starts_object {items : List Json} (shape : classify (.array items) = .records) :
    ∃ first rest, items = .object first :: rest := by
  match items, shape with
  | .object first :: rest, _ => exact ⟨first, rest, rfl⟩

theorem classify_matrix (rows : List (List Json)) :
    classify (.array (rows.map .array)) = .matrix := by
  cases rows <;> rfl

theorem classify_recordTable_iff (members : Record) :
    classify (.object members) = .recordTable ↔
      (∃ names, members.get? "fields" = some (.array names)) ∧
        ∃ items, members.get? "table" = some (.array items) := by
  rw [classify]
  constructor
  · intro shape
    split at shape
    next names items named held => exact ⟨⟨names, named⟩, items, held⟩
    next => cases shape
  · rintro ⟨⟨names, named⟩, items, held⟩
    rw [named, held]

end Shape

namespace Table

theorem mapM_rowOfJson?_eq_some_iff (items : List Json) (rows : List Row) :
    items.mapM rowOfJson? = some rows ↔
      ∃ lists : List (List Json), items = lists.map .array ∧
        rows = lists.map (List.map Cell.ofJson) := by
  apply mapM_eq_some_iff_parts
  intro item row
  cases item <;> simp [rowOfJson?, eq_comm]

theorem mapM_members?_eq_some_iff (items : List Json) (records : List Record) :
    items.mapM Json.members? = some records ↔ items = records.map .object := by
  have reads (item : Json) (record : Record) :
      item.members? = some record ↔ ∃ part, item = .object part ∧ record = id part := by
    cases item <;> simp [Json.members?, eq_comm]
  rw [mapM_eq_some_iff_parts reads]
  simp

theorem fieldOfJson?_eq (name : Json) :
    fieldOfJson? name = if name.isName then some name.plainText else none := by
  cases name <;> rfl

theorem mapM_fieldOfJson?_eq_some_iff (names : List Json) (fields : List String) :
    names.mapM fieldOfJson? = some fields ↔
      (∀ name ∈ names, name.isName = true) ∧ fields = names.map Json.plainText := by
  have reads (name : Json) (field : String) : fieldOfJson? name = some field ↔
      ∃ part : { name : Json // name.isName = true },
        name = part.val ∧ field = part.val.plainText := by
    rw [fieldOfJson?_eq]
    constructor
    · intro read
      obtain ⟨plain, same⟩ := Option.ite_none_right_eq_some.mp read
      exact ⟨⟨name, plain⟩, rfl, (Option.some.inj same).symm⟩
    · rintro ⟨⟨name, plain⟩, rfl, rfl⟩
      exact if_pos plain
  rw [mapM_eq_some_iff_parts reads]
  constructor
  · rintro ⟨parts, rfl, rfl⟩
    refine ⟨fun name member => ?_, by rw [List.map_map]; rfl⟩
    obtain ⟨part, _, rfl⟩ := List.mem_map.mp member
    exact part.property
  · rintro ⟨plain, rfl⟩
    exact ⟨names.attachWith _ plain, by simp, by simp⟩

theorem ofMatrix_valid (rows : List Row) (header : Header) :
    (ofMatrix rows header).valid = true := by
  cases header with
  | names fields => rfl
  | positional => rfl
  | firstRow => cases rows <;> rfl

theorem itemsUnder_of_get? {members : Record} {key : String} {items : List Json}
    (held : members.get? key = some (.array items)) : itemsUnder members key = items := by
  rw [itemsUnder, held]

theorem tabular_of_ofJson? {document : Json} {header : Header} {table : Table}
    (accepted : ofJson? document header = .ok table) : Tabular document := by
  unfold ofJson? at accepted
  split at accepted
  next items shape =>
    split at accepted
    next rows read =>
      obtain ⟨lists, rfl, -⟩ := (mapM_rowOfJson?_eq_some_iff items rows).mp read
      exact .matrix lists
    next => cases accepted
  next items shape =>
    split at accepted
    next records read =>
      obtain rfl := (mapM_members?_eq_some_iff items records).mp read
      obtain ⟨first, rest, starts⟩ := Shape.starts_object shape
      obtain ⟨record, others, rfl, -, -⟩ := List.map_eq_cons_iff.mp starts
      exact .records record others
    next => cases accepted
  next members shape =>
    obtain ⟨⟨names, named⟩, items, held⟩ := (Shape.classify_recordTable_iff members).mp shape
    rw [itemsUnder_of_get? named, itemsUnder_of_get? held] at accepted
    split at accepted
    next fields rows readNames readRows =>
      obtain ⟨plain, -⟩ := (mapM_fieldOfJson?_eq_some_iff names fields).mp readNames
      obtain ⟨lists, rfl, -⟩ := (mapM_rowOfJson?_eq_some_iff items rows).mp readRows
      exact .recordTable named plain held
    next => cases accepted
  next => cases accepted

theorem ofJson_lists (rows : List (List Json)) (header : Header) :
    ofJson (.array (rows.map .array)) header = ofMatrix (rows.map (List.map Cell.ofJson)) header :=
  ofJson_of_matrix (Shape.classify_matrix rows)
    ((mapM_rowOfJson?_eq_some_iff _ _).mpr ⟨rows, rfl, rfl⟩) header

theorem ofJson_objects (first : Record) (others : List Record) (header : Header) :
    ofJson (.array ((first :: others).map .object)) header = ofRecords (first :: others) :=
  ofJson_of_records rfl ((mapM_members?_eq_some_iff _ _).mpr rfl) header

theorem ofJson_namedLists {members : Record} {names : List Json} {rows : List (List Json)}
    (named : members.get? "fields" = some (.array names))
    (plain : ∀ name ∈ names, name.isName = true)
    (held : members.get? "table" = some (.array (rows.map .array))) (header : Header) :
    ofJson (.object members) header =
      { fields := names.map Json.plainText, rows := rows.map (List.map Cell.ofJson) } := by
  apply ofJson_of_recordTable
  · exact (Shape.classify_recordTable_iff members).mpr ⟨⟨names, named⟩, _, held⟩
  · rw [itemsUnder_of_get? named]
    exact (mapM_fieldOfJson?_eq_some_iff _ _).mpr ⟨plain, rfl⟩
  · rw [itemsUnder_of_get? held]
    exact (mapM_rowOfJson?_eq_some_iff _ _).mpr ⟨rows, rfl, rfl⟩

theorem ofJson_valid_of_tabular {document : Json} (tabular : Tabular document) (header : Header) :
    (ofJson document header).valid = true := by
  cases tabular with
  | matrix rows =>
    rw [ofJson_lists]
    exact ofMatrix_valid _ header
  | records first others =>
    rw [ofJson_objects]
    rfl
  | recordTable named plain held => rw [ofJson_namedLists named plain held]

theorem ofJson_of_not_tabular {document : Json} (other : ¬Tabular document) (header : Header) :
    ofJson document header = invalid := by
  rw [ofJson]
  cases decided : ofJson? document header with
  | ok table => exact absurd (tabular_of_ofJson? decided) other
  | error rejection => rfl

end Table

theorem Cell.ofJson_nested {datum : Json} (nested : datum.items?.isSome ∨ datum.members?.isSome) :
    Cell.ofJson datum = .text datum.compact := by
  cases datum <;> simp [Json.items?, Json.members?, Cell.ofJson] at nested ⊢

namespace Table

theorem recordCell_eq (record : Record) (key : String) :
    recordCell record key = ((record.get? key).map Cell.ofJson).getD .null := by
  rw [recordCell]
  cases record.get? key <;> rfl

/-- A table is made of the documents of three shapes and of no others; what is made of those has no
fields and no rows. From an array of arrays the rows are taken as they are, the header aside. From
an array of objects the keys of the first one become the fields, and each object a row with its
value under each of these keys or null. From an object with names and arrays both are taken as they
are. A list or an object inside a cell is kept as its text. -/
theorem three_shapes_accepted :
    (∀ document header,
      ((ofJson document header).valid = true ↔ Tabular document) ∧
      (¬Tabular document → (ofJson document header).valid = false ∧
        (ofJson document header).fields = [] ∧ (ofJson document header).rows = [])) ∧
    (∀ (rows : List (List Json)) header, ofJson (.array (rows.map .array)) header =
      ofMatrix (rows.map (List.map Cell.ofJson)) header) ∧
    (∀ (first : Record) (others : List Record) header,
      let table := ofJson (.array ((first :: others).map .object)) header
      table.fields = first.keys ∧
      table.rows = (first :: others).map fun record =>
        first.keys.map fun key => ((record.get? key).map Cell.ofJson).getD .null) ∧
    (∀ (members : Record) names (rows : List (List Json)) header,
      members.get? "fields" = some (.array names) →
      (∀ name ∈ names, name.isName = true) →
      members.get? "table" = some (.array (rows.map .array)) →
      (ofJson (.object members) header).fields = names.map Json.plainText ∧
      (ofJson (.object members) header).rows = rows.map (List.map Cell.ofJson)) ∧
    ∀ datum : Json, datum.items?.isSome ∨ datum.members?.isSome →
      Cell.ofJson datum = .text datum.compact := by
  refine ⟨fun document header => ⟨⟨?_, ?_⟩, ?_⟩, ofJson_lists, ?_, ?_, fun _ => Cell.ofJson_nested⟩
  · intro valid
    refine Classical.byContradiction fun other => ?_
    rw [ofJson_of_not_tabular other header] at valid
    cases valid
  · exact fun tabular => ofJson_valid_of_tabular tabular header
  · intro other
    rw [ofJson_of_not_tabular other header]
    exact ⟨rfl, rfl, rfl⟩
  · intro first others header table
    have made : table = ofRecords (first :: others) := ofJson_objects first others header
    rw [made]
    refine ⟨rfl, List.map_congr_left fun record _ => ?_⟩
    exact List.map_congr_left fun key _ => recordCell_eq record key
  · intro members names rows header named plain held
    rw [ofJson_namedLists named plain held]
    exact ⟨rfl, rfl⟩

end Table

end TableQuery
