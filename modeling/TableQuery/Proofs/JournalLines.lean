import TableQuery.Proofs.NewestEntries

/-! Lines of events read back into the journal. A line names the level, the path of the target and
the message, and the reader parts target from message at the first colon. A path of one name has no
colon, so its line gives the event back whatever the message holds. A path of several names is
written with colons of its own: there the target is cut short to the first name, and the other names
end up in front of the message. -/

namespace TableQuery

namespace Level

variable (level : Level)

theorem ofText?_name : ofText? level.name.toList = some level := by
  cases level <;> decide +kernel

theorem name_ne_nil : level.name.toList ≠ [] := by
  cases level <;> decide +kernel

theorem solid_name : ∀ c ∈ level.name.toList, Text.isBlank c = false := by
  cases level <;> exact Text.no_blank_of_any (by decide +kernel)

end Level

namespace Journal

theorem trim_ended (line : List Char) :
    Text.trim (if line.getLast? = some '\r' then line.dropLast else line) = Text.trim line := by
  split
  next ended =>
    obtain ⟨start, rfl⟩ := List.getLast?_eq_some_iff.mp ended
    rw [List.dropLast_concat, Text.trim_concat (by decide)]
  next => rfl

theorem linesOf_eq (text : List Char) :
    linesOf text = ((Text.splitAt '\n' text).map Text.trim).filter (!·.isEmpty) := by
  obtain ⟨ended, last, parted⟩ : ∃ ended last, Text.splitAt '\n' text = ended ++ [last] :=
    ⟨_, _, (List.dropLast_concat_getLast (Text.splitAt_ne_nil '\n' text)).symm⟩
  have trimmed (lines : List (List Char)) :
      (lines.map fun line => if line.getLast? = some '\r' then line.dropLast else line).map
        Text.trim = lines.map Text.trim := by
    rw [List.map_map]
    exact List.map_congr_left fun line _ => trim_ended line
  rw [linesOf, Text.lines, parted]
  simp only [List.dropLast_concat, List.getLast?_concat]
  cases last with
  | nil =>
    rw [trimmed, List.map_append, List.filter_append]
    exact (List.append_nil _).symm
  | cons c rest => rw [List.map_append, trimmed, ← List.map_append]

theorem linesOf_append (before after : List Char) :
    linesOf (before ++ '\n' :: after) = linesOf before ++ linesOf after := by
  rw [linesOf_eq, linesOf_eq, linesOf_eq, Text.splitAt_append, List.map_append,
    List.filter_append]

theorem linesOf_blank {gap : List Char} (blank : ∀ c ∈ gap, Text.isBlank c = true)
    (text : List Char) : linesOf (gap ++ text) = linesOf text := by
  induction gap with
  | nil => rfl
  | cons c gap ih =>
    obtain ⟨here, later⟩ := List.forall_mem_cons.mp blank
    rw [← ih later]
    by_cases ends : c = '\n'
    · subst ends
      exact linesOf_append [] (gap ++ text)
    · rw [linesOf_eq, linesOf_eq, List.cons_append, Text.map_trim_splitAt_blank '\n' c here ends]

theorem linesOf_single {line : List Char} (single : '\n' ∉ line) (present : line ≠ [])
    (trimmed : Text.trim line = line) : linesOf line = [line] := by
  rw [linesOf_eq, Text.splitAt_of_not_mem single, List.map_singleton, trimmed,
    List.filter_cons_of_pos (by simp [present]), List.filter_nil]

structure IsName (name : List Char) : Prop where
  present : name ≠ []
  solid : ∀ c ∈ name, Text.isBlank c = false
  colonless : ':' ∉ name

theorem IsName.of_chars {name : List Char} (present : name ≠ [])
    (solid : name.any Text.isBlank = false) (colonless : ':' ∉ name) : IsName name :=
  ⟨present, Text.no_blank_of_any solid, colonless⟩

/-- An event as its line shows it. The target is a path, a root name and the names inside it. -/
structure Event where
  level : Level
  root : List Char
  inner : List (List Char)
  message : List Char
  names : ∀ name ∈ root :: inner, IsName name
  single : '\n' ∉ message
  present : message ≠ []
  trimmed : Text.trim message = message

namespace Event

def innerChars (names : List (List Char)) : List Char :=
  names.flatMap fun name => ':' :: ':' :: name

variable (event : Event)

def target : List Char := event.root ++ innerChars event.inner

def details : List Char := event.target ++ ':' :: ' ' :: event.message

def chars : List Char := event.level.name.toList ++ ' ' :: event.details

def entry (time : String) : Entry :=
  { time := time, level := event.level, target := String.ofList event.target,
    message := String.ofList event.message }

/-- The entry that the line of the event is read as. Of a path with several names only the root is
the target, and what follows its colon is the message. -/
def held (time : String) : Entry :=
  match event.inner with
  | [] => event.entry time
  | name :: others =>
    { time := time, level := event.level, target := String.ofList event.root,
      message :=
        String.ofList (':' :: (name ++ innerChars others ++ ':' :: ' ' :: event.message)) }

theorem solid_target : ∀ c ∈ event.target, Text.isBlank c = false := by
  obtain ⟨root, inner⟩ := List.forall_mem_cons.mp event.names
  intro c member
  rcases List.mem_append.mp member with here | behind
  · exact root.solid c here
  · obtain ⟨name, listed, within⟩ := List.mem_flatMap.mp behind
    have parts : c = ':' ∨ c ∈ name := by simpa using within
    rcases parts with rfl | here
    · decide
    · exact (inner name listed).solid c here

theorem target_ne_nil : event.target ≠ [] :=
  List.append_ne_nil_of_left_ne_nil (event.names event.root List.mem_cons_self).present _

theorem last_message : ∀ c ∈ event.message.getLast?, Text.isBlank c = false := by
  have last := Text.last_of_trim event.message
  rwa [event.trimmed] at last

theorem trim_ended_by_message {text : List Char} (present : text ≠ [])
    (first : ∀ c ∈ text.head?, Text.isBlank c = false) :
    Text.trim (text ++ event.message) = text ++ event.message := by
  apply Text.trim_of_ends
  · obtain ⟨c, rest, rfl⟩ := List.exists_cons_of_ne_nil present
    exact first
  · have last := event.last_message
    rw [List.getLast?_append]
    rw [List.getLast?_eq_some_getLast event.present] at last ⊢
    exact last

theorem details_eq : event.details = (event.target ++ [':', ' ']) ++ event.message := by
  rw [details, List.append_assoc]
  rfl

theorem chars_eq :
    event.chars = (event.level.name.toList ++ ' ' :: (event.target ++ [':', ' '])) ++
      event.message := by
  rw [chars, details_eq, ← List.cons_append, List.append_assoc]

theorem chars_ne_nil : event.chars ≠ [] :=
  List.append_ne_nil_of_left_ne_nil event.level.name_ne_nil _

theorem trim_chars : Text.trim event.chars = event.chars := by
  obtain ⟨c, rest, start⟩ := List.exists_cons_of_ne_nil event.level.name_ne_nil
  rw [chars_eq, start]
  apply event.trim_ended_by_message (List.cons_ne_nil _ _)
  rintro _ ⟨⟩
  exact event.level.solid_name c (start ▸ List.mem_cons_self)

theorem newline_not_mem_chars : '\n' ∉ event.chars := by
  have level : '\n' ∉ event.level.name.toList :=
    Text.not_mem_of_no_blank event.level.solid_name (by decide)
  have target : '\n' ∉ event.target := Text.not_mem_of_no_blank event.solid_target (by decide)
  simp [chars, details, level, target, event.single]

theorem afterLevel_details (time : String) :
    Entry.afterLevel time event.level event.details = event.held time := by
  obtain ⟨root, _⟩ := List.forall_mem_cons.mp event.names
  have spaceless : ¬event.root.contains ' ' = true := by
    rw [List.contains_iff_mem]
    exact Text.not_mem_of_no_blank root.solid (by decide)
  cases shape : event.inner with
  | nil =>
    have alone : event.target = event.root := by
      rw [target, shape, innerChars, List.flatMap_nil, List.append_nil]
    have cut : Text.cutAt ':' event.details = some (event.root, ' ' :: event.message) :=
      Text.cutAt_eq_some_iff.mpr ⟨by rw [details, alone], root.colonless⟩
    have message : Text.trim (' ' :: event.message) = event.message := by
      rw [Text.trim_cons (by decide), event.trimmed]
    simp only [Entry.afterLevel, cut, if_neg spaceless, message, held, shape, entry, alone]
  | cons name others =>
    have written : event.details = event.root ++ ':' ::
        (':' :: (name ++ innerChars others ++ [':', ' ']) ++ event.message) := by
      simp [details, target, shape, innerChars]
    have cut := Text.cutAt_eq_some_iff.mpr ⟨written, root.colonless⟩
    have message :
        Text.trim (':' :: (name ++ innerChars others ++ [':', ' ']) ++ event.message) =
          ':' :: (name ++ innerChars others ++ [':', ' ']) ++ event.message := by
      apply event.trim_ended_by_message (List.cons_ne_nil _ _)
      rintro _ ⟨⟩
      decide
    simp only [Entry.afterLevel, cut, if_neg spaceless, message]
    simp only [held, shape, List.cons_append, List.append_assoc, List.nil_append]

theorem ofLine_chars (time : String) : Entry.ofLine time event.chars = event.held time := by
  have word : Text.cutAt ' ' event.chars = some (event.level.name.toList, event.details) :=
    Text.cutAt_eq_some_iff.mpr
      ⟨rfl, Text.not_mem_of_no_blank event.level.solid_name (by decide)⟩
  have start : Text.trimStart event.details = event.details := by
    obtain ⟨c, rest, written⟩ := List.exists_cons_of_ne_nil event.target_ne_nil
    have solid : Text.isBlank c = false := event.solid_target c (written ▸ List.mem_cons_self)
    rw [details, written]
    exact Text.trimStart_of_solid solid _
  simp only [Entry.ofLine, word, Level.ofText?_name, start, event.afterLevel_details]

/-- The line gives the event back exactly if the target is a single name. -/
theorem held_eq_entry_iff (time : String) :
    event.held time = event.entry time ↔ event.inner = [] := by
  cases shape : event.inner with
  | nil => simp [held, shape]
  | cons name others =>
    have shorter : event.target ≠ event.root := by
      rw [target, shape]
      simp [innerChars]
    refine ⟨fun same => ?_, fun none => absurd none (List.cons_ne_nil _ _)⟩
    have targets : String.ofList event.root = String.ofList event.target := by
      simpa only [held, shape, entry] using congrArg Entry.target same
    exact absurd (String.ofList_inj.mp targets).symm shorter

end Event

structure Line where
  indent : List Char
  event : Event
  blank : ∀ c ∈ indent, Text.isBlank c = true

def Line.chars (line : Line) : List Char := line.indent ++ line.event.chars ++ ['\n']

theorem linesOf_chars (lines : List Line) :
    linesOf (lines.flatMap Line.chars) = lines.map fun line => line.event.chars := by
  induction lines with
  | nil => rfl
  | cons line others ih =>
    rw [List.flatMap_cons, Line.chars, List.append_assoc, List.append_assoc,
      linesOf_blank line.blank, List.singleton_append, linesOf_append, ih,
      linesOf_single line.event.newline_not_mem_chars line.event.chars_ne_nil
        line.event.trim_chars]
    rfl

theorem writeText_lines (journal : Journal) (time : String) (lines : List Line) :
    journal.writeText time (lines.flatMap Line.chars) =
      (lines.map fun line => line.event.held time).foldl push journal := by
  rw [writeText, linesOf_chars, List.foldl_map, List.foldl_map]
  simp only [Event.ofLine_chars]

theorem write_toUTF8 (journal : Journal) (time text : String) :
    journal.write time text.toUTF8 = (journal.writeText time text.toList, text.toUTF8.size) := by
  have valid : String.fromUTF8? text.toUTF8 = some text := dif_pos text.isValidUTF8
  rw [write, valid]

/-- Lines of events that are written add one entry each, in their order, and the oldest entries make
room for them. Each entry has the level of its event, and where the target is a single name it is
the event. Of a target with several names it has the first one only: what stands behind the colon
after it, the other names included, is read as the message. -/
theorem written_lines_held (journal : Journal) (time : String) (lines : List Line) :
    let text := String.ofList (lines.flatMap Line.chars)
    let added := lines.map fun line => line.event.held time
    journal.write time text.toUTF8 = (added.foldl push journal, text.toUTF8.size) ∧
    (journal.size ≤ capacity →
      (journal.write time text.toUTF8).1.entries = newest (journal.entries ++ added)) ∧
    ∀ line ∈ lines, line.event.held time = line.event.entry time ↔ line.event.inner = [] := by
  intro text added
  have written : journal.write time text.toUTF8 = (added.foldl push journal, text.toUTF8.size) := by
    rw [write_toUTF8, String.toList_ofList, writeText_lines]
  refine ⟨written, fun within => ?_, fun line _ => line.event.held_eq_entry_iff time⟩
  rw [written]
  exact entries_foldl_push within added

theorem written_lines_held_colons :
    let text := " \t\nINFO store: a: b::c \u00e9\nTRACE query_2: :d\n"
    let added : List Entry :=
      [{ time := "now", level := .info, target := "store", message := "a: b::c \u00e9" },
        { time := "now", level := .trace, target := "query_2", message := ":d" }]
    ({} : Journal).size ≤ capacity ∧
      ({} : Journal).write "now" text.toUTF8 = (added.foldl push {}, text.toUTF8.size) ∧
      (({} : Journal).write "now" text.toUTF8).1.entries = newest added := by
  intro text added
  let first : Event := ⟨.info, "store".toList, [], "a: b::c \u00e9".toList,
    List.forall_mem_singleton.mpr (.of_chars (by decide) (by decide +kernel) (by decide)),
    by decide, by decide, by decide +kernel⟩
  let second : Event := ⟨.trace, "query_2".toList, [], ":d".toList,
    List.forall_mem_singleton.mpr (.of_chars (by decide) (by decide +kernel) (by decide)),
    by decide, by decide, by decide +kernel⟩
  let lines : List Line :=
    [⟨" \t\n".toList, first, List.all_eq_true.mp (by decide +kernel)⟩, ⟨[], second, by simp⟩]
  have within : ({} : Journal).size ≤ capacity := by decide
  have same : String.ofList (lines.flatMap Line.chars) = text := by decide +kernel
  have events : (lines.map fun line => line.event.held "now") = added := by decide +kernel
  have written := written_lines_held {} "now" lines
  rw [same, events] at written
  exact ⟨within, written.1, written.2.1 within⟩

/-- Of a target of two names the inner one is read as part of the message. -/
theorem inner_name_read_as_message : ∃ event : Event,
    event.level = .info ∧ event.target = "store::undo".toList ∧ event.message = "3 rows".toList ∧
      String.ofList (event.chars ++ ['\n']) = "INFO store::undo: 3 rows\n" ∧
      (({} : Journal).write "now" "INFO store::undo: 3 rows\n".toUTF8).1.entries =
        [{ time := "now", level := .info, target := "store", message := ":undo: 3 rows" }] ∧
      (({} : Journal).write "now" "INFO store::undo: 3 rows\n".toUTF8).1.entries ≠
        [event.entry "now"] := by
  refine ⟨⟨.info, "store".toList, ["undo".toList], "3 rows".toList,
    List.forall_mem_cons.mpr ⟨.of_chars (by decide) (by decide +kernel) (by decide),
      List.forall_mem_singleton.mpr (.of_chars (by decide) (by decide +kernel) (by decide))⟩,
    by decide, by decide, by decide +kernel⟩, rfl, by decide, rfl, by decide +kernel, ?_, ?_⟩
  · rw [write_toUTF8]
    decide +kernel
  · rw [write_toUTF8]
    decide +kernel

end Journal

end TableQuery
