import TableQuery.Proofs.ClauseComposition
import TableQuery.Proofs.ConditionText
import TableQuery.Proofs.StoreSelection

/-! Values in double quotes. The store turns every double quote of a clause into a single one before
the clause is read, so a quoted value is taken as it stands up to the first single quote in it. A
value without single quotes selects the rows that it covers as a pattern, and nothing in it can add
to the clause; a value with one is cut short there, and the rest of it is read as clause text. -/

namespace TableQuery.Clause

theorem isPlain_of_isAlphanumeric {c : Char} (letter : Text.isAlphanumeric c = true) :
    isPlain c = true := by
  have solid := Text.isBlank_of_isAlphanumeric letter
  have other (x : Char) (sign : Text.isAlphanumeric x = false) : c ≠ x := by
    rintro rfl
    rw [letter] at sign
    cases sign
  simp [isPlain, isBoundary, solid, other '(' (by decide +kernel), other ')' (by decide +kernel),
    other '=' (by decide +kernel), other '!' (by decide +kernel), other '\'' (by decide +kernel)]

theorem tokens_quoted_iff {field value : List Char} (plain : ∀ c ∈ field, isPlain c = true)
    (present : field ≠ []) :
    tokens (field ++ '=' :: '\'' :: (value ++ ['\''])) = [.condition ⟨field, false, value⟩] ↔
      '\'' ∉ value := by
  have written (value after : List Char) :
      field ++ '=' :: '\'' :: (value ++ '\'' :: after) =
        Condition.chars ⟨field, false, value⟩ ++ after := by
    simp [Condition.chars]
  constructor
  · intro alone member
    -- The first single quote ends the value before its end.
    obtain ⟨before, after, whole, absent⟩ := List.eq_append_cons_of_mem member
    have read := tokensFrom_condition plain present absent false false (after ++ ['\''])
    rw [tokens, whole, List.append_assoc, List.cons_append, written, read] at alone
    have same : before = before ++ '\'' :: after := by
      simpa using congrArg (fun tokens => tokens.head?) alone
    have lengths := congrArg List.length same
    simp only [List.length_append, List.length_cons] at lengths
    omega
  · intro single
    rw [tokens, written, tokensFrom_condition plain present single, tokensFrom_nil]

end TableQuery.Clause

namespace TableQuery.Store

def doubleQuoted (field value : String) : String := field ++ "=\"" ++ value ++ "\""

theorem singleQuoted_doubleQuoted {field value : String} (plainField : '"' ∉ field.toList)
    (plain : '"' ∉ value.toList) :
    (singleQuoted (doubleQuoted field value)).toList =
      field.toList ++ '=' :: '\'' :: (value.toList ++ ['\'']) := by
  have kept (text : List Char) (absent : '"' ∉ text) :
      text.map (fun c => if c = '"' then '\'' else c) = text := by
    conv_rhs => rw [← List.map_id text]
    apply List.map_congr_left
    intro c member
    have other : c ≠ '"' := by
      rintro rfl
      exact absent member
    exact if_neg other
  rw [singleQuoted, String.toList_ofList, doubleQuoted]
  simp [kept _ plainField, kept _ plain]

end TableQuery.Store

namespace TableQuery

theorem resolveFrom_nil (column : Nat) (fields : List String) :
    resolveFrom [] column fields = none := by
  induction fields generalizing column with
  | nil => rfl
  | cons field rest ih =>
    rw [resolveFrom]
    split
    next => exact ih (column + 1)
    next named =>
      have present : field.toList ≠ [] := by simpa using named
      rw [if_neg (Ne.symm present), if_neg (by simpa using present), ih]

theorem Engine.cellPasses_of_uncalled {engine : Engine} {value : List Char}
    (uncalled : ∀ call, Call.parse? value = some call →
      engine.functions.predicate? call.name = none) (cell : Cell) :
    engine.cellPasses value cell =
      Pattern.covers engine.caseSensitive value cell.display.toList := by
  unfold cellPasses
  cases called : Call.parse? value with
  | none => rfl
  | some call => simp [uncalled call called]

namespace Store

section DoubleQuoted

variable {store : Store} {field value : String} {column : Nat}
  (letters : ∀ c ∈ field.toList, Text.isAlphanumeric c = true)
  (bound : resolveField field.toList store.backup.fields = some column)
  (plain : '"' ∉ value.toList)
include letters bound plain

theorem tokens_doubleQuoted_iff :
    Clause.tokens (singleQuoted (doubleQuoted field value)).toList =
        [.condition ⟨field.toList, false, value.toList⟩] ↔ '\'' ∉ value.toList := by
  have plainField : '"' ∉ field.toList :=
    Text.not_mem_of_isAlphanumeric letters (by decide +kernel)
  have present : field.toList ≠ [] := by
    intro empty
    rw [empty, resolveField, resolveFrom_nil] at bound
    cases bound
  rw [singleQuoted_doubleQuoted plainField plain]
  have plainLetters : ∀ c ∈ field.toList, Clause.isPlain c = true :=
    fun c member => Clause.isPlain_of_isAlphanumeric (letters c member)
  exact Clause.tokens_quoted_iff plainLetters present

theorem selects_doubleQuoted (single : '\'' ∉ value.toList)
    (uncalled : ∀ call, Call.parse? value.toList = some call →
      store.engine.functions.predicate? call.name = none) (row : Row) :
    store.selects (doubleQuoted field value) row =
      Pattern.covers store.engine.caseSensitive value.toList
        (Row.cellAt row column).display.toList := by
  have lexed := (tokens_doubleQuoted_iff letters bound plain).mpr single
  have read : Clause.read (singleQuoted (doubleQuoted field value)).toList =
      .ok (some (.condition ⟨field.toList, false, value.toList⟩)) := by
    rw [Clause.read_eq_ok_some_iff, lexed]
    rfl
  have starless : '*' ∉ field.toList := Text.not_mem_of_isAlphanumeric letters (by decide +kernel)
  have notAny : field.toList ≠ ['O', 'R', '*'] := fun same => starless (by simp [same])
  have notEvery : field.toList ≠ ['A', 'N', 'D', '*'] := fun same => starless (by simp [same])
  rw [selects, Engine.compile_accepts_of_read read, Clause.Tree.value, Engine.conditionPasses,
    if_neg notAny, if_neg notEvery, Engine.fieldPasses, bound,
    ← Engine.cellPasses_of_uncalled uncalled]
  exact Bool.bne_false _

end DoubleQuoted

/-- A value in double quotes is one condition of its clause exactly when it has no single quote.
Then a query keeps, and a deletion removes, the rows whose cell the value covers, and no others. -/
theorem double_quoted_value (store : Store) (field value : String) (column : Nat)
    (letters : ∀ c ∈ field.toList, Text.isAlphanumeric c = true)
    (bound : resolveField field.toList store.backup.fields = some column)
    (plain : '"' ∉ value.toList)
    (uncalled : ∀ call, Call.parse? value.toList = some call →
      store.engine.functions.predicate? call.name = none) :
    let covered : Row → Bool := fun row => Pattern.covers store.engine.caseSensitive value.toList
      (Row.cellAt row column).display.toList
    let clause := doubleQuoted field value
    (Clause.tokens (singleQuoted clause).toList =
        [.condition ⟨field.toList, false, value.toList⟩] ↔ '\'' ∉ value.toList) ∧
    ('\'' ∉ value.toList →
      (∀ committed, (store.query { filter := some clause } committed).working =
        { store.backup with rows := store.backup.rows.filter covered }) ∧
      (store.delete clause).1 = store.backup.rows.countP covered ∧
      (store.delete clause).2.backup =
        { store.backup with rows := store.backup.rows.filter fun row => !covered row }) := by
  intro covered clause
  refine ⟨tokens_doubleQuoted_iff letters bound plain, fun single => ?_⟩
  have same : store.selects clause = covered := by
    funext row
    exact selects_doubleQuoted letters bound plain single uncalled row
  refine ⟨fun committed => ?_, ?_, ?_⟩
  · rw [query_filter_working, same]
  · rw [delete_eq, same]
  · rw [delete_eq, rejected, same]

theorem double_quoted_value_parentheses :
    let store := ofTable
      { fields := ["id", "name"],
        rows := [[.text "1", .text "Ann"], [.text "2", .text "(ann) OR (id!=x)"], [.text "3"]] }
    let value := "(A%) OR (id!=%)"
    (∀ c ∈ "name".toList, Text.isAlphanumeric c = true) ∧
      resolveField "name".toList store.backup.fields = some 1 ∧ '"' ∉ value.toList ∧
      (∀ call, Call.parse? value.toList = some call →
        store.engine.functions.predicate? call.name = none) ∧
      (store.delete (doubleQuoted "name" value)).2.backup.rows =
        [[.text "1", .text "Ann"], [.text "3"]] := by
  intro store value
  have letters : ∀ c ∈ "name".toList, Text.isAlphanumeric c = true :=
    List.all_eq_true.mp (by decide +kernel)
  have bound : resolveField "name".toList store.backup.fields = some 1 := by decide +kernel
  have plain : '"' ∉ value.toList := by decide +kernel
  have uncalled : ∀ call, Call.parse? value.toList = some call →
      store.engine.functions.predicate? call.name = none := by
    intro call found
    rw [show Call.parse? value.toList = none by decide +kernel] at found
    cases found
  obtain ⟨_, selected⟩ := double_quoted_value store "name" value 1 letters bound plain uncalled
  have single : '\'' ∉ value.toList := by decide +kernel
  refine ⟨letters, bound, plain, uncalled, ?_⟩
  rw [(selected single).2.2]
  decide +kernel

/-- A single quote ends a value that stands in double quotes. The name asked for is then not found
although a row has it, and what follows the quote can select rows that the value does not cover. -/
theorem single_quote_ends_value :
    let store := ofTable
      { fields := ["id", "name"], rows := [[.text "1", .text "Ann"], [.text "2", .text "O'Brien"]] }
    let name := "O'Brien"
    let escaping := "x' OR OR*='%"
    (∀ c ∈ "name".toList, Text.isAlphanumeric c = true) ∧
      resolveField "name".toList store.backup.fields = some 1 ∧
      ('"' ∉ name.toList ∧ Call.parse? name.toList = none) ∧
      ('"' ∉ escaping.toList ∧ Call.parse? escaping.toList = none) ∧
      (Pattern.covers false name.toList "O'Brien".toList = true ∧
        (store.query { filter := some (doubleQuoted "name" name) } false).working.rows = []) ∧
      Pattern.covers false escaping.toList "Ann".toList = false ∧
      Pattern.covers false escaping.toList "O'Brien".toList = false ∧
      (store.delete (doubleQuoted "name" escaping)).1 = 2 ∧
      (store.delete (doubleQuoted "name" escaping)).2.backup.rows = [] := by
  intro store name escaping
  refine ⟨List.all_eq_true.mp (by decide +kernel), by decide +kernel, by decide +kernel,
    by decide +kernel, by decide +kernel, by decide +kernel, by decide +kernel,
    by decide +kernel, ?_⟩
  rw [delete_eq]
  decide +kernel

end Store

end TableQuery
