import TableQuery.Proofs.ClauseLexing

/-! A condition written out. Its field may hold blanks, small connectives and even connectives that
do not come first, since a field runs on to the operator. The condition is read back wherever a token
may start, even where a connective would be looked for, and nothing of what follows it is taken in. -/

namespace TableQuery.Clause

/-- A condition that its text gives back: the field is trimmed, holds no mark that ends a field, does
not run into the operator and does not come apart into a connective and the rest. -/
structure Condition.Printable (condition : Condition) : Prop where
  trimmed : Text.trim condition.field = condition.field
  unmarked : ∀ mark ∈ ['=', '\'', '(', ')'], mark ∉ condition.field
  unsigned : condition.negated = false → condition.field.getLast? ≠ some '!'
  unled : ∀ word ∈ [['A', 'N', 'D'], ['O', 'R']], ∀ c rest,
    condition.field = word ++ c :: rest → Text.isBlank c = false
  single : '\'' ∉ condition.value

theorem cutField_written {field : List Char} {negated : Bool}
    (unmarked : ∀ mark ∈ ['=', '\'', '(', ')'], mark ∉ field)
    (unsigned : negated = false → field.getLast? ≠ some '!') (after : List Char) :
    cutField (field ++ ((if negated then ['!', '='] else ['=']) ++ after)) =
      some (field, negated, after) := by
  induction field with
  | nil => cases negated <;> rfl
  | cons c rest ih =>
    have inner := ih (fun mark sign member => unmarked mark sign (List.mem_cons_of_mem c member))
      (fun plain last => unsigned plain (by rw [List.getLast?_cons, last]; rfl))
    have other (mark : Char) (sign : mark ∈ ['=', '\'', '(', ')']) : c ≠ mark := by
      rintro rfl
      exact unmarked c sign List.mem_cons_self
    -- An exclamation mark of the field is followed by the field, or by that of the operator.
    have notBang : ∀ next, c = '!' →
        rest ++ ((if negated then ['!', '='] else ['=']) ++ after) = '=' :: next → False := by
      rintro next rfl equals
      cases rest with
      | nil =>
        cases negated with
        | false => exact unsigned rfl rfl
        | true => cases equals
      | cons x rest =>
        have same : x = '=' := (List.cons.inj equals).1
        exact unmarked '=' (by decide) (same ▸ List.mem_cons_of_mem _ List.mem_cons_self)
    rw [List.cons_append, cutField.eq_4 _ _ (other '=' (by decide)) notBang,
      if_neg (by simp [other]), inner]
    rfl

theorem not_leads_written {word field : List Char} {mark : Char} (absent : mark ∉ word)
    (solid : isBoundary mark = false)
    (unled : ∀ c rest, field = word ++ c :: rest → isBoundary c = false) (after : List Char) :
    ¬Leads word (field ++ mark :: after) := by
  rintro ⟨starts, ended⟩
  obtain ⟨rest, rfl⟩ := (prefix_append_cons_iff absent).mp starts
  rw [List.append_assoc, List.drop_left] at ended
  cases rest with
  | nil =>
    have edge : isBoundary mark = true := ended
    rw [solid] at edge
    cases edge
  | cons c rest =>
    have edge : isBoundary c = true := ended
    rw [unled c rest rfl] at edge
    cases edge

theorem tokensFrom_cut (joined : Bool) {c : Char} {rest after : List Char} {condition : Condition}
    (solid : isBoundary c = false) (notAnd : ¬Leads ['A', 'N', 'D'] (c :: rest))
    (notOr : ¬Leads ['O', 'R'] (c :: rest))
    (cut : cutCondition (c :: rest) = some (condition, after)) :
    tokensFrom joined (c :: rest) = .condition condition :: tokensFrom true after := by
  simp only [isBoundary, Bool.or_eq_false_iff, beq_eq_false_iff_ne] at solid
  obtain ⟨⟨notBlank, notOpen⟩, notClose⟩ := solid
  rw [tokensFrom_token joined (by simp [notBlank]), cutToken_eq joined notOpen notClose,
    if_neg fun leads => notAnd leads.2, if_neg fun leads => notOr leads.2, cut]
  rfl

namespace Condition.Printable

variable {condition : Condition} (printable : condition.Printable)
include printable

theorem field_boundary {c : Char} (member : c ∈ condition.field) :
    isBoundary c = Text.isBlank c := by
  have other (mark : Char) (sign : mark ∈ ['=', '\'', '(', ')']) : c ≠ mark := by
    rintro rfl
    exact printable.unmarked c sign member
  rw [isBoundary, beq_false_of_ne (other '(' (by decide)), beq_false_of_ne (other ')' (by decide)),
    Bool.or_false, Bool.or_false]

theorem not_leads {word : List Char} (connective : word ∈ [['A', 'N', 'D'], ['O', 'R']])
    (after : List Char) : ¬Leads word (condition.chars ++ after) := by
  have unled : ∀ c rest, condition.field = word ++ c :: rest → isBoundary c = false := by
    intro c rest parted
    rw [printable.field_boundary (by rw [parted]; simp)]
    exact printable.unled word connective c rest parted
  have absent (mark : Char) (sign : mark = '=' ∨ mark = '!') : mark ∉ word := by
    rcases sign with rfl | rfl <;> rcases List.mem_pair.mp connective with rfl | rfl <;> decide
  rw [chars]
  cases condition.negated with
  | false =>
    simpa using not_leads_written (absent '=' (.inl rfl)) (by decide) unled
      ('\'' :: condition.value ++ ['\''] ++ after)
  | true =>
    simpa using not_leads_written (absent '!' (.inr rfl)) (by decide) unled
      ('=' :: '\'' :: condition.value ++ ['\''] ++ after)

theorem cutCondition_chars (after : List Char) :
    cutCondition (condition.chars ++ after) = some (condition, after) := by
  have first := cutField_written printable.unmarked printable.unsigned
    ('\'' :: (condition.value ++ '\'' :: after))
  have second : cutValue ('\'' :: (condition.value ++ '\'' :: after)) =
      some (condition.value, after) :=
    Text.cutAt_eq_some_iff.mpr ⟨rfl, printable.single⟩
  have written : condition.chars ++ after =
      condition.field ++ ((if condition.negated then ['!', '='] else ['=']) ++
        '\'' :: (condition.value ++ '\'' :: after)) := by
    simp [chars]
  simp only [written, cutCondition, first, second, printable.trimmed, Option.bind_eq_bind,
    Option.bind_some, Option.pure_def]

theorem tokensFrom_of_start {c : Char} {rest : List Char} (start : condition.chars = c :: rest)
    (solid : isBoundary c = false) (joined : Bool) (after : List Char) :
    tokensFrom joined (condition.chars ++ after) = .condition condition :: tokensFrom true after := by
  have notAnd : ¬Leads ['A', 'N', 'D'] (condition.chars ++ after) :=
    printable.not_leads (by decide) after
  have notOr : ¬Leads ['O', 'R'] (condition.chars ++ after) :=
    printable.not_leads (by decide) after
  have cut := printable.cutCondition_chars after
  rw [start, List.cons_append] at notAnd notOr cut ⊢
  exact tokensFrom_cut joined solid notAnd notOr cut

theorem tokensFrom_named (present : condition.field ≠ []) (joined : Bool) (after : List Char) :
    tokensFrom joined (condition.chars ++ after) = .condition condition :: tokensFrom true after := by
  obtain ⟨c, rest, parted⟩ := List.exists_cons_of_ne_nil present
  have solid : isBoundary c = false := by
    rw [printable.field_boundary (parted ▸ List.mem_cons_self)]
    exact Text.not_blank_of_trim (parted ▸ printable.trimmed)
  have start : condition.chars = c :: (rest ++ (if condition.negated then ['!', '='] else ['=']) ++
      '\'' :: condition.value ++ ['\'']) := by
    rw [chars, parted]
    rfl
  exact printable.tokensFrom_of_start start solid joined after

end Condition.Printable

def isPlain (c : Char) : Bool := !(isBoundary c || c == '=' || c == '!' || c == '\'')

theorem printable_of_plain {field value : List Char} (plain : ∀ c ∈ field, isPlain c = true)
    (single : '\'' ∉ value) (negated : Bool) : Condition.Printable ⟨field, negated, value⟩ := by
  have absent (mark : Char) (sign : isPlain mark = false) : mark ∉ field := by
    intro member
    rw [plain mark member] at sign
    cases sign
  have solid : ∀ c ∈ field, Text.isBlank c = false := by
    intro c member
    have here : isPlain c = true := plain c member
    simp only [isPlain, isBoundary, Bool.not_eq_true', Bool.or_eq_false_iff] at here
    exact here.1.1.1.1.1
  refine ⟨Text.trim_of_no_blank solid, ?_, fun _ last => ?_, ?_, single⟩
  · intro mark sign
    simp only [List.mem_cons, List.not_mem_nil, or_false] at sign
    rcases sign with rfl | rfl | rfl | rfl <;> exact absent _ (by decide)
  · exact absent '!' (by decide) (List.mem_of_getLast? last)
  · rintro word - c rest rfl
    exact solid c (by simp)

theorem tokensFrom_condition {field value : List Char} (plain : ∀ c ∈ field, isPlain c = true)
    (present : field ≠ []) (single : '\'' ∉ value) (joined negated : Bool) (after : List Char) :
    tokensFrom joined (Condition.chars ⟨field, negated, value⟩ ++ after) =
      .condition ⟨field, negated, value⟩ :: tokensFrom true after :=
  (printable_of_plain plain single negated).tokensFrom_named present joined after

end TableQuery.Clause
