import TableQuery.Proofs.PatternPieces

/-! The regular expression of a pattern, read by the rules of regular expressions: marks stand for
the ends of the text, for any character and for repetition, a backslash makes a mark stand for
itself, a group may let the dot take line breaks, and an expression is found anywhere in a text. The
expression of a pattern can always be read, and because of its anchors it is found in just the texts
that the pattern covers. -/

namespace TableQuery

inductive RegexSign
  | start
  | finish
  | dot
  | star
  /-- The start of a group in which the dot takes line breaks. -/
  | openDotAll
  | close
  | literal (c : Char)
deriving DecidableEq

namespace RegexSign

/-- The sign of one character that no backslash precedes. Characters with a meaning that no pattern
makes use of have none. -/
def ofChar? (c : Char) : Option RegexSign :=
  if c = '^' then some .start
  else if c = '$' then some .finish
  else if c = '.' then some .dot
  else if c = '*' then some .star
  else if c = ')' then some .close
  else if Pattern.metacharacters.contains c then none
  else some (.literal c)

/-- The signs of an expression. A backslash makes a mark stand for itself, and the only group is the
one in which the dot takes line breaks. -/
def read? : List Char → Option (List RegexSign)
  | [] => some []
  | c :: rest =>
    if c = '\\' then
      match rest with
      | [] => none
      | marked :: rest =>
        if Pattern.metacharacters.contains marked then (read? rest).map (.literal marked :: ·)
        else none
    else if c = '(' then
      match rest with
      | '?' :: 's' :: ':' :: rest => (read? rest).map (.openDotAll :: ·)
      | _ => none
    else (ofChar? c).bind fun sign => (read? rest).map (sign :: ·)

theorem read?_escaped {c : Char} (marked : Pattern.metacharacters.contains c = true)
    (rest : List Char) : read? ('\\' :: c :: rest) = (read? rest).map (.literal c :: ·) := by
  rw [read?, if_pos rfl]
  exact if_pos marked

theorem read?_openDotAll (rest : List Char) :
    read? ('(' :: '?' :: 's' :: ':' :: rest) = (read? rest).map (.openDotAll :: ·) := by
  rw [read?, if_neg (by decide), if_pos rfl]
  rfl

theorem read?_sign {c : Char} {sign : RegexSign} (signed : ofChar? c = some sign)
    (escaping : c ≠ '\\') (opening : c ≠ '(') (rest : List Char) :
    read? (c :: rest) = (read? rest).map (sign :: ·) := by
  rw [read?.eq_def]
  simp only [if_neg escaping, if_neg opening, signed, Option.bind_some]

theorem ofChar?_ordinary {c : Char} (ordinary : Pattern.metacharacters.contains c = false) :
    ofChar? c = some (.literal c) := by
  have apart : c ∉ Pattern.metacharacters := by simpa using ordinary
  simp only [Pattern.metacharacters, List.mem_cons, not_or] at apart
  simp [ofChar?, apart, Pattern.metacharacters]

end RegexSign

inductive Regex
  | empty
  | start
  | finish
  | dot
  | literal (c : Char)
  | star (repeated : Regex)
  | dotAll (inner : Regex)
  | append (first second : Regex)

namespace Regex

def sequence (items : List Regex) : Regex := items.foldr append empty

/-- The expression of some signs, with the items of the groups that are open around them and the
items before them in their own group, all of them last first. -/
def ofSigns? : List RegexSign → List (List Regex) → List Regex → Option Regex
  | [], [], items => some (sequence items.reverse)
  | [], _ :: _, _ => none
  | .start :: rest, outer, items => ofSigns? rest outer (.start :: items)
  | .finish :: rest, outer, items => ofSigns? rest outer (.finish :: items)
  | .dot :: rest, outer, items => ofSigns? rest outer (.dot :: items)
  | .literal c :: rest, outer, items => ofSigns? rest outer (.literal c :: items)
  | .star :: rest, outer, item :: items => ofSigns? rest outer (.star item :: items)
  | .star :: _, _, [] => none
  | .openDotAll :: rest, outer, items => ofSigns? rest (items :: outer) []
  | .close :: rest, before :: outer, items =>
    ofSigns? rest outer (.dotAll (sequence items.reverse) :: before)
  | .close :: _, [], _ => none

def read? (text : List Char) : Option Regex :=
  (RegexSign.read? text).bind fun signs => ofSigns? signs [] []

/-- Consecutive parts of a text that each stand where an item matches. -/
inductive Repeats (item : List Char → List Char → List Char → Prop) :
    List Char → List Char → List Char → Prop
  | none (before after : List Char) : Repeats item before [] after
  | more {before first rest after : List Char} (once : item before first (rest ++ after))
      (again : Repeats item (before ++ first) rest after) : Repeats item before (first ++ rest) after

/-- Whether an expression matches a part of a text, with what stands before and after the part.
Outside a group that says otherwise the dot takes no line break. -/
def Matches (alike : Char → Char → Bool) : Bool → Regex → List Char → List Char → List Char → Prop
  | _, .empty, _, part, _ => part = []
  | _, .start, before, part, _ => before = [] ∧ part = []
  | _, .finish, _, part, after => part = [] ∧ after = []
  | lineBreaks, .dot, _, part, _ => ∃ x, part = [x] ∧ (lineBreaks = true ∨ x ≠ '\n')
  | _, .literal c, _, part, _ => ∃ x, part = [x] ∧ alike c x = true
  | lineBreaks, .star repeated, before, part, after =>
    Repeats (Matches alike lineBreaks repeated) before part after
  | _, .dotAll inner, before, part, after => Matches alike true inner before part after
  | lineBreaks, .append first second, before, part, after =>
    ∃ front back, part = front ++ back ∧
      Matches alike lineBreaks first before front (back ++ after) ∧
      Matches alike lineBreaks second (before ++ front) back after

section Anchors

variable {alike : Char → Char → Bool} {lineBreaks : Bool} {expression : Regex}
  {before part after : List Char}

theorem matches_start_append :
    (append .start expression).Matches alike lineBreaks before part after ↔
      before = [] ∧ expression.Matches alike lineBreaks [] part after := by
  constructor
  · rintro ⟨_, back, rfl, ⟨rfl, rfl⟩, later⟩
    exact ⟨rfl, later⟩
  · rintro ⟨rfl, later⟩
    exact ⟨[], part, rfl, ⟨rfl, rfl⟩, later⟩

theorem matches_append_finish :
    (append expression (append .finish .empty)).Matches alike lineBreaks before part after ↔
      after = [] ∧ expression.Matches alike lineBreaks before part [] := by
  constructor
  · rintro ⟨front, _, rfl, earlier, _, _, rfl, ⟨rfl, rest⟩, rfl⟩
    obtain rfl : after = [] := rest
    exact ⟨rfl, (List.append_nil front).symm ▸ earlier⟩
  · rintro ⟨rfl, earlier⟩
    exact ⟨part, [], (List.append_nil part).symm, earlier, [], [], rfl, ⟨rfl, rfl⟩, rfl⟩

end Anchors

def FoundIn (alike : Char → Char → Bool) (expression : Regex) (text : List Char) : Prop :=
  ∃ before part after, before ++ part ++ after = text ∧
    expression.Matches alike false before part after

end Regex

namespace Pattern

def unit (c : Char) : Regex :=
  if c = '%' then .star .dot else if c = '_' then .dot else .literal c

def expression (pattern : List Char) : Regex :=
  .sequence [.start, .dotAll (.sequence (pattern.map unit)), .finish]

def signsOf (c : Char) : List RegexSign :=
  if c = '%' then [.dot, .star] else if c = '_' then [.dot] else [.literal c]

theorem read?_regexPart (c : Char) (rest : List Char) :
    RegexSign.read? (regexPart c ++ rest) = (RegexSign.read? rest).map (signsOf c ++ ·) := by
  by_cases run : c = '%'
  · subst run
    have dot : RegexSign.ofChar? '.' = some .dot := rfl
    have star : RegexSign.ofChar? '*' = some .star := rfl
    show RegexSign.read? ('.' :: '*' :: rest) = _
    rw [RegexSign.read?_sign dot (by decide) (by decide),
      RegexSign.read?_sign star (by decide) (by decide), Option.map_map]
    rfl
  by_cases one : c = '_'
  · subst one
    exact RegexSign.read?_sign rfl (by decide) (by decide) rest
  rw [regexPart, signsOf, if_neg run, if_neg run, if_neg one, if_neg one]
  cases marked : metacharacters.contains c with
  | true => exact RegexSign.read?_escaped marked rest
  | false =>
    -- An escape and a group start with marks, which an ordinary character is not.
    refine RegexSign.read?_sign (RegexSign.ofChar?_ordinary marked) ?_ ?_ rest
    · rintro rfl
      exact absurd marked (by decide)
    · rintro rfl
      exact absurd marked (by decide)

theorem read?_flatMap_regexPart (pattern rest : List Char) :
    RegexSign.read? (pattern.flatMap regexPart ++ rest) =
      (RegexSign.read? rest).map (pattern.flatMap signsOf ++ ·) := by
  induction pattern with
  | nil => simp
  | cons c pattern ih =>
    rw [List.flatMap_cons, List.append_assoc, read?_regexPart, ih, Option.map_map]
    simp only [Function.comp_def, List.flatMap_cons, List.append_assoc]

theorem signs_regexChars (pattern : List Char) :
    RegexSign.read? (regexChars pattern) =
      some ([.start, .openDotAll] ++ pattern.flatMap signsOf ++ [.close, .finish]) := by
  have begins : RegexSign.ofChar? '^' = some .start := rfl
  have ends : RegexSign.read? [')', '$'] = some [.close, .finish] := by decide
  show RegexSign.read?
    ('^' :: '(' :: '?' :: 's' :: ':' :: (pattern.flatMap regexPart ++ [')', '$'])) = _
  rw [RegexSign.read?_sign begins (by decide) (by decide),
    RegexSign.read?_openDotAll, read?_flatMap_regexPart, ends]
  simp

theorem ofSigns?_signsOf (c : Char) (rest : List RegexSign) (outer : List (List Regex))
    (items : List Regex) :
    Regex.ofSigns? (signsOf c ++ rest) outer items =
      Regex.ofSigns? rest outer (unit c :: items) := by
  rw [signsOf, unit]
  split
  · rfl
  · split <;> rfl

theorem ofSigns?_flatMap_signsOf (pattern : List Char) (rest : List RegexSign)
    (outer : List (List Regex)) (items : List Regex) :
    Regex.ofSigns? (pattern.flatMap signsOf ++ rest) outer items =
      Regex.ofSigns? rest outer ((pattern.map unit).reverse ++ items) := by
  induction pattern generalizing items with
  | nil => rfl
  | cons c pattern ih =>
    rw [List.flatMap_cons, List.append_assoc, ofSigns?_signsOf, ih, List.map_cons,
      List.reverse_cons, List.append_assoc, List.singleton_append]

theorem read?_regexChars (pattern : List Char) :
    Regex.read? (regexChars pattern) = some (expression pattern) := by
  rw [Regex.read?, signs_regexChars, Option.bind_some, List.append_assoc]
  show Regex.ofSigns? (pattern.flatMap signsOf ++ [.close, .finish]) [[.start]] [] = _
  rw [ofSigns?_flatMap_signsOf, List.append_nil]
  show some (Regex.sequence
    [.start, .dotAll (.sequence (pattern.map unit).reverse.reverse), .finish]) = _
  rw [List.reverse_reverse]
  rfl

variable {caseSensitive : Bool}

theorem repeats_dot (alike : Char → Char → Bool) (before part after : List Char) :
    Regex.Repeats (Regex.Matches alike true .dot) before part after := by
  induction part generalizing before with
  | nil => exact .none before after
  | cons x part ih => exact .more ⟨x, rfl, .inl rfl⟩ (ih (before ++ [x]))

theorem matches_unit (c : Char) (before part after : List Char) :
    (unit c).Matches (sameChar caseSensitive) true before part after ↔
      Takes caseSensitive c part := by
  by_cases run : c = '%'
  · subst run
    exact iff_of_true (repeats_dot _ before part after) (.run part)
  by_cases one : c = '_'
  · subst one
    rw [takes_one_iff]
    show (∃ x, part = [x] ∧ (true = true ∨ x ≠ '\n')) ↔ _
    simp
  · rw [takes_ordinary_iff run one, unit, if_neg run, if_neg one]
    rfl

theorem matches_units (pattern before part after : List Char) :
    (Regex.sequence (pattern.map unit)).Matches (sameChar caseSensitive) true before part after ↔
      ∃ pieces, List.Forall₂ (Takes caseSensitive) pattern pieces ∧ pieces.flatten = part := by
  induction pattern generalizing before part with
  | nil => simp [Regex.sequence, Regex.Matches, eq_comm]
  | cons c pattern ih =>
    show (∃ front back, part = front ++ back ∧
      (unit c).Matches (sameChar caseSensitive) true before front (back ++ after) ∧
      (Regex.sequence (pattern.map unit)).Matches _ true (before ++ front) back after) ↔ _
    simp only [matches_unit, ih, List.forall₂_cons_left_iff]
    constructor
    · rintro ⟨front, _, rfl, takes, pieces, later, rfl⟩
      exact ⟨front :: pieces, ⟨front, pieces, takes, later, rfl⟩, rfl⟩
    · rintro ⟨_, ⟨front, pieces, takes, later, rfl⟩, rfl⟩
      exact ⟨front, pieces.flatten, rfl, takes, pieces, later, rfl⟩

/-- The anchors leave nothing of a text around the part that the units match. -/
theorem foundIn_expression (pattern text : List Char) :
    (expression pattern).FoundIn (sameChar caseSensitive) text ↔
      (Regex.sequence (pattern.map unit)).Matches (sameChar caseSensitive) true [] text [] := by
  have anchored (before part after : List Char) :
      (expression pattern).Matches (sameChar caseSensitive) false before part after ↔
        before = [] ∧ after = [] ∧ (Regex.sequence (pattern.map unit)).Matches
          (sameChar caseSensitive) true [] part [] :=
    Regex.matches_start_append.trans (and_congr_right fun _ => Regex.matches_append_finish)
  constructor
  · rintro ⟨before, part, after, rfl, found⟩
    obtain ⟨rfl, rfl, inner⟩ := (anchored before part after).mp found
    rwa [List.nil_append, List.append_nil]
  · intro inner
    exact ⟨[], text, [], List.append_nil text, (anchored [] text []).mpr ⟨rfl, rfl, inner⟩⟩

/-- A pattern covers just the texts that can be cut into consecutive pieces, one for each of its
characters, such that each character takes its piece, and these are the texts in which its anchored
regular expression is found. -/
theorem covers_by_pieces (caseSensitive : Bool) (pattern text : List Char) :
    (covers caseSensitive pattern text = true ↔
      ∃ pieces, List.Forall₂ (Takes caseSensitive) pattern pieces ∧ pieces.flatten = text) ∧
    ∃ expression, Regex.read? (regexChars pattern) = some expression ∧
      (covers caseSensitive pattern text = true ↔
        expression.FoundIn (sameChar caseSensitive) text) := by
  refine ⟨covers_iff_pieces pattern text, expression pattern, read?_regexChars pattern, ?_⟩
  rw [covers_iff_pieces, foundIn_expression, matches_units]

end Pattern

end TableQuery
