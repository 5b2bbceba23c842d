import TableQuery.Proofs.PatternRegex

/-! Patterns read back from their regular expressions. A mark stands for itself only behind a
backslash, so the signs that a text is read as give the text again. And the signs of an expression
give the pattern: no unit of an expression starts with a star, so a dot stands for a run of
characters exactly if a star follows it. Hence no two patterns have the same expression. -/

namespace TableQuery

namespace RegexSign

def chars : RegexSign → List Char
  | .start => ['^']
  | .finish => ['$']
  | .dot => ['.']
  | .star => ['*']
  | .openDotAll => ['(', '?', 's', ':']
  | .close => [')']
  | .literal c => if Pattern.metacharacters.contains c then ['\\', c] else [c]

theorem chars_of_ofChar? {c : Char} {sign : RegexSign} (signed : ofChar? c = some sign) :
    sign.chars = [c] := by
  rw [ofChar?] at signed
  split_ifs at signed with first last any repeated closing marked
  case neg =>
    cases signed
    rw [chars, if_neg marked]
  all_goals
    subst c
    cases signed
    rfl

theorem flatMap_chars_of_read? {text : List Char} {signs : List RegexSign}
    (read : read? text = some signs) : signs.flatMap chars = text := by
  fun_induction read? text generalizing signs with
  | case1 =>
    cases read
    rfl
  | case2 | case4 | case6 => cases read
  | case3 c rest marked ih =>
    obtain ⟨others, later, rfl⟩ := Option.map_eq_some_iff.mp read
    rw [List.flatMap_cons, ih later, chars, if_pos marked]
    rfl
  | case5 rest _ ih =>
    obtain ⟨others, later, rfl⟩ := Option.map_eq_some_iff.mp read
    rw [List.flatMap_cons, ih later]
    rfl
  | case7 c rest _ _ ih =>
    obtain ⟨sign, signed, mapped⟩ := Option.bind_eq_some_iff.mp read
    obtain ⟨others, later, rfl⟩ := Option.map_eq_some_iff.mp mapped
    rw [List.flatMap_cons, ih later, chars_of_ofChar? signed]
    rfl

end RegexSign

namespace Pattern

/-- The pattern that some signs stand for, character by character. A dot with a star behind it is a
run of characters. -/
def ofSigns? : List RegexSign → Option (List Char)
  | [] => some []
  | .dot :: .star :: rest => (ofSigns? rest).map ('%' :: ·)
  | .dot :: rest => (ofSigns? rest).map ('_' :: ·)
  | .literal c :: rest => if c = '%' ∨ c = '_' then none else (ofSigns? rest).map (c :: ·)
  | _ => none

def decode? (inner : List Char) : Option (List Char) := (RegexSign.read? inner).bind ofSigns?

theorem regexPart_eq (c : Char) : regexPart c = (signsOf c).flatMap RegexSign.chars := by
  rw [regexPart, signsOf]
  split_ifs with run one marked
  · rfl
  · rfl
  · rw [List.flatMap_singleton, RegexSign.chars, if_pos marked]
  · rw [List.flatMap_singleton, RegexSign.chars, if_neg marked]

theorem head?_flatMap_signsOf (pattern : List Char) :
    (pattern.flatMap signsOf).head? ≠ some .star := by
  cases pattern with
  | nil => exact (Option.some_ne_none _).symm
  | cons c pattern =>
    rw [List.flatMap_cons, signsOf]
    split_ifs <;> simp

/-- The signs of a character are told from what comes after them, which starts with no star. -/
theorem ofSigns?_signsOf_append (c : Char) {rest : List RegexSign}
    (starless : rest.head? ≠ some .star) :
    ofSigns? (signsOf c ++ rest) = (ofSigns? rest).map (c :: ·) := by
  rw [signsOf]
  split_ifs with run one
  · subst run
    rfl
  · subst one
    cases rest with
    | nil => rfl
    | cons sign rest =>
      cases sign with
      | star => exact absurd rfl starless
      | _ => rfl
  · rw [List.singleton_append, ofSigns?, if_neg (not_or.mpr ⟨run, one⟩)]

theorem ofSigns?_flatMap (pattern : List Char) :
    ofSigns? (pattern.flatMap signsOf) = some pattern := by
  induction pattern with
  | nil => rfl
  | cons c pattern ih =>
    rw [List.flatMap_cons, ofSigns?_signsOf_append c (head?_flatMap_signsOf pattern), ih,
      Option.map_some]

theorem flatMap_of_ofSigns? {signs : List RegexSign} {pattern : List Char}
    (decoded : ofSigns? signs = some pattern) : pattern.flatMap signsOf = signs := by
  fun_induction ofSigns? signs generalizing pattern with
  | case1 =>
    cases decoded
    rfl
  | case2 rest ih =>
    obtain ⟨others, later, rfl⟩ := Option.map_eq_some_iff.mp decoded
    rw [List.flatMap_cons, ih later]
    rfl
  | case3 rest _ ih =>
    obtain ⟨others, later, rfl⟩ := Option.map_eq_some_iff.mp decoded
    rw [List.flatMap_cons, ih later]
    rfl
  | case4 | case6 => cases decoded
  | case5 c rest ordinary ih =>
    obtain ⟨run, one⟩ := not_or.mp ordinary
    obtain ⟨others, later, rfl⟩ := Option.map_eq_some_iff.mp decoded
    rw [List.flatMap_cons, ih later, signsOf, if_neg run, if_neg one]
    rfl

theorem read?_parts (pattern : List Char) :
    RegexSign.read? (pattern.flatMap regexPart) = some (pattern.flatMap signsOf) := by
  have read := read?_flatMap_regexPart pattern []
  rwa [List.append_nil, RegexSign.read?, Option.map_some, List.append_nil] at read

theorem decode?_eq_some_iff {inner pattern : List Char} :
    decode? inner = some pattern ↔ inner = pattern.flatMap regexPart := by
  constructor
  · intro decoded
    obtain ⟨signs, read, found⟩ := Option.bind_eq_some_iff.mp decoded
    calc inner
      _ = signs.flatMap RegexSign.chars := (RegexSign.flatMap_chars_of_read? read).symm
      _ = (pattern.flatMap signsOf).flatMap RegexSign.chars := by rw [flatMap_of_ofSigns? found]
      _ = pattern.flatMap regexPart := by rw [List.flatMap_assoc, funext regexPart_eq]
  · rintro rfl
    rw [decode?, read?_parts, Option.bind_some, ofSigns?_flatMap]

example : decode? ['.', '\\', '*', '.', '*'] = some ['_', '*', '%'] := by decide

theorem regexChars_injective : Function.Injective regexChars := by
  intro first second same
  have inner : first.flatMap regexPart = second.flatMap regexPart :=
    List.append_cancel_left (List.append_cancel_right same)
  exact Option.some_inj.mp
    ((decode?_eq_some_iff.mpr rfl).symm.trans (decode?_eq_some_iff.mpr inner))

theorem toList_regexText (pattern : String) :
    (regexText pattern).toList =
      ['^', '(', '?', 's', ':'] ++ pattern.toList.flatMap regexPart ++ [')', '$'] := by
  rw [regexText, String.toList_ofList, regexChars]

theorem toList_regexText_eq_iff {pattern : String} {inner : List Char} :
    (regexText pattern).toList = ['^', '(', '?', 's', ':'] ++ inner ++ [')', '$'] ↔
      inner = pattern.toList.flatMap regexPart := by
  rw [toList_regexText, List.append_left_inj, List.append_right_inj, eq_comm]

theorem inner_sign {pattern : List Char} {sign : RegexSign}
    (member : sign ∈ pattern.flatMap signsOf) :
    sign = .dot ∨ sign = .star ∨ ∃ c, sign = .literal c := by
  obtain ⟨c, -, within⟩ := List.mem_flatMap.mp member
  rw [signsOf] at within
  split_ifs at within
  · exact (List.mem_pair.mp within).imp_right .inl
  · exact .inl (List.mem_singleton.mp within)
  · exact .inr (.inr ⟨c, List.mem_singleton.mp within⟩)

/-- Patterns read back. Different patterns have different expressions, since what stands inside the
group comes from one pattern only, character by character. Read as a regular expression it has no
anchors and no group of its own, so the group ends and the text ends just where the expression does. -/
theorem expressions_decode :
    Function.Injective regexText ∧
    (∀ (pattern : String) (inner : List Char),
      decode? inner = some pattern.toList ↔
        (regexText pattern).toList = ['^', '(', '?', 's', ':'] ++ inner ++ [')', '$']) ∧
    ∀ pattern : String, ∃ inner signs,
      (regexText pattern).toList = ['^', '(', '?', 's', ':'] ++ inner ++ [')', '$'] ∧
      RegexSign.read? inner = some signs ∧
      RegexSign.read? (regexText pattern).toList =
        some ([.start, .openDotAll] ++ signs ++ [.close, .finish]) ∧
      ofSigns? signs = some pattern.toList ∧
      ∀ sign ∈ signs, sign = .dot ∨ sign = .star ∨ ∃ c, sign = .literal c := by
  refine ⟨fun first second same => ?_, fun pattern inner => ?_, fun pattern => ?_⟩
  · exact String.toList_inj.mp (regexChars_injective (String.ofList_inj.mp same))
  · rw [decode?_eq_some_iff, toList_regexText_eq_iff]
  · have signed : RegexSign.read? (regexText pattern).toList =
        some ([.start, .openDotAll] ++ pattern.toList.flatMap signsOf ++ [.close, .finish]) := by
      rw [regexText, String.toList_ofList, signs_regexChars]
    exact ⟨pattern.toList.flatMap regexPart, pattern.toList.flatMap signsOf,
      toList_regexText pattern, read?_parts _, signed, ofSigns?_flatMap _, fun _ => inner_sign⟩

end Pattern

end TableQuery
