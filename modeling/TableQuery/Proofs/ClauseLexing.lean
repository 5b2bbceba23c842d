import Mathlib.Data.List.Basic
import TableQuery.Clause.Lexer

/-! The tokens of a text that stands in a longer one. What a token is depends on its surroundings: a
connective looks at the characters beside it, a field runs on to an operator and a value to a quote.
All the same, a text whose tokens are sound keeps them wherever a boundary follows it. -/

namespace TableQuery.Clause

theorem cutField_append {text field after : List Char} {negated : Bool}
    (found : cutField text = some (field, negated, after)) (tail : List Char) :
    cutField (text ++ tail) = some (field, negated, after ++ tail) := by
  induction text using cutField.induct generalizing field with
  | case1 => simp [cutField] at found
  | case2 rest =>
    rw [cutField] at found
    cases found
    rfl
  | case3 rest =>
    rw [cutField] at found
    cases found
    rfl
  | case4 c rest notEquals notBang stops =>
    rw [cutField.eq_4 _ _ notEquals notBang, if_pos stops] at found
    cases found
  | case5 c rest notEquals notBang goes ih =>
    rw [cutField.eq_4 _ _ notEquals notBang, if_neg goes] at found
    obtain ⟨⟨field', negated', after'⟩, inner, same⟩ := Option.map_eq_some_iff.mp found
    cases same
    -- The rest holds an operator, so what follows it cannot complete one at this place.
    have notBang' : ∀ rest', c = '!' → rest ++ tail = '=' :: rest' → False := by
      intro rest' bang equals
      cases rest with
      | nil => simp [cutField] at inner
      | cons next rest =>
        have same : next = '=' := (List.cons.inj equals).1
        exact notBang rest bang (by rw [same])
    rw [List.cons_append, cutField.eq_4 _ _ notEquals notBang', if_neg goes, ih inner]
    rfl

theorem cutValue_append {text value after : List Char}
    (found : cutValue text = some (value, after)) (tail : List Char) :
    cutValue (text ++ tail) = some (value, after ++ tail) := by
  unfold cutValue at found
  split at found
  next rest =>
    obtain ⟨whole, absent⟩ := Text.cutAt_eq_some_iff.mp found
    change Text.cutAt '\'' (rest ++ tail) = some (value, after ++ tail)
    rw [Text.cutAt_eq_some_iff, whole, List.append_assoc, List.cons_append]
    exact ⟨rfl, absent⟩
  next => cases found

theorem cutCondition_append {text after : List Char} {condition : Condition}
    (found : cutCondition text = some (condition, after)) (tail : List Char) :
    cutCondition (text ++ tail) = some (condition, after ++ tail) := by
  simp only [cutCondition, Option.bind_eq_bind, Option.bind_eq_some_iff, Prod.exists,
    Option.pure_def, Option.some.injEq, Prod.mk.injEq] at found
  obtain ⟨field, negated, rest, first, value, rest', second, rfl, rfl⟩ := found
  simp only [cutCondition, cutField_append first, cutValue_append second, Option.bind_eq_bind,
    Option.bind_some, Option.pure_def]

theorem prefix_append_cons_iff {word text tail : List Char} {c : Char} (absent : c ∉ word) :
    word <+: text ++ c :: tail ↔ word <+: text := by
  constructor
  · intro starts
    by_cases short : word.length ≤ text.length
    · exact List.prefix_of_prefix_length_le starts (List.prefix_append text _) short
    · have beyond : text ++ [c] <+: word := by
        refine List.prefix_of_prefix_length_le ⟨tail, by simp⟩ starts ?_
        simp only [List.length_append, List.length_singleton]
        omega
      exact absurd (beyond.subset (by simp)) absent
  · intro starts
    exact starts.trans (List.prefix_append text _)

theorem atBoundary_drop_append {text : List Char} {edge : Char} (boundary : isBoundary edge = true)
    (tail : List Char) {n : Nat} (within : n ≤ text.length) :
    atBoundary ((text ++ edge :: tail).drop n) = atBoundary (text.drop n) := by
  rw [List.drop_append_of_le_length within]
  cases text.drop n with
  | nil => exact boundary
  | cons c rest => rfl

def Leads (word text : List Char) : Prop :=
  word <+: text ∧ atBoundary (text.drop word.length) = true

instance (word text : List Char) : Decidable (Leads word text) :=
  inferInstanceAs (Decidable (_ ∧ _))

theorem leads_append_iff {word : List Char} {edge : Char} (boundary : isBoundary edge = true)
    (absent : edge ∉ word) (text tail : List Char) :
    Leads word (text ++ edge :: tail) ↔ Leads word text := by
  unfold Leads
  rw [prefix_append_cons_iff absent]
  apply and_congr_right
  intro starts
  rw [atBoundary_drop_append boundary tail starts.length_le]

theorem cutToken_eq (joined : Bool) {c : Char} (notOpen : c ≠ '(') (notClose : c ≠ ')')
    (rest : List Char) :
    cutToken joined c rest =
      if joined = false ∧ Leads ['A', 'N', 'D'] (c :: rest) then (.and, rest.drop 2)
      else if joined = false ∧ Leads ['O', 'R'] (c :: rest) then (.or, rest.drop 1)
      else
        match cutCondition (c :: rest) with
        | some (condition, after) => (.condition condition, after)
        | none =>
          (.malformed (c :: rest.takeWhile (!isBoundary ·)), rest.dropWhile (!isBoundary ·)) := by
  unfold cutToken
  split
  · exact absurd rfl notOpen
  · exact absurd rfl notClose
  · refine if_congr ?_ rfl (if_congr ?_ rfl rfl)
    · simp [Leads]
    · simp [Leads]

theorem cutToken_append {joined : Bool} {c : Char} {rest : List Char} {edge : Char}
    (sound : ∀ bad, (cutToken joined c rest).1 ≠ .malformed bad)
    (boundary : isBoundary edge = true) (tail : List Char) :
    cutToken joined c (rest ++ edge :: tail) =
      ((cutToken joined c rest).1, (cutToken joined c rest).2 ++ edge :: tail) := by
  by_cases notOpen : c = '('
  · subst notOpen
    rfl
  by_cases notClose : c = ')'
  · subst notClose
    rfl
  have apart (word : List Char) (letters : word.any isBoundary = false) : edge ∉ word :=
    fun member => List.any_eq_false.mp letters edge member boundary
  have leads_and := leads_append_iff boundary (apart ['A', 'N', 'D'] (by decide)) (c :: rest) tail
  have leads_or := leads_append_iff boundary (apart ['O', 'R'] (by decide)) (c :: rest) tail
  rw [cutToken_eq joined notOpen notClose] at sound ⊢
  rw [cutToken_eq joined notOpen notClose, ← List.cons_append]
  simp only [leads_and, leads_or]
  split
  next connective =>
    have long : 3 ≤ rest.length + 1 := connective.2.1.length_le
    rw [List.drop_append_of_le_length (by omega)]
  next notAnd =>
    rw [if_neg notAnd] at sound
    split
    next connective =>
      have long : 2 ≤ rest.length + 1 := connective.2.1.length_le
      rw [List.drop_append_of_le_length (by omega)]
    next notOr =>
      rw [if_neg notOr] at sound
      cases found : cutCondition (c :: rest) with
      | none =>
        rw [found] at sound
        exact absurd rfl (sound _)
      | some cut =>
        rw [cutCondition_append found]

theorem tokensFrom_nil (joined : Bool) : tokensFrom joined [] = [] := by
  rw [tokensFrom]
  rfl

theorem tokensFrom_eq (joined : Bool) (text : List Char) :
    tokensFrom joined text =
      match Text.trimStart text with
      | [] => []
      | c :: rest =>
        let step := cutToken (joined && !(text.head?.any Text.isBlank)) c rest
        step.1 :: tokensFrom step.1.isCondition step.2 := by
  rw [tokensFrom]
  split
  next blank => rw [blank]
  next c rest start => rw [start]

theorem tokensFrom_blank (joined : Bool) {c : Char} (blank : Text.isBlank c = true)
    (rest : List Char) : tokensFrom joined (c :: rest) = tokensFrom false rest := by
  have start := Text.trimStart_cons blank rest
  rw [tokensFrom_eq joined, tokensFrom_eq false, start]
  simp only [List.head?_cons, Option.any_some, blank, Bool.not_true, Bool.and_false,
    Bool.false_and]

theorem tokensFrom_token (joined : Bool) {c : Char} (plain : ¬Text.isBlank c = true)
    (rest : List Char) :
    tokensFrom joined (c :: rest) =
      (cutToken joined c rest).1 ::
        tokensFrom (cutToken joined c rest).1.isCondition (cutToken joined c rest).2 := by
  have start : Text.trimStart (c :: rest) = c :: rest := List.dropWhile_cons_of_neg plain
  rw [tokensFrom_eq, start]
  simp only [List.head?_cons, Option.any_some, plain, Bool.not_false, Bool.and_true]

theorem tokensFrom_boundary (joined : Bool) {edge : Char} (boundary : isBoundary edge = true)
    (tail : List Char) : tokensFrom joined (edge :: tail) = tokensFrom false (edge :: tail) := by
  by_cases blank : Text.isBlank edge = true
  · rw [tokensFrom_blank joined blank, tokensFrom_blank false blank]
  · have parenthesis : edge = '(' ∨ edge = ')' := by simpa [isBoundary, blank] using boundary
    rw [tokensFrom_token joined blank, tokensFrom_token false blank]
    rcases parenthesis with rfl | rfl
    · rfl
    · rfl

/-- The tokens of a text and, if a boundary follows it, those of what comes after. The induction is
on the length of the text, since a token may take several characters. -/
theorem tokensFrom_append (joined : Bool) (text : List Char)
    (sound : ∀ bad, .malformed bad ∉ tokensFrom joined text)
    {edge : Char} (boundary : isBoundary edge = true) (tail : List Char) :
    tokensFrom joined (text ++ edge :: tail) =
      tokensFrom joined text ++ tokensFrom false (edge :: tail) := by
  match text with
  | [] => rw [tokensFrom_nil, List.nil_append, List.nil_append, tokensFrom_boundary joined boundary]
  | c :: rest =>
    by_cases blank : Text.isBlank c = true
    · rw [tokensFrom_blank joined blank] at sound ⊢
      rw [List.cons_append, tokensFrom_blank joined blank]
      exact tokensFrom_append false rest sound boundary tail
    · rw [tokensFrom_token joined blank] at sound ⊢
      have first_sound : ∀ bad, (cutToken joined c rest).1 ≠ .malformed bad := fun bad same =>
        sound bad (same ▸ List.mem_cons_self)
      have shorter := cutToken_shorter joined c rest
      have later := tokensFrom_append (cutToken joined c rest).1.isCondition
        (cutToken joined c rest).2
        (fun bad member => sound bad (List.mem_cons_of_mem _ member)) boundary tail
      rw [List.cons_append, tokensFrom_token joined blank,
        cutToken_append first_sound boundary tail, later, List.cons_append]
termination_by text.length

end TableQuery.Clause
