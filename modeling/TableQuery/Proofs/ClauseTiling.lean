import Mathlib.Data.List.TakeWhile
import TableQuery.Proofs.ConditionText

/-! The tokens of a clause lie side by side in it. Each is spelled by a slice of its own, and between
the slices, before the first and after the last there are only blanks. An attempt at a condition may
run to the end of the text and fail, and then all but its first word is read again. So the induction
rests on what every cut guarantees: the slice of the token and what is left make up the text. -/

namespace TableQuery.Clause

/-- A field as it stands in front of its operator: no mark ends it earlier, and an exclamation mark at
its end is one of the operator. -/
structure IsField (field : List Char) (negated : Bool) : Prop where
  unmarked : ∀ mark ∈ ['=', '\'', '(', ')'], mark ∉ field
  unsigned : negated = false → field.getLast? ≠ some '!'

theorem cutField_eq_some_iff {text field after : List Char} {negated : Bool} :
    cutField text = some (field, negated, after) ↔
      text = field ++ ((if negated then ['!', '='] else ['=']) ++ after) ∧
        IsField field negated := by
  constructor
  · intro found
    induction text using cutField.induct generalizing field with
    | case1 => cases found
    | case2 rest =>
      rw [cutField] at found
      cases found
      exact ⟨rfl, by simp, by simp⟩
    | case3 rest =>
      rw [cutField] at found
      cases found
      exact ⟨rfl, by simp, by simp⟩
    | case4 c rest notEquals notBang stops =>
      rw [cutField.eq_4 _ _ notEquals notBang, if_pos stops] at found
      cases found
    | case5 c rest notEquals notBang goes ih =>
      rw [cutField.eq_4 _ _ notEquals notBang, if_neg goes] at found
      obtain ⟨⟨field', negated', after'⟩, inner, same⟩ := Option.map_eq_some_iff.mp found
      cases same
      obtain ⟨written, unmarked, unsigned⟩ := ih inner
      refine ⟨by rw [written, List.cons_append], fun mark sign => ?_, fun plain last => ?_⟩
      · simp only [not_or] at goes
        have other : mark ≠ c := by
          rintro rfl
          simp only [List.mem_cons, List.not_mem_nil, or_false] at sign
          rcases sign with equals | stop
          · exact notEquals equals
          · exact absurd stop (by simp [goes])
        simp [other, unmarked mark sign]
      · cases field' with
        | nil =>
          have bang : c = '!' := Option.some.inj last
          rw [plain] at written
          exact notBang after bang written
        | cons first others => exact unsigned plain last
  · rintro ⟨rfl, unmarked, unsigned⟩
    exact cutField_written unmarked unsigned after

/-- A token and the text it is read from. Only a condition may be spelled in several ways, with
blanks around its field. -/
def Token.SpelledBy (text : List Char) : Token → Prop
  | .condition c => ∃ field, Text.trim field = c.field ∧ IsField field c.negated ∧
      '\'' ∉ c.value ∧ text = Condition.chars { c with field := field }
  | .malformed bad => text = bad ∧ bad ≠ []
  | token => text = token.chars

theorem Token.SpelledBy.ne_nil {token : Token} {text : List Char} (spelled : token.SpelledBy text) :
    text ≠ [] := by
  cases token with
  | condition condition =>
    obtain ⟨field, _, _, _, rfl⟩ := spelled
    simp [Condition.chars]
  | malformed bad =>
    obtain ⟨rfl, present⟩ := spelled
    exact present
  | _ =>
    rw [show text = _ from spelled]
    exact List.cons_ne_nil _ _

theorem spelled_of_cutCondition {text after : List Char} {condition : Condition}
    (found : cutCondition text = some (condition, after)) :
    ∃ slice, (Token.condition condition).SpelledBy slice ∧ text = slice ++ after := by
  simp only [cutCondition, Option.bind_eq_bind, Option.bind_eq_some_iff, Prod.exists,
    Option.pure_def, Option.some.injEq, Prod.mk.injEq] at found
  obtain ⟨field, negated, rest, first, value, after', second, rfl, rfl⟩ := found
  obtain ⟨rfl, isField⟩ := cutField_eq_some_iff.mp first
  unfold cutValue at second
  split at second
  next rest =>
    obtain ⟨rfl, single⟩ := Text.cutAt_eq_some_iff.mp second
    exact ⟨_, ⟨field, rfl, isField, single, rfl⟩, by simp [Condition.chars]⟩
  next => cases second

theorem spelled_of_cutToken (joined : Bool) (c : Char) (rest : List Char) :
    ∃ slice, (cutToken joined c rest).1.SpelledBy slice ∧
      c :: rest = slice ++ (cutToken joined c rest).2 := by
  by_cases isOpen : c = '('
  · subst isOpen
    exact ⟨['('], rfl, rfl⟩
  by_cases isClose : c = ')'
  · subst isClose
    exact ⟨[')'], rfl, rfl⟩
  rw [cutToken_eq joined isOpen isClose]
  split
  next connective =>
    obtain ⟨after, written⟩ := connective.2.1
    refine ⟨['A', 'N', 'D'], rfl, ?_⟩
    rw [← written]
    cases written
    rfl
  next =>
    split
    next connective =>
      obtain ⟨after, written⟩ := connective.2.1
      refine ⟨['O', 'R'], rfl, ?_⟩
      cases written
      rfl
    next =>
      cases found : cutCondition (c :: rest) with
      | some cut => exact spelled_of_cutCondition found
      | none =>
        refine ⟨_, ⟨rfl, List.cons_ne_nil _ _⟩, ?_⟩
        rw [List.cons_append, List.takeWhile_append_dropWhile]

/-- A stretch of a text: the blanks that are passed over and the slice that spells a token. -/
structure Stretch where
  gap : List Char
  slice : List Char
  token : Token
  blank : ∀ c ∈ gap, Text.isBlank c = true
  spelled : token.SpelledBy slice

namespace Stretch

def chars (stretch : Stretch) : List Char := stretch.gap ++ stretch.slice

theorem length_slice_pos (stretch : Stretch) : 0 < stretch.slice.length :=
  List.length_pos_of_ne_nil stretch.spelled.ne_nil

theorem length_le_flatMap_chars (stretches : List Stretch) :
    stretches.length ≤ (stretches.flatMap chars).length := by
  induction stretches with
  | nil => exact Nat.le_refl _
  | cons stretch others ih =>
    have present := stretch.length_slice_pos
    rw [List.flatMap_cons, chars, List.length_cons, List.length_append, List.length_append]
    omega

def solid (text : List Char) : List Char := text.filter (!Text.isBlank ·)

theorem solid_of_blank {text : List Char} (blank : ∀ c ∈ text, Text.isBlank c = true) :
    solid text = [] :=
  List.filter_eq_nil_iff.mpr fun c member => by simp [blank c member]

theorem solid_append (before after : List Char) :
    solid (before ++ after) = solid before ++ solid after :=
  List.filter_append _ _

theorem solid_flatMap_chars (stretches : List Stretch) :
    solid (stretches.flatMap chars) = solid (stretches.flatMap slice) := by
  induction stretches with
  | nil => rfl
  | cons stretch others ih =>
    rw [List.flatMap_cons, List.flatMap_cons, chars, solid_append, solid_append, solid_append,
      solid_of_blank stretch.blank, List.nil_append, ih]

end Stretch

theorem next_stretch (joined : Bool) (text : List Char) :
    ((∀ c ∈ text, Text.isBlank c = true) ∧ tokensFrom joined text = []) ∨
    ∃ (stretch : Stretch) (after : List Char), text = stretch.chars ++ after ∧
      tokensFrom joined text = stretch.token :: tokensFrom stretch.token.isCondition after := by
  have parted : text.takeWhile Text.isBlank ++ Text.trimStart text = text :=
    List.takeWhile_append_dropWhile
  have gap : ∀ c ∈ text.takeWhile Text.isBlank, Text.isBlank c = true :=
    fun c member => List.mem_takeWhile_imp member
  cases start : Text.trimStart text with
  | nil =>
    rw [start, List.append_nil] at parted
    exact .inl ⟨parted ▸ gap, by rw [tokensFrom_eq, start]⟩
  | cons c rest =>
    obtain ⟨slice, spelled, written⟩ :=
      spelled_of_cutToken (joined && !(text.head?.any Text.isBlank)) c rest
    refine .inr ⟨⟨_, slice, _, gap, spelled⟩, _, ?_, by rw [tokensFrom_eq, start]⟩
    rw [Stretch.chars, List.append_assoc, ← written, ← start, parted]

/-- The induction is on the length of the text, since a token may take any part of it. -/
theorem tokensFrom_stretches (joined : Bool) (text : List Char) :
    ∃ (stretches : List Stretch) (trail : List Char),
      text = stretches.flatMap Stretch.chars ++ trail ∧
      tokensFrom joined text = stretches.map Stretch.token ∧
      ∀ c ∈ trail, Text.isBlank c = true := by
  rcases next_stretch joined text with ⟨blank, none⟩ | ⟨stretch, after, written, tokens⟩
  · exact ⟨[], text, rfl, none, blank⟩
  · have shorter : after.length < text.length := by
      have present := stretch.length_slice_pos
      rw [written, Stretch.chars, List.length_append, List.length_append]
      omega
    obtain ⟨stretches, trail, tiled, later, blank⟩ :=
      tokensFrom_stretches stretch.token.isCondition after
    refine ⟨stretch :: stretches, trail, ?_, ?_, blank⟩
    · rw [List.flatMap_cons, List.append_assoc, ← tiled, written]
    · rw [tokens, later, List.map_cons]
termination_by text.length
decreasing_by exact shorter

/-- Every text is tiled by its tokens: stretch follows stretch, each made up of blanks and the slice
that spells one token, and only blanks are left at the end. No slice is empty, so there are at most
as many tokens as characters, and no character but a blank is dropped or read twice. -/
theorem tokens_tile (text : List Char) :
    ∃ (stretches : List Stretch) (trail : List Char),
      text = stretches.flatMap Stretch.chars ++ trail ∧
      tokens text = stretches.map Stretch.token ∧
      (∀ c ∈ trail, Text.isBlank c = true) ∧
      (∀ stretch ∈ stretches, stretch.slice ≠ []) ∧
      (tokens text).length ≤ text.length ∧
      text.filter (!Text.isBlank ·) =
        (stretches.flatMap Stretch.slice).filter (!Text.isBlank ·) := by
  obtain ⟨stretches, trail, tiled, tokens_eq, blank⟩ := tokensFrom_stretches false text
  have solid : Stretch.solid text = Stretch.solid (stretches.flatMap Stretch.slice) := by
    rw [tiled, Stretch.solid_append, Stretch.solid_of_blank blank, List.append_nil,
      Stretch.solid_flatMap_chars]
  refine ⟨stretches, trail, tiled, tokens_eq, blank, fun stretch _ => stretch.spelled.ne_nil, ?_,
    solid⟩
  have each_takes := Stretch.length_le_flatMap_chars stretches
  rw [tokens, tokens_eq, List.length_map, tiled, List.length_append]
  omega

/-- A value that is never closed takes nothing with it: reading goes on behind its first word. -/
example :
    tokens "name='open OR (b".toList =
      [.malformed "name='open".toList, .or, .leftParen, .malformed ['b']] := by
  decide +kernel

end TableQuery.Clause
