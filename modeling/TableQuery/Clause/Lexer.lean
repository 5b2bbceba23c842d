import TableQuery.Clause.Token

/-! The tokens of a clause. Each token takes at least one character, so the rest of the text gets
shorter; blanks between tokens are passed over. -/

namespace TableQuery.Clause

theorem cutAt_shorter {c : Char} {text before after : List Char}
    (found : Text.cutAt c text = some (before, after)) : after.length < text.length := by
  induction text generalizing before after with
  | nil => simp [Text.cutAt] at found
  | cons x rest ih =>
    by_cases same : x = c
    · simp only [Text.cutAt, if_pos same, Option.some.injEq, Prod.mk.injEq] at found
      simp [← found.2]
    · simp only [Text.cutAt, if_neg same, Option.map_eq_some_iff, Prod.mk.injEq] at found
      obtain ⟨⟨before', after'⟩, inner, _, same'⟩ := found
      have shorter := ih inner
      simp only at same'
      rw [← same', List.length_cons]
      omega

theorem cutValue_shorter {text value after : List Char}
    (found : cutValue text = some (value, after)) : after.length < text.length := by
  unfold cutValue at found
  split at found
  · have shorter := cutAt_shorter found
    rw [List.length_cons]
    omega
  · simp at found

theorem cutCondition_shorter {text after : List Char} {condition : Condition}
    (found : cutCondition text = some (condition, after)) : after.length < text.length := by
  simp only [cutCondition, Option.bind_eq_bind, Option.bind_eq_some_iff, Prod.exists,
    Option.pure_def, Option.some.injEq, Prod.mk.injEq] at found
  obtain ⟨field, negated, rest, first, value, rest', second, _, same⟩ := found
  have fieldShorter := cutField_shorter first
  have valueShorter := cutValue_shorter second
  rw [← same]
  omega

theorem length_dropWhile_le (test : Char → Bool) (text : List Char) :
    (text.dropWhile test).length ≤ text.length :=
  (List.dropWhile_suffix test).length_le

theorem cutToken_shorter (joined : Bool) (c : Char) (rest : List Char) :
    (cutToken joined c rest).2.length ≤ rest.length := by
  unfold cutToken
  split
  · exact Nat.le_refl _
  · exact Nat.le_refl _
  · split
    · simp
    · split
      · simp
      · split
        · next condition after found =>
          have shorter := cutCondition_shorter found
          simp only [List.length_cons] at shorter
          simp only
          omega
        · exact length_dropWhile_le _ _

/-- The tokens of a text; `joined` says that a condition stands directly before it. -/
def tokensFrom (joined : Bool) (text : List Char) : List Token :=
  match _start : Text.trimStart text with
  | [] => []
  | c :: rest =>
    let step := cutToken (joined && !(text.head?.any Text.isBlank)) c rest
    step.1 :: tokensFrom step.1.isCondition step.2
termination_by text.length
decreasing_by
  have skipped := length_dropWhile_le Text.isBlank text
  have shorter := cutToken_shorter (joined && !(text.head?.any Text.isBlank)) c rest
  rw [Text.trimStart] at _start
  rw [_start, List.length_cons] at skipped
  omega

def tokens (text : List Char) : List Token := tokensFrom false text

end TableQuery.Clause
