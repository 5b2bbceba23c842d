import TableQuery.Proofs.ConditionText

/-! Tokens written out with blanks between them. Each token is read back from its own text, and the
blank after it ends it, so nothing of one token is taken into the next. Values may hold what tokens
are made of, since only a single quote ends them. -/

namespace TableQuery.Clause

/-- A token that its text gives back. -/
def Token.Printable : Token → Prop
  | .condition c => c.Printable
  | .malformed _ => False
  | _ => True

theorem Condition.Printable.tokensFrom_unnamed {condition : Condition}
    (printable : condition.Printable) (absent : condition.field = []) (joined : Bool)
    (after : List Char) :
    tokensFrom joined (condition.chars ++ after) = .condition condition :: tokensFrom true after := by
  cases sign : condition.negated with
  | false =>
    have start : condition.chars = '=' :: '\'' :: (condition.value ++ ['\'']) := by
      simp [chars, absent, sign]
    exact printable.tokensFrom_of_start start (by decide) joined after
  | true =>
    have start : condition.chars = '!' :: '=' :: '\'' :: (condition.value ++ ['\'']) := by
      simp [chars, absent, sign]
    exact printable.tokensFrom_of_start start (by decide) joined after

theorem tokens_chars {token : Token} (printable : token.Printable) :
    tokens token.chars = [token] := by
  cases token with
  | leftParen => decide +kernel
  | rightParen => decide +kernel
  | and => decide +kernel
  | or => decide +kernel
  | malformed text => exact printable.elim
  | condition condition =>
    have whole : tokensFrom false (condition.chars ++ []) =
        .condition condition :: tokensFrom true [] := by
      by_cases absent : condition.field = []
      · exact Condition.Printable.tokensFrom_unnamed printable absent false []
      · exact Condition.Printable.tokensFrom_named printable absent false []
    rw [List.append_nil, tokensFrom_nil] at whole
    exact whole

theorem tokens_chars_blank {token : Token} (printable : token.Printable) {blank : Char}
    (gap : Text.isBlank blank = true) (text : List Char) :
    tokens (token.chars ++ blank :: text) = token :: tokens text := by
  have alone : tokensFrom false token.chars = [token] := tokens_chars printable
  have sound : ∀ bad, .malformed bad ∉ tokensFrom false token.chars := by
    rintro bad member
    rw [alone, List.mem_singleton] at member
    exact (member ▸ printable : Token.Printable (.malformed bad)).elim
  have boundary : isBoundary blank = true := by simp [isBoundary, gap]
  rw [tokens, tokensFrom_append false token.chars sound boundary text, alone,
    tokensFrom_blank false gap]
  rfl

theorem tokens_joined {written : List Token} (printable : ∀ token ∈ written, token.Printable) :
    tokens ([' '].intercalate (written.map Token.chars)) = written := by
  induction written with
  | nil => exact tokensFrom_nil false
  | cons first rest ih =>
    obtain ⟨here, later⟩ := List.forall_mem_cons.mp printable
    cases rest with
    | nil => rw [List.map_singleton, List.intercalate_singleton, tokens_chars here]
    | cons second rest =>
      rw [List.map_cons, List.map_cons, List.intercalate_cons_cons, List.append_assoc,
        List.singleton_append, tokens_chars_blank here (by decide), ← List.map_cons, ih later]

/-- Written out with single spaces between them, connectives, parentheses and conditions that their
texts give back are read as what they were. -/
theorem tokens_of_displays (written : List Token) (printable : ∀ token ∈ written, token.Printable) :
    tokens (String.intercalate " " (written.map Token.display)).toList = written := by
  have texts : (written.map Token.display).map String.toList = written.map Token.chars := by
    rw [List.map_map]
    exact List.map_congr_left fun token _ => String.toList_ofList
  rw [String.toList_intercalate, texts]
  exact tokens_joined printable

theorem tokens_of_displays_nested :
    let named : Condition := ⟨"ORDER and AND".toList, false, " = (a) AND\n".toList⟩
    let connective : Condition := ⟨"AND".toList, true, "!= OR ".toList⟩
    let unnamed : Condition := ⟨[], false, ['"']⟩
    let written : List Token :=
      [.condition named, .or, .leftParen, .condition connective, .and, .condition unnamed,
        .rightParen]
    (named.Printable ∧ connective.Printable ∧ unnamed.Printable) ∧
      tokens "ORDER and AND=' = (a) AND\n' OR ( AND!='!= OR ' AND ='\"' )".toList = written := by
  intro named connective unnamed written
  have namedPrintable : named.Printable := by
    refine ⟨by decide +kernel, by simp [named], by decide +kernel, ?_, by decide +kernel⟩
    have solid : Text.isBlank 'D' = false := by decide
    simpa [named] using solid
  have connectivePrintable : connective.Printable :=
    ⟨by decide +kernel, by simp [connective], by decide +kernel, by simp [connective],
      by decide +kernel⟩
  have unnamedPrintable : unnamed.Printable :=
    ⟨by decide +kernel, by simp [unnamed], by decide +kernel, by simp [unnamed],
      by decide +kernel⟩
  have printable : ∀ token ∈ written, token.Printable := by
    intro token member
    simp only [written, List.mem_cons, List.not_mem_nil, or_false] at member
    rcases member with rfl | rfl | rfl | rfl | rfl | rfl | rfl
    · exact namedPrintable
    · trivial
    · trivial
    · exact connectivePrintable
    · trivial
    · exact unnamedPrintable
    · trivial
  have text : String.intercalate " " (written.map Token.display) =
      "ORDER and AND=' = (a) AND\n' OR ( AND!='!= OR ' AND ='\"' )" := by decide +kernel
  refine ⟨⟨namedPrintable, connectivePrintable, unnamedPrintable⟩, ?_⟩
  rw [← text]
  exact tokens_of_displays written printable

end TableQuery.Clause
