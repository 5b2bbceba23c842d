import TableQuery.Assignment
import TableQuery.Proofs.ConditionText

/-! The text of an assignment. A field, an equals sign and a value in quotes are one piece of a
list, whatever stands between the quotes except the quote itself: inside them no comma divides and
no parenthesis opens. From the piece the field and the value are read back as they were written. -/

namespace TableQuery.Assignment

def signs : List Char := ['=', ',', '\'', '"', '(', ')']

structure IsField (field : List Char) : Prop where
  present : field ≠ []
  trimmed : Text.trim field = field
  plain : ∀ c ∈ field, c ∉ signs

def quoted (quote : Char) (value : List Char) : List Char := quote :: (value ++ [quote])

def written (field : List Char) (quote : Char) (value : List Char) : List Char :=
  field ++ '=' :: quoted quote value

section Scan

variable {depth : Nat} {held : List Char}

theorem piecesFrom_held {text : List Char} (plain : ∀ c ∈ text, c = '=' ∨ c ∉ signs)
    (rest : List Char) :
    piecesFrom ⟨none, depth, held⟩ (text ++ rest) =
      piecesFrom ⟨none, depth, text.reverse ++ held⟩ rest := by
  induction text generalizing held with
  | nil => rfl
  | cons c text ih =>
    have step : Scan.step? ⟨none, depth, held⟩ c = some ⟨none, depth, c :: held⟩ := by
      rcases plain c List.mem_cons_self with rfl | other
      · rfl
      · simp only [signs, List.mem_cons, List.not_mem_nil, or_false, not_or] at other
        simp [Scan.step?, other]
    rw [List.cons_append, piecesFrom, step]
    dsimp only
    rw [ih fun c member => plain c (List.mem_cons_of_mem _ member), List.reverse_cons,
      List.append_assoc, List.singleton_append]

theorem piecesFrom_inside {quote : Char} {value : List Char} (absent : quote ∉ value)
    (rest : List Char) :
    piecesFrom ⟨some quote, depth, held⟩ (value ++ quote :: rest) =
      piecesFrom ⟨none, depth, quote :: (value.reverse ++ held)⟩ rest := by
  induction value generalizing held with
  | nil =>
    have step : Scan.step? ⟨some quote, depth, held⟩ quote = some ⟨none, depth, quote :: held⟩ := by
      simp [Scan.step?]
    rw [List.nil_append, piecesFrom, step]
    rfl
  | cons c value ih =>
    rw [List.mem_cons, not_or] at absent
    obtain ⟨other, absent⟩ := absent
    have step : Scan.step? ⟨some quote, depth, held⟩ c = some ⟨some quote, depth, c :: held⟩ := by
      simp [Scan.step?, Ne.symm other]
    rw [List.cons_append, piecesFrom, step]
    dsimp only
    rw [ih absent, List.reverse_cons, List.append_assoc, List.singleton_append]

end Scan

theorem unquote_quoted {quote : Char} (sign : quote = '\'' ∨ quote = '"') (value : List Char) :
    unquote (quoted quote value) = value := by
  have inner (mark : Char) : inner? mark (quoted mark value) = some value := by
    simp [quoted, inner?]
  rcases sign with rfl | rfl
  · simp only [unquote, inner]
  · have other : inner? '\'' (quoted '"' value) = none := rfl
    simp only [unquote, inner, other, Option.getD_some]

theorem quote_solid {quote : Char} (sign : quote = '\'' ∨ quote = '"') :
    Text.isBlank quote = false := by
  rcases sign with rfl | rfl <;> decide

theorem trim_quoted {quote : Char} (sign : quote = '\'' ∨ quote = '"') (value : List Char) :
    Text.trim (quoted quote value) = quoted quote value := by
  have last : (quoted quote value).getLast? = some quote := by
    rw [quoted, ← List.cons_append, List.getLast?_concat]
  apply Text.trim_of_ends
  · rintro c ⟨⟩
    exact quote_solid sign
  · rw [last]
    rintro c ⟨⟩
    exact quote_solid sign

section Written

variable {field value : List Char} {quote : Char} (named : IsField field)
  (sign : quote = '\'' ∨ quote = '"')
include named sign

theorem ofPiece?_gap_written {gap : List Char} (blank : ∀ c ∈ gap, Text.isBlank c = true) :
    ofPiece? (gap ++ written field quote value) =
      some { field := String.ofList field, value := valueOf value } := by
  have absent : '=' ∉ gap ++ field := by
    intro member
    rcases List.mem_append.mp member with inside | inside
    · exact absurd (blank '=' inside) (by decide)
    · exact named.plain '=' inside List.mem_cons_self
  have cut : Text.cutAt '=' (gap ++ written field quote value) =
      some (gap ++ field, quoted quote value) :=
    Text.cutAt_eq_some_iff.mpr ⟨by simp [written], absent⟩
  have trimmed : Text.trim (gap ++ field) = field := by
    rw [Text.trim, Text.trimStart_append blank]
    exact named.trimmed
  have present : field.isEmpty = false := by simpa using named.present
  rw [ofPiece?, cut, Option.bind_eq_bind, Option.bind_some]
  simp only [trimmed, present, trim_quoted sign, unquote_quoted sign]
  rfl

theorem ofPiece?_written :
    ofPiece? (written field quote value) =
      some { field := String.ofList field, value := valueOf value } :=
  @ofPiece?_gap_written _ _ _ named sign [] (by simp)

/-- An assignment is held as a whole, so a list goes on behind it. -/
theorem piecesFrom_written {depth : Nat} {held : List Char} (absent : quote ∉ value)
    (rest : List Char) :
    piecesFrom ⟨none, depth, held⟩ (written field quote value ++ rest) =
      piecesFrom ⟨none, depth, (written field quote value).reverse ++ held⟩ rest := by
  have whole : written field quote value ++ rest =
      (field ++ ['=']) ++ quote :: (value ++ quote :: rest) := by
    simp [written, quoted]
  have started : ∀ c ∈ field ++ ['='], c = '=' ∨ c ∉ signs := by
    intro c member
    rcases List.mem_append.mp member with inside | equals
    · exact .inr (named.plain c inside)
    · exact .inl (List.mem_singleton.mp equals)
  have opened (held : List Char) :
      Scan.step? ⟨none, depth, held⟩ quote = some ⟨some quote, depth, quote :: held⟩ := by
    simp [Scan.step?, sign]
  -- The field and its sign are held, the quote opens, and the value is held up to the next quote.
  rw [whole, piecesFrom_held started, piecesFrom, opened]
  dsimp only
  rw [piecesFrom_inside absent]
  simp [written, quoted]

theorem trim_reverse_written :
    Text.trim (written field quote value).reverse = (written field quote value).reverse := by
  obtain ⟨c, rest, rfl⟩ := List.exists_cons_of_ne_nil named.present
  have first : (written (c :: rest) quote value).reverse.head? = some quote := by
    simp [written, quoted]
  apply Text.trim_of_ends
  · rw [first]
    rintro c ⟨⟩
    exact quote_solid sign
  · rw [List.getLast?_reverse]
    rintro c ⟨⟩
    exact Text.not_blank_of_trim named.trimmed

theorem ofClause_written (absent : quote ∉ value) :
    ofClause (String.ofList (written field quote value)) =
      [{ field := String.ofList field, value := valueOf value }] := by
  have present : (written field quote value).reverse.isEmpty = false := by simp [written]
  have held : piecesFrom {} (written field quote value ++ []) = [written field quote value] := by
    rw [piecesFrom_written named sign absent, List.append_nil, piecesFrom,
      trim_reverse_written named sign, present, if_neg Bool.false_ne_true, List.reverse_reverse]
  rw [List.append_nil] at held
  rw [ofClause, String.toList_ofList, pieces, held,
    List.filterMap_cons_some (ofPiece?_written named sign), List.filterMap_nil]

end Written

end TableQuery.Assignment
