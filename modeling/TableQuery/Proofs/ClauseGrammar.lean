import TableQuery.Clause.Tree

/-! The grammar of clauses. An expression is terms joined by OR, a term is primaries joined by AND,
and a primary is a condition or an expression in parentheses. A derivation gives its tokens a truth
value, whatever the conditions mean. The parser, which keeps unfinished groups on a stack, accepts
exactly the tokens that have a derivation, and its tree has the value of every derivation. -/

namespace TableQuery.Clause

/-- What can be derived; `disjuncts` and `conjuncts` are what may follow a first operand. -/
inductive Phrase
  | expression
  | disjuncts
  | term
  | conjuncts
  | primary

/-- Derivations of token lists: `E → T (OR T)*`, `T → P (AND P)*` and `P → condition | ( E )`. -/
inductive Derivation : Phrase → List Token → Type
  | expression {first rest : List Token} (term : Derivation .term first)
      (more : Derivation .disjuncts rest) : Derivation .expression (first ++ rest)
  | lastTerm : Derivation .disjuncts []
  | or {first rest : List Token} (term : Derivation .term first)
      (more : Derivation .disjuncts rest) : Derivation .disjuncts (.or :: (first ++ rest))
  | term {first rest : List Token} (primary : Derivation .primary first)
      (more : Derivation .conjuncts rest) : Derivation .term (first ++ rest)
  | lastPrimary : Derivation .conjuncts []
  | and {first rest : List Token} (primary : Derivation .primary first)
      (more : Derivation .conjuncts rest) : Derivation .conjuncts (.and :: (first ++ rest))
  | condition (condition : Condition) : Derivation .primary [.condition condition]
  | group {inner : List Token} (expression : Derivation .expression inner) :
      Derivation .primary (.leftParen :: (inner ++ [.rightParen]))

namespace Derivation

def value (truth : Condition → Bool) :
    {phrase : Phrase} → {tokens : List Token} → Derivation phrase tokens → Bool
  | _, _, .expression first rest => first.value truth || rest.value truth
  | _, _, .lastTerm => false
  | _, _, .or first rest => first.value truth || rest.value truth
  | _, _, .term first rest => first.value truth && rest.value truth
  | _, _, .lastPrimary => true
  | _, _, .and first rest => first.value truth && rest.value truth
  | _, _, .condition c => truth c
  | _, _, .group inner => inner.value truth

end Derivation

abbrev Derivable (phrase : Phrase) (tokens : List Token) : Prop :=
  Nonempty (Derivation phrase tokens)

theorem not_mem_malformed {phrase : Phrase} {tokens : List Token}
    (derivation : Derivation phrase tokens) (text : List Char) :
    Token.malformed text ∉ tokens := by
  induction derivation <;> simp_all

theorem Derivation.value_mono {phrase : Phrase} {tokens : List Token}
    (derivation : Derivation phrase tokens) {truth other : Condition → Bool}
    (less : ∀ condition, .condition condition ∈ tokens →
      truth condition = true → other condition = true) :
    derivation.value truth = true → derivation.value other = true := by
  induction derivation with
  | lastTerm => exact id
  | lastPrimary => exact id
  | condition c => exact less c List.mem_cons_self
  | group _ inner => exact inner fun condition member => less condition (by simp [member])
  | expression _ _ first rest | or _ _ first rest =>
    have left := first fun condition member => less condition (by simp [member])
    have right := rest fun condition member => less condition (by simp [member])
    simp only [value, Bool.or_eq_true]
    exact Or.imp left right
  | term _ _ first rest | and _ _ first rest =>
    have left := first fun condition member => less condition (by simp [member])
    have right := rest fun condition member => less condition (by simp [member])
    simp only [value, Bool.and_eq_true]
    exact And.imp left right

def Tree.value (truth : Condition → Bool) : Tree → Bool
  | .condition c => truth c
  | .and left right => left.value truth && right.value truth
  | .or left right => left.value truth || right.value truth

namespace Pending

theorem conjoin_value (truth : Condition → Bool) (pending : Pending) (operand : Tree) :
    (pending.conjoin operand).value truth =
      (pending.conjunction.all (Tree.value truth) && operand.value truth) := by
  cases waiting : pending.conjunction <;> simp [conjoin, waiting, Tree.value]

theorem close_value (truth : Condition → Bool) (pending : Pending) (operand : Tree) :
    (pending.close operand).value truth =
      (pending.disjunction.any (Tree.value truth) || (pending.conjoin operand).value truth) := by
  cases waiting : pending.disjunction <;> simp [close, waiting, Tree.value]

end Pending

/-- What the parser does with the tokens of a phrase, whatever comes after them: it gets past them,
and what then waits together with the operand in hand has gained the value of the phrase. -/
def Absorbed (value : (Condition → Bool) → Bool) (tokens : List Token) : Phrase → Prop
  | .primary => ∃ tree, (∀ truth, tree.value truth = value truth) ∧
      ∀ pending outer rest, operand pending outer (tokens ++ rest) =
        operator pending outer tree rest
  | .conjuncts => ∀ pending left, ∃ pending' left',
      (∀ outer rest, operator pending outer left (tokens ++ rest) =
        operator pending' outer left' rest) ∧
      pending'.disjunction = pending.disjunction ∧
      ∀ truth, (pending'.conjoin left').value truth =
        ((pending.conjoin left).value truth && value truth)
  | .term => ∀ disjunction, ∃ pending' left',
      (∀ outer rest, operand { disjunction } outer (tokens ++ rest) =
        operator pending' outer left' rest) ∧
      pending'.disjunction = disjunction ∧
      ∀ truth, (pending'.conjoin left').value truth = value truth
  | .disjuncts => ∀ pending left, ∃ pending' left',
      (∀ outer rest, operator pending outer left (tokens ++ rest) =
        operator pending' outer left' rest) ∧
      ∀ truth, (pending'.close left').value truth =
        ((pending.close left).value truth || value truth)
  | .expression => ∃ pending' left',
      (∀ outer rest, operand {} outer (tokens ++ rest) = operator pending' outer left' rest) ∧
      ∀ truth, (pending'.close left').value truth = value truth

theorem absorbed_and {first rest : List Token} {a b : (Condition → Bool) → Bool}
    (primary : Absorbed a first .primary) (more : Absorbed b rest .conjuncts) :
    Absorbed (fun truth => a truth && b truth) (.and :: (first ++ rest)) .conjuncts := by
  intro pending left
  obtain ⟨tree, means, reads⟩ := primary
  obtain ⟨pending', left', goes, keeps, gains⟩ :=
    more { pending with conjunction := some (pending.conjoin left) } tree
  refine ⟨pending', left', ?_, keeps, ?_⟩
  · intro outer after
    rw [List.cons_append, List.append_assoc, operator, reads, goes]
  · intro truth
    rw [gains, Pending.conjoin_value, means]
    simp [Bool.and_assoc]

theorem absorbed_term {first rest : List Token} {a b : (Condition → Bool) → Bool}
    (primary : Absorbed a first .primary) (more : Absorbed b rest .conjuncts) :
    Absorbed (fun truth => a truth && b truth) (first ++ rest) .term := by
  intro disjunction
  obtain ⟨tree, means, reads⟩ := primary
  obtain ⟨pending', left', goes, keeps, gains⟩ := more { disjunction } tree
  refine ⟨pending', left', ?_, keeps, ?_⟩
  · intro outer after
    rw [List.append_assoc, reads, goes]
  · intro truth
    rw [gains, Pending.conjoin_value, means]
    simp

theorem absorbed_or {first rest : List Token} {a b : (Condition → Bool) → Bool}
    (term : Absorbed a first .term) (more : Absorbed b rest .disjuncts) :
    Absorbed (fun truth => a truth || b truth) (.or :: (first ++ rest)) .disjuncts := by
  intro pending left
  obtain ⟨middle, operand', reads, keeps, means⟩ := term (some (pending.close left))
  obtain ⟨pending', left', goes, gains⟩ := more middle operand'
  refine ⟨pending', left', ?_, ?_⟩
  · intro outer after
    rw [List.cons_append, List.append_assoc, operator, reads, goes]
  · intro truth
    rw [gains, Pending.close_value, keeps, means]
    simp [Bool.or_assoc]

theorem absorbed_expression {first rest : List Token} {a b : (Condition → Bool) → Bool}
    (term : Absorbed a first .term) (more : Absorbed b rest .disjuncts) :
    Absorbed (fun truth => a truth || b truth) (first ++ rest) .expression := by
  obtain ⟨middle, operand', reads, keeps, means⟩ := term none
  obtain ⟨pending', left', goes, gains⟩ := more middle operand'
  refine ⟨pending', left', ?_, ?_⟩
  · intro outer after
    rw [List.append_assoc, reads, goes]
  · intro truth
    rw [gains, Pending.close_value, keeps, means]
    simp

theorem absorbed_group {inner : List Token} {a : (Condition → Bool) → Bool}
    (expression : Absorbed a inner .expression) :
    Absorbed a (.leftParen :: (inner ++ [.rightParen])) .primary := by
  obtain ⟨pending', left', reads, means⟩ := expression
  refine ⟨pending'.close left', means, ?_⟩
  intro pending outer rest
  rw [List.cons_append, List.append_assoc, operand, reads, List.singleton_append, operator]

theorem Derivation.absorbed {phrase : Phrase} {tokens : List Token}
    (derivation : Derivation phrase tokens) :
    Absorbed (fun truth => derivation.value truth) tokens phrase := by
  induction derivation with
  | expression _ _ term more => exact absorbed_expression term more
  | lastTerm => exact fun pending left => ⟨pending, left, by simp [value]⟩
  | or _ _ term more => exact absorbed_or term more
  | term _ _ primary more => exact absorbed_term primary more
  | lastPrimary => exact fun pending left => ⟨pending, left, by simp [value]⟩
  | and _ _ primary more => exact absorbed_and primary more
  | condition c =>
    refine ⟨.condition c, fun _ => rfl, fun _ _ _ => ?_⟩
    rw [List.singleton_append, operand]
  | group _ expression => exact absorbed_group expression

theorem parse_of_derivation {tokens : List Token} (derivation : Derivation .expression tokens) :
    ∃ tree, parse tokens = .ok tree ∧ ∀ truth, tree.value truth = derivation.value truth := by
  obtain ⟨pending, left, reads, means⟩ := derivation.absorbed
  refine ⟨pending.close left, ?_, means⟩
  have whole := reads [] []
  rw [List.append_nil] at whole
  rw [parse, whole, operator, if_pos List.isEmpty_nil]

theorem conjuncts_snoc {tokens last : List Token} (final : Derivable .primary last) :
    Derivation .conjuncts tokens → Derivable .conjuncts (tokens ++ .and :: last)
  | .lastPrimary => by
    obtain ⟨final⟩ := final
    have single := Derivation.and final .lastPrimary
    rw [List.append_nil] at single
    exact ⟨single⟩
  | .and primary more => by
    obtain ⟨longer⟩ := conjuncts_snoc final more
    have added := Derivation.and primary longer
    rw [← List.append_assoc] at added
    exact ⟨added⟩

theorem disjuncts_snoc {tokens last : List Token} (final : Derivable .term last) :
    Derivation .disjuncts tokens → Derivable .disjuncts (tokens ++ .or :: last)
  | .lastTerm => by
    obtain ⟨final⟩ := final
    have single := Derivation.or final .lastTerm
    rw [List.append_nil] at single
    exact ⟨single⟩
  | .or term more => by
    obtain ⟨longer⟩ := disjuncts_snoc final more
    have added := Derivation.or term longer
    rw [← List.append_assoc] at added
    exact ⟨added⟩

theorem derivable_term {tokens : List Token} : Derivable .primary tokens → Derivable .term tokens
  | ⟨primary⟩ => ⟨List.append_nil tokens ▸ Derivation.term primary .lastPrimary⟩

theorem derivable_expression {tokens : List Token} :
    Derivable .term tokens → Derivable .expression tokens
  | ⟨term⟩ => ⟨List.append_nil tokens ▸ Derivation.expression term .lastTerm⟩

theorem term_snoc {tokens last : List Token} (final : Derivable .primary last) :
    Derivation .term tokens → Derivable .term (tokens ++ .and :: last)
  | .term primary more => by
    obtain ⟨longer⟩ := conjuncts_snoc final more
    rw [List.append_assoc]
    exact ⟨.term primary longer⟩

theorem expression_snoc {tokens last : List Token} (final : Derivable .term last) :
    Derivation .expression tokens → Derivable .expression (tokens ++ .or :: last)
  | .expression term more => by
    obtain ⟨longer⟩ := disjuncts_snoc final more
    rw [List.append_assoc]
    exact ⟨.expression term longer⟩

/-- The tokens for which a left side waits: those of a phrase and the connective after it. -/
def LedBy (phrase : Phrase) (connective : Token) : Option Tree → List Token → Prop
  | none, tokens => tokens = []
  | some _, tokens => ∃ side, tokens = side ++ [connective] ∧ Derivable phrase side

def Pending.Read (pending : Pending) (tokens : List Token) : Prop :=
  ∃ earlier joined, tokens = earlier ++ joined ∧
    LedBy .expression .or pending.disjunction earlier ∧ LedBy .term .and pending.conjunction joined

def Opened : List Pending → List Token → Prop
  | [], tokens => tokens = []
  | pending :: outer, tokens => ∃ before inside,
      tokens = before ++ inside ++ [.leftParen] ∧ Opened outer before ∧ pending.Read inside

theorem Pending.read_empty : Pending.Read {} [] := ⟨[], [], rfl, rfl, rfl⟩

theorem Pending.Read.conjoin {pending : Pending} {inside current : List Token}
    (read : pending.Read inside) (operand : Derivable .primary current) :
    ∃ earlier term, inside ++ current = earlier ++ term ∧
      LedBy .expression .or pending.disjunction earlier ∧ Derivable .term term := by
  obtain ⟨earlier, joined, rfl, disjunction, conjunction⟩ := read
  cases waiting : pending.conjunction with
  | none =>
    rw [waiting] at conjunction
    refine ⟨earlier, current, ?_, disjunction, derivable_term operand⟩
    rw [conjunction, List.append_nil]
  | some left =>
    rw [waiting] at conjunction
    obtain ⟨side, rfl, ⟨term⟩⟩ := conjunction
    exact ⟨earlier, side ++ .and :: current, by simp, disjunction, term_snoc operand term⟩

theorem Pending.Read.close {pending : Pending} {inside current : List Token}
    (read : pending.Read inside) (operand : Derivable .primary current) :
    Derivable .expression (inside ++ current) := by
  obtain ⟨earlier, term, same, disjunction, final⟩ := read.conjoin operand
  rw [same]
  cases waiting : pending.disjunction with
  | none =>
    rw [waiting] at disjunction
    rw [disjunction, List.nil_append]
    exact derivable_expression final
  | some left =>
    rw [waiting] at disjunction
    obtain ⟨side, rfl, ⟨expression⟩⟩ := disjunction
    rw [List.append_assoc, List.singleton_append]
    exact expression_snoc final expression

theorem Pending.Read.and {pending : Pending} {inside current : List Token} (tree : Tree)
    (read : pending.Read inside) (operand : Derivable .primary current) :
    Pending.Read { pending with conjunction := some tree } (inside ++ current ++ [.and]) := by
  obtain ⟨earlier, term, same, disjunction, joined⟩ := read.conjoin operand
  exact ⟨earlier, term ++ [.and], by rw [same, List.append_assoc], disjunction, term, rfl, joined⟩

theorem Pending.Read.or {pending : Pending} {inside current : List Token} (tree : Tree)
    (read : pending.Read inside) (operand : Derivable .primary current) :
    Pending.Read { disjunction := some tree } (inside ++ current ++ [.or]) :=
  ⟨_, [], (List.append_nil _).symm, ⟨_, rfl, read.close operand⟩, rfl⟩

/-- Whatever the parser accepts from here completes what has been read to an expression. The
induction is on the tokens still to come, for both states of the parser at once. -/
theorem derivable_of_accepted (rest : List Token) :
    (∀ pending outer before inside tree, Opened outer before → Pending.Read pending inside →
      operand pending outer rest = .ok tree →
      Derivable .expression (before ++ inside ++ rest)) ∧
    (∀ pending outer before inside current left tree, Opened outer before →
      Pending.Read pending inside → Derivable .primary current →
      operator pending outer left rest = .ok tree →
      Derivable .expression (before ++ inside ++ current ++ rest)) := by
  induction rest with
  | nil =>
    refine ⟨fun _ _ _ _ _ _ _ accepted => by simp [operand] at accepted, ?_⟩
    intro pending outer before inside current left tree opened read primary accepted
    cases outer with
    | nil =>
      rw [show before = [] from opened, List.nil_append, List.append_nil]
      exact read.close primary
    | cons enclosing outer => simp [operator] at accepted
  | cons token rest ih =>
    obtain ⟨fromOperand, fromOperator⟩ := ih
    constructor
    · intro pending outer before inside tree opened read accepted
      cases token with
      | leftParen =>
        rw [operand] at accepted
        have done := fromOperand {} (pending :: outer) (before ++ inside ++ [.leftParen]) [] tree
          ⟨before, inside, rfl, opened, read⟩ Pending.read_empty accepted
        simpa using done
      | condition c =>
        rw [operand] at accepted
        have done := fromOperator pending outer before inside [.condition c] (.condition c) tree
          opened read ⟨.condition c⟩ accepted
        simpa using done
      | _ => simp [operand] at accepted
    · intro pending outer before inside current left tree opened read primary accepted
      cases token with
      | and =>
        rw [operator] at accepted
        have done := fromOperand _ outer before (inside ++ current ++ [.and]) tree opened
          (read.and _ primary) accepted
        simpa using done
      | or =>
        rw [operator] at accepted
        have done := fromOperand _ outer before (inside ++ current ++ [.or]) tree opened
          (read.or _ primary) accepted
        simpa using done
      | rightParen =>
        cases outer with
        | nil => simp [operator] at accepted
        | cons enclosing outer =>
          rw [operator] at accepted
          -- The group is closed, so the operand of the enclosing one is all of its tokens.
          obtain ⟨before', inside', rfl, opened', read'⟩ := opened
          obtain ⟨expression⟩ := read.close primary
          have done := fromOperator enclosing outer before' inside'
            (.leftParen :: (inside ++ current ++ [.rightParen])) (pending.close left) tree
            opened' read' ⟨.group expression⟩ accepted
          simpa using done
      | _ => cases outer <;> simp [operator] at accepted

theorem derivable_of_parse {tokens : List Token} {tree : Tree}
    (accepted : parse tokens = .ok tree) : Derivable .expression tokens :=
  (derivable_of_accepted tokens).1 {} [] [] [] tree rfl Pending.read_empty accepted

theorem parse_eq_ok_iff {tokens : List Token} :
    (∃ tree, parse tokens = .ok tree) ↔ Derivable .expression tokens := by
  constructor
  · rintro ⟨tree, accepted⟩
    exact derivable_of_parse accepted
  · rintro ⟨derivation⟩
    obtain ⟨tree, accepted, _⟩ := parse_of_derivation derivation
    exact ⟨tree, accepted⟩

example (a b c : Condition) :
    parse [.condition a, .or, .condition b, .and, .condition c] =
      .ok (.or (.condition a) (.and (.condition b) (.condition c))) := rfl

end TableQuery.Clause
