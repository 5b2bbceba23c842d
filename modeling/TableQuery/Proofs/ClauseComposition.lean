import TableQuery.Proofs.ClauseMeaning
import TableQuery.Proofs.PrintedTokens
import TableQuery.Proofs.SearchPositions

/-! Clauses put together as text. A clause in parentheses keeps its tokens, and the parser takes
them for one operand whatever waits around the group. So clauses can be joined by writing them side
by side, without reading them first, and the joined clause selects what the parts do together. -/

namespace TableQuery.Clause

def grouped (clause : String) : String := "(" ++ clause ++ ")"

def bothOf (first second : String) : String := grouped first ++ " AND " ++ grouped second

def eitherOf (first second : String) : String := grouped first ++ " OR " ++ grouped second

inductive Connective
  | and
  | or

namespace Connective

def token : Connective → Token
  | .and => .and
  | .or => .or

def tree : Connective → Tree → Tree → Tree
  | .and => .and
  | .or => .or

def joining : Connective → String → String → String
  | .and => bothOf
  | .or => eitherOf

/-- What waits for the second operand once the first one and the connective are read. -/
def waiting (left : Tree) : Connective → Pending
  | .and => { conjunction := some left }
  | .or => { disjunction := some left }

theorem printable (connective : Connective) : connective.token.Printable := by
  cases connective <;> exact trivial

end Connective

def groupTokens (inner : List Token) : List Token := .leftParen :: (inner ++ [.rightParen])

theorem tokensFrom_group {text : List Char} (sound : ∀ bad, .malformed bad ∉ tokens text)
    (tail : List Char) :
    tokensFrom false ('(' :: (text ++ ')' :: tail)) =
      groupTokens (tokens text) ++ tokensFrom false tail := by
  have closing : isBoundary ')' = true := by decide
  have inside := tokensFrom_append false text sound closing tail
  rw [tokensFrom_token false (c := '(') (by decide), groupTokens, List.cons_append,
    List.append_assoc]
  change Token.leftParen :: tokensFrom false (text ++ ')' :: tail) = _
  rw [inside, tokensFrom_token false (c := ')') (by decide)]
  rfl

theorem tokens_grouped {clause : String} (sound : ∀ bad, .malformed bad ∉ tokens clause.toList) :
    tokens (grouped clause).toList = groupTokens (tokens clause.toList) := by
  have written : (grouped clause).toList = '(' :: (clause.toList ++ ')' :: []) := by
    simp [grouped]
  rw [written, tokens, tokensFrom_group sound, tokensFrom_nil, List.append_nil]

theorem tokens_joining (connective : Connective) {first second : String}
    (soundFirst : ∀ bad, .malformed bad ∉ tokens first.toList)
    (soundSecond : ∀ bad, .malformed bad ∉ tokens second.toList) :
    tokens (connective.joining first second).toList =
      groupTokens (tokens first.toList) ++
        connective.token :: groupTokens (tokens second.toList) := by
  have written : (connective.joining first second).toList =
      '(' :: (first.toList ++
        ')' :: ' ' :: (connective.token.chars ++ ' ' :: (grouped second).toList)) := by
    cases connective <;>
      simp [Connective.joining, Connective.token, Token.chars, bothOf, eitherOf, grouped]
  have between : tokensFrom false
      (' ' :: (connective.token.chars ++ ' ' :: (grouped second).toList)) =
        connective.token :: groupTokens (tokens second.toList) := by
    rw [tokensFrom_blank false (c := ' ') rfl, ← tokens_grouped soundSecond]
    exact tokens_chars_blank connective.printable rfl _
  rw [written, tokens, tokensFrom_group soundFirst, between]

/-- Tokens that are a whole clause by themselves are one operand where they stand in a group,
whatever waits around it. The induction is on the tokens still to come, for both states of the
parser; the groups that are open inside lie above the one that is being closed. -/
theorem parse_inside (enclosing : Pending) (around : List Pending) (rest inner : List Token) :
    (∀ pending outer tree, operand pending outer inner = .ok tree →
      operand pending (outer ++ enclosing :: around) (inner ++ .rightParen :: rest) =
        operator enclosing around tree rest) ∧
    ∀ pending outer left tree, operator pending outer left inner = .ok tree →
      operator pending (outer ++ enclosing :: around) left (inner ++ .rightParen :: rest) =
        operator enclosing around tree rest := by
  induction inner with
  | nil =>
    refine ⟨fun _ _ _ accepted => by simp [operand] at accepted, ?_⟩
    intro pending outer left tree accepted
    cases outer with
    | nil =>
      simp only [operator, List.isEmpty_nil, if_true, Except.ok.injEq] at accepted
      rw [List.nil_append, List.nil_append, operator, accepted]
    | cons innermost outer => simp [operator] at accepted
  | cons token inner ih =>
    obtain ⟨fromOperand, fromOperator⟩ := ih
    constructor
    · intro pending outer tree accepted
      cases token with
      | leftParen =>
        rw [operand] at accepted
        rw [List.cons_append, operand]
        exact fromOperand {} (pending :: outer) tree accepted
      | condition c =>
        rw [operand] at accepted
        rw [List.cons_append, operand]
        exact fromOperator pending outer (.condition c) tree accepted
      | _ => simp [operand] at accepted
    · intro pending outer left tree accepted
      cases token with
      | and =>
        rw [operator] at accepted
        rw [List.cons_append, operator]
        exact fromOperand _ outer tree accepted
      | or =>
        rw [operator] at accepted
        rw [List.cons_append, operator]
        exact fromOperand _ outer tree accepted
      | rightParen =>
        cases outer with
        | nil => simp [operator] at accepted
        | cons innermost outer =>
          rw [operator] at accepted
          rw [List.cons_append, List.cons_append, operator]
          exact fromOperator innermost outer (pending.close left) tree accepted
      | _ => cases outer <;> simp [operator] at accepted

theorem operand_group {inner : List Token} {tree : Tree} (accepted : parse inner = .ok tree)
    (pending : Pending) (outer : List Pending) (rest : List Token) :
    operand pending outer (groupTokens inner ++ rest) = operator pending outer tree rest := by
  have inside := (parse_inside pending outer rest inner).1 {} [] tree accepted
  rw [groupTokens, List.cons_append, List.append_assoc, operand]
  exact inside

theorem parse_groupTokens {inner : List Token} {tree : Tree} (accepted : parse inner = .ok tree) :
    parse (groupTokens inner) = .ok tree := by
  have whole := operand_group accepted {} [] []
  rw [List.append_nil] at whole
  rw [parse, whole]
  rfl

theorem parse_joining (connective : Connective) {first second : List Token} {left right : Tree}
    (acceptedFirst : parse first = .ok left) (acceptedSecond : parse second = .ok right) :
    parse (groupTokens first ++ connective.token :: groupTokens second) =
      .ok (connective.tree left right) := by
  have goes : operator {} [] left (connective.token :: groupTokens second) =
      operand (connective.waiting left) [] (groupTokens second) := by
    cases connective <;> rw [Connective.token, operator] <;> rfl
  have last := operand_group acceptedSecond (connective.waiting left) [] []
  rw [List.append_nil] at last
  calc parse (groupTokens first ++ connective.token :: groupTokens second)
    _ = operator {} [] left (connective.token :: groupTokens second) :=
      operand_group acceptedFirst {} [] _
    _ = operand (connective.waiting left) [] (groupTokens second) := goes
    _ = operator (connective.waiting left) [] right [] := last
    _ = .ok (connective.tree left right) := by cases connective <;> rfl

theorem read_eq_ok_some_iff {text : List Char} {tree : Tree} :
    read text = .ok (some tree) ↔ parse (tokens text) = .ok tree := by
  by_cases blank : tokens text = []
  · rw [read_of_tokens_eq_nil blank, blank]
    simp [parse, operand]
  · rw [read_of_tokens_ne_nil blank]
    cases parse (tokens text) <;> simp [Except.map]

theorem not_mem_malformed_of_read {text : List Char} {tree : Tree}
    (found : read text = .ok (some tree)) (bad : List Char) : .malformed bad ∉ tokens text := by
  obtain ⟨derivation⟩ := derivable_of_parse (read_eq_ok_some_iff.mp found)
  exact not_mem_malformed derivation bad

theorem read_grouped {clause : String} {tree : Tree}
    (found : read clause.toList = .ok (some tree)) :
    read (grouped clause).toList = .ok (some tree) := by
  rw [read_eq_ok_some_iff, tokens_grouped (not_mem_malformed_of_read found)]
  exact parse_groupTokens (read_eq_ok_some_iff.mp found)

theorem read_joining (connective : Connective) {first second : String} {left right : Tree}
    (firstRead : read first.toList = .ok (some left))
    (secondRead : read second.toList = .ok (some right)) :
    read (connective.joining first second).toList =
      .ok (some (connective.tree left right)) := by
  rw [read_eq_ok_some_iff, tokens_joining connective (not_mem_malformed_of_read firstRead)
    (not_mem_malformed_of_read secondRead)]
  exact parse_joining connective (read_eq_ok_some_iff.mp firstRead)
    (read_eq_ok_some_iff.mp secondRead)

end TableQuery.Clause

namespace TableQuery.Engine

theorem compile_accepts_of_read {engine : Engine} {fields : List String} {clause : String}
    {tree : Clause.Tree} (found : Clause.read clause.toList = .ok (some tree)) (row : Row) :
    (engine.compile clause fields).accepts row =
      tree.value (engine.conditionPasses fields row) := by
  rw [Program.accepts, compile_of_tree found, Option.map_some, ← bind_holds]

/-- Clauses that are read to trees can be put together as text: the whole is read to the tree put
together from theirs. Their conjunction selects the rows that both select, their disjunction the
rows that one of them selects, each in the order of the table, and a group selects what its clause
selects. -/
theorem clauses_compose (engine : Engine) {first second : String} {left right : Clause.Tree}
    (firstRead : Clause.read first.toList = .ok (some left))
    (secondRead : Clause.read second.toList = .ok (some right)) :
    (Clause.read (Clause.bothOf first second).toList = .ok (some (.and left right)) ∧
      Clause.read (Clause.eitherOf first second).toList = .ok (some (.or left right)) ∧
      Clause.read (Clause.grouped first).toList = .ok (some left)) ∧
    ∀ table : Table,
      ((engine.positions table (Clause.bothOf first second)).Pairwise (· < ·) ∧
        ∀ index, index ∈ engine.positions table (Clause.bothOf first second) ↔
          index ∈ engine.positions table first ∧ index ∈ engine.positions table second) ∧
      ((engine.positions table (Clause.eitherOf first second)).Pairwise (· < ·) ∧
        ∀ index, index ∈ engine.positions table (Clause.eitherOf first second) ↔
          index ∈ engine.positions table first ∨ index ∈ engine.positions table second) ∧
      engine.positions table (Clause.grouped first) = engine.positions table first := by
  have both : Clause.read (Clause.bothOf first second).toList = .ok (some (.and left right)) :=
    Clause.read_joining .and firstRead secondRead
  have either : Clause.read (Clause.eitherOf first second).toList = .ok (some (.or left right)) :=
    Clause.read_joining .or firstRead secondRead
  have group := Clause.read_grouped firstRead
  refine ⟨⟨both, either, group⟩, fun table => ⟨⟨engine.positions_strict table _, fun index => ?_⟩,
    ⟨engine.positions_strict table _, fun index => ?_⟩, ?_⟩⟩
  · simp only [mem_positions, compile_accepts_of_read both, compile_accepts_of_read firstRead,
      compile_accepts_of_read secondRead, Clause.Tree.value, Bool.and_eq_true]
    constructor
    · rintro ⟨row, present, chosen⟩
      exact ⟨⟨row, present, chosen.1⟩, ⟨row, present, chosen.2⟩⟩
    · rintro ⟨⟨row, present, chosen⟩, ⟨row', present', chosen'⟩⟩
      have same : row = row' := Option.some.inj (present.symm.trans present')
      exact ⟨row, present, chosen, same ▸ chosen'⟩
  · simp only [mem_positions, compile_accepts_of_read either, compile_accepts_of_read firstRead,
      compile_accepts_of_read secondRead, Clause.Tree.value, Bool.or_eq_true, and_or_left,
      exists_or]
  · have alike : (engine.compile (Clause.grouped first) table.fields).accepts =
        (engine.compile first table.fields).accepts := by
      funext row
      rw [compile_accepts_of_read group, compile_accepts_of_read firstRead]
    exact congrArg (fun test => places test table.rows) alike

theorem clauses_compose_tight :
    let table : Table :=
      { fields := ["a", "b"],
        rows := [[.text "1", .text "x"], [.text "0", .text "2"], [.text "1", .text ")"]] }
    let first := "a='1' OR b='2' "
    let second := "b!=') AND ('"
    let one : Clause.Condition := ⟨['a'], false, ['1']⟩
    let two : Clause.Condition := ⟨['b'], false, ['2']⟩
    let other : Clause.Condition := ⟨['b'], true, ") AND (".toList⟩
    Clause.read first.toList = .ok (some (.or (.condition one) (.condition two))) ∧
      Clause.read second.toList = .ok (some (.condition other)) ∧
      Clause.read "(a='1' OR b='2' ) AND (b!=') AND (')".toList =
        .ok (some (.and (.or (.condition one) (.condition two)) (.condition other))) ∧
      1 ∈ ({} : Engine).positions table "(a='1' OR b='2' ) AND (b!=') AND (')" := by
  intro table first second one two other
  have firstRead : Clause.read first.toList =
      .ok (some (.or (.condition one) (.condition two))) := by decide +kernel
  have secondRead : Clause.read second.toList = .ok (some (.condition other)) := by
    decide +kernel
  obtain ⟨⟨both, _, _⟩, selects⟩ := clauses_compose {} firstRead secondRead
  have written : Clause.bothOf first second = "(a='1' OR b='2' ) AND (b!=') AND (')" := by
    decide +kernel
  rw [written] at both
  have chosen := (selects table).1.2 1
  rw [written] at chosen
  have inFirst : 1 ∈ ({} : Engine).positions table first := by decide +kernel
  have inSecond : 1 ∈ ({} : Engine).positions table second := by decide +kernel
  exact ⟨firstRead, secondRead, both, chosen.mpr ⟨inFirst, inSecond⟩⟩

end TableQuery.Engine
