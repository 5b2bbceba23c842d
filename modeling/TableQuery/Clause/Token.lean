import TableQuery.Text.Blank
import TableQuery.Text.Split

/-! Tokens of where clauses. A condition is a field, an operator and a value in single quotes, and
the value is taken as it stands up to the next quote. Text that starts no condition is one malformed
token up to the next blank or parenthesis, so every clause has tokens. -/

namespace TableQuery.Clause

structure Condition where
  field : List Char
  negated : Bool
  value : List Char
deriving DecidableEq

inductive Token
  | leftParen
  | rightParen
  | and
  | or
  | condition (condition : Condition)
  | malformed (text : List Char)
deriving DecidableEq

def Condition.chars (condition : Condition) : List Char :=
  condition.field ++ (if condition.negated then ['!', '='] else ['=']) ++
    '\'' :: condition.value ++ ['\'']

def Token.chars : Token → List Char
  | .leftParen => ['(']
  | .rightParen => [')']
  | .and => ['A', 'N', 'D']
  | .or => ['O', 'R']
  | .condition c => c.chars
  | .malformed text => '<' :: "malformed ".toList ++ text ++ ['>']

def Token.display (token : Token) : String := String.ofList token.chars

def isBoundary (c : Char) : Bool := Text.isBlank c || c == '(' || c == ')'

def atBoundary : List Char → Bool
  | [] => true
  | c :: _ => isBoundary c

def cutField : List Char → Option (List Char × Bool × List Char)
  | [] => none
  | '=' :: rest => some ([], false, rest)
  | '!' :: '=' :: rest => some ([], true, rest)
  | c :: rest =>
    if c = '\'' ∨ c = '(' ∨ c = ')' then none
    else (cutField rest).map fun (field, negated, after) => (c :: field, negated, after)

def cutValue : List Char → Option (List Char × List Char)
  | '\'' :: rest => Text.cutAt '\'' rest
  | _ => none

def cutCondition (text : List Char) : Option (Condition × List Char) := do
  let (field, negated, rest) ← cutField text
  let (value, rest) ← cutValue rest
  return ({ field := Text.trim field, negated := negated, value := value }, rest)

/-- A token that starts with the first character, with what follows it. Connectives are upper-case
words of their own; directly after a condition there is none. -/
def cutToken (joined : Bool) (c : Char) (rest : List Char) : Token × List Char :=
  match c, rest with
  | '(', _ => (.leftParen, rest)
  | ')', _ => (.rightParen, rest)
  | _, _ =>
    if !joined ∧ ['A', 'N', 'D'].isPrefixOf (c :: rest) ∧ atBoundary (rest.drop 2) then
      (.and, rest.drop 2)
    else if !joined ∧ ['O', 'R'].isPrefixOf (c :: rest) ∧ atBoundary (rest.drop 1) then
      (.or, rest.drop 1)
    else
      match cutCondition (c :: rest) with
      | some (condition, after) => (.condition condition, after)
      | none => (.malformed (c :: rest.takeWhile (!isBoundary ·)), rest.dropWhile (!isBoundary ·))

def Token.isCondition : Token → Bool
  | .condition _ => true
  | _ => false

theorem cutField_shorter {text field after : List Char} {negated : Bool}
    (found : cutField text = some (field, negated, after)) : after.length < text.length := by
  induction text using cutField.induct generalizing field negated after with
  | case1 => simp [cutField] at found
  | case2 rest =>
    simp only [cutField, Option.some.injEq, Prod.mk.injEq] at found
    simp [← found.2.2]
  | case3 rest =>
    simp only [cutField, Option.some.injEq, Prod.mk.injEq] at found
    simp only [← found.2.2, List.length_cons]
    omega
  | case4 c rest _ _ stops =>
    simp_all [cutField]
  | case5 c rest notEquals notBang goes ih =>
    rw [cutField.eq_4 _ _ notEquals notBang, if_neg goes] at found
    simp only [Option.map_eq_some_iff, Prod.mk.injEq] at found
    obtain ⟨⟨field', negated', after'⟩, inner, _, _, same⟩ := found
    have shorter := ih inner
    simp only at same
    rw [← same, List.length_cons]
    omega

end TableQuery.Clause
