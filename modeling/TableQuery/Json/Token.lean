import TableQuery.Binary64.Arithmetic
import TableQuery.Binary64.Reading
import TableQuery.Json.Basic

/-! The tokens of a data document. A number with a fraction or an exponent is scaled in double
arithmetic: as many of its digits as 64 bits hold are rounded once, and the result is multiplied or
divided by a power of ten. A number too large for that is an infinity here, and a text with half of
a pair of units is a token of its own: the reader decides whether they may stand. -/

namespace TableQuery.Json

open Text (natOfDigits digitValue)

inductive Token
  | openArray
  | closeArray
  | openObject
  | closeObject
  | comma
  | colon
  | scalar (value : Json)
  /-- A text that is no sequence of characters, because a unit of a pair stands alone in it. -/
  | unpaired

def hexValue? (c : Char) : Option Nat :=
  if '0' ≤ c ∧ c ≤ '9' then some (c.toNat - '0'.toNat)
  else if 'a' ≤ c ∧ c ≤ 'f' then some (c.toNat - 'a'.toNat + 10)
  else if 'A' ≤ c ∧ c ≤ 'F' then some (c.toNat - 'A'.toNat + 10)
  else none

def codeUnit? (a b c d : Char) : Option Nat := do
  let a ← hexValue? a
  let b ← hexValue? b
  let c ← hexValue? c
  let d ← hexValue? d
  return ((a * 16 + b) * 16 + c) * 16 + d

def isLeadingUnit (unit : Nat) : Bool := 0xD800 ≤ unit && unit < 0xDC00

def isTrailingUnit (unit : Nat) : Bool := 0xDC00 ≤ unit && unit < 0xE000

def trailing? : List Char → Option (Nat × List Char)
  | '\\' :: 'u' :: a :: b :: c :: d :: rest =>
    ((codeUnit? a b c d).filter isTrailingUnit).map fun unit => (unit, rest)
  | _ => none

theorem trailing?_shorter {text rest : List Char} {unit : Nat}
    (found : trailing? text = some (unit, rest)) : rest.length < text.length := by
  unfold trailing? at found
  split at found
  · simp only [Option.map_eq_some_iff, Prod.mk.injEq] at found
    obtain ⟨_, _, _, same⟩ := found
    simp only [← same, List.length_cons]
    omega
  · simp at found

def pairedChar (leading trailing : Nat) : Char :=
  Char.ofNat (0x10000 + (leading - 0xD800) * 0x400 + (trailing - 0xDC00))

def escape? : Char → Option Char
  | '"' => some '"'
  | '\\' => some '\\'
  | '/' => some '/'
  | 'b' => some '\x08'
  | 'f' => some '\x0c'
  | 'n' => some '\n'
  | 'r' => some '\r'
  | 't' => some '\t'
  | _ => none

/-- One character of a quoted text and what follows it. A character above the basic plane is written
as a pair of units, and a unit without its partner is no character. -/
def textChar? : List Char → Option (Option Char × List Char)
  | '\\' :: 'u' :: a :: b :: c :: d :: rest =>
    match codeUnit? a b c d with
    | none => none
    | some unit =>
      if isTrailingUnit unit then some (none, rest)
      else if isLeadingUnit unit then
        match trailing? rest with
        | some (trailing, after) => some (some (pairedChar unit trailing), after)
        | none => some (none, rest)
      else some (some (Char.ofNat unit), rest)
  | '\\' :: c :: rest => (escape? c).map fun c => (some c, rest)
  | c :: rest => if c < ' ' ∨ c = '\\' then none else some (some c, rest)
  | [] => none

theorem textChar?_shorter {text rest : List Char} {c : Option Char}
    (found : textChar? text = some (c, rest)) : rest.length < text.length := by
  unfold textChar? at found
  split at found
  · split at found
    · simp at found
    · split at found
      · simp only [Option.some.injEq, Prod.mk.injEq] at found
        simp only [← found.2, List.length_cons]
        omega
      · split at found
        · split at found
          · rename_i partner
            have shorter := trailing?_shorter partner
            simp only [Option.some.injEq, Prod.mk.injEq] at found
            simp only [← found.2, List.length_cons]
            omega
          · simp only [Option.some.injEq, Prod.mk.injEq] at found
            simp only [← found.2, List.length_cons]
            omega
        · simp only [Option.some.injEq, Prod.mk.injEq] at found
          simp only [← found.2, List.length_cons]
          omega
  · simp only [Option.map_eq_some_iff, Prod.mk.injEq] at found
    obtain ⟨_, _, _, same⟩ := found
    simp only [← same, List.length_cons]
    omega
  · split at found
    · simp at found
    · simp only [Option.some.injEq, Prod.mk.injEq] at found
      simp [← found.2]
  · simp at found

def quoted? (input : List Char) : Option (List (Option Char) × List Char) :=
  if input.head? = some '"' then some ([], input.tail)
  else
    match _found : textChar? input with
    | none => none
    | some (c, rest) => (quoted? rest).map fun (body, after) => (c :: body, after)
termination_by input.length
decreasing_by exact textChar?_shorter _found

def textToken (body : List (Option Char)) : Token :=
  match body.mapM id with
  | some chars => .scalar (.text (.ofList chars))
  | none => .unpaired

/-- As many leading digits as 64 bits hold after the ones already taken, and the digits left. -/
def takeFitting (taken : Nat) : List Char → Nat × List Char
  | [] => (taken, [])
  | c :: rest =>
    let next := taken * 10 + digitValue c
    if next < UInt64.size then takeFitting next rest else (taken, c :: rest)

/-- Scales by a power of ten in steps that a double can hold, unless the result is too large. -/
def scale (x : Binary64) (exponent : Int) : Option Binary64 :=
  if exponent.natAbs ≤ 308 then
    if 0 ≤ exponent then
      let result := x.mul (.ofDecimal false 1 exponent)
      if result.isFinite then some result else none
    else some (x.div (.ofDecimal false 1 (-exponent)))
  else if x.equals .zero then some x
  else if 0 ≤ exponent then none
  else scale (x.div (.ofDecimal false 1 308)) (exponent + 308)
termination_by exponent.natAbs

def scaled (negative : Bool) (whole fraction : List Char) (exponent : Int) : Json :=
  let (taken, dropped) := takeFitting 0 whole
  let (digits, ignored) := takeFitting taken fraction
  let places : Int := (fraction.length - ignored.length : Nat)
  let x := (scale (.ofInt digits) (dropped.length - places + exponent)).getD (.infinite false)
  .double (if negative then x.neg else x)

/-- A number without fraction and exponent. Minus zero and what 64 bits cannot hold are doubles. -/
def wholeNumber (negative : Bool) (digits : List Char) : Json :=
  let n := natOfDigits digits
  if negative then
    if 0 < n ∧ (Text.wordOf? (-n)).isSome then .integer (-n) else scaled true digits [] 0
  else if n < UInt64.size then .integer n else scaled false digits [] 0

def wholeDigits? (text : List Char) : Option (List Char × List Char) :=
  match text.takeWhile Char.isDigit, text.dropWhile Char.isDigit with
  | [], _ => none
  | ['0'], rest => some (['0'], rest)
  | '0' :: _, _ => none
  | digits, rest => some (digits, rest)

def fraction? : List Char → Option (List Char × List Char)
  | '.' :: rest =>
    match rest.takeWhile Char.isDigit with
    | [] => none
    | digits => some (digits, rest.dropWhile Char.isDigit)
  | rest => some ([], rest)

def power? : List Char → Option (Option Int × List Char)
  | mark :: rest =>
    if mark = 'e' ∨ mark = 'E' then
      let (negative, rest) := Text.cutSign rest
      match rest.takeWhile Char.isDigit with
      | [] => none
      | digits =>
        let n : Int := natOfDigits digits
        some (some (if negative then -n else n), rest.dropWhile Char.isDigit)
    else some (none, mark :: rest)
  | [] => some (none, [])

def number? (input : List Char) : Option (Json × List Char) := do
  let (negative, body) := match input with
    | '-' :: rest => (true, rest)
    | _ => (false, input)
  let (whole, rest) ← wholeDigits? body
  let (fraction, rest) ← fraction? rest
  let (power, rest) ← power? rest
  let value :=
    if fraction.isEmpty && power.isNone then wholeNumber negative whole
    else scaled negative whole fraction (power.getD 0)
  return (value, rest)

def token? : List Char → Option (Token × List Char)
  | '[' :: rest => some (.openArray, rest)
  | ']' :: rest => some (.closeArray, rest)
  | '{' :: rest => some (.openObject, rest)
  | '}' :: rest => some (.closeObject, rest)
  | ',' :: rest => some (.comma, rest)
  | ':' :: rest => some (.colon, rest)
  | '"' :: rest => (quoted? rest).map fun (body, after) => (textToken body, after)
  | 'n' :: 'u' :: 'l' :: 'l' :: rest => some (.scalar .null, rest)
  | 't' :: 'r' :: 'u' :: 'e' :: rest => some (.scalar (.boolean true), rest)
  | 'f' :: 'a' :: 'l' :: 's' :: 'e' :: rest => some (.scalar (.boolean false), rest)
  | input => (number? input).map fun (value, after) => (.scalar value, after)

def isSpace (c : Char) : Bool := c == ' ' || c == '\n' || c == '\t' || c == '\r'

def tokensWithin : Nat → List Char → Option (List Token)
  | 0, input => if input.all isSpace then some [] else none
  | steps + 1, input =>
    match input.dropWhile isSpace with
    | [] => some []
    | first :: rest =>
      match token? (first :: rest) with
      | none => none
      | some (token, rest) => (tokensWithin steps rest).map (token :: ·)

/-- All tokens of a text. Every token takes at least one character, so as many steps are enough. -/
def tokens? (input : List Char) : Option (List Token) := tokensWithin input.length input

end TableQuery.Json
