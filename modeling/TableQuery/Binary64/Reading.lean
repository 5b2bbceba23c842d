import TableQuery.Binary64.Basic
import TableQuery.Text.Digits

/-! Decimal text read as the nearest double. The text is an optional sign and then digits with at
most one point among or around them and an optional exponent, or one of the words for infinity and
not-a-number in any case. -/

namespace TableQuery.Binary64

open Text (cutSign natOfDigits)

/-- The exponent kept to where it still matters: past it every number overflows or vanishes. -/
def usefulExponent (digits : Nat) (exponent : Int) : Int :=
  max (-(400 + digits.log2 : Int)) (min 400 exponent)

def ofDecimal (negative : Bool) (digits : Nat) (exponent : Int) : Binary64 :=
  let kept := usefulExponent digits exponent
  ofRatio negative (digits * Nat.pow 10 kept.toNat * unit) (Nat.pow 10 (-kept).toNat)

def exponent? : List Char → Option Int
  | [] => some 0
  | mark :: rest =>
    if mark = 'e' ∨ mark = 'E' then Text.integer? rest else none

def cutFraction : List Char → List Char × List Char
  | '.' :: rest => (rest.takeWhile Char.isDigit, rest.dropWhile Char.isDigit)
  | text => ([], text)

def decimal? (text : List Char) : Option (Nat × Int) :=
  let whole := text.takeWhile Char.isDigit
  let (fraction, rest) := cutFraction (text.dropWhile Char.isDigit)
  if whole.isEmpty && fraction.isEmpty then none
  else (exponent? rest).map fun e => (natOfDigits (whole ++ fraction), e - fraction.length)

def word? (negative : Bool) (text : List Char) : Option Binary64 :=
  match text.map Char.toLower with
  | ['n', 'a', 'n'] => some .nan
  | ['i', 'n', 'f'] => some (.infinite negative)
  | ['i', 'n', 'f', 'i', 'n', 'i', 't', 'y'] => some (.infinite negative)
  | _ => none

def read? (text : List Char) : Option Binary64 :=
  let (negative, body) := cutSign text
  match decimal? body with
  | some (digits, exponent) => some (ofDecimal negative digits exponent)
  | none => word? negative body

end TableQuery.Binary64
