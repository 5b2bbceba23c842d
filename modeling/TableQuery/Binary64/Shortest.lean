import TableQuery.Binary64.Reading

/-! The fewest decimal digits that read back to a number. For one digit, two digits and so on, the
two neighbours of the number on the decimal grid of that many digits are read back; the first grid
with a hit wins, and of two hits the nearer. Should no grid of seventeen digits have a hit, the
exact decimal value is taken, so the result always reads back. -/

namespace TableQuery.Binary64

open Text (digitChars)

structure Decimal where
  digits : Nat
  exponent : Int
deriving DecidableEq, Repr

inductive Tie
  | upper
  | even
deriving DecidableEq, Repr

def leadingExponent (magnitude : Nat) : Int :=
  if unit ≤ magnitude then ((digitChars (magnitude / unit)).length : Int) - 1
  else -((digitChars ((unit + magnitude - 1) / magnitude - 1)).length : Int)

def onGrid (magnitude : Nat) (exponent : Int) : Nat × Nat :=
  (magnitude * Nat.pow 10 (-exponent).toNat, unit * Nat.pow 10 exponent.toNat)

def readsBack (rank : Nat) (decimal : Decimal) : Bool :=
  ofDecimal false decimal.digits decimal.exponent = ofRank false rank

/-- Whether the lower neighbour is the better one, for a value that lies the given part of a grid
step above it. -/
def Tie.takesLower (tie : Tie) (lower part step : Nat) : Bool :=
  if 2 * part = step then
    match tie with
    | .upper => false
    | .even => lower % 2 == 0
  else 2 * part < step

def keptOf? (kept : Decimal → Bool) (below above : Decimal) (lowerIsBetter : Bool) :
    Option Decimal :=
  match kept below, kept above with
  | true, true => some (if lowerIsBetter then below else above)
  | true, false => some below
  | false, true => some above
  | false, false => none

def neighbour? (tie : Tie) (rank : Nat) (exponent : Int) : Option Decimal :=
  let magnitude := onGrid (units rank) exponent
  let lower := magnitude.1 / magnitude.2
  keptOf? (readsBack rank) ⟨lower, exponent⟩ ⟨lower + 1, exponent⟩
    (tie.takesLower lower (magnitude.1 % magnitude.2) magnitude.2)

def exact (magnitude : Nat) : Decimal := ⟨magnitude * Nat.pow 5 1074, -1074⟩

def selected (tie : Tie) (rank : Nat) : Decimal :=
  let lead := leadingExponent (units rank)
  let found := (List.range 17).findSome? fun (more : Nat) => neighbour? tie rank (lead - more)
  found.getD (exact (units rank))

def stripZeros (digits : List Char) (exponent : Int) : List Char × Int :=
  let zeros := digits.reverse.takeWhile (· = '0')
  ((digits.reverse.dropWhile (· = '0')).reverse, exponent + zeros.length)

def shortest (tie : Tie) (rank : Nat) : List Char × Int :=
  if rank = 0 then (['0'], 0)
  else
    let decimal := selected tie rank
    stripZeros (digitChars decimal.digits) decimal.exponent

end TableQuery.Binary64
