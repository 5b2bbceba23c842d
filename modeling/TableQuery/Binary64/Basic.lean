/-! Double precision numbers as exact values. A finite number is a sign and a rank, its place in
the row of all magnitudes: rank zero is zero, the next rank is the next larger magnitude, and the
largest is `limit - 1`. Every magnitude is a whole number of units of `2 ^ -1074`, so sums, products
and quotients are naturals that are rounded once, to the nearest rank and to the even one of two
equally near. -/

namespace TableQuery

/-- The number of ranks from one power of two to the next. -/
def Binary64.binadeSize : Nat := Nat.pow 2 52

def Binary64.limit : Nat := 2047 * binadeSize

inductive Binary64
  | nan
  | infinite (negative : Bool)
  | finite (negative : Bool) (rank : Fin Binary64.limit)
deriving DecidableEq, Inhabited

namespace Binary64

/-- The unit of all magnitudes is the inverse of this number. -/
def unit : Nat := Nat.pow 2 1074

def units (rank : Nat) : Nat :=
  if rank < binadeSize then rank
  else (binadeSize + rank % binadeSize) * Nat.pow 2 (rank / binadeSize - 1)

/-- The quotient rounded to the nearest natural, halves to the even one. -/
def nearest (numerator denominator : Nat) : Nat :=
  let quotient := numerator / denominator
  let remainder := numerator % denominator
  if denominator < 2 * remainder ∨ 2 * remainder = denominator ∧ quotient % 2 = 1
  then quotient + 1 else quotient

/-- The rank nearest to a quotient of units. From `2 ^ 53` units on the ranks are `2 ^ binade`
units apart. -/
def rankOf (numerator denominator : Nat) : Nat :=
  let binade := (numerator / denominator).log2 - 52
  binade * binadeSize + nearest numerator (denominator * Nat.pow 2 binade)

def ofRank (negative : Bool) (rank : Nat) : Binary64 :=
  if h : rank < limit then .finite negative ⟨rank, h⟩ else .infinite negative

def ofRatio (negative : Bool) (numerator denominator : Nat) : Binary64 :=
  ofRank negative (rankOf numerator denominator)

def zero : Binary64 := ofRank false 0

def isFinite : Binary64 → Bool
  | .finite _ _ => true
  | _ => false

def place? : Binary64 → Option Int
  | .nan => none
  | .infinite negative => some (if negative then -limit else limit)
  | .finite negative rank => some (if negative then -rank.val else rank.val)

/-- Equality of numbers: not-a-number equals nothing, and the two zeros are equal. -/
def equals (a b : Binary64) : Bool :=
  match a.place?, b.place? with
  | some x, some y => x == y
  | _, _ => false

def less (a b : Binary64) : Bool :=
  match a.place?, b.place? with
  | some x, some y => x < y
  | _, _ => false

def atMost (a b : Binary64) : Bool :=
  match a.place?, b.place? with
  | some x, some y => x ≤ y
  | _, _ => false

/-- The place in the order of all numbers, where minus zero comes before zero and not-a-number
comes last. -/
def orderKey : Binary64 → Int
  | .nan => limit + 1
  | .infinite negative => if negative then -1 - limit else limit
  | .finite negative rank => if negative then -1 - rank.val else rank.val

end Binary64

end TableQuery
