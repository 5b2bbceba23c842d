import TableQuery.Binary64.Basic

/-! Arithmetic on doubles. Each operation finds the exact result in units and rounds it once. -/

namespace TableQuery.Binary64

def signedUnits (negative : Bool) (rank : Nat) : Int :=
  if negative then -(units rank : Int) else units rank

def neg : Binary64 → Binary64
  | .nan => .nan
  | .infinite negative => .infinite !negative
  | .finite negative rank => .finite (!negative) rank

/-- Opposite magnitudes cancel to plus zero; only two minus zeros make a minus zero. -/
def add : Binary64 → Binary64 → Binary64
  | .nan, _ => .nan
  | _, .nan => .nan
  | .infinite a, .infinite b => if a = b then .infinite a else .nan
  | .infinite a, .finite _ _ => .infinite a
  | .finite _ _, .infinite b => .infinite b
  | .finite a x, .finite b y =>
    let sum := signedUnits a x + signedUnits b y
    if sum = 0 then ofRank (a && b) 0 else ofRatio (sum < 0) sum.natAbs 1

def mul : Binary64 → Binary64 → Binary64
  | .nan, _ => .nan
  | _, .nan => .nan
  | .infinite a, .infinite b => .infinite (a != b)
  | .infinite a, .finite b y => if y.val = 0 then .nan else .infinite (a != b)
  | .finite a x, .infinite b => if x.val = 0 then .nan else .infinite (a != b)
  | .finite a x, .finite b y => ofRatio (a != b) (units x * units y) unit

def div : Binary64 → Binary64 → Binary64
  | .nan, _ => .nan
  | _, .nan => .nan
  | .infinite _, .infinite _ => .nan
  | .infinite a, .finite b _ => .infinite (a != b)
  | .finite a _, .infinite b => ofRank (a != b) 0
  | .finite a x, .finite b y =>
    if y.val = 0 then
      if x.val = 0 then .nan else .infinite (a != b)
    else ofRatio (a != b) (units x * unit) (units y)

def ofInt (n : Int) : Binary64 := ofRatio (n < 0) (n.natAbs * unit) 1

def isWhole : Binary64 → Bool
  | .finite _ rank => units rank % unit == 0
  | _ => false

def truncate (low high : Int) : Binary64 → Int
  | .nan => 0
  | .infinite negative => if negative then low else high
  | .finite negative rank =>
    let whole : Int := (units rank / unit : Nat)
    max low (min high (if negative then -whole else whole))

end TableQuery.Binary64
