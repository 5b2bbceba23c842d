import TableQuery.Binary64.Shortest

/-! The two ways to write a double. The plain text has a point only before a fraction and never an
exponent, and takes the upper of two equally short texts. The data text always shows that the number
is not an integer, leaves positional notation outside `1e-5` to `1e16`, and takes the even one. -/

namespace TableQuery.Binary64

open Text (digitChars)

def zeros (n : Nat) : List Char := List.replicate n '0'

/-- Digits with the point at the place that the exponent of the last digit gives; `whole` follows
when no digit stands after the point. -/
def positional (whole : List Char) (digits : List Char) (exponent : Int) : List Char :=
  if 0 ≤ exponent then digits ++ zeros exponent.toNat ++ whole
  else
    let places := (-exponent).toNat
    if places < digits.length then
      digits.take (digits.length - places) ++ '.' :: digits.drop (digits.length - places)
    else ['0', '.'] ++ zeros (places - digits.length) ++ digits

def scientific (digits : List Char) (lead : Int) : List Char :=
  let mantissa := match digits with
    | first :: second :: rest => first :: '.' :: second :: rest
    | _ => digits
  mantissa ++ ['e', if lead < 0 then '-' else '+'] ++ digitChars lead.natAbs

def withSign (negative : Bool) (text : List Char) : List Char :=
  if negative then '-' :: text else text

def plain : Binary64 → List Char
  | .nan => ['N', 'a', 'N']
  | .infinite negative => withSign negative ['i', 'n', 'f']
  | .finite negative rank =>
    let (digits, exponent) := shortest .upper rank
    withSign negative (positional [] digits exponent)

def data? : Binary64 → Option (List Char)
  | .finite negative rank =>
    let (digits, exponent) := shortest .even rank
    let lead := exponent + digits.length - 1
    some (withSign negative
      (if -5 ≤ lead ∧ lead < 16 then positional ['.', '0'] digits exponent
       else scientific digits lead))
  | _ => none

def toText (x : Binary64) : String := String.ofList x.plain

end TableQuery.Binary64
