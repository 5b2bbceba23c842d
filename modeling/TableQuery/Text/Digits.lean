/-! Decimal digits and the integers they write. Only the ten ASCII digits count. -/

namespace TableQuery.Text

def digitValue (c : Char) : Nat := c.toNat - '0'.toNat

def natOfDigits (digits : List Char) : Nat := digits.foldl (fun n c => 10 * n + digitValue c) 0

def natural? (text : List Char) : Option Nat :=
  if text.isEmpty || !text.all Char.isDigit then none else some (natOfDigits text)

def cutSign : List Char → Bool × List Char
  | '-' :: rest => (true, rest)
  | '+' :: rest => (false, rest)
  | text => (false, text)

def integer? (text : List Char) : Option Int :=
  let (negative, digits) := cutSign text
  (natural? digits).map fun n => if negative then -(n : Int) else n

/-- A natural below `2 ^ 64`, with a plus sign or none. -/
def count? (text : List Char) : Option Nat :=
  match text with
  | '-' :: _ => none
  | _ => (natural? (cutSign text).2).filter (· < UInt64.size)

def wordOf? (n : Int) : Option Int64 :=
  if Int64.minValue.toInt ≤ n ∧ n ≤ Int64.maxValue.toInt then some (.ofInt n) else none

theorem wordOf?_toInt (n : Int64) : wordOf? n.toInt = some n := by
  rw [wordOf?, if_pos ⟨n.minValue_le_toInt, n.toInt_le⟩, Int64.ofInt_toInt]

def word? (text : List Char) : Option Int64 := (integer? text).bind wordOf?

def digitChars (n : Nat) : List Char := Nat.toDigits 10 n

def wordChars (n : Int64) : List Char :=
  if n.toInt < 0 then '-' :: digitChars n.toInt.natAbs else digitChars n.toInt.natAbs

end TableQuery.Text
