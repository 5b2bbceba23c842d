import TableQuery.Proofs.Rounding
import TableQuery.Proofs.StableSort

/-! How integer cells sort. Cells compare by their numeric readings, which are doubles, and a double
holds 53 significant bits where an integer has 64. Rounding keeps the order, so no two integers
compare the wrong way round. But integers that share their nearest double compare equal, and a
column of them keeps the order that it had. -/

namespace TableQuery.Binary64

def wholeRank (n : Nat) : Nat := rankOf (n * unit) 1

theorem wholeRank_mono {m n : Nat} (least : m ≤ n) : wholeRank m ≤ wholeRank n :=
  rankOf_mono 1 (Nat.mul_le_mul_right unit least)

theorem wholeRank_lt_limit (n : Int64) : wholeRank n.toInt.natAbs < limit := by
  have low := n.le_toInt
  have high := n.toInt_lt
  have within : n.toInt.natAbs ≤ 9223372036854775808 := by omega
  have largest : wholeRank 9223372036854775808 < limit := by decide +kernel
  exact Nat.lt_of_le_of_lt (wholeRank_mono within) largest

theorem orderKey_ofRank (negative : Bool) (rank : Nat) :
    (ofRank negative rank).orderKey =
      if negative then -1 - ((min rank limit : Nat) : Int) else ((min rank limit : Nat) : Int) := by
  rw [ofRank]
  split
  next inside =>
    rw [Nat.min_eq_left (Nat.le_of_lt inside)]
    rfl
  next outside =>
    rw [Nat.min_eq_right (Nat.le_of_not_lt outside)]
    rfl

theorem orderKey_ofInt (n : Int) :
    (ofInt n).orderKey =
      if n < 0 then -1 - ((min (wholeRank n.natAbs) limit : Nat) : Int)
      else ((min (wholeRank n.natAbs) limit : Nat) : Int) := by
  rw [ofInt, ofRatio, orderKey_ofRank]
  simp only [decide_eq_true_eq, wholeRank]

theorem orderKey_ofInt_mono {i j : Int} (least : i ≤ j) :
    (ofInt i).orderKey ≤ (ofInt j).orderKey := by
  rw [orderKey_ofInt, orderKey_ofInt]
  split
  next below =>
    split
    next below' =>
      have ranks := wholeRank_mono (show j.natAbs ≤ i.natAbs by omega)
      omega
    next => omega
  next above =>
    rw [if_neg (by omega)]
    have ranks := wholeRank_mono (show i.natAbs ≤ j.natAbs by omega)
    omega

theorem orderKey_injective {x y : Binary64} (same : x.orderKey = y.orderKey) : x = y := by
  cases x <;> cases y <;> grind [orderKey]

theorem toInt_eq_of_holds {i j : Int64} (left : Holds i.toInt.natAbs) (right : Holds j.toInt.natAbs)
    (same : ofInt i.toInt = ofInt j.toInt) : i.toInt = j.toInt := by
  have keys := congrArg orderKey same
  have inside := wholeRank_lt_limit i
  have inside' := wholeRank_lt_limit j
  have apart (ranks : wholeRank i.toInt.natAbs = wholeRank j.toInt.natAbs) :
      i.toInt.natAbs = j.toInt.natAbs := eq_of_rankOf_eq left right ranks
  rw [orderKey_ofInt, orderKey_ofInt, Nat.min_eq_left (Nat.le_of_lt inside),
    Nat.min_eq_left (Nat.le_of_lt inside')] at keys
  split at keys <;> split at keys <;> omega

end TableQuery.Binary64

namespace TableQuery

theorem Cell.compare_eq_compare? (a b : Cell) : a.compare b = Cell.compare? (some a) (some b) := rfl

theorem Cell.compare_integer (i j : Int64) :
    Cell.compare (.integer i) (.integer j) =
      Ord.compare (Binary64.ofInt i.toInt).orderKey (Binary64.ofInt j.toInt).orderKey := by
  have reads (n : Int64) : (Cell.integer n).number? = some (.ofInt n.toInt) := by
    rw [Cell.number?]
  rw [Cell.compare_eq_compare?, Cell.compare?_of_numbers (reads i) (reads j)]

/-- Integer cells compare as the integers do, unless the integers share their nearest double. -/
theorem Cell.compare_integer_eq (i j : Int64) :
    Cell.compare (.integer i) (.integer j) =
      if Binary64.ofInt i.toInt = Binary64.ofInt j.toInt then .eq
      else Ord.compare i.toInt j.toInt := by
  rw [compare_integer]
  split
  next same => rw [same, Int.compare_eq_eq]
  next apart =>
    have differ : (Binary64.ofInt i.toInt).orderKey ≠ (Binary64.ofInt j.toInt).orderKey :=
      fun same => apart (Binary64.orderKey_injective same)
    rcases Int.lt_trichotomy i.toInt j.toInt with less | same | more
    · have least := Binary64.orderKey_ofInt_mono (Int.le_of_lt less)
      rw [Int.compare_eq_lt.mpr less, Int.compare_eq_lt]
      omega
    · rw [same] at apart
      exact absurd rfl apart
    · have least := Binary64.orderKey_ofInt_mono (Int.le_of_lt more)
      rw [Int.compare_eq_gt.mpr more, Int.compare_eq_gt]
      omega

theorem Cell.compare_integer_iff (i j : Int64) :
    Cell.compare (.integer i) (.integer j) = Ord.compare i.toInt j.toInt ↔
      (Binary64.ofInt i.toInt = Binary64.ofInt j.toInt → i.toInt = j.toInt) := by
  rw [compare_integer_eq]
  split
  next same => rw [eq_comm, Int.compare_eq_eq, forall_prop_of_true same]
  next apart => exact iff_of_true rfl fun same => absurd same apart

theorem Cell.compare_integer_of_holds {i j : Int64} (left : Binary64.Holds i.toInt.natAbs)
    (right : Binary64.Holds j.toInt.natAbs) :
    Cell.compare (.integer i) (.integer j) = Ord.compare i.toInt j.toInt :=
  (compare_integer_iff i j).mpr (Binary64.toInt_eq_of_holds left right)

namespace Table

theorem sortByKeys_column_rises (table : Table) {field : FieldRef} {column : Nat}
    (known : table.resolve field = some column) (keys : List SortKey) :
    (table.sortByKeys ({ field := field } :: keys)).rows.Pairwise fun a b =>
      Cell.compare? a[column]? b[column]? ≠ .gt := by
  have resolved : table.resolvedKeys ({ field := field } :: keys) =
      (column, { field := field }) :: table.resolvedKeys keys := by
    rw [resolvedKeys, List.filterMap_cons_some (by rw [known]; rfl)]
    rfl
  have ordered := (stablySorted_mergeSort (table.rowOrder ({ field := field } :: keys))
    table.rows).ordered
  refine ordered.imp fun {a b} least larger => least ?_
  rw [rowOrder, resolved, compareRows, Ordering.then_eq_gt]
  exact .inl larger

/-- Integer cells sort by their nearest doubles. Two of them compare as their integers do exactly
when these are the same or have different doubles, as all integers of at most 53 significant bits
have, and they compare equal otherwise. So a column sorted by an order clause is in the order of its
integers, except that those with one double between them may stand in any order. -/
theorem integers_sort_by_double (i j : Int64) (table : Table) (clause name : String)
    (keys : List SortKey) (column : Nat) :
    (Cell.compare (.integer i) (.integer j) = Ord.compare i.toInt j.toInt ↔
      (Binary64.ofInt i.toInt = Binary64.ofInt j.toInt → i.toInt = j.toInt)) ∧
    (Binary64.ofInt i.toInt = Binary64.ofInt j.toInt →
      Cell.compare (.integer i) (.integer j) = .eq) ∧
    (Binary64.Holds i.toInt.natAbs → Binary64.Holds j.toInt.natAbs →
      Cell.compare (.integer i) (.integer j) = Ord.compare i.toInt j.toInt) ∧
    (SortKey.ofClause clause = { field := .name name } :: keys →
      table.fieldIndex? name = some column →
      (table.orderBy clause).rows.Pairwise fun a b => ∀ m n : Int64,
        a[column]? = some (.integer m) → b[column]? = some (.integer n) →
        (m.toInt ≤ n.toInt ∨ Binary64.ofInt m.toInt = Binary64.ofInt n.toInt) ∧
        (Binary64.Holds m.toInt.natAbs → Binary64.Holds n.toInt.natAbs → m.toInt ≤ n.toInt)) := by
  refine ⟨Cell.compare_integer_iff i j, fun same => ?_, Cell.compare_integer_of_holds, ?_⟩
  · rw [Cell.compare_integer_eq, if_pos same]
  · intro first known
    have bound : table.resolve (.name name) = some column := known
    rw [orderBy, first]
    refine (table.sortByKeys_column_rises bound keys).imp ?_
    intro a b least m n here there
    rw [here, there, ← Cell.compare_eq_compare?] at least
    refine ⟨?_, fun left right => ?_⟩
    · rw [Cell.compare_integer_eq] at least
      split at least
      next same => exact .inr same
      next => exact .inl (Int.not_lt.mp fun more => least (Int.compare_eq_gt.mpr more))
    · rw [Cell.compare_integer_of_holds left right] at least
      exact Int.not_lt.mp fun more => least (Int.compare_eq_gt.mpr more)

/-- Two neighbours from `2 ^ 53` on compare equal, and a column with the larger one in front stays
as it is when it is sorted. -/
theorem neighbours_compare_equal :
    let small : Int64 := 9007199254740992
    let large : Int64 := 9007199254740993
    let table : Table := { fields := ["n"], rows := [[.integer large], [.integer small]] }
    small.toInt < large.toInt ∧
      Cell.compare (.integer small) (.integer large) = .eq ∧
      (table.orderBy "n").rows = [[.integer large], [.integer small]] := by
  intro small large table
  refine ⟨by decide, by decide +kernel, ?_⟩
  rw [orderBy, sortByKeys]
  exact List.mergeSort_of_pairwise (by decide +kernel)

end Table

end TableQuery
