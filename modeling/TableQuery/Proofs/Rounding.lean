import Mathlib.Algebra.Group.Int.Defs
import Mathlib.Algebra.Group.Nat.Defs
import TableQuery.Binary64.Arithmetic

/-! Rounding to doubles. The rank of a quotient is the start of its binade and what the quotient,
rounded, adds to it; what it adds runs over one binade, so rounding never turns two quotients round,
not even across binades. Equal quotients have equal ranks. A quotient that is a whole number of
steps of its binade keeps its value, and so whole numbers of at most 53 significant bits are told
apart, and the magnitude of each rank has that rank. -/

namespace TableQuery.Binary64

/-- The binade of a quotient: from its first rank on the ranks are `2 ^ binade` units apart. -/
def binadeOf (numerator denominator : Nat) : Nat := (numerator / denominator).log2 - 52

theorem rankOf_eq (numerator denominator : Nat) :
    rankOf numerator denominator =
      binadeOf numerator denominator * binadeSize +
        nearest numerator (denominator * 2 ^ binadeOf numerator denominator) := rfl

theorem nearest_bounds (numerator denominator : Nat) :
    numerator / denominator ≤ nearest numerator denominator ∧
      nearest numerator denominator ≤ numerator / denominator + 1 := by
  rw [nearest]
  split <;> omega

/-- Rounding to the nearest natural keeps the order. Quotients with one whole part differ in the
remainder, and others have a natural between them. -/
theorem nearest_mono {a b : Nat} (denominator : Nat) (least : a ≤ b) :
    nearest a denominator ≤ nearest b denominator := by
  have wholes : a / denominator ≤ b / denominator := Nat.div_le_div_right least
  rcases Nat.eq_or_lt_of_le wholes with same | apart
  · have a_parts := Nat.div_add_mod a denominator
    have b_parts := Nat.div_add_mod b denominator
    rw [same] at a_parts
    have remainders : a % denominator ≤ b % denominator := by omega
    simp only [nearest, same]
    split <;> split <;> omega
  · have below := (nearest_bounds a denominator).2
    have above := (nearest_bounds b denominator).1
    omega

theorem binadeOf_mono {a b : Nat} (denominator : Nat) (least : a ≤ b) :
    binadeOf a denominator ≤ binadeOf b denominator := by
  have wholes : a / denominator ≤ b / denominator := Nat.div_le_div_right least
  have logs : (a / denominator).log2 ≤ (b / denominator).log2 := by
    by_cases nothing : a / denominator = 0
    · rw [nothing, Nat.log2_zero]
      exact Nat.zero_le _
    · have powers := Nat.le_trans (Nat.log2_self_le nothing) wholes
      have present : b / denominator ≠ 0 := by
        intro empty
        rw [empty] at wholes
        exact nothing (Nat.le_zero.mp wholes)
      exact (Nat.le_log2 present).mpr powers
  exact Nat.sub_le_sub_right logs 52

theorem steps_lt (numerator denominator : Nat) :
    numerator / (denominator * 2 ^ binadeOf numerator denominator) < 2 ^ 53 := by
  rw [← Nat.div_div_eq_div_mul, Nat.div_lt_iff_lt_mul (Nat.two_pow_pos _), ← Nat.pow_add]
  refine Nat.lt_of_lt_of_le Nat.lt_log2_self (Nat.pow_le_pow_right (by omega) ?_)
  rw [binadeOf]
  omega

theorem le_steps {numerator denominator : Nat} (later : 0 < binadeOf numerator denominator) :
    2 ^ 52 ≤ numerator / (denominator * 2 ^ binadeOf numerator denominator) := by
  rw [binadeOf] at later
  have present : numerator / denominator ≠ 0 := by
    intro nothing
    rw [nothing, Nat.log2_zero] at later
    omega
  rw [← Nat.div_div_eq_div_mul, Nat.le_div_iff_mul_le (Nat.two_pow_pos _), ← Nat.pow_add]
  refine Nat.le_trans (Nat.pow_le_pow_right (by omega) ?_) (Nat.log2_self_le present)
  rw [binadeOf]
  omega

theorem rankOf_le (numerator denominator : Nat) :
    rankOf numerator denominator ≤ (binadeOf numerator denominator + 2) * binadeSize := by
  have steps := steps_lt numerator denominator
  have rounded := (nearest_bounds numerator
    (denominator * 2 ^ binadeOf numerator denominator)).2
  have two : 2 * binadeSize = 2 ^ 53 := rfl
  rw [rankOf_eq, Nat.add_mul]
  omega

theorem le_rankOf {numerator denominator : Nat} (later : 0 < binadeOf numerator denominator) :
    (binadeOf numerator denominator + 1) * binadeSize ≤ rankOf numerator denominator := by
  have steps := le_steps later
  have rounded := (nearest_bounds numerator
    (denominator * 2 ^ binadeOf numerator denominator)).1
  have one : binadeSize = 2 ^ 52 := rfl
  rw [rankOf_eq, Nat.add_mul]
  omega

/-- Rounding to doubles keeps the order: in one binade by the rounding to naturals, and across
binades since the ranks of an earlier one end where those of a later one start. -/
theorem rankOf_mono {a b : Nat} (denominator : Nat) (least : a ≤ b) :
    rankOf a denominator ≤ rankOf b denominator := by
  rcases Nat.eq_or_lt_of_le (binadeOf_mono denominator least) with same | apart
  · rw [rankOf_eq, rankOf_eq, same]
    exact Nat.add_le_add_left (nearest_mono _ least) _
  · calc rankOf a denominator
      _ ≤ (binadeOf a denominator + 2) * binadeSize := rankOf_le a denominator
      _ ≤ (binadeOf b denominator + 1) * binadeSize := Nat.mul_le_mul_right _ (by omega)
      _ ≤ rankOf b denominator := le_rankOf (by omega)

theorem nearest_scaled (numerator denominator : Nat) {factor : Nat} (positive : 0 < factor) :
    nearest (numerator * factor) (denominator * factor) = nearest numerator denominator := by
  have larger : denominator * factor < 2 * (numerator % denominator * factor) ↔
      denominator < 2 * (numerator % denominator) := by
    rw [← Nat.mul_assoc, Nat.mul_lt_mul_right positive]
  have half : 2 * (numerator % denominator * factor) = denominator * factor ↔
      2 * (numerator % denominator) = denominator := by
    rw [← Nat.mul_assoc, Nat.mul_right_cancel_iff positive]
  simp only [nearest, Nat.mul_div_mul_right _ _ positive, Nat.mul_mod_mul_right, larger, half]

theorem rankOf_scaled (numerator denominator : Nat) {factor : Nat} (positive : 0 < factor) :
    rankOf (numerator * factor) (denominator * factor) = rankOf numerator denominator := by
  have binade : binadeOf (numerator * factor) (denominator * factor) =
      binadeOf numerator denominator := by
    rw [binadeOf, binadeOf, Nat.mul_div_mul_right _ _ positive]
  rw [rankOf_eq, rankOf_eq, binade, Nat.mul_right_comm denominator, nearest_scaled _ _ positive]

theorem rankOf_eq_of_mul_eq {a b c d : Nat} (left : 0 < b) (right : 0 < d)
    (same : a * d = c * b) : rankOf a b = rankOf c d := by
  rw [← rankOf_scaled a b right, same, Nat.mul_comm b d, rankOf_scaled c d left]

theorem rankOf_of_small {numerator denominator : Nat} (small : 2 * numerator < denominator) :
    rankOf numerator denominator = 0 := by
  have quotient : numerator / denominator = 0 := Nat.div_eq_of_lt (by omega)
  have remainder : numerator % denominator = numerator := Nat.mod_eq_of_lt (by omega)
  have binade : binadeOf numerator denominator = 0 := by
    rw [binadeOf, quotient, Nat.log2_zero]
  rw [rankOf_eq, binade, Nat.zero_mul, Nat.zero_add, Nat.pow_zero, Nat.mul_one, nearest, quotient,
    remainder, if_neg (by omega)]

theorem rankOf_zero (denominator : Nat) : rankOf 0 denominator = 0 := by
  have binade : binadeOf 0 denominator = 0 := by
    rw [binadeOf, Nat.zero_div, Nat.log2_zero]
  rw [rankOf_eq, binade, Nat.zero_mul, Nat.zero_add, nearest, Nat.zero_div, Nat.zero_mod,
    if_neg (by omega)]

theorem nearest_of_dvd {numerator denominator : Nat} (divides : denominator ∣ numerator)
    (positive : 0 < denominator) : nearest numerator denominator = numerator / denominator := by
  have remainder : numerator % denominator = 0 := Nat.mod_eq_zero_of_dvd divides
  rw [nearest, remainder, if_neg (by omega)]

theorem units_of_steps {steps : Nat} (binade : Nat) (low : binadeSize ≤ steps)
    (high : steps < 2 * binadeSize) :
    units (binade * binadeSize + steps) = steps * 2 ^ binade := by
  have size : binadeSize = 4503599627370496 := rfl
  have place : (binade * binadeSize + steps) / binadeSize - 1 = binade := by
    rw [size] at low high ⊢
    omega
  have within : binadeSize + (binade * binadeSize + steps) % binadeSize = steps := by
    rw [size] at low high ⊢
    omega
  rw [units, if_neg (by omega), place, within]
  rfl

theorem units_rankOf {magnitude : Nat} (divides : 2 ^ binadeOf magnitude 1 ∣ magnitude) :
    units (rankOf magnitude 1) = magnitude := by
  have fewer := steps_lt magnitude 1
  have whole := Nat.div_mul_cancel divides
  rw [rankOf_eq, Nat.one_mul, nearest_of_dvd divides (Nat.two_pow_pos _)]
  rw [Nat.one_mul] at fewer
  rcases Nat.lt_or_ge (magnitude / 2 ^ binadeOf magnitude 1) binadeSize with small | large
  · have first : binadeOf magnitude 1 = 0 := by
      refine Nat.eq_zero_of_not_pos fun later => ?_
      have steps := le_steps later
      rw [Nat.one_mul] at steps
      exact absurd steps (Nat.not_le.mpr small)
    rw [first, Nat.pow_zero, Nat.div_one] at small ⊢
    rw [Nat.zero_mul, Nat.zero_add, units, if_pos small]
  · rw [units_of_steps _ large fewer, whole]

theorem rankOf_units (rank : Nat) : rankOf (units rank) 1 = rank := by
  rw [rankOf_eq, Nat.one_mul]
  rcases Nat.lt_or_ge rank binadeSize with first | later
  · have bits : rank.log2 ≤ 52 := by
      by_cases nothing : rank = 0
      · rw [nothing, Nat.log2_zero]
        omega
      · exact Nat.le_of_lt ((Nat.log2_lt nothing).mpr first)
    have binade : binadeOf rank 1 = 0 := by
      rw [binadeOf, Nat.div_one]
      omega
    rw [units, if_pos first, binade, Nat.pow_zero, nearest_of_dvd (Nat.one_dvd rank) Nat.one_pos,
      Nat.div_one, Nat.zero_mul, Nat.zero_add]
  · have parts := Nat.div_add_mod rank binadeSize
    have within := Nat.mod_lt rank (show 0 < binadeSize by decide)
    have present : 1 ≤ rank / binadeSize := (Nat.one_le_div_iff (by decide)).mpr later
    obtain ⟨binade, next⟩ := Nat.exists_eq_add_of_le' present
    have magnitude : units rank = (binadeSize + rank % binadeSize) * 2 ^ binade := by
      rw [units, if_neg (by omega), next]
      rfl
    have bounds : 2 ^ (52 + binade) ≤ units rank ∧ units rank < 2 ^ (52 + binade + 1) := by
      rw [magnitude, Nat.pow_succ', Nat.pow_add, ← Nat.mul_assoc]
      exact ⟨Nat.mul_le_mul_right _ (Nat.le_add_right binadeSize _),
        Nat.mul_lt_mul_of_pos_right (show _ < 2 * binadeSize by omega) (Nat.two_pow_pos _)⟩
    have nonzero : units rank ≠ 0 :=
      Nat.pos_iff_ne_zero.mp (Nat.lt_of_lt_of_le (Nat.two_pow_pos _) bounds.1)
    have found : binadeOf (units rank) 1 = binade := by
      rw [binadeOf, Nat.div_one, (Nat.log2_eq_iff nonzero).mpr bounds, Nat.add_sub_cancel_left]
    rw [found, magnitude, nearest_of_dvd (Nat.dvd_mul_left _ _) (Nat.two_pow_pos _),
      Nat.mul_div_cancel _ (Nat.two_pow_pos _), ← Nat.add_assoc, ← Nat.add_one_mul, ← next,
      Nat.mul_comm, parts]

theorem unit_eq_pow : ∃ places, unit = 2 ^ places := by
  unfold unit
  generalize 1074 = places
  exact ⟨places, rfl⟩

/-- Whole numbers that a double holds as they are: those of at most 53 significant bits. -/
def Holds (n : Nat) : Prop :=
  ∃ significand shift, n = significand * 2 ^ shift ∧ significand < 2 ^ 53

theorem units_rankOf_of_holds {n : Nat} (held : Holds n) :
    units (rankOf (n * unit) 1) = n * unit := by
  obtain ⟨significand, shift, rfl, short⟩ := held
  obtain ⟨places, unit_eq⟩ := unit_eq_pow
  have spread : significand * 2 ^ shift * unit = significand * 2 ^ (shift + places) := by
    rw [Nat.pow_add, Nat.mul_assoc, unit_eq]
  rw [spread]
  refine units_rankOf (Nat.dvd_mul_left_of_dvd (Nat.pow_dvd_pow 2 ?_) _)
  rw [binadeOf, Nat.div_one]
  by_cases nothing : significand * 2 ^ (shift + places) = 0
  · rw [nothing, Nat.log2_zero]
    omega
  · have bits : (significand * 2 ^ (shift + places)).log2 < 53 + (shift + places) := by
      rw [Nat.log2_lt nothing, Nat.pow_add 2 53]
      exact Nat.mul_lt_mul_of_pos_right short (Nat.two_pow_pos _)
    omega

/-- Rounding tells whole numbers apart that a double holds. -/
theorem eq_of_rankOf_eq {m n : Nat} (left : Holds m) (right : Holds n)
    (same : rankOf (m * unit) 1 = rankOf (n * unit) 1) : m = n := by
  have values := congrArg units same
  rw [units_rankOf_of_holds left, units_rankOf_of_holds right] at values
  obtain ⟨places, unit_eq⟩ := unit_eq_pow
  rw [unit_eq] at values
  exact Nat.eq_of_mul_eq_mul_right (Nat.two_pow_pos places) values

end TableQuery.Binary64
