import TableQuery.Binary64.Written
import TableQuery.Proofs.Rounding

/-! Doubles written and read again. Digits with a power of ten are read as the rank nearest to their
value, whatever the power is, so zeros may be moved from the digits into the power. The digits that
are written for a rank are read as this rank, wherever the point stands among them, and so every
double but not-a-number comes back from its text. -/

namespace TableQuery

namespace Text

theorem natOfDigits_eq (digits : List Char) :
    natOfDigits digits = Nat.ofDigitChars 10 digits 0 := by
  rfl

theorem natOfDigits_append_zeros (digits : List Char) (n : Nat) :
    natOfDigits (digits ++ List.replicate n '0') = natOfDigits digits * 10 ^ n := by
  rw [natOfDigits_eq, natOfDigits_eq, Nat.ofDigitChars_append, Nat.ofDigitChars_replicate_zero,
    Nat.mul_comm]

theorem natOfDigits_zeros_append (n : Nat) (digits : List Char) :
    natOfDigits (List.replicate n '0' ++ digits) = natOfDigits digits := by
  rw [natOfDigits_eq, natOfDigits_eq, Nat.ofDigitChars_append, Nat.ofDigitChars_replicate_zero,
    Nat.mul_zero]

theorem natOfDigits_digitChars (n : Nat) : natOfDigits (digitChars n) = n := by
  rw [natOfDigits_eq, digitChars, Nat.ofDigitChars_ten_toDigits]

theorem isDigit_of_mem_digitChars {n : Nat} {c : Char} (member : c ∈ digitChars n) :
    c.isDigit = true := Nat.isDigit_of_mem_toDigits (by decide) (by decide) member

theorem starts_digitChars (n : Nat) : ∃ c ∈ (digitChars n).head?, c.isDigit = true := by
  have present : digitChars n ≠ [] := Nat.toDigits_ne_nil
  refine ⟨(digitChars n).head present, List.head?_eq_some_head present, ?_⟩
  exact isDigit_of_mem_digitChars (List.head_mem present)

end Text

namespace Binary64

open Text (digitChars natOfDigits)

def decimalRank (digits : Nat) (exponent : Int) : Nat :=
  rankOf (digits * 10 ^ exponent.toNat * unit) (10 ^ (-exponent).toNat)

theorem decimalRank_zero (exponent : Int) : decimalRank 0 exponent = 0 := by
  unfold decimalRank
  rw [Nat.zero_mul, Nat.zero_mul, rankOf_zero]

theorem limit_le_decimalRank {digits : Nat} (present : digits ≠ 0) {exponent : Int}
    (large : 400 ≤ exponent) : limit ≤ decimalRank digits exponent := by
  have first : limit ≤ rankOf (10 ^ 400 * unit) 1 := by decide +kernel
  have power {least : Nat} (below : least ≤ exponent.toNat) :
      10 ^ least ≤ digits * 10 ^ exponent.toNat :=
    calc 10 ^ least
      _ ≤ 10 ^ exponent.toNat := Nat.pow_le_pow_right (by decide) below
      _ ≤ digits * 10 ^ exponent.toNat := Nat.le_mul_of_pos_left _ (Nat.pos_of_ne_zero present)
  have whole : (-exponent).toNat = 0 := by omega
  unfold decimalRank
  rw [whole, Nat.pow_zero]
  apply Nat.le_trans first
  apply rankOf_mono
  apply Nat.mul_le_mul_right
  apply power
  omega

theorem decimalRank_of_small (digits : Nat) {exponent : Int}
    (small : exponent ≤ -(400 + digits.log2 : Int)) : decimalRank digits exponent = 0 := by
  have nothing : exponent.toNat = 0 := by omega
  have last : 4 * unit < 10 ^ 400 := by decide +kernel
  have leading : digits ≤ 2 * 10 ^ digits.log2 :=
    calc digits
      _ ≤ 2 ^ (digits.log2 + 1) := Nat.le_of_lt Nat.lt_log2_self
      _ = 2 * 2 ^ digits.log2 := Nat.pow_succ'
      _ ≤ 2 * 10 ^ digits.log2 := Nat.mul_le_mul_left 2 (Nat.pow_le_pow_left (by decide) _)
  unfold decimalRank
  rw [nothing, Nat.pow_zero, Nat.mul_one]
  apply rankOf_of_small
  calc 2 * (digits * unit)
    _ ≤ 2 * (2 * 10 ^ digits.log2 * unit) :=
      Nat.mul_le_mul_left 2 (Nat.mul_le_mul_right unit leading)
    _ = 4 * unit * 10 ^ digits.log2 := by
      rw [← Nat.mul_assoc, ← Nat.mul_assoc, Nat.mul_right_comm]
    _ < 10 ^ 400 * 10 ^ digits.log2 := Nat.mul_lt_mul_of_pos_right last (Nat.pow_pos (by decide))
    _ = 10 ^ (400 + digits.log2) := by rw [Nat.pow_add]
    _ ≤ 10 ^ (-exponent).toNat := Nat.pow_le_pow_right (by decide) (by omega)

theorem ofRank_of_limit_le (negative : Bool) {rank : Nat} (large : limit ≤ rank) :
    ofRank negative rank = .infinite negative := by
  unfold ofRank
  rw [dif_neg (Nat.not_lt.mpr large)]

/-- A decimal is read as the number nearest to it; exponents are only cut where this changes
nothing. -/
theorem ofDecimal_eq (negative : Bool) (digits : Nat) (exponent : Int) :
    ofDecimal negative digits exponent = ofRank negative (decimalRank digits exponent) := by
  have kept : ofDecimal negative digits exponent =
      ofRank negative (decimalRank digits (usefulExponent digits exponent)) := rfl
  rw [kept]
  by_cases nothing : digits = 0
  · rw [nothing, decimalRank_zero, decimalRank_zero]
  unfold usefulExponent
  rcases Int.lt_or_le 400 exponent with large | bounded
  · have most : max (-(400 + digits.log2 : Int)) (min 400 exponent) = 400 := by omega
    rw [most, ofRank_of_limit_le negative (limit_le_decimalRank nothing (Int.le_refl 400)),
      ofRank_of_limit_le negative (limit_le_decimalRank nothing (Int.le_of_lt large))]
  · rcases Int.lt_or_le exponent (-(400 + digits.log2 : Int)) with small | inside
    · have least : max (-(400 + digits.log2 : Int)) (min 400 exponent) =
          -(400 + digits.log2 : Int) := by omega
      rw [least, decimalRank_of_small digits (Int.le_refl _),
        decimalRank_of_small digits (Int.le_of_lt small)]
    · have same : max (-(400 + digits.log2 : Int)) (min 400 exponent) = exponent := by omega
      rw [same]

theorem decimalRank_zeros (digits zeros : Nat) (exponent : Int) :
    decimalRank (digits * 10 ^ zeros) exponent = decimalRank digits (exponent + zeros) := by
  have powers : 10 ^ zeros * 10 ^ exponent.toNat * 10 ^ (-(exponent + zeros)).toNat =
      10 ^ (exponent + zeros).toNat * 10 ^ (-exponent).toNat := by
    rw [← Nat.pow_add, ← Nat.pow_add, ← Nat.pow_add]
    congr 1
    omega
  unfold decimalRank
  apply rankOf_eq_of_mul_eq (Nat.pow_pos (by decide)) (Nat.pow_pos (by decide))
  generalize unit = one
  calc digits * 10 ^ zeros * 10 ^ exponent.toNat * one * 10 ^ (-(exponent + zeros)).toNat
    _ = digits * one * (10 ^ zeros * 10 ^ exponent.toNat * 10 ^ (-(exponent + zeros)).toNat) := by
      ac_rfl
    _ = digits * one * (10 ^ (exponent + zeros).toNat * 10 ^ (-exponent).toNat) := by rw [powers]
    _ = digits * 10 ^ (exponent + zeros).toNat * one * 10 ^ (-exponent).toNat := by ac_rfl

theorem decimalRank_exact (rank : Nat) :
    decimalRank (exact (units rank)).digits (exact (units rank)).exponent = rank := by
  have digits : (exact (units rank)).digits = units rank * Nat.pow 5 1074 := rfl
  have above : (exact (units rank)).exponent.toNat = 0 := rfl
  have below : (-(exact (units rank)).exponent).toNat = 1074 := rfl
  have halves : Nat.pow 5 1074 * unit = 10 ^ 1074 := by decide +kernel
  unfold decimalRank
  rw [above, below, Nat.pow_zero, Nat.mul_one]
  calc rankOf ((exact (units rank)).digits * unit) (10 ^ 1074)
    _ = rankOf (units rank) 1 := by
      apply rankOf_eq_of_mul_eq (Nat.pow_pos (by decide)) Nat.one_pos
      rw [digits, Nat.mul_one, Nat.mul_assoc, halves]
    _ = rank := rankOf_units rank

theorem ofRank_inj {negative : Bool} {rank other : Nat} (inside : rank < limit)
    (same : ofRank negative other = ofRank negative rank) : other = rank := by
  unfold ofRank at same
  rw [dif_pos inside] at same
  split at same
  next => simpa using same
  next => simp at same

theorem kept_of_keptOf? {kept : Decimal → Bool} {below above decimal : Decimal}
    {lowerIsBetter : Bool} (found : keptOf? kept below above lowerIsBetter = some decimal) :
    kept decimal = true := by
  unfold keptOf? at found
  split at found
  next lower upper =>
    split at found
    next => rw [← Option.some.inj found, lower]
    next => rw [← Option.some.inj found, upper]
  next lower _ => rw [← Option.some.inj found, lower]
  next _ upper => rw [← Option.some.inj found, upper]
  next => simp at found

theorem readsBack_neighbour? {tie : Tie} {rank : Nat} {exponent : Int} {decimal : Decimal}
    (found : neighbour? tie rank exponent = some decimal) : readsBack rank decimal = true := by
  unfold neighbour? at found
  exact kept_of_keptOf? found

theorem selected_cases (tie : Tie) (rank : Nat) :
    readsBack rank (selected tie rank) = true ∨ selected tie rank = exact (units rank) := by
  unfold selected
  dsimp only
  cases search : (List.range 17).findSome? fun (more : Nat) =>
      neighbour? tie rank (leadingExponent (units rank) - more) with
  | some decimal =>
    obtain ⟨more, _, near⟩ := List.exists_of_findSome?_eq_some search
    left
    rw [Option.getD_some]
    exact readsBack_neighbour? near
  | none =>
    right
    rw [Option.getD_none]

theorem stripZeros_parts (digits : List Char) (exponent : Int) :
    ∃ zeros : Nat, digits = (stripZeros digits exponent).1 ++ List.replicate zeros '0' ∧
      (stripZeros digits exponent).2 = exponent + zeros := by
  have zeros : digits.reverse.takeWhile (· = '0') =
      List.replicate (digits.reverse.takeWhile (· = '0')).length '0' := by
    apply List.eq_replicate_of_mem
    intro c member
    simpa using List.all_eq_true.mp List.all_takeWhile c member
  refine ⟨(digits.reverse.takeWhile (· = '0')).length, ?_, rfl⟩
  calc digits
    _ = (digits.reverse.takeWhile (· = '0') ++ digits.reverse.dropWhile (· = '0')).reverse := by
      rw [List.takeWhile_append_dropWhile, List.reverse_reverse]
    _ = (stripZeros digits exponent).1 ++ (digits.reverse.takeWhile (· = '0')).reverse :=
      List.reverse_append
    _ = (stripZeros digits exponent).1 ++
        List.replicate (digits.reverse.takeWhile (· = '0')).length '0' := by
      rw [zeros, List.reverse_replicate, List.length_replicate]

theorem isDigit_of_mem_shortest {tie : Tie} {rank : Nat} {c : Char}
    (member : c ∈ (shortest tie rank).1) : c.isDigit = true := by
  unfold shortest at member
  split at member
  next =>
    rw [List.mem_singleton.mp member]
    decide
  next =>
    obtain ⟨zeros, parts, _⟩ :=
      stripZeros_parts (digitChars (selected tie rank).digits) (selected tie rank).exponent
    apply Text.isDigit_of_mem_digitChars
    rw [parts]
    exact List.mem_append_left _ member

section Shortest

variable {rank : Nat} (inside : rank < limit)
include inside

theorem decimalRank_of_readsBack {decimal : Decimal} (back : readsBack rank decimal = true) :
    decimalRank decimal.digits decimal.exponent = rank := by
  unfold readsBack at back
  rw [decide_eq_true_eq, ofDecimal_eq] at back
  exact ofRank_inj inside back

theorem decimalRank_selected (tie : Tie) :
    decimalRank (selected tie rank).digits (selected tie rank).exponent = rank := by
  rcases selected_cases tie rank with back | whole
  · exact decimalRank_of_readsBack inside back
  · rw [whole, decimalRank_exact]

theorem decimalRank_shortest (tie : Tie) :
    decimalRank (natOfDigits (shortest tie rank).1) (shortest tie rank).2 = rank := by
  unfold shortest
  split
  next nothing =>
    rw [nothing]
    exact decimalRank_zero 0
  next =>
    obtain ⟨zeros, parts, moved⟩ :=
      stripZeros_parts (digitChars (selected tie rank).digits) (selected tie rank).exponent
    have value : natOfDigits (stripZeros (digitChars (selected tie rank).digits)
        (selected tie rank).exponent).1 * 10 ^ zeros = (selected tie rank).digits := by
      rw [← Text.natOfDigits_append_zeros, ← parts, Text.natOfDigits_digitChars]
    rw [moved, ← decimalRank_zeros, value, decimalRank_selected inside]

theorem shortest_ne_nil (tie : Tie) : (shortest tie rank).1 ≠ [] := by
  intro nothing
  have same := decimalRank_shortest inside tie
  have zero : rank = 0 := by
    rw [← same, nothing]
    exact decimalRank_zero _
  simp [shortest, zero] at nothing

end Shortest

section Digits

theorem digits_cut {digits rest : List Char} (solid : ∀ c ∈ digits, c.isDigit = true)
    (stops : ∀ c ∈ rest.head?, c.isDigit = false) :
    (digits ++ rest).takeWhile Char.isDigit = digits ∧
      (digits ++ rest).dropWhile Char.isDigit = rest := by
  rw [List.takeWhile_append_of_pos solid, List.dropWhile_append_of_pos solid]
  cases rest with
  | nil => simp
  | cons c rest =>
    have other : c.isDigit = false := stops c rfl
    simp [other]

variable {whole : List Char} (solid : ∀ c ∈ whole, c.isDigit = true) (present : whole ≠ [])
include solid present

theorem decimal?_whole : decimal? whole = some (natOfDigits whole, 0) := by
  obtain ⟨taken, dropped⟩ := @digits_cut whole [] solid (by simp)
  rw [List.append_nil] at taken dropped
  simp [decimal?, taken, dropped, cutFraction, exponent?, present]

theorem decimal?_point {fraction : List Char} (others : ∀ c ∈ fraction, c.isDigit = true) :
    decimal? (whole ++ '.' :: fraction) =
      some (natOfDigits (whole ++ fraction), -(fraction.length : Int)) := by
  obtain ⟨taken, dropped⟩ := @digits_cut whole ('.' :: fraction) solid (by simp)
  obtain ⟨kept, ended⟩ := @digits_cut fraction [] others (by simp)
  rw [List.append_nil] at kept ended
  simp [decimal?, taken, dropped, cutFraction, kept, ended, exponent?, present]

end Digits

theorem isDigit_of_mem_zeros {n : Nat} {c : Char} (member : c ∈ zeros n) : c.isDigit = true := by
  rw [List.eq_of_mem_replicate member]
  decide

section Positional

variable {digits : List Char} (solid : ∀ c ∈ digits, c.isDigit = true) (present : digits ≠ [])
include solid present

theorem decimal?_positional (exponent : Int) :
    ∃ number places, decimal? (positional [] digits exponent) = some (number, places) ∧
      decimalRank number places = decimalRank (natOfDigits digits) exponent := by
  unfold positional
  split
  next above =>
    have longer : ∀ c ∈ digits ++ zeros exponent.toNat, c.isDigit = true :=
      List.forall_mem_append.mpr ⟨solid, fun _ => isDigit_of_mem_zeros⟩
    have back : exponent.toNat = exponent := by omega
    rw [List.append_nil, decimal?_whole longer (by simp [present])]
    refine ⟨_, _, rfl, ?_⟩
    unfold zeros
    rw [Text.natOfDigits_append_zeros, decimalRank_zeros, Int.zero_add, back]
  next below =>
    dsimp only
    split
    next inner =>
      -- The point stands among the digits.
      have parts := List.take_append_drop (digits.length - (-exponent).toNat) digits
      have whole : ∀ c ∈ digits.take (digits.length - (-exponent).toNat), c.isDigit = true :=
        fun c member => solid c (List.mem_of_mem_take member)
      have fraction : ∀ c ∈ digits.drop (digits.length - (-exponent).toNat), c.isDigit = true :=
        fun c member => solid c (List.mem_of_mem_drop member)
      have some_whole : digits.take (digits.length - (-exponent).toNat) ≠ [] := by
        rw [← List.length_pos_iff, List.length_take]
        omega
      have places :
          -((digits.drop (digits.length - (-exponent).toNat)).length : Int) = exponent := by
        rw [List.length_drop]
        omega
      rw [decimal?_point whole some_whole fraction, parts, places]
      exact ⟨_, _, rfl, rfl⟩
    next outer =>
      -- Zeros fill the places between the point and the digits.
      generalize more : (-exponent).toNat - digits.length = filled
      have fraction : ∀ c ∈ zeros filled ++ digits, c.isDigit = true :=
        List.forall_mem_append.mpr ⟨fun _ => isDigit_of_mem_zeros, solid⟩
      have read : decimal? (['0', '.'] ++ zeros filled ++ digits) =
          some (natOfDigits (['0'] ++ (zeros filled ++ digits)),
            -((zeros filled ++ digits).length : Int)) :=
        @decimal?_point ['0'] (List.forall_mem_singleton.mpr (by decide)) (by simp)
          (zeros filled ++ digits) fraction
      have leading : ['0'] ++ (zeros filled ++ digits) =
          List.replicate (filled + 1) '0' ++ digits := rfl
      have places : -((zeros filled ++ digits).length : Int) = exponent := by
        rw [List.length_append, zeros, List.length_replicate]
        omega
      rw [read, leading, Text.natOfDigits_zeros_append, places]
      exact ⟨_, _, rfl, rfl⟩

theorem starts_positional (exponent : Int) :
    ∃ c ∈ (positional [] digits exponent).head?, c.isDigit = true := by
  obtain ⟨first, others, rfl⟩ := List.exists_cons_of_ne_nil present
  have digit : first.isDigit = true := solid first List.mem_cons_self
  unfold positional
  split
  next => exact ⟨first, rfl, digit⟩
  next =>
    dsimp only
    split
    next inner =>
      obtain ⟨more, some_whole⟩ :=
        Nat.exists_eq_add_of_lt (show 0 < (first :: others).length - (-exponent).toNat by omega)
      rw [some_whole, Nat.zero_add, List.take_succ_cons]
      exact ⟨first, rfl, digit⟩
    next => exact ⟨'0', rfl, by decide⟩

omit present in
theorem quote_not_mem_positional (exponent : Int) : '"' ∉ positional [] digits exponent := by
  have plain : '"' ∉ digits := by
    intro quote
    have digit := solid '"' quote
    simp at digit
  have taken (n : Nat) : '"' ∉ digits.take n := fun quote => plain (List.mem_of_mem_take quote)
  have dropped (n : Nat) : '"' ∉ digits.drop n := fun quote => plain (List.mem_of_mem_drop quote)
  unfold positional zeros
  split
  next => simp [plain]
  next =>
    dsimp only
    split
    next => simp [taken, dropped]
    next => simp [plain]

end Positional

theorem cutSign_withSign (negative : Bool) {text : List Char}
    (starts : ∃ c ∈ text.head?, c.isDigit = true) :
    Text.cutSign (withSign negative text) = (negative, text) := by
  cases negative with
  | true => rfl
  | false =>
    obtain ⟨c, first, digit⟩ := starts
    obtain ⟨rest, rfl⟩ := List.head?_eq_some_iff.mp first
    have minus : c ≠ '-' := by
      rintro rfl
      simp at digit
    have plus : c ≠ '+' := by
      rintro rfl
      simp at digit
    simp [withSign, Text.cutSign, minus, plus]

theorem read?_of_decimal? {negative : Bool} {text body : List Char} {value : Nat} {places : Int}
    (signed : Text.cutSign text = (negative, body)) (found : decimal? body = some (value, places)) :
    read? text = some (ofDecimal negative value places) := by
  simp only [read?, signed, found]

/-- Every number is read back from its text. -/
theorem read?_plain {x : Binary64} (number : x ≠ .nan) : read? x.plain = some x := by
  cases x with
  | nan => exact absurd rfl number
  | infinite negative => cases negative <;> rfl
  | finite negative rank =>
    obtain ⟨rank, inside⟩ := rank
    have solid : ∀ c ∈ (shortest .upper rank).1, c.isDigit = true :=
      fun _ => isDigit_of_mem_shortest
    have present := shortest_ne_nil inside .upper
    obtain ⟨value, places, found, same⟩ :=
      decimal?_positional solid present (shortest .upper rank).2
    have signed := cutSign_withSign negative
      (starts_positional solid present (shortest .upper rank).2)
    calc read? (plain (.finite negative ⟨rank, inside⟩))
      _ = some (ofDecimal negative value places) := read?_of_decimal? signed found
      _ = some (ofRank negative rank) := by
        rw [ofDecimal_eq, same, decimalRank_shortest inside]
      _ = some (.finite negative ⟨rank, inside⟩) := by rw [ofRank, dif_pos inside]

theorem quote_not_mem_plain (x : Binary64) : '"' ∉ x.plain := by
  have signed (negative : Bool) {text : List Char} (plain : '"' ∉ text) :
      '"' ∉ withSign negative text := by
    cases negative <;> simp [withSign, plain]
  cases x with
  | nan => decide
  | infinite negative => exact signed negative (by decide)
  | finite negative rank =>
    exact signed negative (quote_not_mem_positional (fun _ => isDigit_of_mem_shortest) _)

end Binary64

namespace Text

theorem word?_wordChars (n : Int64) : word? (wordChars n) = some n := by
  have solid : ∀ c ∈ digitChars n.toInt.natAbs, c.isDigit = true :=
    fun _ => isDigit_of_mem_digitChars
  have present : digitChars n.toInt.natAbs ≠ [] := Nat.toDigits_ne_nil
  have written : wordChars n =
      Binary64.withSign (n.toInt < 0) (digitChars n.toInt.natAbs) := by
    unfold wordChars Binary64.withSign
    simp only [decide_eq_true_eq]
  have signed := Binary64.cutSign_withSign (n.toInt < 0) (starts_digitChars n.toInt.natAbs)
  have value : natural? (digitChars n.toInt.natAbs) = some n.toInt.natAbs := by
    simp [natural?, present, natOfDigits_digitChars, List.all_eq_true.mpr solid]
  have whole : integer? (wordChars n) = some n.toInt := by
    have size : (if n.toInt < 0 then -(n.toInt.natAbs : Int) else n.toInt.natAbs) = n.toInt := by
      omega
    unfold integer?
    rw [written, signed]
    dsimp only
    rw [value]
    simpa using size
  rw [word?, whole, Option.bind_some, wordOf?_toInt]

theorem quote_not_mem_wordChars (n : Int64) : '"' ∉ wordChars n := by
  have plain : '"' ∉ digitChars n.toInt.natAbs := by
    intro quote
    have digit := isDigit_of_mem_digitChars quote
    simp at digit
  unfold wordChars
  split
  next => simp [plain]
  next => exact plain

end Text

end TableQuery
