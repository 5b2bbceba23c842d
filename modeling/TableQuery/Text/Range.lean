/-! Membership of a character in a table of code point ranges. Every character class of this
library is such a table, with the first and last code point of each range. -/

namespace TableQuery.Text

def within (ranges : List (Nat × Nat)) (c : Char) : Bool :=
  ranges.any fun range => range.1 ≤ c.toNat && c.toNat ≤ range.2

theorem within_nil (c : Char) : within [] c = false := rfl

theorem within_cons (range : Nat × Nat) (rest : List (Nat × Nat)) (c : Char) :
    within (range :: rest) c =
      (decide (range.1 ≤ c.toNat) && decide (c.toNat ≤ range.2) || within rest c) := rfl

theorem within_of_apart {first second : List (Nat × Nat)}
    (apart : ∀ a ∈ first, ∀ b ∈ second, a.2 < b.1 ∨ b.2 < a.1) {c : Char}
    (inside : within first c = true) : within second c = false := by
  simp only [within, List.any_eq_true, Bool.and_eq_true, decide_eq_true_eq] at inside
  obtain ⟨a, member, low, high⟩ := inside
  rw [within, List.any_eq_false]
  intro b other
  simp only [Bool.and_eq_true, decide_eq_true_eq, not_and, Nat.not_le]
  have order := apart a member b other
  omega

end TableQuery.Text
