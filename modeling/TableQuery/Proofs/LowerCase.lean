import Mathlib
import TableQuery.Command

/-! Lower-case text as it is looked through for a word. The letters of `where` and the blanks around
it come from themselves and from their capitals alone, each in its own place, so the word stands in
the lower-case text where it stands in the text in some case. But the bytes before it need not be as
many, since the lower-case form of a character may be longer or shorter. -/

namespace TableQuery.Text

open Command (whereWord)

theorem moveBy_ascii : ∀ code < 128,
    moveBy lowerRuns (Char.ofNat code) = (Char.ofNat code).toLower := by
  decide +kernel

/-- No run that starts behind the first 128 characters leads to a sign of the word. -/
theorem whereWord_not_reached : (lowerRuns.all fun run => whereWord.all fun sign =>
    (sign.toNat : Int) - run.shift < 128 ||
      !run.covers ((sign.toNat : Int) - run.shift).toNat) = true := by
  decide +kernel

theorem whereWord_ascii {sign : Char} (member : sign ∈ whereWord) :
    0 < sign.toNat ∧ sign.toNat < 128 := by
  have all : whereWord.all (fun sign => 0 < sign.toNat && sign.toNat < 128) = true := by decide
  simpa using List.all_eq_true.mp all sign member

theorem toNat_ofNat_of_pos {code : Nat} (pos : 0 < (Char.ofNat code).toNat) :
    (Char.ofNat code).toNat = code := by
  rw [Char.toNat_ofNat] at pos ⊢
  split at pos
  next valid => exact if_pos valid
  next => cases pos

theorem toLower_of_not_ascii {c : Char} (far : 128 ≤ c.toNat) : c.toLower = c := by
  apply Char.toLower_eq_of_not_isUpper
  intro upper
  have near : c.toNat ≤ 'Z'.toNat := (of_decide_eq_true upper).2
  have last : 'Z'.toNat = 90 := rfl
  omega

theorem moveBy_not_mem_whereWord {c : Char} (far : 128 ≤ c.toNat) :
    moveBy lowerRuns c ∉ whereWord := by
  intro member
  rw [moveBy] at member
  cases found : lowerRuns.find? fun run => run.covers c.toNat with
  | none =>
    rw [found] at member
    exact absurd (whereWord_ascii member).2 (Nat.not_lt.mpr far)
  | some run =>
    rw [found] at member
    change Char.ofNat (c.toNat + run.shift).toNat ∈ whereWord at member
    obtain ⟨pos, near⟩ := whereWord_ascii member
    have covered : run.covers c.toNat = true :=
      List.find?_some (p := fun run : Run => run.covers c.toNat) found
    have inside : run ∈ lowerRuns := List.mem_of_find?_eq_some found
    have apart :=
      List.all_eq_true.mp (List.all_eq_true.mp whereWord_not_reached run inside) _ member
    have moved := toNat_ofNat_of_pos pos
    -- The run leads back from the sign to the character.
    have back : ((Char.ofNat (c.toNat + run.shift).toNat).toNat : Int) - run.shift = c.toNat := by
      omega
    rw [back, Int.toNat_natCast, covered] at apart
    have below : (c.toNat : Int) < 128 := by simpa using apart
    omega

/-- A character is mapped to its lower-case ASCII form, or to characters which the word is not made
of and which it is not made of either. -/
theorem lowerAt_cases (before after : List Char) (c : Char) :
    lowerAt before after c = [c.toLower] ∨
      c.toLower ∉ whereWord ∧ ∀ x ∈ lowerAt before after c, x ∉ whereWord := by
  by_cases near : c.toNat < 128
  · left
    have plain := moveBy_ascii c.toNat near
    rw [Char.ofNat_toNat] at plain
    rw [lowerAt, if_neg (by rintro rfl; exact absurd near (by decide)),
      if_neg (by rintro rfl; exact absurd near (by decide)), plain]
  · right
    have far : 128 ≤ c.toNat := Nat.not_lt.mp near
    refine ⟨?_, ?_⟩
    · rw [toLower_of_not_ascii far]
      exact fun member => absurd (whereWord_ascii member).2 near
    · intro x member
      rw [lowerAt] at member
      split at member
      next =>
        -- Either form of the sigma.
        split at member
        all_goals
          rw [List.mem_singleton.mp member]
          decide
      next =>
        split at member
        next => rcases List.mem_pair.mp member with rfl | rfl <;> decide
        next =>
          rw [List.mem_singleton.mp member]
          exact moveBy_not_mem_whereWord far

theorem lowerAt_ne_nil (before after : List Char) (c : Char) : lowerAt before after c ≠ [] := by
  rw [lowerAt]
  split
  next => split <;> exact List.cons_ne_nil _ _
  next => split <;> exact List.cons_ne_nil _ _

theorem prefix_lowerFrom_iff {piece : List Char} (plain : ∀ sign ∈ piece, sign ∈ whereWord)
    (before text : List Char) :
    piece <+: lowerFrom before text ↔ piece <+: text.map Char.toLower := by
  induction piece generalizing before text with
  | nil => simp only [List.nil_prefix]
  | cons sign piece ih =>
    cases text with
    | nil => rfl
    | cons c rest =>
      have named : sign ∈ whereWord := plain sign List.mem_cons_self
      have others := ih (fun other member => plain other (List.mem_cons_of_mem sign member))
        (c :: before) rest
      rw [lowerFrom, List.map_cons, List.cons_prefix_cons]
      rcases lowerAt_cases before rest c with same | ⟨apart, away⟩
      · rw [same, List.singleton_append, List.cons_prefix_cons, others]
      · obtain ⟨x, more, image⟩ := List.exists_cons_of_ne_nil (lowerAt_ne_nil before rest c)
        rw [image, List.cons_append, List.cons_prefix_cons]
        refine iff_of_false ?_ ?_
        · rintro ⟨rfl, -⟩
          exact away sign (image ▸ List.mem_cons_self) named
        · rintro ⟨rfl, -⟩
          exact apart named

theorem utf8Len_lowerAt (before after before' after' : List Char) (c : Char) :
    String.utf8Len (lowerAt before after c) = String.utf8Len (lowerAt before' after' c) := by
  have sigma (before after : List Char) :
      String.utf8Len (if meetsCased before && !meetsCased after then ['ς'] else ['σ']) = 2 := by
    split <;> rfl
  rw [lowerAt, lowerAt]
  split
  next => rw [sigma, sigma]
  next => rfl

theorem utf8Len_lowerFrom (before before' text : List Char) :
    String.utf8Len (lowerFrom before text) = String.utf8Len (lowerFrom before' text) := by
  induction text generalizing before before' with
  | nil => rfl
  | cons c rest ih =>
    rw [lowerFrom, lowerFrom, String.utf8Len_append, String.utf8Len_append,
      utf8Len_lowerAt before rest before' rest, ih (c :: before) (c :: before')]

/-- How many bytes a character has in lower case does not depend on what stands around it. -/
theorem utf8Len_lower_cons (before after : List Char) (c : Char) (text : List Char) :
    String.utf8Len (lower (c :: text)) =
      String.utf8Len (lower text) + String.utf8Len (lowerAt before after c) := by
  rw [lower, lowerFrom, String.utf8Len_append, utf8Len_lowerAt [] text before after,
    utf8Len_lowerFrom [c] [], Nat.add_comm, lower]

end TableQuery.Text
