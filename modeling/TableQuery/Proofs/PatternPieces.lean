import Mathlib.Data.List.Forall2
import Mathlib.Data.List.Infix
import TableQuery.Pattern

/-! What a pattern covers. A text is covered when it can be cut into consecutive pieces, one for each
pattern character, such that each character takes its piece. The matcher makes no cuts: it keeps all
that can be left of the text, the longest remainder first. As every remainder ends the longest one, a
run of any length leaves just the suffixes of that one. -/

namespace TableQuery.Pattern

inductive Takes (caseSensitive : Bool) : Char → List Char → Prop
  | run (piece : List Char) : Takes caseSensitive '%' piece
  | one (x : Char) : Takes caseSensitive '_' [x]
  | same {c x : Char} (ordinary : c ≠ '%' ∧ c ≠ '_')
      (alike : if caseSensitive then x = c else Text.fold x = Text.fold c) :
      Takes caseSensitive c [x]

theorem takes_run_iff {caseSensitive : Bool} {piece : List Char} :
    Takes caseSensitive '%' piece ↔ True :=
  iff_of_true (.run piece) trivial

theorem takes_one_iff {caseSensitive : Bool} {piece : List Char} :
    Takes caseSensitive '_' piece ↔ ∃ x, piece = [x] := by
  constructor
  · intro takes
    cases takes with
    | one x => exact ⟨x, rfl⟩
    | same ordinary => exact absurd rfl ordinary.2
  · rintro ⟨x, rfl⟩
    exact .one x

theorem sameChar_iff {caseSensitive : Bool} {c x : Char} :
    sameChar caseSensitive c x = true ↔
      if caseSensitive then x = c else Text.fold x = Text.fold c := by
  cases caseSensitive with
  | false =>
    rw [sameChar, if_neg Bool.false_ne_true, if_neg Bool.false_ne_true, Text.sameFolded,
      beq_iff_eq]
    exact eq_comm
  | true =>
    rw [sameChar, if_pos rfl, if_pos rfl, beq_iff_eq]
    exact eq_comm

theorem takes_ordinary_iff {caseSensitive : Bool} {c : Char} {piece : List Char}
    (notRun : c ≠ '%') (notOne : c ≠ '_') :
    Takes caseSensitive c piece ↔ ∃ x, piece = [x] ∧ sameChar caseSensitive c x = true := by
  constructor
  · intro takes
    cases takes with
    | run => exact absurd rfl notRun
    | one => exact absurd rfl notOne
    | same _ alike => exact ⟨_, rfl, sameChar_iff.mpr alike⟩
  · rintro ⟨x, rfl, alike⟩
    exact .same ⟨notRun, notOne⟩ (sameChar_iff.mp alike)

theorem suffixes_eq_tails (text : List Char) : suffixes text = text.tails := by
  induction text with
  | nil => rfl
  | cons c rest ih => rw [suffixes, ih, List.tails]

/-- Remainders of one text, of which each ends all before it. -/
abbrev Nested (remainders : List (List Char)) : Prop :=
  remainders.Pairwise fun longer shorter => shorter <:+ longer

theorem nested_suffixes (text : List Char) : Nested (suffixes text) := by
  induction text with
  | nil => exact List.pairwise_singleton _ _
  | cons c rest ih =>
    refine List.pairwise_cons.mpr ⟨fun shorter member => ?_, ih⟩
    rw [suffixes_eq_tails, List.mem_tails] at member
    exact member.trans (List.suffix_cons c rest)

theorem afterOne_eq_some_iff {test : Char → Bool} {text rest : List Char} :
    afterOne test text = some rest ↔ ∃ x, text = x :: rest ∧ test x = true := by
  cases text with
  | nil => simp [afterOne]
  | cons x after =>
    simp only [afterOne, Option.ite_none_right_eq_some, Option.some.injEq, List.cons.injEq]
    constructor
    · rintro ⟨passes, rfl⟩
      exact ⟨x, ⟨rfl, rfl⟩, passes⟩
    · rintro ⟨_, ⟨rfl, rfl⟩, passes⟩
      exact ⟨passes, rfl⟩

theorem nested_afterOne {remainders : List (List Char)} (nested : Nested remainders)
    (test : Char → Bool) : Nested (remainders.filterMap (afterOne test)) := by
  refine List.pairwise_filterMap.mpr (nested.imp ?_)
  intro longer shorter ends rest left rest' left'
  obtain ⟨x, rfl, -⟩ := afterOne_eq_some_iff.mp left
  obtain ⟨y, rfl, -⟩ := afterOne_eq_some_iff.mp left'
  rcases List.suffix_cons_iff.mp ends with same | inner
  · exact (List.cons.inj same).2 ▸ List.suffix_rfl
  · exact (List.suffix_cons y rest').trans inner

theorem advance_run (same : Char → Char → Bool) (longest : List Char)
    (others : List (List Char)) :
    advance same (longest :: others) '%' = suffixes longest := rfl

theorem advance_one (same : Char → Char → Bool) (remainders : List (List Char)) :
    advance same remainders '_' = remainders.filterMap (afterOne fun _ => true) := rfl

theorem advance_ordinary (same : Char → Char → Bool) {c : Char} (notRun : c ≠ '%')
    (notOne : c ≠ '_') (remainders : List (List Char)) :
    advance same remainders c = remainders.filterMap (afterOne (same c)) :=
  (if_neg notRun).trans (if_neg notOne)

theorem nested_advance {remainders : List (List Char)} (nested : Nested remainders)
    (same : Char → Char → Bool) (c : Char) : Nested (advance same remainders c) := by
  by_cases run : c = '%'
  · subst run
    cases remainders with
    | nil => exact List.Pairwise.nil
    | cons longest others =>
      rw [advance_run]
      exact nested_suffixes longest
  by_cases one : c = '_'
  · subst one
    exact nested_afterOne nested _
  · rw [advance_ordinary same run one]
    exact nested_afterOne nested _

theorem mem_suffixes_longest {longest rest : List Char} {others : List (List Char)}
    (nested : Nested (longest :: others)) :
    rest ∈ suffixes longest ↔ ∃ piece, piece ++ rest ∈ longest :: others := by
  rw [suffixes_eq_tails, List.mem_tails]
  constructor
  · rintro ⟨piece, whole⟩
    exact ⟨piece, whole ▸ List.mem_cons_self⟩
  · rintro ⟨piece, member⟩
    have ends : rest <:+ piece ++ rest := List.suffix_append piece rest
    rcases List.mem_cons.mp member with whole | other
    · exact whole ▸ ends
    · exact ends.trans (List.rel_of_pairwise_cons nested other)

theorem mem_afterOne {remainders : List (List Char)} {test : Char → Bool} {rest : List Char} :
    rest ∈ remainders.filterMap (afterOne test) ↔
      ∃ x, test x = true ∧ x :: rest ∈ remainders := by
  simp only [List.mem_filterMap, afterOne_eq_some_iff]
  constructor
  · rintro ⟨_, member, x, rfl, passes⟩
    exact ⟨x, passes, member⟩
  · rintro ⟨x, passes, member⟩
    exact ⟨_, member, x, rfl, passes⟩

variable {caseSensitive : Bool}

theorem mem_advance {remainders : List (List Char)} (nested : Nested remainders) (c : Char)
    (rest : List Char) :
    rest ∈ advance (sameChar caseSensitive) remainders c ↔
      ∃ piece, Takes caseSensitive c piece ∧ piece ++ rest ∈ remainders := by
  by_cases run : c = '%'
  · subst run
    simp only [takes_run_iff, true_and]
    cases remainders with
    | nil => exact iff_of_false List.not_mem_nil (by simp)
    | cons longest others =>
      rw [advance_run]
      exact mem_suffixes_longest nested
  by_cases one : c = '_'
  · subst one
    rw [advance_one, mem_afterOne]
    simp only [takes_one_iff]
    constructor
    · rintro ⟨x, -, member⟩
      exact ⟨[x], ⟨x, rfl⟩, member⟩
    · rintro ⟨_, ⟨x, rfl⟩, member⟩
      exact ⟨x, trivial, member⟩
  · rw [advance_ordinary _ run one, mem_afterOne]
    simp only [takes_ordinary_iff run one]
    constructor
    · rintro ⟨x, alike, member⟩
      exact ⟨[x], ⟨x, rfl, alike⟩, member⟩
    · rintro ⟨_, ⟨x, rfl, alike⟩, member⟩
      exact ⟨x, alike, member⟩

theorem mem_foldl_advance {remainders : List (List Char)} (nested : Nested remainders)
    (pattern rest : List Char) :
    rest ∈ pattern.foldl (advance (sameChar caseSensitive)) remainders ↔
      ∃ pieces, List.Forall₂ (Takes caseSensitive) pattern pieces ∧
        pieces.flatten ++ rest ∈ remainders := by
  induction pattern generalizing remainders with
  | nil => simp
  | cons c pattern ih =>
    rw [List.foldl_cons, ih (nested_advance nested _ c)]
    simp only [mem_advance nested, List.forall₂_cons_left_iff]
    constructor
    · rintro ⟨pieces, later, piece, takes, member⟩
      refine ⟨piece :: pieces, ⟨piece, pieces, takes, later, rfl⟩, ?_⟩
      rwa [List.flatten_cons, List.append_assoc]
    · rintro ⟨_, ⟨piece, pieces, takes, later, rfl⟩, member⟩
      rw [List.flatten_cons, List.append_assoc] at member
      exact ⟨pieces, later, piece, takes, member⟩

theorem covers_iff_pieces (pattern text : List Char) :
    covers caseSensitive pattern text = true ↔
      ∃ pieces, List.Forall₂ (Takes caseSensitive) pattern pieces ∧ pieces.flatten = text := by
  have alone : Nested [text] := List.pairwise_singleton _ _
  have ended : covers caseSensitive pattern text = true ↔
      [] ∈ pattern.foldl (advance (sameChar caseSensitive)) [text] := by
    simp [covers, remaindersOf]
  rw [ended, mem_foldl_advance alone]
  simp only [List.append_nil, List.mem_singleton]

end TableQuery.Pattern
