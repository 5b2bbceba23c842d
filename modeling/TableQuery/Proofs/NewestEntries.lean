import Mathlib.Data.List.DropRight
import TableQuery.Journal

/-! What a journal keeps. A push makes room by giving up the oldest entry of a full journal, and a
clear gives up all of them. So whatever has been done to a journal, it holds the newest of the
entries pushed since it was last cleared, as many as it has room for, and its recent entries are the
last of these. -/

namespace TableQuery.Journal

def newest (entries : List Entry) : List Entry := entries.drop (entries.length - capacity)

theorem newest_suffix (entries : List Entry) : newest entries <:+ entries := List.drop_suffix _ _

theorem length_newest (entries : List Entry) :
    (newest entries).length = min entries.length capacity := by
  rw [newest, List.length_drop]
  omega

/-- What has been given up already makes no difference to what is kept later. -/
theorem newest_newest_append (older added : List Entry) :
    newest (newest older ++ added) = newest (older ++ added) := by
  have reached : older.length - capacity ≤ older.length := Nat.sub_le _ _
  have together : older.length - capacity +
      (older.length + added.length - (older.length - capacity) - capacity) =
        older.length + added.length - capacity := by omega
  rw [newest, newest, newest, ← List.drop_append_of_le_length reached, List.length_drop,
    List.drop_drop, List.length_append, together]

section Kept

variable {journal : Journal}

theorem entries_push (within : journal.size ≤ capacity) (entry : Entry) :
    (journal.push entry).entries = newest (journal.entries ++ [entry]) := by
  rw [size] at within
  rw [push, newest, List.length_append, List.length_singleton]
  by_cases full : capacity ≤ journal.entries.length
  · have one : journal.entries.length + 1 - capacity = 1 := by omega
    have reached : 1 ≤ journal.entries.length := Nat.le_trans (by decide) full
    rw [if_pos full, one, List.drop_append_of_le_length reached]
  · have none : journal.entries.length + 1 - capacity = 0 := by omega
    rw [if_neg full, none, List.drop_zero]

theorem size_le_of_newest {entries : List Entry} (kept : journal.entries = newest entries) :
    journal.size ≤ capacity := by
  rw [size, kept, length_newest]
  exact Nat.min_le_right _ _

theorem entries_foldl_push (within : journal.size ≤ capacity) (added : List Entry) :
    (added.foldl push journal).entries = newest (journal.entries ++ added) := by
  induction added generalizing journal with
  | nil =>
    have none : journal.entries.length - capacity = 0 := Nat.sub_eq_zero_of_le within
    rw [List.append_nil, newest, none, List.drop_zero, List.foldl_nil]
  | cons entry added ih =>
    have pushed := entries_push within entry
    rw [List.foldl_cons, ih (size_le_of_newest pushed), pushed, newest_newest_append,
      List.append_assoc, List.singleton_append]

end Kept

inductive Change
  | push (entry : Entry)
  | clear

def Change.entry? : Change → Option Entry
  | push entry => some entry
  | clear => none

def change (journal : Journal) : Change → Journal
  | .push entry => journal.push entry
  | .clear => journal.clear

def run (changes : List Change) : Journal := changes.foldl change {}

theorem run_concat (changes : List Change) (last : Change) :
    run (changes ++ [last]) = (run changes).change last := List.foldl_concat ..

def sinceClear (changes : List Change) : List Entry :=
  (changes.rtakeWhile fun change => change.entry?.isSome).filterMap Change.entry?

theorem sinceClear_push (changes : List Change) (entry : Entry) :
    sinceClear (changes ++ [.push entry]) = sinceClear changes ++ [entry] := by
  rw [sinceClear, List.rtakeWhile_concat_pos _ _ _ rfl, List.filterMap_append]
  rfl

theorem sinceClear_clear (changes : List Change) : sinceClear (changes ++ [.clear]) = [] := by
  rw [sinceClear, List.rtakeWhile_concat_neg _ _ _ Bool.false_ne_true, List.filterMap_nil]

theorem entries_run (changes : List Change) :
    (run changes).entries = newest (sinceClear changes) := by
  induction changes using List.reverseRecOn with
  | nil => exact List.drop_nil.symm
  | append_singleton changes last ih =>
    rw [run_concat]
    cases last with
    | push entry =>
      rw [change, entries_push (size_le_of_newest ih), ih, newest_newest_append, sinceClear_push]
    | clear =>
      rw [sinceClear_clear, newest, List.drop_nil]
      rfl

section Recent

variable (journal : Journal) (count : Nat)

theorem recent_suffix : journal.recent count <:+ journal.entries :=
  List.reverse_prefix.mp (by
    rw [recent, List.reverse_reverse]
    exact List.take_prefix _ _)

theorem length_recent : (journal.recent count).length = min count journal.size := by
  rw [recent, List.length_reverse, List.length_take, List.length_reverse, size]

end Recent

/-- Whatever pushes and clears have been made, a journal is within its bound, and it holds the last
of the entries pushed since the last clear, in their order: all of them, or as many as the bound
allows. Of these the recent entries are the last, as many as are asked for or as there are. -/
theorem holds_newest_entries (changes : List Change) :
    let journal := run changes
    let pushed := sinceClear changes
    journal.size ≤ capacity ∧
    (journal.entries <:+ pushed ∧ journal.size = min pushed.length capacity) ∧
    ∀ count, journal.recent count <:+ journal.entries ∧
      (journal.recent count).length = min count journal.size := by
  intro journal pushed
  have kept : journal.entries = newest pushed := entries_run changes
  refine ⟨size_le_of_newest kept, ⟨?_, ?_⟩, fun count => ?_⟩
  · rw [kept]
    exact newest_suffix pushed
  · rw [size, kept, length_newest]
  · exact ⟨journal.recent_suffix count, journal.length_recent count⟩

end TableQuery.Journal
