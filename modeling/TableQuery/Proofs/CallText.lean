import TableQuery.Function.Call

/-! Calls read back from their text. A name has no parenthesis and an argument no closing one, so the
first opening parenthesis ends the name and the first closing one the arguments, whatever else the
arguments and the text behind the call hold. What is read from any value is a call of this kind, so
there are no other calls to write. -/

namespace TableQuery.Call

structure IsArgument (arg : List Char) : Prop where
  trimmed : Text.trim arg = arg
  single : ',' ∉ arg
  inside : ')' ∉ arg

/-- A call that can be written. A single empty argument would be written as no argument is. -/
structure Writable (call : Call) : Prop where
  named : call.name ≠ ""
  spelled : ∀ c ∈ call.name.toList, isNameChar c = true
  given : ∀ arg ∈ call.args, IsArgument arg.toList
  told : call.args ≠ [""]

def display (call : Call) : String :=
  "$" ++ call.name ++ "(" ++ String.intercalate ", " call.args ++ ")"

theorem solid_of_isNameChar {c : Char} (spelled : isNameChar c = true) : Text.isBlank c = false := by
  rcases Bool.or_eq_true_iff.mp spelled with letter | line
  · exact Text.isBlank_of_isAlphanumeric letter
  · rw [beq_iff_eq] at line
    subst line
    decide

theorem ofBody?_eq_some_iff {body : List Char} {call : Call} :
    ofBody? body = some call ↔ ∃ before inner after,
      body = before ++ '(' :: (inner ++ ')' :: after) ∧ '(' ∉ before ∧ ')' ∉ inner ∧
      Text.trim before ≠ [] ∧ (∀ c ∈ Text.trim before, isNameChar c = true) ∧
      call = { name := String.ofList (Text.trim before), args := argsOf inner } := by
  simp only [ofBody?, Option.bind_eq_bind, Option.bind_eq_some_iff, Prod.exists,
    Text.cutAt_eq_some_iff, Option.ite_none_left_eq_some, Bool.or_eq_true, List.isEmpty_iff,
    Bool.not_eq_true', not_or, Bool.not_eq_false, List.all_eq_true, Option.some_inj]
  constructor
  · rintro ⟨before, _, ⟨rfl, opened⟩, inner, after, ⟨rfl, closed⟩, ⟨present, spelled⟩, rfl⟩
    exact ⟨before, inner, after, rfl, opened, closed, present, spelled, rfl⟩
  · rintro ⟨before, inner, after, rfl, opened, closed, present, spelled, rfl⟩
    exact ⟨before, _, ⟨rfl, opened⟩, inner, after, ⟨rfl, closed⟩, ⟨present, spelled⟩, rfl⟩

theorem parse?_eq_some_iff {value : List Char} {call : Call} :
    parse? value = some call ↔
      ∃ body, Text.trimStart value = '$' :: body ∧ ofBody? body = some call := by
  unfold parse?
  split
  next body start => simp [start]
  next other => simpa using fun body start => absurd start (other body)

theorem isArgument_of_mem_argsOf {inner : List Char} (closed : ')' ∉ inner) {arg : String}
    (given : arg ∈ argsOf inner) : IsArgument arg.toList := by
  rw [argsOf] at given
  split at given
  next => cases given
  next =>
    obtain ⟨piece, listed, rfl⟩ := List.mem_map.mp given
    rw [String.toList_ofList]
    have held {c : Char} (member : c ∈ Text.trim piece) : c ∈ inner ∧ c ≠ ',' :=
      Text.mem_of_mem_splitAt listed ((Text.trim_sublist piece).subset member)
    exact ⟨Text.trim_trim piece, fun comma => (held comma).2 rfl,
      fun closing => closed (held closing).1⟩

theorem argsOf_ne_empty (inner : List Char) : argsOf inner ≠ [""] := by
  intro told
  rw [argsOf] at told
  split at told
  next => cases told
  next present =>
    obtain ⟨piece, alone, empty⟩ := List.map_eq_singleton_iff.mp told
    rw [Text.eq_of_splitAt_eq_singleton alone, String.ofList_eq_empty_iff] at empty
    exact present (by rw [empty]; rfl)

theorem writable_of_parse? {value : List Char} {call : Call} (parsed : parse? value = some call) :
    call.Writable := by
  obtain ⟨body, -, read⟩ := parse?_eq_some_iff.mp parsed
  obtain ⟨before, inner, -, -, -, closed, present, spelled, rfl⟩ := ofBody?_eq_some_iff.mp read
  refine ⟨?_, ?_, fun arg => isArgument_of_mem_argsOf closed, argsOf_ne_empty inner⟩
  · rwa [Ne, String.ofList_eq_empty_iff]
  · rwa [String.toList_ofList]

theorem argsOf_intercalate {args : List (List Char)} (given : ∀ arg ∈ args, IsArgument arg)
    (told : args ≠ [[]]) : argsOf ([',', ' '].intercalate args) = args.map String.ofList := by
  cases args with
  | nil => rfl
  | cons first others =>
    have present : Text.trim ([',', ' '].intercalate (first :: others)) ≠ [] := by
      cases others with
      | nil =>
        rw [List.intercalate_singleton, (given first List.mem_cons_self).trimmed]
        exact fun empty => told (by rw [empty])
      | cons next others =>
        rw [List.intercalate_cons_cons]
        exact Text.trim_ne_nil (by simp) (show Text.isBlank ',' = false by decide)
    have parted := Text.map_trim_splitAt_intercalate ',' ' ' rfl (by decide) first others
      fun arg member => (given arg member).single
    have trimmed : (first :: others).map Text.trim = first :: others :=
      (List.map_congr_left fun arg member => (given arg member).trimmed).trans (List.map_id' _)
    rw [argsOf, if_neg (by rwa [List.isEmpty_iff])]
    calc (Text.splitAt ',' ([',', ' '].intercalate (first :: others))).map
          (String.ofList ∘ Text.trim)
      _ = ((Text.splitAt ',' ([',', ' '].intercalate (first :: others))).map Text.trim).map
          String.ofList := List.map_map.symm
      _ = (first :: others).map String.ofList := by rw [parted, trimmed]

namespace Writable

variable {call : Call} (writable : call.Writable)
include writable

theorem name_ne_nil : call.name.toList ≠ [] := by
  rw [Ne, String.toList_eq_nil_iff]
  exact writable.named

theorem solid_name : ∀ c ∈ call.name.toList, Text.isBlank c = false :=
  fun c member => solid_of_isNameChar (writable.spelled c member)

theorem opening_not_mem_name : '(' ∉ call.name.toList := by
  intro member
  have spelled := writable.spelled '(' member
  rw [show isNameChar '(' = false by decide +kernel] at spelled
  cases spelled

theorem given_chars : ∀ arg ∈ call.args.map String.toList, IsArgument arg :=
  List.forall_mem_map.mpr writable.given

theorem told_chars : call.args.map String.toList ≠ [[]] := by
  intro alone
  obtain ⟨arg, listed, empty⟩ := List.map_eq_singleton_iff.mp alone
  rw [String.toList_eq_nil_iff.mp empty] at listed
  exact writable.told listed

/-- The text of a call is read as the call, whatever blanks stand before it and whatever after. -/
theorem parse?_display {gap : List Char} (blank : ∀ c ∈ gap, Text.isBlank c = true)
    (after : List Char) : parse? (gap ++ call.display.toList ++ after) = some call := by
  let inner := [',', ' '].intercalate (call.args.map String.toList)
  let body := call.name.toList ++ '(' :: (inner ++ ')' :: after)
  have written : gap ++ call.display.toList ++ after = gap ++ '$' :: body := by
    simp [display, body, inner, String.toList_intercalate]
  have start : Text.trimStart (gap ++ '$' :: body) = '$' :: body := by
    rw [Text.trimStart_append blank, Text.trimStart_of_solid (by decide)]
  have closed : ')' ∉ inner :=
    Text.not_mem_intercalate (by decide) fun arg member => (writable.given_chars arg member).inside
  have named : Text.trim call.name.toList = call.name.toList :=
    Text.trim_of_no_blank writable.solid_name
  have args : argsOf inner = call.args := by
    rw [argsOf_intercalate writable.given_chars writable.told_chars, List.map_map]
    exact (List.map_congr_left fun arg _ => String.ofList_toList).trans (List.map_id' _)
  rw [written]
  refine parse?_eq_some_iff.mpr ⟨body, start, ofBody?_eq_some_iff.mpr
    ⟨call.name.toList, inner, after, rfl, writable.opening_not_mem_name, closed, ?_, ?_, ?_⟩⟩
  · rw [named]
    exact writable.name_ne_nil
  · rw [named]
    exact writable.spelled
  · rw [named, args, String.ofList_toList]

end Writable

/-- Calls read back. A call can be written exactly if its text, with any blanks before it and any
text after it, is read as its name and its arguments. -/
theorem calls_read_back (call : Call) :
    call.Writable ↔ ∀ gap after : List Char, (∀ c ∈ gap, Text.isBlank c = true) →
      parse? (gap ++ call.display.toList ++ after) = some call :=
  ⟨fun writable _ after blank => writable.parse?_display blank after,
    fun read => writable_of_parse? (read [] [] (List.forall_mem_nil _))⟩

example : parse? " \t$in(a (b, , \u00e9) and more".toList = some ⟨"in", ["a (b", "", "\u00e9"]⟩ := by
  decide +kernel

end TableQuery.Call
