import TableQuery.Table.Sort

/-! The order that sorting uses is a total preorder, however kinds of cells, directions of keys and
primers are mixed. Values to sort by compare on three readings in turn, each of them a total order:
what kind of value it is, its number, its text. All other comparisons are made from this one by
reading something off first, by turning it round and by asking it of one key after the other, and
these keep a preorder total. -/

namespace TableQuery

/-- Comparisons under which sorting is well defined: all items are comparable, and being at most as
large passes on. -/
structure TotalPreorder {α : Type} (order : α → α → Ordering) : Prop where
  self : ∀ a, order a a = .eq
  reverse : ∀ a b, order a b = (order b a).swap
  passes_on : ∀ a b c, order a b ≠ .gt → order b c ≠ .gt → order a c ≠ .gt

theorem totalPreorder_of_transCmp {α : Type} (order : α → α → Ordering) [Std.TransCmp order] :
    TotalPreorder order where
  self _ := Std.ReflCmp.compare_self
  reverse _ _ := Std.OrientedCmp.eq_swap
  passes_on a b c first second := by
    rw [ne_eq, ← Ordering.isLE_iff_ne_gt] at first second ⊢
    exact Std.TransCmp.isLE_trans first second

theorem transCmp_on {α β : Type} (order : β → β → Ordering) [Std.TransCmp order] (read : α → β) :
    Std.TransCmp fun a b => order (read a) (read b) where
  eq_swap := Std.OrientedCmp.eq_swap
  isLE_trans := Std.TransCmp.isLE_trans

namespace SortValue

def numberPart : SortValue → Int
  | .number key => key
  | _ => 0

def textPart : SortValue → String
  | .text word => word
  | _ => ""

theorem compare_eq_lex :
    SortValue.compare =
      compareLex (compareOn rank) (compareLex (compareOn numberPart) (compareOn textPart)) := by
  funext a b
  cases a <;> cases b
  case number.number x y =>
    simp [SortValue.compare, compareLex, compareOn, rank, numberPart, textPart]
  case text.text x y =>
    simp [SortValue.compare, compareLex, compareOn, rank, numberPart, textPart]
  all_goals rfl

instance : Std.TransCmp SortValue.compare := by
  rw [compare_eq_lex]
  infer_instance

theorem compare_of_rank {a b : SortValue} (before : a.rank < b.rank) : a.compare b = .lt := by
  have first : compareOn rank a b = .lt := Nat.compare_eq_lt.mpr before
  rw [compare_eq_lex, compareLex, first, Ordering.lt_then]

end SortValue

namespace Binary64

/-- The place in the order of all numbers is the place on the number line, with the negative half
moved down by one to make room for minus zero. -/
theorem orderKey_of_place {x : Binary64} {place : Int} (known : x.place? = some place) :
    (x.orderKey = place ∧ 0 ≤ place) ∨ (x.orderKey = place - 1 ∧ place ≤ 0) := by
  cases x with
  | nan => cases known
  | infinite negative =>
    have same : (if negative then -(limit : Int) else limit) = place := Option.some.inj known
    cases negative
    · simp only [orderKey, Bool.false_eq_true, if_false] at *
      omega
    · simp only [orderKey, if_true] at *
      omega
  | finite negative rank =>
    have same : (if negative then -(rank.val : Int) else rank.val) = place := Option.some.inj known
    cases negative
    · simp only [orderKey, Bool.false_eq_true, if_false] at *
      omega
    · simp only [orderKey, if_true] at *
      omega

theorem orderKey_lt_of_less {x y : Binary64} (less : x.less y = true) :
    x.orderKey < y.orderKey := by
  cases left : x.place? with
  | none => simp [Binary64.less, left] at less
  | some a =>
    cases right : y.place? with
    | none => simp [Binary64.less, left, right] at less
    | some b =>
      have before : a < b := by simpa [Binary64.less, left, right] using less
      rcases orderKey_of_place left with ⟨x_key, x_side⟩ | ⟨x_key, x_side⟩ <;>
        rcases orderKey_of_place right with ⟨y_key, y_side⟩ | ⟨y_key, y_side⟩ <;> omega

end Binary64

namespace Cell

instance : Std.TransCmp compare? := transCmp_on SortValue.compare sortValue?

/-- The classes that sorting puts one after the other: a missing cell, null, everything with a
numeric reading, and the rest. -/
def standing : Option Cell → Nat
  | none => 0
  | some .null => 1
  | some cell => if cell.number?.isSome then 2 else 3

theorem sortValue_of_number {cell : Cell} {x : Binary64} (reads : cell.number? = some x) :
    cell.sortValue = .number x.orderKey := by
  cases cell with
  | null => cases reads
  | _ => simp only [sortValue, reads]

theorem sortValue_of_no_number {cell : Cell} (present : cell ≠ .null)
    (wordy : cell.number? = none) : cell.sortValue = .text cell.display := by
  cases cell with
  | null => exact absurd rfl present
  | _ => simp only [sortValue, wordy]

theorem standing_of_present {cell : Cell} (present : cell ≠ .null) :
    standing (some cell) = if cell.number?.isSome then 2 else 3 := by
  cases cell with
  | null => exact absurd rfl present
  | _ => rfl

theorem sortValue_of_last {cell : Cell} (last : standing (some cell) = 3) :
    cell.sortValue = .text cell.display := by
  have present : cell ≠ .null := by
    rintro rfl
    cases last
  rw [standing_of_present present] at last
  cases reads : cell.number? with
  | some x => simp [reads] at last
  | none => exact sortValue_of_no_number present reads

theorem rank_sortValue? (cell : Option Cell) : (sortValue? cell).rank = standing cell := by
  cases cell with
  | none => rfl
  | some cell =>
    by_cases present : cell = .null
    · subst present
      rfl
    · rw [standing_of_present present, sortValue?]
      cases reads : cell.number? with
      | none => rw [sortValue_of_no_number present reads]; rfl
      | some x => rw [sortValue_of_number reads]; rfl

theorem compare?_of_standing {a b : Option Cell} (before : standing a < standing b) :
    compare? a b = .lt := by
  rw [← rank_sortValue?, ← rank_sortValue?] at before
  exact SortValue.compare_of_rank before

theorem compare?_of_numbers {a b : Cell} {x y : Binary64} (left : a.number? = some x)
    (right : b.number? = some y) :
    compare? (some a) (some b) = Ord.compare x.orderKey y.orderKey := by
  rw [compare?, sortValue?, sortValue?, sortValue_of_number left, sortValue_of_number right,
    SortValue.compare]

theorem compare?_of_last {a b : Cell} (left : standing (some a) = 3)
    (right : standing (some b) = 3) :
    compare? (some a) (some b) = Ord.compare a.display b.display := by
  rw [compare?, sortValue?, sortValue?, sortValue_of_last left, sortValue_of_last right,
    SortValue.compare]

end Cell

namespace SortKey

def primed (key : SortKey) (cell : Option Cell) : Option Cell :=
  match key.primer with
  | some primer => cell.map primer
  | none => cell

theorem compare_eq_primed (key : SortKey) (a b : Option Cell) :
    key.compare a b =
      if key.descending then (Cell.compare? (key.primed a) (key.primed b)).swap
      else Cell.compare? (key.primed a) (key.primed b) := by
  rw [SortKey.compare, primed, primed]
  cases key.primer <;> rfl

theorem compare_eq (key : SortKey) :
    key.compare =
      if key.descending then fun a b => Cell.compare? (key.primed b) (key.primed a)
      else fun a b => Cell.compare? (key.primed a) (key.primed b) := by
  funext a b
  rw [compare_eq_primed, ← Std.OrientedCmp.eq_swap]
  cases key.descending <;> rfl

instance (key : SortKey) : Std.TransCmp key.compare := by
  have upward : Std.TransCmp fun a b => Cell.compare? (key.primed a) (key.primed b) :=
    transCmp_on Cell.compare? key.primed
  rw [compare_eq]
  split
  next => exact @Std.TransCmp.opposite _ _ upward
  next => exact upward

end SortKey

namespace Table

theorem compareRows_cons (column : Nat) (key : SortKey) (keys : List (Nat × SortKey)) :
    compareRows ((column, key) :: keys) =
      compareLex (fun a b => key.compare a[column]? b[column]?) (compareRows keys) := rfl

instance (keys : List (Nat × SortKey)) : Std.TransCmp (compareRows keys) := by
  induction keys with
  | nil => exact { eq_swap := rfl, isLE_trans := fun _ _ => rfl }
  | cons key keys ih =>
    have first : Std.TransCmp fun a b : Row => key.2.compare a[key.1]? b[key.1]? :=
      transCmp_on key.2.compare fun row : Row => row[key.1]?
    rw [compareRows_cons]
    infer_instance

instance (table : Table) (keys : List SortKey) : Std.TransCmp (table.rowOrder keys) :=
  inferInstanceAs (Std.TransCmp (compareRows (table.resolvedKeys keys)))

end Table

/-- Sorting never meets a cycle: cells of all kinds and missing cells are ordered by a total
preorder that goes by their classes, then by number or by text, and so are rows of any length under
any keys. -/
theorem sort_order_total :
    TotalPreorder Cell.compare? ∧
    (∀ a b, Cell.standing a < Cell.standing b → Cell.compare? a b = .lt) ∧
    (∀ (a b : Cell) (x y : Binary64), a.number? = some x → b.number? = some y →
      (x.less y = true → Cell.compare? (some a) (some b) = .lt) ∧
      (x = y → Cell.compare? (some a) (some b) = .eq)) ∧
    (∀ a b : Cell, Cell.standing (some a) = 3 → Cell.standing (some b) = 3 →
      Cell.compare? (some a) (some b) = compare a.display b.display) ∧
    ∀ (table : Table) (keys : List SortKey), TotalPreorder (table.rowOrder keys) := by
  refine ⟨totalPreorder_of_transCmp _, fun _ _ => Cell.compare?_of_standing, ?_,
    fun _ _ => Cell.compare?_of_last, fun table keys => totalPreorder_of_transCmp _⟩
  intro a b x y left right
  rw [Cell.compare?_of_numbers left right]
  refine ⟨fun less => Int.compare_eq_lt.mpr (Binary64.orderKey_lt_of_less less), ?_⟩
  rintro rfl
  exact Std.ReflCmp.compare_self

end TableQuery
