import TableQuery.Table.Duplicates

/-! The rows that the removal of duplicates keeps. A row is compared with the kept rows alone, yet it
stays just when no earlier row matches it, kept or dropped: what a dropped row would match, the kept
row that it matched does, since matching is transitive. It is not reflexive, as not-a-number equals
nothing, so a row may stay that matches no row at all, not even itself. -/

namespace TableQuery

namespace Binary64

theorem equals_iff {a b : Binary64} :
    a.equals b = true ↔ ∃ place, a.place? = some place ∧ b.place? = some place := by
  rw [equals]
  cases a.place? with
  | none => exact iff_of_false Bool.false_ne_true fun ⟨_, here, _⟩ => nomatch here
  | some x =>
    cases b.place? with
    | none => exact iff_of_false Bool.false_ne_true fun ⟨_, _, here⟩ => nomatch here
    | some y => simp only [beq_iff_eq, Option.some.injEq, exists_eq_left', @eq_comm Int y]

theorem limit_pos : 0 < limit := by decide

theorem place?_infinite {negative : Bool} {place : Int}
    (here : (infinite negative).place? = some place) :
    place.natAbs = limit ∧ (negative = true ↔ place < 0) := by
  have positive := limit_pos
  rw [place?, Option.some.injEq] at here
  subst here
  cases negative with
  | false => simp
  | true => simp; omega

theorem place?_finite {negative : Bool} {rank : Fin limit} {place : Int}
    (here : (finite negative rank).place? = some place) :
    place.natAbs = rank.val ∧ (place ≠ 0 → (negative = true ↔ place < 0)) := by
  rw [place?, Option.some.injEq] at here
  subst here
  cases negative with
  | false => simp
  | true => simp; omega

theorem eq_of_place {a b : Binary64} {place : Int} (first : a.place? = some place)
    (second : b.place? = some place) (away : place ≠ 0) : a = b := by
  cases a with
  | nan => cases first
  | infinite s =>
    obtain ⟨size, sign⟩ := place?_infinite first
    cases b with
    | nan => cases second
    | infinite t => rw [Bool.eq_iff_iff.mpr (sign.trans (place?_infinite second).2.symm)]
    | finite t rank => exact absurd (size.symm.trans (place?_finite second).1) (Nat.ne_of_gt rank.isLt)
  | finite s rank =>
    obtain ⟨size, sign⟩ := place?_finite first
    cases b with
    | nan => cases second
    | infinite t => exact absurd (size.symm.trans (place?_infinite second).1) (Nat.ne_of_lt rank.isLt)
    | finite t other =>
      obtain ⟨size', sign'⟩ := place?_finite second
      rw [Bool.eq_iff_iff.mpr ((sign away).trans (sign' away).symm), Fin.ext (size.symm.trans size')]

end Binary64

/-- Cells that count as the same, where a row may end before its cell. -/
inductive Cell.Same : Option Cell → Option Cell → Prop
  | missing : Same none none
  | value (cell : Cell) (number : cell ≠ .double .nan) : Same (some cell) (some cell)
  | zeros {a b : Binary64} (first : a.place? = some 0) (second : b.place? = some 0) :
      Same (some (.double a)) (some (.double b))

theorem Cell.Same.trans {a b c : Option Cell} (first : Cell.Same a b) (second : Cell.Same b c) :
    Cell.Same a c := by
  cases first with
  | missing => exact second
  | value cell number => exact second
  | zeros zero middle =>
    cases second with
    | value cell number => exact .zeros zero middle
    | zeros _ last => exact .zeros zero last

theorem Cell.Same.symm {a b : Option Cell} (same : Cell.Same a b) : Cell.Same b a := by
  cases same with
  | missing => exact .missing
  | value cell number => exact .value cell number
  | zeros first second => exact .zeros second first

theorem Binary64.equals_iff_same {a b : Binary64} :
    a.equals b = true ↔ Cell.Same (some (.double a)) (some (.double b)) := by
  rw [equals_iff]
  constructor
  · rintro ⟨place, first, second⟩
    by_cases zero : place = 0
    · subst zero
      exact .zeros first second
    · obtain rfl := eq_of_place first second zero
      refine .value (.double a) fun nan => ?_
      rw [Cell.double.inj nan] at first
      cases first
  · intro same
    cases same with
    | zeros first second => exact ⟨0, first, second⟩
    | value _ number =>
      cases a with
      | nan => exact absurd rfl number
      | infinite negative => exact ⟨_, rfl, rfl⟩
      | finite negative rank => exact ⟨_, rfl, rfl⟩

theorem Cell.same_of_equals {x y : Cell} (equal : x.equals y = true) :
    Cell.Same (some x) (some y) := by
  cases x with
  | null =>
    cases y with
    | null => exact .value .null Cell.noConfusion
    | _ => cases equal
  | boolean a =>
    cases y with
    | boolean b => exact eq_of_beq equal ▸ .value (.boolean a) Cell.noConfusion
    | _ => cases equal
  | integer a =>
    cases y with
    | integer b => exact eq_of_beq equal ▸ .value (.integer a) Cell.noConfusion
    | _ => cases equal
  | double a =>
    cases y with
    | double b => exact Binary64.equals_iff_same.mp equal
    | _ => cases equal
  | text a =>
    cases y with
    | text b => exact eq_of_beq equal ▸ .value (.text a) Cell.noConfusion
    | _ => cases equal

theorem Cell.equals_self {cell : Cell} (number : cell ≠ .double .nan) :
    cell.equals cell = true := by
  cases cell with
  | null => rfl
  | double x => exact Binary64.equals_iff_same.mpr (.value (.double x) number)
  | boolean value => exact beq_self_eq_true value
  | integer n => exact beq_self_eq_true n
  | text s => exact beq_self_eq_true s

theorem Cell.equals?_iff {a b : Option Cell} : Cell.equals? a b = true ↔ Cell.Same a b := by
  constructor
  · intro equal
    cases a with
    | none =>
      cases b with
      | none => exact .missing
      | some y => cases equal
    | some x =>
      cases b with
      | none => cases equal
      | some y => exact Cell.same_of_equals equal
  · intro same
    cases same with
    | missing => rfl
    | value cell number => exact Cell.equals_self number
    | zeros first second => exact Binary64.equals_iff_same.mpr (.zeros first second)

def DuplicateCheck.Matches (check : DuplicateCheck) (columns : List Nat) (a b : Row) : Prop :=
  match check with
  | .firstField => ∃ column, columns.head? = some column ∧ Cell.Same a[column]? b[column]?
  | .allFields => ∀ column ∈ columns, Cell.Same a[column]? b[column]?

section Matching

variable {check : DuplicateCheck} {columns : List Nat} {a b c : Row}

theorem DuplicateCheck.agrees_iff (selected : columns ≠ []) :
    check.agrees columns a b = true ↔ check.Matches columns a b := by
  obtain ⟨first, others, rfl⟩ := List.exists_cons_of_ne_nil selected
  cases check with
  | firstField => simp [agrees, Matches, Row.agrees, Cell.equals?_iff]
  | allFields => simp [agrees, Matches, Row.agrees, Cell.equals?_iff]

theorem DuplicateCheck.Matches.trans (first : check.Matches columns a b)
    (second : check.Matches columns b c) : check.Matches columns a c := by
  cases check with
  | firstField =>
    obtain ⟨column, leads, same⟩ := first
    obtain ⟨_, leads', same'⟩ := second
    obtain rfl := Option.some.inj (leads.symm.trans leads')
    exact ⟨column, leads, same.trans same'⟩
  | allFields => exact fun column member => (first column member).trans (second column member)

theorem DuplicateCheck.Matches.symm (same : check.Matches columns a b) :
    check.Matches columns b a := by
  cases check with
  | firstField =>
    obtain ⟨column, leads, same⟩ := same
    exact ⟨column, leads, same.symm⟩
  | allFields => exact fun column member => (same column member).symm

theorem DuplicateCheck.agrees_trans (selected : columns ≠ []) (a b c : Row)
    (first : check.agrees columns a b = true) (second : check.agrees columns b c = true) :
    check.agrees columns a c = true := by
  rw [agrees_iff selected] at first second
  exact (agrees_iff selected).mpr (first.trans second)

theorem DuplicateCheck.Matches.firstField (selected : columns ≠ [])
    (all : DuplicateCheck.allFields.Matches columns a b) :
    DuplicateCheck.firstField.Matches columns a b :=
  ⟨columns.head selected, List.head?_eq_some_head selected,
    all _ (List.head_mem selected)⟩

end Matching

def IsFirst (same : Row → Row → Prop) (rows : List Row) (index : Nat) : Prop :=
  ∃ row, rows[index]? = some row ∧ ∀ other ∈ rows.take index, ¬same row other

theorem IsFirst.imp {same same' : Row → Row → Prop} {rows : List Row} {index : Nat}
    (first : IsFirst same rows index) (weaker : ∀ a b, same' a b → same a b) :
    IsFirst same' rows index := by
  obtain ⟨row, here, apart⟩ := first
  exact ⟨row, here, fun other member found => apart other member (weaker row other found)⟩

theorem isFirst_length {same : Row → Row → Prop} (seen : List Row) (row : Row) (rest : List Row) :
    IsFirst same (seen ++ row :: rest) seen.length ↔ ∀ other ∈ seen, ¬same row other := by
  simp [IsFirst]

theorem isFirst_from {same : Row → Row → Prop} (seen : List Row) (row : Row) (rest : List Row)
    (index : Nat) :
    seen.length ≤ index ∧ IsFirst same (seen ++ row :: rest) index ↔
      index = seen.length ∧ (∀ other ∈ seen, ¬same row other) ∨
      (seen ++ [row]).length ≤ index ∧ IsFirst same (seen ++ [row] ++ rest) index := by
  have whole : seen ++ [row] ++ rest = seen ++ row :: rest := List.append_assoc seen [row] rest
  have longer : (seen ++ [row]).length = seen.length + 1 := List.length_append
  rw [whole, longer, ← isFirst_length seen row rest]
  constructor
  · rintro ⟨reached, first⟩
    rcases Nat.eq_or_lt_of_le reached with rfl | past
    · exact .inl ⟨rfl, first⟩
    · exact .inr ⟨past, first⟩
  · rintro (⟨rfl, first⟩ | ⟨past, first⟩)
    · exact ⟨Nat.le_refl _, first⟩
    · exact ⟨Nat.le_of_succ_le past, first⟩

section KeepFirst

variable {same : Row → Row → Bool} {kept seen : List Row}

theorem any_same_matched (trans : ∀ a b c, same a b = true → same b c = true → same a c = true)
    (asKept : ∀ row, kept.any (same row) = seen.any (same row)) {row : Row}
    (matched : kept.any (same row) = true) (later : Row) :
    kept.any (same later) = (seen ++ [row]).any (same later) := by
  rw [List.any_append, ← asKept, List.any_cons, List.any_nil, Bool.or_false]
  cases alike : same later row with
  | false => rw [Bool.or_false]
  | true =>
    obtain ⟨other, member, found⟩ := List.any_eq_true.mp matched
    rw [Bool.or_true]
    exact List.any_eq_true.mpr ⟨other, member, trans later row other alike found⟩

/-- As the kept rows match whatever the rows before match, a row is kept just when no row before it
matches it. -/
theorem keepFirst_places (trans : ∀ a b c, same a b = true → same b c = true → same a c = true)
    (kept seen rest : List Row) (asKept : ∀ row, kept.any (same row) = seen.any (same row)) :
    ∃ places : List Nat, places.Pairwise (· < ·) ∧
      (∀ index, index ∈ places ↔
        seen.length ≤ index ∧ IsFirst (same · · = true) (seen ++ rest) index) ∧
      keepFirst same kept rest = places.filterMap ((seen ++ rest)[·]?) := by
  induction rest generalizing kept seen with
  | nil =>
    refine ⟨[], .nil, fun index => iff_of_false List.not_mem_nil ?_, rfl⟩
    rintro ⟨past, row, here, -⟩
    rw [List.append_nil, List.getElem?_eq_none past] at here
    cases here
  | cons row rest ih =>
    have whole : seen ++ [row] ++ rest = seen ++ row :: rest := List.append_assoc seen [row] rest
    have unlike : (∀ other ∈ seen, ¬same row other = true) ↔ ¬kept.any (same row) = true := by
      rw [asKept, List.any_eq_true]
      simp only [not_exists, not_and]
    rw [keepFirst]
    split
    next matched =>
      obtain ⟨places, rising, members, keeps⟩ :=
        ih kept (seen ++ [row]) (any_same_matched trans asKept matched)
      refine ⟨places, rising, fun index => ?_, whole ▸ keeps⟩
      rw [isFirst_from, members]
      exact (or_iff_right fun here => unlike.mp here.2 matched).symm
    next unmatched =>
      have asKept' (later : Row) :
          (kept ++ [row]).any (same later) = (seen ++ [row]).any (same later) := by
        rw [List.any_append, List.any_append, asKept]
      obtain ⟨places, rising, members, keeps⟩ := ih (kept ++ [row]) (seen ++ [row]) asKept'
      refine ⟨seen.length :: places, .cons (fun place member => ?_) rising, fun index => ?_, ?_⟩
      · have after := ((members place).mp member).1
        rwa [List.length_append] at after
      · rw [isFirst_from, List.mem_cons, members, and_iff_left (unlike.mpr unmatched)]
      · have present : (seen ++ row :: rest)[seen.length]? = some row := by simp
        rw [List.filterMap_cons_some present, keeps, whole]

abbrev Apart (same : Row → Row → Bool) (rows : List Row) : Prop :=
  rows.Pairwise fun earlier later => same later earlier = false

theorem keepFirst_apart (rest : List Row) (apart : Apart same kept) :
    Apart same (kept ++ keepFirst same kept rest) := by
  induction rest generalizing kept with
  | nil => rwa [keepFirst, List.append_nil]
  | cons row rest ih =>
    rw [keepFirst]
    split
    next => exact ih apart
    next unmatched =>
      have unlike : ∀ earlier ∈ kept, same row earlier = false := by simpa using unmatched
      have apart' : Apart same (kept ++ [row]) :=
        List.pairwise_append.mpr ⟨apart, List.pairwise_singleton _ _, by simpa using unlike⟩
      rw [← List.singleton_append, ← List.append_assoc]
      exact ih apart'

theorem keepFirst_of_apart {rest : List Row} (apart : Apart same (kept ++ rest)) :
    keepFirst same kept rest = rest := by
  induction rest generalizing kept with
  | nil => rfl
  | cons row rest ih =>
    have unlike : ∀ earlier ∈ kept, same row earlier = false := fun earlier member =>
      (List.pairwise_append.mp apart).2.2 earlier member row List.mem_cons_self
    have unmatched : ¬kept.any (same row) = true := by simpa using unlike
    rw [← List.singleton_append, ← List.append_assoc] at apart
    rw [keepFirst, if_neg unmatched, ih apart]

theorem keepFirst_again (rows : List Row) :
    keepFirst same [] (keepFirst same [] rows) = keepFirst same [] rows :=
  keepFirst_of_apart (keepFirst_apart rows .nil)

end KeepFirst

namespace Table

variable {table : Table} {fields : Option (List FieldRef)} {check : DuplicateCheck}

theorem removeDuplicates_unselected (unselected : table.selectedColumns fields = []) :
    table.removeDuplicates fields check = table := by
  simp [removeDuplicates, unselected]

theorem removeDuplicates_selected (selected : table.selectedColumns fields ≠ []) :
    table.removeDuplicates fields check =
      { table with rows := keepFirst (check.agrees (table.selectedColumns fields)) [] table.rows } := by
  simp [removeDuplicates, selected]

theorem selectedColumns_removeDuplicates :
    (table.removeDuplicates fields check).selectedColumns fields =
      table.selectedColumns fields := by
  rw [removeDuplicates]
  split
  · rfl
  · cases fields <;> rfl

theorem removeDuplicates_again :
    (table.removeDuplicates fields check).removeDuplicates fields check =
      table.removeDuplicates fields check := by
  by_cases unselected : table.selectedColumns fields = []
  · rw [removeDuplicates_unselected unselected, removeDuplicates_unselected unselected]
  · have selected : (table.removeDuplicates fields check).selectedColumns fields ≠ [] := by
      rwa [selectedColumns_removeDuplicates]
    rw [removeDuplicates_selected selected, selectedColumns_removeDuplicates,
      removeDuplicates_selected unselected]
    dsimp only
    rw [keepFirst_again]

theorem not_matches_of_kept (selected : table.selectedColumns fields ≠ []) {first second : Nat}
    (different : first ≠ second) {a b : Row}
    (here : (table.removeDuplicates fields check).rows[first]? = some a)
    (there : (table.removeDuplicates fields check).rows[second]? = some b) :
    ¬check.Matches (table.selectedColumns fields) a b := by
  have apart : Apart (check.agrees (table.selectedColumns fields))
      (table.removeDuplicates fields check).rows := by
    rw [removeDuplicates_selected selected]
    exact keepFirst_apart table.rows .nil
  have unlike := List.pairwise_iff_getElem.mp apart
  obtain ⟨within, rfl⟩ := List.getElem?_eq_some_iff.mp here
  obtain ⟨within', rfl⟩ := List.getElem?_eq_some_iff.mp there
  intro same
  rcases Nat.lt_or_gt_of_ne different with before | after
  · have agrees := (DuplicateCheck.agrees_iff selected).mpr same.symm
    exact Bool.false_ne_true ((unlike first second within within' before).symm.trans agrees)
  · have agrees := (DuplicateCheck.agrees_iff selected).mpr same
    exact Bool.false_ne_true ((unlike second first within' within after).symm.trans agrees)

theorem isFirst_agrees {columns : List Nat} (selected : columns ≠ []) {rows : List Row}
    {index : Nat} :
    IsFirst (check.agrees columns · · = true) rows index ↔
      IsFirst (check.Matches columns) rows index :=
  ⟨fun first => first.imp fun _ _ => (DuplicateCheck.agrees_iff selected).mpr,
    fun first => first.imp fun _ _ => (DuplicateCheck.agrees_iff selected).mp⟩

/-- Where a selection names columns, the rows that stay are those that no earlier row matches, in
their order and as they were. All that stay when only the first of the columns is compared stay when
all are. Removal leaves nothing for another removal, and without a column it removes nothing. -/
theorem removeDuplicates_keeps_firsts (table : Table) (fields : Option (List FieldRef))
    (check : DuplicateCheck) :
    (table.selectedColumns fields ≠ [] →
      (∃ places : List Nat, places.Pairwise (· < ·) ∧
        (∀ index, index ∈ places ↔
          IsFirst (check.Matches (table.selectedColumns fields)) table.rows index) ∧
        table.removeDuplicates fields check =
          { table with rows := places.filterMap (table.rows[·]?) }) ∧
      ∀ index, IsFirst (DuplicateCheck.firstField.Matches (table.selectedColumns fields))
          table.rows index →
        IsFirst (DuplicateCheck.allFields.Matches (table.selectedColumns fields))
          table.rows index) ∧
    (table.removeDuplicates fields check).removeDuplicates fields check =
      table.removeDuplicates fields check ∧
    (table.selectedColumns fields = [] → table.removeDuplicates fields check = table) := by
  refine ⟨fun selected => ⟨?_, fun index first => ?_⟩, removeDuplicates_again,
    removeDuplicates_unselected⟩
  · obtain ⟨places, rising, members, keeps⟩ := keepFirst_places
      (DuplicateCheck.agrees_trans selected) [] [] table.rows fun _ => rfl
    refine ⟨places, rising, fun index => ?_, ?_⟩
    · rw [members, isFirst_agrees selected]
      exact and_iff_right (Nat.zero_le index)
    · rw [removeDuplicates_selected selected, keeps]
      rfl
  · exact first.imp fun _ _ => DuplicateCheck.Matches.firstField selected

/-- Rows that end early and a not-a-number, which stays twice. -/
theorem removeDuplicates_keeps_firsts_ragged :
    let rows : List Row := [[.integer 1, .double .nan], [.integer 1], [.integer 1],
      [.integer 1, .double .nan], []]
    let table : Table := { fields := ["a", "b"], rows := rows }
    table.selectedColumns none ≠ [] ∧ table.selectedColumns (some [.name "c"]) = [] ∧
      (∃ places : List Nat, places.Pairwise (· < ·) ∧
        (∀ index, index ∈ places ↔ IsFirst
          (DuplicateCheck.allFields.Matches (table.selectedColumns none)) table.rows index) ∧
        table.removeDuplicates none .allFields =
          { table with rows := places.filterMap (table.rows[·]?) }) ∧
      (table.removeDuplicates none .allFields).rows =
        [[.integer 1, .double .nan], [.integer 1], [.integer 1, .double .nan], []] ∧
      (table.removeDuplicates none .firstField).rows = [[.integer 1, .double .nan], []] ∧
      table.removeDuplicates (some [.name "c"]) .allFields = table := by
  intro rows table
  have selected : table.selectedColumns none ≠ [] := by decide +kernel
  have unselected : table.selectedColumns (some [.name "c"]) = [] := by decide +kernel
  exact ⟨selected, unselected,
    ((removeDuplicates_keeps_firsts table none .allFields).1 selected).1, by decide +kernel,
    by decide +kernel, (removeDuplicates_keeps_firsts table _ .allFields).2.2 unselected⟩

end Table

end TableQuery
