import TableQuery.Proofs.SortOrder

/-! Rows sorted by several keys. Sorting is stable for every comparison that is a total preorder, so
items that compare equal keep the order of their places, and this determines where every item goes.
Rows are compared by the first key of a known field that tells them apart; keys of unknown fields
are as if they were not there. -/

namespace TableQuery

/-- A list in order that holds the items of another list, those that compare equal in the order of
their places there. -/
def StablySorted {α : Type} (order : α → α → Ordering) (items sorted : List α) : Prop :=
  ∃ placed : List (α × Nat), placed.Perm items.zipIdx ∧ placed.map Prod.fst = sorted ∧
    placed.Pairwise fun a b => order a.1 b.1 ≠ .gt ∧ (order a.1 b.1 = .eq → a.2 < b.2)

namespace StablySorted

variable {α : Type} {order : α → α → Ordering} {items sorted : List α}

theorem perm (stable : StablySorted order items sorted) : sorted.Perm items := by
  obtain ⟨placed, same, rfl, -⟩ := stable
  have items_same := same.map Prod.fst
  rwa [List.zipIdx_map_fst] at items_same

theorem ordered (stable : StablySorted order items sorted) :
    sorted.Pairwise fun a b => order a b ≠ .gt := by
  obtain ⟨placed, -, rfl, rising⟩ := stable
  exact List.pairwise_map.mpr (rising.imp And.left)

end StablySorted

section Sorting

variable {α : Type} (order : α → α → Ordering) [Std.TransCmp order]

theorem isLE_total (a b : α) : ((order a b).isLE || (order b a).isLE) = true := by
  have turned : order b a = (order a b).swap := Std.OrientedCmp.eq_swap
  rw [turned]
  cases order a b <;> rfl

theorem zipIdx_places_rise (items : List α) : items.zipIdx.Pairwise fun a b => a.2 < b.2 := by
  have rising : (items.zipIdx.map Prod.snd).Pairwise (· < ·) := by
    rw [List.zipIdx_map_snd]
    exact List.pairwise_lt_range'
  exact List.pairwise_map.mp rising

theorem stablySorted_mergeSort (items : List α) :
    StablySorted order items (items.mergeSort fun a b => (order a b).isLE) := by
  have total := isLE_total order
  have passes_on (a b c : α) : (order a b).isLE = true → (order b c).isLE = true →
      (order a c).isLE = true := Std.TransCmp.isLE_trans
  have placed := List.pairwise_mergeSort (List.zipIdxLE_trans passes_on) (List.zipIdxLE_total total)
    items.zipIdx
  have shuffled := List.mergeSort_perm items.zipIdx (List.zipIdxLE fun a b => (order a b).isLE)
  have distinct : items.zipIdx.Pairwise fun a b => a.2 ≠ b.2 :=
    (zipIdx_places_rise items).imp Nat.ne_of_lt
  have differ := (shuffled.pairwise_iff fun apart => Ne.symm apart).mpr distinct
  refine ⟨_, shuffled, List.mergeSort_zipIdx, (placed.and differ).imp ?_⟩
  rintro a b ⟨before, apart⟩
  rw [List.zipIdxLE] at before
  split at before
  next least =>
    refine ⟨Ordering.isLE_iff_ne_gt.mp least, fun equal => ?_⟩
    have back : order b.1 a.1 = .eq := Std.OrientedCmp.eq_symm equal
    rw [back, if_pos Ordering.isLE_eq, decide_eq_true_eq] at before
    exact Nat.lt_of_le_of_ne before apart
  next => cases before

theorem mergeSort_again (items : List α) :
    (items.mergeSort fun a b => (order a b).isLE).mergeSort (fun a b => (order a b).isLE) =
      items.mergeSort fun a b => (order a b).isLE := by
  apply List.mergeSort_of_pairwise
  exact (stablySorted_mergeSort order items).ordered.imp Ordering.isLE_iff_ne_gt.mpr

end Sorting

def SortKey.verdict (key : SortKey) (column : Nat) (a b : Row) : Ordering :=
  let order := Cell.compare? (key.primed a[column]?) (key.primed b[column]?)
  if key.descending then order.swap else order

namespace Table

def verdicts (table : Table) (keys : List SortKey) (a b : Row) : List Ordering :=
  keys.filterMap fun key => (table.resolve key.field).map fun column => key.verdict column a b

theorem compareRows_eq_find? (keys : List (Nat × SortKey)) (a b : Row) :
    compareRows keys a b =
      ((keys.map fun key => key.2.verdict key.1 a b).find? (· != .eq)).getD .eq := by
  induction keys with
  | nil => rfl
  | cons key keys ih =>
    have first : key.2.compare a[key.1]? b[key.1]? = key.2.verdict key.1 a b :=
      key.2.compare_eq_primed _ _
    rw [compareRows, first, ih, List.map_cons, List.find?_cons]
    cases key.2.verdict key.1 a b <;> rfl

/-- The first key that tells two rows apart decides. -/
theorem rowOrder_eq_find? (table : Table) (keys : List SortKey) (a b : Row) :
    table.rowOrder keys a b = ((table.verdicts keys a b).find? (· != .eq)).getD .eq := by
  have resolved : (table.resolvedKeys keys).map (fun key => key.2.verdict key.1 a b) =
      table.verdicts keys a b := by
    rw [resolvedKeys, List.map_filterMap, verdicts]
    simp only [Option.map_map, Function.comp_def]
  rw [rowOrder, compareRows_eq_find?, resolved]

theorem resolvedKeys_filter (table : Table) (keys : List SortKey) :
    table.resolvedKeys (keys.filter fun key => (table.resolve key.field).isSome) =
      table.resolvedKeys keys := by
  rw [resolvedKeys, resolvedKeys, List.filterMap_filter]
  congr 1
  funext key
  cases table.resolve key.field <;> rfl

theorem sortByKeys_filter (table : Table) (keys : List SortKey) :
    table.sortByKeys (keys.filter fun key => (table.resolve key.field).isSome) =
      table.sortByKeys keys := by
  rw [sortByKeys, sortByKeys]
  congr 2
  funext a b
  rw [rowOrder, rowOrder, resolvedKeys_filter]

theorem sortByKeys_again (table : Table) (keys : List SortKey) :
    (table.sortByKeys keys).sortByKeys keys = table.sortByKeys keys := by
  have rows := mergeSort_again (table.rowOrder keys) table.rows
  exact congrArg (fun rows => { table with rows := rows }) rows

/-- Sorting by keys reorders the rows and nothing else. No row comes before a smaller one, where the
first key that tells two rows apart compares them, and rows that no key tells apart keep their
order, whatever the directions. Keys of unknown fields make no difference, and neither does sorting
once more. -/
theorem sorted_by_first_difference (table : Table) (keys : List SortKey) :
    (table.sortByKeys keys).fields = table.fields ∧
    (table.sortByKeys keys).rows.Perm table.rows ∧
    (table.sortByKeys keys).rows.Pairwise (fun a b => table.rowOrder keys a b ≠ .gt) ∧
    StablySorted (table.rowOrder keys) table.rows (table.sortByKeys keys).rows ∧
    (∀ a b, table.rowOrder keys a b =
      ((table.verdicts keys a b).find? (· != .eq)).getD .eq) ∧
    table.sortByKeys (keys.filter fun key => (table.resolve key.field).isSome) =
      table.sortByKeys keys ∧
    (table.sortByKeys keys).sortByKeys keys = table.sortByKeys keys := by
  have stable := stablySorted_mergeSort (table.rowOrder keys) table.rows
  exact ⟨rfl, stable.perm, stable.ordered, stable, table.rowOrder_eq_find? keys,
    table.sortByKeys_filter keys, table.sortByKeys_again keys⟩

end Table

end TableQuery
