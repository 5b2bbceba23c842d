import TableQuery.Proofs.StableSort
import TableQuery.Proofs.StoreSelection

/-! Sorts that follow one another. A list has only one stable order, since items that carry their
places are never equal to each other. So to know what sorting gives it is enough to find some list
that is in order and keeps the places: sorting by one comparison after another is sorting by both at
once, the later one first, and what a filter keeps of a sorted list is what it keeps, sorted. -/

namespace TableQuery

section Places

variable {α : Type} (order : α → α → Ordering)

/-- Of two items with their places the first may stand in front: it is no larger, and of equal items
it has the earlier place. -/
def Precedes (a b : α × Nat) : Prop := order a.1 b.1 ≠ .gt ∧ (order a.1 b.1 = .eq → a.2 < b.2)

theorem map_fst_mergeSort (placed : List (α × Nat)) :
    (placed.mergeSort fun a b => (order a.1 b.1).isLE).map Prod.fst =
      (placed.map Prod.fst).mergeSort fun a b => (order a b).isLE :=
  List.map_mergeSort fun _ _ _ _ => rfl

variable [Std.TransCmp order]

theorem not_precedes_both {a b : α × Nat} (forth : Precedes order a b) (back : Precedes order b a) :
    False := by
  have turned : order b.1 a.1 = (order a.1 b.1).swap := Std.OrientedCmp.eq_swap
  have equal : order a.1 b.1 = .eq := by
    have least := forth.1
    have most := back.1
    rw [turned] at most
    cases found : order a.1 b.1 with
    | eq => rfl
    | lt => simp [found] at most
    | gt => exact absurd found least
  exact Nat.lt_asymm (forth.2 equal) (back.2 (by rw [turned, equal]; rfl))

theorem eq_of_precedes {first second : List (α × Nat)} (same : first.Perm second)
    (left : first.Pairwise (Precedes order)) (right : second.Pairwise (Precedes order)) :
    first = second :=
  List.Perm.eq_of_pairwise
    (fun _ _ _ _ forth back => (not_precedes_both order forth back).elim) left right same

variable {order}

theorem StablySorted.unique {items first second : List α} (left : StablySorted order items first)
    (right : StablySorted order items second) : first = second := by
  obtain ⟨placed, shuffled, rfl, rising⟩ := left
  obtain ⟨placed', shuffled', rfl, rising'⟩ := right
  rw [eq_of_precedes order (shuffled.trans shuffled'.symm) rising rising']

variable (order)

theorem pairwise_mergeSort_of_pairwise {keep : α → α → Prop} {items : List α}
    (kept : items.Pairwise keep) :
    (items.mergeSort fun a b => (order a b).isLE).Pairwise fun a b =>
      order a b ≠ .gt ∧ (order a b = .eq → keep a b) := by
  obtain ⟨placed, shuffled, sorted, rising⟩ := stablySorted_mergeSort order items
  rw [← sorted]
  refine List.pairwise_map.mpr (rising.imp_of_mem ?_)
  rintro a b inLeft inRight ⟨least, early⟩
  refine ⟨least, fun equal => ?_⟩
  obtain ⟨within, here⟩ := List.getElem?_eq_some_iff.mp
    (List.mem_zipIdx_iff_getElem?.mp (shuffled.subset inLeft))
  obtain ⟨within', there⟩ := List.getElem?_eq_some_iff.mp
    (List.mem_zipIdx_iff_getElem?.mp (shuffled.subset inRight))
  rw [← here, ← there]
  exact List.pairwise_iff_getElem.mp kept a.2 b.2 within within' (early equal)

theorem precedes_mergeSort {placed : List (α × Nat)}
    (rising : placed.Pairwise fun a b => a.2 < b.2) :
    (placed.mergeSort fun a b => (order a.1 b.1).isLE).Pairwise (Precedes order) := by
  have items : Std.TransCmp fun a b : α × Nat => order a.1 b.1 := transCmp_on order Prod.fst
  exact pairwise_mergeSort_of_pairwise (fun a b : α × Nat => order a.1 b.1) rising

theorem filter_mergeSort (test : α → Bool) (items : List α) :
    (items.mergeSort fun a b => (order a b).isLE).filter test =
      (items.filter test).mergeSort fun a b => (order a b).isLE := by
  have rising := zipIdx_places_rise items
  have same : (items.zipIdx.mergeSort fun a b => (order a.1 b.1).isLE).filter (test ∘ Prod.fst) =
      (items.zipIdx.filter (test ∘ Prod.fst)).mergeSort fun a b => (order a.1 b.1).isLE :=
    eq_of_precedes order
      (((List.mergeSort_perm _ _).filter _).trans (List.mergeSort_perm _ _).symm)
      ((precedes_mergeSort order rising).filter _)
      (precedes_mergeSort order (rising.filter _))
  have items_same := congrArg (List.map Prod.fst) same
  rwa [← List.filter_map, map_fst_mergeSort, map_fst_mergeSort, ← List.filter_map,
    List.zipIdx_map_fst] at items_same

end Places

section Twice

variable {α : Type} (first later : α → α → Ordering) [Std.TransCmp first] [Std.TransCmp later]

theorem stablySorted_mergeSort_mergeSort (items : List α) :
    StablySorted (compareLex first later) items
      ((items.mergeSort fun a b => (later a b).isLE).mergeSort fun a b => (first a b).isLE) := by
  have byFirst : Std.TransCmp fun a b : α × Nat => first a.1 b.1 := transCmp_on first Prod.fst
  have once := precedes_mergeSort later (zipIdx_places_rise items)
  have twice := pairwise_mergeSort_of_pairwise (fun a b : α × Nat => first a.1 b.1) once
  refine ⟨_, (List.mergeSort_perm _ _).trans (List.mergeSort_perm items.zipIdx _), ?_,
    twice.imp ?_⟩
  · rw [map_fst_mergeSort, map_fst_mergeSort, List.zipIdx_map_fst]
  · rintro a b ⟨least, tied⟩
    rw [compareLex, ne_eq, Ordering.then_eq_gt, Ordering.then_eq_eq]
    refine ⟨?_, fun both => (tied both.1).2 both.2⟩
    rintro (larger | ⟨equal, larger⟩)
    · exact least larger
    · exact (tied equal).1 larger

/-- A list sorted by the later comparison and then by the first one is sorted by both: the later one
has a say where the first finds no difference. -/
theorem mergeSort_mergeSort (items : List α) :
    (items.mergeSort fun a b => (later a b).isLE).mergeSort (fun a b => (first a b).isLE) =
      items.mergeSort fun a b => (compareLex first later a b).isLE :=
  (stablySorted_mergeSort_mergeSort first later items).unique (stablySorted_mergeSort _ items)

end Twice

def joinedOrders (first later : String) : String := first ++ ", " ++ later

theorem SortKey.ofClause_joinedOrders (first later : String) :
    SortKey.ofClause (joinedOrders first later) =
      SortKey.ofClause first ++ SortKey.ofClause later := by
  have written : (joinedOrders first later).toList =
      first.toList ++ ',' :: ' ' :: later.toList := by
    simp [joinedOrders]
  have parts := Text.map_trim_splitAt_blank ',' ' ' rfl (by decide) later.toList
  rw [ofClause, ofClause, ofClause, written, Text.splitAt_append, List.map_append, parts,
    List.filter_append, List.map_append]

namespace Table

theorem compareRows_append (first later : List (Nat × SortKey)) :
    compareRows (first ++ later) = compareLex (compareRows first) (compareRows later) := by
  funext a b
  induction first with
  | nil => rfl
  | cons key first ih =>
    rw [List.cons_append, compareRows, ih, compareLex, compareLex, compareRows,
      Ordering.then_assoc]

theorem rowOrder_append (table : Table) (first later : List SortKey) :
    table.rowOrder (first ++ later) =
      compareLex (table.rowOrder first) (table.rowOrder later) := by
  have resolved : table.resolvedKeys (first ++ later) =
      table.resolvedKeys first ++ table.resolvedKeys later := List.filterMap_append
  funext a b
  rw [rowOrder, resolved, compareRows_append]
  rfl

theorem sortByKeys_sortByKeys (table : Table) (first later : List SortKey) :
    (table.sortByKeys later).sortByKeys first = table.sortByKeys (first ++ later) := by
  have rows := mergeSort_mergeSort (table.rowOrder first) (table.rowOrder later) table.rows
  rw [← rowOrder_append] at rows
  exact congrArg (fun rows => { table with rows := rows }) rows

/-- Sorts compose. Sorting by some keys and then by others is sorting once, by the keys of the last
sort and then by the earlier ones, whatever their directions and primers and whether or not their
fields are known. Order clauses are put together by writing a comma between them. -/
theorem sorts_compose (table : Table) :
    (∀ first later : List SortKey,
      (table.sortByKeys later).sortByKeys first = table.sortByKeys (first ++ later)) ∧
    ∀ first later : String,
      (table.orderBy later).orderBy first = table.orderBy (joinedOrders first later) := by
  refine ⟨table.sortByKeys_sortByKeys, fun first later => ?_⟩
  rw [orderBy, orderBy, sortByKeys_sortByKeys, orderBy, SortKey.ofClause_joinedOrders]

example : joinedOrders "a" "b" = "a, b" := rfl

end Table

theorem Table.sortByKeys_filter_rows (table : Table) (test : Row → Bool) (keys : List SortKey) :
    { table with rows := table.rows.filter test }.sortByKeys keys =
      { table with rows := (table.sortByKeys keys).rows.filter test } := by
  have rows := filter_mergeSort (table.rowOrder keys) test table.rows
  exact congrArg (fun rows => { table with rows := rows }) rows.symm

namespace Store

variable (store : Store)

theorem filterWorking_reset (clause : String) :
    store.reset.filterWorking (some clause) =
      { store.backup with rows := store.backup.rows.filter (store.selects clause) } := by
  rw [filterWorking, matching_reset]
  exact store.backup.keepRows_places (store.selects clause)

theorem answerTable_filter_order (select : Option String) (clause order : String) :
    store.answerTable { select := select, filter := some clause, order := some order } =
      (store.query { order := some order } true).answerTable
        { select := select, filter := some clause } := by
  rw [answerTable, answerTable, filterWorking_reset, filterWorking_reset]
  have rows := store.backup.sortByKeys_filter_rows (store.selects clause) (SortKey.ofClause order)
  exact congrArg (fun table => selectFields table (Query.fields? { select := select })) rows

/-- Filtering and ordering commute. A query that filters and orders, and perhaps selects fields,
leaves the working copy and gives the answer that the same query without its order does once the
order has been committed. -/
theorem filter_order_commute (select : Option String) (clause order : String)
    (shape orderShape : OutputShape) (fields orderFields : Option (List FieldRef))
    (options orderOptions : Delimited.Options) :
    let ordered := (store.perform
      (.query { order := some order } true orderShape orderFields orderOptions)).2
    let both := store.perform (.query
      { select := select, filter := some clause, order := some order } false shape fields options)
    let filtered := ordered.perform
      (.query { select := select, filter := some clause } false shape fields options)
    both.2.working = filtered.2.working ∧ both.1 = filtered.1 := by
  intro ordered both filtered
  have working : both.2.working = filtered.2.working :=
    store.answerTable_filter_order select clause order
  refine ⟨working, ?_⟩
  change Answer.exported (both.2.working.exportAs shape fields options) =
    Answer.exported (filtered.2.working.exportAs shape fields options)
  rw [working]

end Store

end TableQuery
