import Mathlib.Data.List.Basic
import TableQuery.Store

/-! The rows that a clause selects, as positions. The positions rise strictly, each is the place of
a row that the compiled clause accepts, and no such place is left out: together with the places of
the rows that the clause does not accept they are all positions of the table. -/

namespace TableQuery

def places {α : Type} (test : α → Bool) (items : List α) : List Nat :=
  (items.zipIdx.filter fun (item, _) => test item).map Prod.snd

section Places

variable {α : Type} (test : α → Bool) (items : List α)

theorem mem_places {index : Nat} :
    index ∈ places test items ↔ ∃ item, items[index]? = some item ∧ test item = true := by
  simp [places, List.mk_mem_zipIdx_iff_getElem?]

theorem places_strict : (places test items).Pairwise (· < ·) := by
  have within : (places test items).Sublist (items.zipIdx.map Prod.snd) :=
    List.filter_sublist.map Prod.snd
  rw [List.zipIdx_map_snd] at within
  exact List.Pairwise.sublist within List.pairwise_lt_range'

theorem map_fst_filter_zipIdx (start : Nat) :
    ((items.zipIdx start).filter fun (item, _) => test item).map Prod.fst = items.filter test := by
  have mapped : (((items.zipIdx start).map Prod.fst).filter test) =
      ((items.zipIdx start).filter (test ∘ Prod.fst)).map Prod.fst := List.filter_map
  rw [List.zipIdx_map_fst] at mapped
  exact mapped.symm

theorem places_length : (places test items).length = items.countP test := by
  rw [List.countP_eq_length_filter, ← map_fst_filter_zipIdx test items 0, List.length_map, places,
    List.length_map]

theorem places_map {β : Type} (image : β → α) (sources : List β) :
    places test (sources.map image) = places (fun source => test (image source)) sources := by
  rw [places, List.zipIdx_map, List.filter_map, List.map_map]
  rfl

theorem filterMap_places : (places test items).filterMap (fun index => items[index]?) =
    items.filter test := by
  rw [places, List.filterMap_map, ← map_fst_filter_zipIdx test items 0, ← List.filterMap_eq_map]
  apply List.filterMap_congr
  intro place member
  exact List.mem_zipIdx_iff_getElem?.mp (List.mem_filter.mp member).1

theorem places_append_perm :
    (places test items ++ places (fun item => !test item) items).Perm
      (List.range items.length) := by
  rw [places, places, ← List.map_append, List.range_eq_range', ← List.zipIdx_map_snd]
  exact (List.filter_append_perm _ items.zipIdx).map Prod.snd

end Places

namespace Engine

variable (engine : Engine) (table : Table) (clause : String)

theorem mem_positions {index : Nat} :
    index ∈ engine.positions table clause ↔
      ∃ row, table.rows[index]? = some row ∧
        (engine.compile clause table.fields).accepts row = true :=
  mem_places _ table.rows

theorem positions_strict : (engine.positions table clause).Pairwise (· < ·) :=
  places_strict _ table.rows

theorem positions_nodup : (engine.positions table clause).Nodup :=
  (engine.positions_strict table clause).imp Nat.ne_of_lt

theorem positions_length :
    (engine.positions table clause).length =
      table.rows.countP (engine.compile clause table.fields).accepts :=
  places_length _ table.rows

end Engine

namespace Store

/-- Whether a row of the backup is one that the verbs select by a clause. -/
def selects (store : Store) (clause : String) : Row → Bool :=
  (store.engine.compile (singleQuoted clause) store.backup.fields).accepts

theorem mem_matching_reset (store : Store) (clause : String) {index : Nat} :
    index ∈ store.reset.matching clause ↔
      ∃ row, store.backup.rows[index]? = some row ∧ store.selects clause row = true :=
  store.engine.mem_positions store.backup (singleQuoted clause)

end Store

end TableQuery
