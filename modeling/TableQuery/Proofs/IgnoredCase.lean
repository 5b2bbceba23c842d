import TableQuery.Function.Builtin
import TableQuery.Proofs.ClauseMeaning
import TableQuery.Proofs.PatternPieces
import TableQuery.Proofs.SearchPositions

/-! Searches with and without regard to case. A pattern that covers a text as written also covers it
when case is ignored, since equal characters fold to equal ones. Everything else of a clause is the
same for both: which conditions it has, what they bind to and which of them call a predicate. So
where no condition negates, each row that is found with regard to case is found without. -/

namespace TableQuery

namespace Pattern

theorem Takes.ignoreCase {c : Char} {piece : List Char} (takes : Takes true c piece) :
    Takes false c piece := by
  cases takes with
  | run piece => exact .run piece
  | one x => exact .one x
  | same ordinary alike =>
    have equal : _ = c := alike
    exact .same ordinary (congrArg Text.fold equal)

theorem covers_ignoreCase {pattern text : List Char} (covered : covers true pattern text = true) :
    covers false pattern text = true := by
  rw [covers_iff_pieces] at covered ⊢
  obtain ⟨pieces, takes, whole⟩ := covered
  exact ⟨pieces, takes.imp fun _ _ => Takes.ignoreCase, whole⟩

end Pattern

namespace Clause

def Token.affirms : Token → Bool
  | .condition c => !c.negated
  | _ => true

theorem Token.affirms_condition {c : Condition} :
    (Token.condition c).affirms = true ↔ c.negated = false := by
  simp [affirms]

end Clause

namespace Engine

section

variable {functions : Registry} {fields : List String} {row : Row} {value : List Char}

theorem cellPasses_ignoreCase {cell : Cell} (passes : cellPasses ⟨true, functions⟩ value cell = true) :
    cellPasses ⟨false, functions⟩ value cell = true := by
  unfold cellPasses at passes ⊢
  dsimp only at passes ⊢
  cases called : (Call.parse? value).bind fun call =>
      (functions.predicate? call.name).map fun predicate => predicate cell call.args with
  | some result =>
    rw [called, Option.getD_some] at passes
    rw [Option.getD_some, passes]
  | none =>
    rw [called, Option.getD_none] at passes
    rw [Option.getD_none]
    exact Pattern.covers_ignoreCase passes

theorem fieldPasses_ignoreCase {written : List Char}
    (passes : fieldPasses ⟨true, functions⟩ fields row false value written = true) :
    fieldPasses ⟨false, functions⟩ fields row false value written = true := by
  unfold fieldPasses at passes ⊢
  cases bound : resolveField written fields with
  | none => rwa [bound] at passes
  | some column =>
    rw [bound] at passes
    simp only [Bool.bne_false] at passes ⊢
    exact cellPasses_ignoreCase passes

theorem conditionPasses_ignoreCase {condition : Clause.Condition} (affirms : condition.negated = false)
    (passes : conditionPasses ⟨true, functions⟩ fields row condition = true) :
    conditionPasses ⟨false, functions⟩ fields row condition = true := by
  unfold conditionPasses at passes ⊢
  rw [affirms] at passes ⊢
  dsimp only at passes ⊢
  split
  next any =>
    rw [if_pos any, List.any_eq_true] at passes
    obtain ⟨field, member, passes⟩ := passes
    exact List.any_eq_true.mpr ⟨field, member, fieldPasses_ignoreCase passes⟩
  next named =>
    rw [if_neg named] at passes
    split
    next every =>
      rw [if_pos every, Bool.and_eq_true, List.all_eq_true] at passes
      rw [Bool.and_eq_true, List.all_eq_true]
      exact passes.imp_right fun all field member => fieldPasses_ignoreCase (all field member)
    next single =>
      rw [if_neg single] at passes
      exact fieldPasses_ignoreCase passes

end

/-- Ignoring case only adds matches. Where no condition of a clause negates, a row that passes it
with regard to case passes it without, so over any table the rows found with regard to case are
found again in their order, among others perhaps. -/
theorem ignored_case_adds_matches (functions : Registry) (clause : String)
    (affirms : ∀ token ∈ Clause.tokens clause.toList, token.affirms = true) :
    let regarding : Engine := { caseSensitive := true, functions := functions }
    let ignoring : Engine := { caseSensitive := false, functions := functions }
    (∀ fields row, (regarding.compile clause fields).accepts row = true →
      (ignoring.compile clause fields).accepts row = true) ∧
    ∀ table, (regarding.positions table clause).Sublist (ignoring.positions table clause) ∧
      (regarding.matchingRows table clause).Sublist (ignoring.matchingRows table clause) := by
  intro regarding ignoring
  have accepts (fields : List String) (row : Row) :
      (regarding.compile clause fields).accepts row = true →
        (ignoring.compile clause fields).accepts row = true :=
    compile_accepts_mono fun condition member =>
      conditionPasses_ignoreCase (Clause.Token.affirms_condition.mp (affirms _ member))
  refine ⟨accepts, fun table => ⟨?_, ?_⟩⟩
  · exact (List.monotone_filter_right _ fun _ => accepts table.fields _).map Prod.snd
  · exact List.monotone_filter_right _ (accepts table.fields)

theorem ignored_case_adds_matches_everywhere :
    let clause := "OR*='ann%' OR (note='xY_' OR note='$gt(10)') AND name='%' OR nowhere='Z'"
    let table : Table := { fields := ["name", "note"], rows := [[.text "Ann", .integer 1],
      [.text "ann"], [.text "Bea", .text "Xyz"], [.text "Cal", .integer 17], [.text "Z"]] }
    let regarding : Engine := { caseSensitive := true, functions := Registry.builtins }
    let ignoring : Engine := { caseSensitive := false, functions := Registry.builtins }
    (∀ token ∈ Clause.tokens clause.toList, token.affirms = true) ∧
    regarding.positions table clause = [1, 3] ∧ ignoring.positions table clause = [0, 1, 2, 3] ∧
    (regarding.matchingRows table clause).Sublist (ignoring.matchingRows table clause) := by
  intro clause table regarding ignoring
  have affirms : ∀ token ∈ Clause.tokens clause.toList, token.affirms = true := by decide +kernel
  exact ⟨affirms, by decide +kernel, by decide +kernel,
    ((ignored_case_adds_matches Registry.builtins clause affirms).2 table).2⟩

/-- With a condition that negates, ignoring case can take a match away. -/
example :
    let accepts (caseSensitive : Bool) : Bool :=
      (compile { caseSensitive } "name!='ann'" ["name"]).accepts [.text "Ann"]
    accepts true = true ∧ accepts false = false := by
  decide +kernel

end Engine

end TableQuery
