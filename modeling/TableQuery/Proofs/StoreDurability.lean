import TableQuery.Store

/-! What lasts in a store. A verb reads the backup only, so that a working copy is never seen by a
later verb, and a query that is not committed leaves no trace. One lemma says what a single verb
does to the two tables, and each law of runs is an induction on the verbs. -/

namespace TableQuery

def Verb.isUncommittedQuery : Verb → Bool
  | .query _ committed _ _ _ => !committed
  | _ => false

/-- The verbs that a later verb may depend on. -/
def Verb.lasts : Verb → Bool
  | .reset => false
  | verb => !verb.isUncommittedQuery

namespace Store

def after (store : Store) (verbs : List Verb) : Store :=
  verbs.foldl (fun store verb => (store.perform verb).2) store

def trace : Store → List Verb → List (Verb × Answer)
  | _, [] => []
  | store, verb :: verbs => (verb, (store.perform verb).1) :: trace (store.perform verb).2 verbs

theorem perform_with_working (store : Store) (working : Table) (verb : Verb) :
    { store with working := working }.perform verb = store.perform verb := by
  cases verb <;> rfl

theorem perform_of_not_lasts (store : Store) {verb : Verb} (passing : verb.lasts = false) :
    (store.perform verb).2 = { store with working := (store.perform verb).2.working } := by
  cases verb with
  | query query committed shape fields options =>
    cases committed with
    | false => rfl
    | true => simp [Verb.lasts, Verb.isUncommittedQuery] at passing
  | reset => rfl
  | _ => simp [Verb.lasts, Verb.isUncommittedQuery] at passing

/-- Every verb but an uncommitted query leaves the two tables equal. -/
theorem perform_working (store : Store) {verb : Verb}
    (settled : verb.isUncommittedQuery = false) :
    (store.perform verb).2.working = (store.perform verb).2.backup := by
  cases verb with
  | query query committed shape fields options =>
    cases committed with
    | false => simp [Verb.isUncommittedQuery] at settled
    | true => rfl
  | _ => rfl

theorem after_cons (store : Store) (verb : Verb) (verbs : List Verb) :
    store.after (verb :: verbs) = (store.perform verb).2.after verbs := rfl

theorem after_concat (store : Store) (verbs : List Verb) (verb : Verb) :
    store.after (verbs ++ [verb]) = ((store.after verbs).perform verb).2 := by
  rw [after, List.foldl_append]
  rfl

theorem after_with_working (store : Store) (working : Table) {verbs : List Verb}
    (present : verbs ≠ []) : { store with working := working }.after verbs = store.after verbs := by
  obtain ⟨verb, verbs, rfl⟩ := List.exists_cons_of_ne_nil present
  rw [after_cons, after_cons, perform_with_working]

theorem after_with_working_backup (store : Store) (working : Table) (verbs : List Verb) :
    ({ store with working := working }.after verbs).backup = (store.after verbs).backup := by
  cases verbs with
  | nil => rfl
  | cons verb verbs => rw [after_with_working store working (List.cons_ne_nil verb verbs)]

theorem trace_with_working (store : Store) (working : Table) (verbs : List Verb) :
    { store with working := working }.trace verbs = store.trace verbs := by
  cases verbs with
  | nil => rfl
  | cons verb verbs => rw [trace, trace, perform_with_working]

theorem after_filter_lasts (store : Store) (verbs : List Verb) :
    (store.after (verbs.filter Verb.lasts)).backup = (store.after verbs).backup := by
  induction verbs generalizing store with
  | nil => rfl
  | cons verb verbs ih =>
    cases lasts : verb.lasts with
    | true => rw [List.filter_cons_of_pos lasts, after_cons, after_cons, ih]
    | false =>
      rw [List.filter_cons_of_neg (by simp [lasts]), ih, after_cons,
        perform_of_not_lasts store lasts]
      exact (after_with_working_backup store _ verbs).symm

theorem trace_filter_lasts (store : Store) (verbs : List Verb) :
    store.trace (verbs.filter Verb.lasts) = (store.trace verbs).filter (·.1.lasts) := by
  induction verbs generalizing store with
  | nil => rfl
  | cons verb verbs ih =>
    cases lasts : verb.lasts with
    | true =>
      rw [List.filter_cons_of_pos lasts, trace, trace, List.filter_cons_of_pos (by exact lasts), ih]
    | false =>
      rw [List.filter_cons_of_neg (by simp [lasts]), ih, trace,
        List.filter_cons_of_neg (by simp [lasts]), perform_of_not_lasts store lasts]
      exact congrArg _ (trace_with_working store _ verbs).symm

/-- Uncommitted work is invisible: leaving it out changes neither the backup nor any other answer,
the first working copy changes nothing that a verb gives or makes, and after any verb but an
uncommitted query the working copy is the backup. -/
theorem uncommitted_invisible (store : Store) (verbs : List Verb) :
    ((store.after (verbs.filter Verb.lasts)).backup = (store.after verbs).backup ∧
      store.trace (verbs.filter Verb.lasts) = (store.trace verbs).filter (·.1.lasts)) ∧
    (∀ working,
      { store with working := working }.trace verbs = store.trace verbs ∧
      ({ store with working := working }.after verbs).backup = (store.after verbs).backup ∧
      (verbs ≠ [] → { store with working := working }.after verbs = store.after verbs)) ∧
    ∀ verb, verb.isUncommittedQuery = false →
      (store.after (verbs ++ [verb])).working = (store.after (verbs ++ [verb])).backup := by
  refine ⟨⟨after_filter_lasts store verbs, trace_filter_lasts store verbs⟩, ?_, ?_⟩
  · intro working
    exact ⟨trace_with_working store working verbs, after_with_working_backup store working verbs,
      after_with_working store working⟩
  · intro verb settled
    rw [after_concat]
    exact perform_working _ settled

end Store

end TableQuery
