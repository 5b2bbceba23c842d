import TableQuery.Proofs.Projection
import TableQuery.Proofs.SessionFrames

/-! What a session gives out is what it showed last. The working copy is given out, the fields are
listed from the backup, and every verb makes the one from the other. What is shown of a working copy
has its rows fitted to the fields, and tables that agree once they are fitted give out the same, so
the fitted copy is what is followed along a run. A query that is shown leaves its answer there, a
change leaves the new backup, and no other command touches it. -/

namespace TableQuery

def Command.changes : Command → Bool
  | .load _ | .update _ _ | .delete _ | .insert _ | .distinct _ => true
  | _ => false

namespace Command

theorem reads_or_shows_or_changes (command : Command) :
    command.onlyReads = true ∨ command.shows = true ∨ command.changes = true := by
  cases command with
  | fields | give | logs | help | quit | commit => exact .inl rfl
  | list | filter | sort | select => exact .inr (.inl rfl)
  | load | update | delete | insert | distinct => exact .inr (.inr rfl)

theorem settled_verb_of_changes {session : Session} {command : Command} {verb : Verb}
    (changing : command.changes = true) (asked : command.verb? session = some verb) :
    verb.isUncommittedQuery = false := by
  cases command with
  | update | delete | insert | distinct =>
    cases asked
    rfl
  | load => cases asked
  | _ => cases changing

end Command

theorem Table.toTable_toTable (table : Table) :
    (table.toTable none).toTable none = table.toTable none := by
  have picks := table.picks_toTable none
  rw [toTable, picks.selectedNames_eq, picks.toMatrix_eq]
  rfl

namespace Session

theorem formatted_toTable (settings : Settings) (table : Table) (format : FileFormat) :
    formatted settings (table.toTable none) format = formatted settings table format := by
  have picks := table.picks_toTable none
  cases format with
  | delimited => exact picks.toDelimited_eq settings.delimited
  | recordTable => rw [formatted, formatted, picks.toRecordTable_eq]
  | records => rw [formatted, formatted, picks.toRecords_eq]

/-- The working copy is this table, once the rows of both are fitted to the fields. -/
def Displays (session : Session) (table : Table) : Prop :=
  ∃ store, session.store = some store ∧ store.working.toTable none = table.toTable none

def Settled (session : Session) : Prop :=
  ∃ store, session.store = some store ∧ store.working = store.backup

/-- Giving out without a file prints a table: as delimited text under some settings, and as the
document of its record table or of its records. -/
structure Prints (session : Session) (settings : Settings) (table : Table) : Prop where
  delimited : ∀ time, session.execute time (.give .delimited none) =
    .done (.ok (.text (table.toDelimited settings.delimited none)), session)
  recordTable : ∀ time, session.execute time (.give .recordTable none) =
    .done (.ok (.text (Json.pretty (table.toRecordTable none).toJson)), session)
  records : ∀ time, session.execute time (.give .records none) =
    .done (.ok (.text (Json.pretty (.array ((table.toRecords none).map Json.object)))), session)

section Displays

variable {session : Session} {table : Table}

theorem Displays.execute_give (shown : session.Displays table) (time : String)
    (format : FileFormat) :
    session.execute time (.give format none) =
      .done (.ok (.text (formatted session.settings table format)), session) := by
  obtain ⟨store, present, same⟩ := shown
  rw [execute, give, present, ← formatted_toTable, ← same, formatted_toTable]

theorem Displays.prints (shown : session.Displays table) :
    session.Prints session.settings table where
  delimited time := shown.execute_give time .delimited
  recordTable time := shown.execute_give time .recordTable
  records time := shown.execute_give time .records

theorem Settled.displays (settled : session.Settled) :
    ∃ table, session.backup? = some table ∧ session.Displays table := by
  obtain ⟨store, present, same⟩ := settled
  exact ⟨store.backup, by rw [backup?, present, Option.map_some], store, present, by rw [same]⟩

theorem Displays.of_store_eq {after : Session} (shown : session.Displays table)
    (kept : after.store = session.store) : after.Displays table := by
  rw [Displays, kept]
  exact shown

theorem Settled.of_store_eq {after : Session} (settled : session.Settled)
    (kept : after.store = session.store) : after.Settled := by
  rw [Settled, kept]
  exact settled

end Displays

/-! One command. -/

theorem showQuery_displays {session : Session} {store : Store} (present : session.store = some store)
    (time : String) (query : Query) :
    ∃ table next, session.showQuery time query = (.ok (.table table), next) ∧
      next.Displays table := by
  simp only [showQuery, perform, present]
  exact ⟨_, _, rfl, _, rfl, (Table.toTable_toTable _).symm⟩

theorem execute_of_shows (time : String) (session : Session) {command : Command}
    (shown : command.shows = true) :
    ∃ query, session.execute time command = .done (session.showQuery time query) := by
  cases command with
  | list | filter | sort | select => exact ⟨_, rfl⟩
  | _ => cases shown

section Steps

variable {session next : Session} {time : String} {command : Command}
  {result : Except SessionError Outcome}

theorem displays_of_shows (gives : (session.execute time command).Gives (result, next))
    (shown : command.shows = true) (present : session.store.isSome = true) :
    ∃ table, result = .ok (.table table) ∧ next.Displays table := by
  obtain ⟨store, found⟩ := Option.isSome_iff_exists.mp present
  obtain ⟨query, asked⟩ := execute_of_shows time session shown
  obtain ⟨table, after, answered, displays⟩ := showQuery_displays found time query
  rw [asked, answered] at gives
  cases gives
  exact ⟨table, rfl, displays⟩

theorem settled_of_changes (allowed : session.Allows command (result, next))
    (changing : command.changes = true) (done : result.isOk = true) : next.Settled := by
  cases allowed with
  | failed => cases done
  | kept outcome after reads store commit =>
    cases command with
    | load | update | delete | insert | distinct => cases reads
    | _ => cases changing
  | performed outcome after store verb present asked made commit =>
    exact ⟨_, made, store.perform_working (Command.settled_verb_of_changes changing asked)⟩
  | loaded outcome after table made commit => exact ⟨_, made, rfl⟩

theorem AlikeButJournal.settings_eq {session other : Session}
    (alike : session.AlikeButJournal other) : other.settings = session.settings := by
  rw [alike]

theorem withTable_settings (session : Session) (table : Table) :
    (session.withTable table).settings = session.settings := rfl

theorem finishLoad_settings (time : String) (session : Session) (path : String)
    (content : Option String) :
    (session.finishLoad time path content).2.settings = session.settings := by
  cases content with
  | none => rfl
  | some text =>
    rw [finishLoad]
    split
    next rejection _ => exact (note_alike time session .warn rejection.message).settings_eq
    next table _ =>
      have noted := note_alike time session .info (loadedMessage path table)
      exact (withTable_settings _ table).trans noted.settings_eq

theorem perform_settings (time : String) (session : Session) (verb : Verb)
    (outcome : Answer → Outcome) :
    (session.perform time verb outcome).2.settings = session.settings := by
  cases present : session.store with
  | none => rw [perform, present]
  | some store =>
    obtain ⟨journal, made⟩ := perform_eq present time verb outcome
    rw [made]

theorem settings_of_gives {reply : Reply} (gives : (session.execute time command).Gives reply) :
    reply.2.settings = session.settings := by
  cases command with
  | load path =>
    cases gives with
    | read path resume content => exact finishLoad_settings time session path content
  | give format path =>
    rw [execute, give] at gives
    split at gives
    · cases gives
      rfl
    · cases path with
      | none =>
        cases gives
        rfl
      | some path =>
        cases gives with
        | write path text resume written => cases written <;> rfl
  | fields =>
    cases gives
    rw [listFields]
    split <;> rfl
  | commit | logs | help | quit =>
    cases gives
    rfl
  | list | filter | sort | select | update | delete | insert | distinct =>
    cases gives
    exact perform_settings time session _ _

end Steps

/-! Runs. -/

namespace Run

variable {session after : Session} {steps : List (Command × Except SessionError Outcome)}

theorem settings_eq (run : session.Run steps after) : after.settings = session.settings := by
  induction run with
  | nil => rfl
  | cons gives rest ih => exact ih.trans (settings_of_gives gives)

theorem store_isSome (run : session.Run steps after) (present : session.store.isSome = true) :
    after.store.isSome = true := by
  induction run with
  | nil => exact present
  | cons gives rest ih => exact ih (store_isSome_of_allowed (execute_allowed gives) present)

theorem settled (run : session.Run steps after) (start : session.Settled)
    (unasked : ∀ step ∈ steps, step.1.shows = false ∨ step.2.isOk = false) : after.Settled := by
  induction run with
  | nil => exact start
  | @cons session next after time command result steps gives rest ih =>
    have allowed := execute_allowed gives
    refine ih ?_ fun step found => unasked step (List.mem_cons_of_mem _ found)
    cases done : result.isOk with
    | false => exact start.of_store_eq (alike_of_failed allowed done).store_eq
    | true =>
      have hidden : command.shows = false := by
        have either := unasked (command, result) List.mem_cons_self
        simpa [done] using either
      rcases command.reads_or_shows_or_changes with reads | shown | changing
      · exact start.of_store_eq (store_of_onlyReads allowed reads)
      · rw [hidden] at shown
        cases shown
      · exact settled_of_changes allowed changing done

end Run

/-- What is given out without a file is what was shown last. After a query that was shown, and any
commands that only read or failed, it is the table of the answer; after a change, and any commands
among which no query was answered, it is the backup, which stays the new one as long as they only
read or failed. Neither needs the rows to fit the fields, or asks whether queries are committed. -/
theorem exports_print_last_shown {session start next after : Session}
    {before later : List (Command × Except SessionError Outcome)} {time : String}
    {command : Command} {result : Except SessionError Outcome}
    (data : session.store.isSome = true) (first : session.Run before start)
    (gives : (start.execute time command).Gives (result, next)) (rest : next.Run later after) :
    (command.shows = true →
      (∀ step ∈ later, step.1.onlyReads = true ∨ step.2.isOk = false) →
      ∃ table, result = .ok (.table table) ∧ after.Prints session.settings table) ∧
    (command.changes = true → result.isOk = true →
      (∀ step ∈ later, step.1.shows = false ∨ step.2.isOk = false) →
      ∃ table, after.backup? = some table ∧ after.Prints session.settings table ∧
        ((∀ step ∈ later, step.1.onlyReads = true ∨ step.2.isOk = false) →
          next.backup? = some table)) := by
  have settings : after.settings = session.settings :=
    rest.settings_eq.trans ((settings_of_gives gives).trans first.settings_eq)
  refine ⟨?shown, ?changed⟩
  case shown =>
    intro shown quiet
    obtain ⟨table, answered, displays⟩ := displays_of_shows gives shown (first.store_isSome data)
    refine ⟨table, answered, ?_⟩
    rw [← settings]
    exact (displays.of_store_eq (rest.store_eq quiet)).prints
  case changed =>
    intro changing done unasked
    have settled := rest.settled (settled_of_changes (execute_allowed gives) changing done) unasked
    obtain ⟨table, backup, displays⟩ := settled.displays
    refine ⟨table, backup, ?_, fun quiet => ?_⟩
    · rw [← settings]
      exact displays.prints
    · rw [← backup, backup?, backup?, rest.store_eq quiet]

theorem exports_print_last_shown_ragged :
    let table : Table :=
      { fields := ["id", "name"],
        rows := [[.text "1"], [.text "2", .text "Ben", .text "x"], [.text "2"]] }
    let fitted : Table :=
      { fields := ["id", "name"],
        rows := [[.text "1", .null], [.text "2", .text "Ben"], [.text "2", .null]] }
    let distinct : Table :=
      { fields := ["id", "name"], rows := [[.text "1"], [.text "2", .text "Ben", .text "x"]] }
    let session : Session := { store := some (Store.ofTable table) }
    let start := (session.setCommit true).2
    let shown := start.showQuery "1" {}
    let later := (shown.2.setCommit false).2
    let changed := later.perform "2" (.distinct none) (countMessage "Removed " " duplicate rows")
    session.store.isSome = true ∧ shown.1 = .ok (.table fitted) ∧ later.Prints {} fitted ∧
      changed.1.isOk = true ∧ changed.2.Prints {} distinct := by
  intro table fitted distinct session start shown later changed
  have answer : shown.1 = .ok (.table fitted) := by rfl
  have first : session.Run [(.commit true, (session.setCommit true).1)] start :=
    @Run.cons _ _ _ "0" _ _ _ (.done (session.setCommit true)) (.nil start)
  have gives : (start.execute "1" .list).Gives (shown.1, shown.2) := .done shown
  have rest : shown.2.Run [(.commit false, (shown.2.setCommit false).1)] later :=
    @Run.cons _ _ _ "1" _ _ _ (.done (shown.2.setCommit false)) (.nil later)
  have changes : (later.execute "2" (.distinct none)).Gives (changed.1, changed.2) := .done changed
  obtain ⟨displayed, -⟩ := exports_print_last_shown rfl first gives rest
  obtain ⟨-, stored⟩ := exports_print_last_shown rfl (.nil later) changes (.nil changed.2)
  obtain ⟨printed, same, prints⟩ := displayed rfl (by simp [Command.onlyReads])
  obtain ⟨backup, held, gives_backup, -⟩ := stored rfl rfl (by simp)
  have fits : printed = fitted := by
    rw [answer] at same
    cases same
    rfl
  have kept : backup = distinct := Option.some.inj (held.symm.trans (by rfl))
  exact ⟨rfl, answer, fits ▸ prints, rfl, kept ▸ gives_backup⟩

end Session

end TableQuery
