import TableQuery.Proofs.StoreDurability
import TableQuery.Session.Run

/-! What a command leaves alone. A command fails and leaves everything but the journal as it was, or
it does one thing to the store: nothing, one verb, or a new store for a loaded table. This is said
once, for whatever the files turn out to hold and whether or not they can be written. The frames of
single commands are read off it, and the frames of runs follow by induction. -/

namespace TableQuery

/-- What a step can come to: a file that is asked for holds any text or none, and writing one
succeeds or not. -/
inductive Step.Gives : Step → Reply → Prop
  | done (reply : Reply) : Gives (.done reply) reply
  | read (path : String) (resume : Option String → Reply) (content : Option String) :
      Gives (.read path resume) (resume content)
  | write (path text : String) (resume : Bool → Reply) (written : Bool) :
      Gives (.write path text resume) (resume written)

theorem Folder.answer_gives (folder : Folder) (step : Step) :
    step.Gives (folder.answer step).1 := by
  cases step with
  | done reply => exact .done reply
  | read path resume => exact .read path resume (folder.readText? path)
  | write path text resume =>
    rw [Folder.answer]
    cases folder.write? path text.toUTF8 with
    | some folder => exact .write path text resume true
    | none => exact .write path text resume false

namespace Command

def onlyReads : Command → Bool
  | .fields | .give _ _ | .logs _ | .help | .quit | .commit _ => true
  | _ => false

def shows : Command → Bool
  | .list | .filter _ | .sort _ | .select _ _ => true
  | _ => false

def usesFile : Command → Bool
  | .load _ | .give _ (some _) => true
  | _ => false

def verb? (session : Session) : Command → Option Verb
  | .list => some (.query {} session.commit .table none {})
  | .filter clause => some (.query { filter := some clause } session.commit .table none {})
  | .sort clause => some (.query { order := some clause } session.commit .table none {})
  | .select names clause =>
    some (.query { select := some names, filter := clause } session.commit .table none {})
  | .update assignments clause => some (.update assignments clause)
  | .delete clause => some (.delete clause)
  | .insert text => some (.insert (Session.insertedRows session.settings text))
  | .distinct names => some (.distinct (names.map fieldList))
  | _ => none

theorem verb?_of_onlyReads (session : Session) {command : Command}
    (reads : command.onlyReads = true) : command.verb? session = none := by
  cases command with
  | fields | give | logs | help | quit | commit => rfl
  | _ => cases reads

theorem verb?_of_shows (session : Session) {command : Command} (shown : command.shows = true) :
    ∃ query, command.verb? session = some (.query query session.commit .table none {}) := by
  cases command with
  | list | filter | sort | select => exact ⟨_, rfl⟩
  | _ => cases shown

end Command

namespace Session

def AlikeButJournal (session other : Session) : Prop :=
  other = { session with journal := other.journal }

theorem alikeButJournal_refl (session : Session) : session.AlikeButJournal session := rfl

theorem note_alike (time : String) (session : Session) (level : Level) (message : String) :
    session.AlikeButJournal (session.note time level message) := rfl

theorem AlikeButJournal.trans {first second third : Session} (start : first.AlikeButJournal second)
    (next : second.AlikeButJournal third) : first.AlikeButJournal third := by
  unfold AlikeButJournal at start next ⊢
  rw [next, start]

theorem AlikeButJournal.store_eq {session other : Session} (alike : session.AlikeButJournal other) :
    other.store = session.store := by
  rw [alike]

theorem AlikeButJournal.commit_eq {session other : Session}
    (alike : session.AlikeButJournal other) : other.commit = session.commit := by
  rw [alike]

theorem AlikeButJournal.storeOf_eq {session other : Session} (alike : session.AlikeButJournal other)
    (table : Table) : other.storeOf table = session.storeOf table := by
  rw [alike]
  rfl

theorem withTable_store (session : Session) (table : Table) :
    (session.withTable table).store = some (session.storeOf table) := rfl

theorem withTable_commit (session : Session) (table : Table) :
    (session.withTable table).commit = session.commit := rfl

theorem noteAll_alike (time : String) (session : Session) (messages : List String) :
    session.AlikeButJournal (noteAll time session messages) := by
  induction messages generalizing session with
  | nil => exact session.alikeButJournal_refl
  | cons message messages ih =>
    exact (note_alike time session .info message).trans (ih (session.note time .info message))

theorem perform_eq {session : Session} {store : Store} (present : session.store = some store)
    (time : String) (verb : Verb) (outcome : Answer → Outcome) :
    ∃ journal, session.perform time verb outcome =
      (.ok (outcome (store.perform verb).1),
        { session with store := some (store.perform verb).2, journal := journal }) := by
  have noted := noteAll_alike time session
    (Store.notes verb (store.perform verb).1 (store.perform verb).2)
  refine ⟨(noteAll time session
    (Store.notes verb (store.perform verb).1 (store.perform verb).2)).journal, ?_⟩
  rw [perform, present]
  dsimp only
  rw [noted]

/-- What a command may come to. It fails only for want of data or of a file. -/
inductive Allows (session : Session) : Command → Reply → Prop
  | failed {command : Command} (error : SessionError) (after : Session)
      (wants : session.store = none ∨ command.usesFile = true)
      (alike : session.AlikeButJournal after) : Allows session command (.error error, after)
  | kept {command : Command} (outcome : Outcome) (after : Session)
      (reads : command.onlyReads = true) (store : after.store = session.store)
      (commit : command = .commit after.commit ∨ after.commit = session.commit) :
      Allows session command (.ok outcome, after)
  | performed {command : Command} (outcome : Outcome) (after : Session) (store : Store)
      (verb : Verb) (present : session.store = some store)
      (asked : command.verb? session = some verb) (made : after.store = some (store.perform verb).2)
      (commit : after.commit = session.commit) : Allows session command (.ok outcome, after)
  | loaded {path : String} (outcome : Outcome) (after : Session) (table : Table)
      (made : after.store = some (session.storeOf table)) (commit : after.commit = session.commit) :
      Allows session (.load path) (.ok outcome, after)

theorem perform_allowed (time : String) (session : Session) {command : Command} {verb : Verb}
    (outcome : Answer → Outcome) (asked : command.verb? session = some verb) :
    session.Allows command (session.perform time verb outcome) := by
  cases present : session.store with
  | none =>
    rw [perform, present]
    exact .failed .noData session (.inl present) session.alikeButJournal_refl
  | some store =>
    obtain ⟨journal, made⟩ := perform_eq present time verb outcome
    rw [made]
    exact .performed _ _ store verb present asked rfl rfl

theorem listFields_allowed (session : Session) : session.Allows .fields session.listFields := by
  unfold listFields
  split
  case h_1 missing => exact .failed .noData session (.inl missing) session.alikeButJournal_refl
  case h_2 store present => exact .kept _ session rfl rfl (.inr rfl)

theorem finishLoad_allowed (time : String) (session : Session) (path : String)
    (content : Option String) :
    session.Allows (.load path) (session.finishLoad time path content) := by
  cases content with
  | none => exact .failed (.cannotRead path) session (.inr rfl) session.alikeButJournal_refl
  | some text =>
    rw [finishLoad]
    split
    case h_1 rejection _ =>
      exact .failed (.notTabular path) _ (.inr rfl)
        (note_alike time session .warn rejection.message)
    case h_2 table _ =>
      have noted := note_alike time session .info (loadedMessage path table)
      refine .loaded _ _ table ?_ ?_
      · rw [withTable_store, noted.storeOf_eq]
      · rw [withTable_commit, noted.commit_eq]

theorem give_allowed (session : Session) (format : FileFormat) (path : Option String)
    {reply : Reply} (gives : (session.give format path).Gives reply) :
    session.Allows (.give format path) reply := by
  unfold give at gives
  split at gives
  case h_1 missing =>
    cases gives
    exact .failed .noData session (.inl missing) session.alikeButJournal_refl
  case h_2 store present =>
    cases path with
    | none =>
      cases gives
      exact .kept _ session rfl rfl (.inr rfl)
    | some path =>
      cases gives with
      | write path text resume written =>
        cases written with
        | true => exact .kept _ session rfl rfl (.inr rfl)
        | false => exact .failed (.cannotWrite path) session (.inr rfl) session.alikeButJournal_refl

theorem execute_allowed {time : String} {session : Session} {command : Command} {reply : Reply}
    (gives : (session.execute time command).Gives reply) : session.Allows command reply := by
  cases command with
  | load path =>
    cases gives with
    | read path resume content => exact finishLoad_allowed time session path content
  | give format path => exact session.give_allowed format path gives
  | fields =>
    cases gives
    exact session.listFields_allowed
  | commit on =>
    cases gives
    exact .kept _ _ rfl rfl (.inl rfl)
  | logs | help | quit =>
    cases gives
    exact .kept _ session rfl rfl (.inr rfl)
  | list | filter | sort | select | update | delete | insert | distinct =>
    cases gives
    exact perform_allowed time session _ rfl

/-! Frames of one command. -/

def backup? (session : Session) : Option Table := session.store.map Store.backup

section Frames

variable {session after : Session} {command : Command} {result : Except SessionError Outcome}

theorem alike_of_failed (allowed : session.Allows command (result, after))
    (failed : result.isOk = false) : session.AlikeButJournal after := by
  cases allowed with
  | failed error after wants alike => exact alike
  | kept | performed | loaded => cases failed

theorem wants_of_failed (allowed : session.Allows command (result, after))
    (failed : result.isOk = false) : session.store = none ∨ command.usesFile = true := by
  cases allowed with
  | failed error after wants alike => exact wants
  | kept | performed | loaded => cases failed

theorem store_of_onlyReads (allowed : session.Allows command (result, after))
    (reads : command.onlyReads = true) : after.store = session.store := by
  cases allowed with
  | failed error after wants alike => exact alike.store_eq
  | kept outcome after reads store commit => exact store
  | performed outcome after store verb present asked made commit =>
    rw [Command.verb?_of_onlyReads session reads] at asked
    cases asked
  | loaded => cases reads

theorem backup_of_shows (allowed : session.Allows command (result, after))
    (shown : command.shows = true) (off : session.commit = false) :
    after.backup? = session.backup? := by
  obtain ⟨query, verb⟩ := Command.verb?_of_shows session shown
  cases allowed with
  | failed error after wants alike => rw [backup?, backup?, alike.store_eq]
  | kept outcome after reads store commit => rw [backup?, backup?, store]
  | performed outcome after store asking present asked made commit =>
    obtain rfl := Option.some.inj (asked.symm.trans verb)
    have kept : (store.perform (.query query session.commit .table none {})).2.backup =
        store.backup := by
      rw [off, Store.perform_of_not_lasts store rfl]
    rw [backup?, backup?, made, present, Option.map_some, Option.map_some, kept]
  | loaded => cases shown

theorem off_of_allowed (allowed : session.Allows command (result, after))
    (other : command ≠ .commit true) (off : session.commit = false) : after.commit = false := by
  cases allowed with
  | failed error after wants alike => exact alike.commit_eq.trans off
  | kept outcome after reads store commit =>
    rcases commit with asked | same
    · cases flag : after.commit with
      | false => rfl
      | true => exact absurd (flag ▸ asked) other
    · exact same.trans off
  | performed outcome after store verb present asked made commit => exact commit.trans off
  | loaded outcome after table made commit => exact commit.trans off

theorem store_isSome_of_allowed (allowed : session.Allows command (result, after))
    (present : session.store.isSome = true) : after.store.isSome = true := by
  cases allowed with
  | failed error after wants alike => rwa [alike.store_eq]
  | kept outcome after reads store commit => rwa [store]
  | performed outcome after store verb found asked made commit => rw [made, Option.isSome_some]
  | loaded outcome after table made commit => rw [made, Option.isSome_some]

end Frames

/-- A run of commands, each with what it gave, at any times and over any files. -/
inductive Run : Session → List (Command × Except SessionError Outcome) → Session → Prop
  | nil (session : Session) : Run session [] session
  | cons {session next after : Session} {time : String} {command : Command}
      {result : Except SessionError Outcome} {steps : List (Command × Except SessionError Outcome)}
      (gives : (session.execute time command).Gives (result, next)) (rest : Run next steps after) :
      Run session ((command, result) :: steps) after

namespace Run

variable {session after : Session} {steps : List (Command × Except SessionError Outcome)}

theorem store_eq (run : session.Run steps after)
    (quiet : ∀ step ∈ steps, step.1.onlyReads = true ∨ step.2.isOk = false) :
    after.store = session.store := by
  induction run with
  | nil => rfl
  | @cons session next after time command result steps gives rest ih =>
    have allowed := execute_allowed gives
    have kept : next.store = session.store := by
      rcases quiet (command, result) List.mem_cons_self with reads | failed
      · exact store_of_onlyReads allowed reads
      · exact (alike_of_failed allowed failed).store_eq
    exact (ih fun step found => quiet step (List.mem_cons_of_mem _ found)).trans kept

theorem backup_eq (run : session.Run steps after) (off : session.commit = false)
    (quiet : ∀ step ∈ steps, step.1 ≠ .commit true ∧
      (step.1.onlyReads = true ∨ step.1.shows = true ∨ step.2.isOk = false)) :
    after.backup? = session.backup? ∧ after.commit = false := by
  induction run with
  | nil => exact ⟨rfl, off⟩
  | @cons session next after time command result steps gives rest ih =>
    have allowed := execute_allowed gives
    obtain ⟨other, gentle⟩ := quiet (command, result) List.mem_cons_self
    have kept : next.backup? = session.backup? := by
      rcases gentle with reads | shown | failed
      · rw [backup?, backup?, store_of_onlyReads allowed reads]
      · exact backup_of_shows allowed shown off
      · rw [backup?, backup?, (alike_of_failed allowed failed).store_eq]
    obtain ⟨backup, flag⟩ := ih (off_of_allowed allowed other off) fun step found =>
      quiet step (List.mem_cons_of_mem _ found)
    exact ⟨backup.trans kept, flag⟩

theorem usesFile_of_failed (run : session.Run steps after) (present : session.store.isSome = true)
    {step : Command × Except SessionError Outcome} (found : step ∈ steps)
    (failed : step.2.isOk = false) : step.1.usesFile = true := by
  induction run with
  | nil => cases found
  | @cons session next after time command result steps gives rest ih =>
    have allowed := execute_allowed gives
    rcases List.mem_cons.mp found with rfl | found
    · refine (wants_of_failed allowed failed).resolve_left ?_
      exact Option.isSome_iff_ne_none.mp present
    · exact ih (store_isSome_of_allowed allowed present) found

end Run

/-- Commands are all or nothing. One that fails changes at most the journal, one that only reads
leaves the store alone, and one that shows an answer leaves the backup alone while the flag is down;
once there is data only a file makes a command fail. All this holds along runs too. -/
theorem commands_all_or_nothing (session : Session) :
    (∀ time folder command,
      (session.execute time command).Gives (session.executeIn time folder command).1) ∧
    (∀ time command result after, (session.execute time command).Gives (result, after) →
      (result.isOk = false → after = { session with journal := after.journal }) ∧
      (command.onlyReads = true → after.store = session.store) ∧
      (command.shows = true → session.commit = false → after.backup? = session.backup?) ∧
      (session.store.isSome = true → result.isOk = false → command.usesFile = true)) ∧
    ∀ steps after, session.Run steps after →
      ((∀ step ∈ steps, step.1.onlyReads = true ∨ step.2.isOk = false) →
        after.store = session.store) ∧
      (session.commit = false →
        (∀ step ∈ steps, step.1 ≠ .commit true ∧
          (step.1.onlyReads = true ∨ step.1.shows = true ∨ step.2.isOk = false)) →
        after.backup? = session.backup?) ∧
      (session.store.isSome = true →
        ∀ step ∈ steps, step.2.isOk = false → step.1.usesFile = true) := by
  refine ⟨?possible, ?single, ?runs⟩
  case possible =>
    intro time folder command
    exact folder.answer_gives (session.execute time command)
  case single =>
    intro time command result after gives
    have allowed := execute_allowed gives
    refine ⟨alike_of_failed allowed, store_of_onlyReads allowed, backup_of_shows allowed, ?_⟩
    intro present failed
    exact (wants_of_failed allowed failed).resolve_left (Option.isSome_iff_ne_none.mp present)
  case runs =>
    intro steps after run
    refine ⟨run.store_eq, ?_, ?_⟩
    · intro off quiet
      exact (run.backup_eq off quiet).1
    · intro present step found failed
      exact run.usesFile_of_failed present found failed

end Session

end TableQuery
