import IdigestHub.Capture.Drivers
import IdigestHub.Capture.Polling
import IdigestHub.Ingest.Import

/-! The thread of an import as a driver of its row: between two awaits it works on its own object of the row, and its
`finally` block forgets the task step by step. -/

set_option autoImplicit false

namespace IdigestHub.Ingest

open Foundation Foundation.UnitOfWork Dispatcher Capture

/-- What a session has last read or written of a row, and its object. -/
structure Held where
  base : Task
  own : Task

namespace Held

def session (held : Held) (id : Nat) (hub : Hub) (process : Process) : Session Hub Process :=
  let view (row : Task) := hub.modifyTask id fun _ => row
  ⟨view held.base, view held.own, view held.own, process⟩

/-- Run a program, and store the columns that its commits changed. -/
def run {A : Type} (held : Held) (id : Nat) (hub : Hub) (process : Process) (program : Program A) :
    Except Fault A × Hub × Process × Held :=
  let stored := (hub.tasks.find id).getD held.base
  let (outcome, after) := program.run (held.session id hub process)
  (outcome, after.committed.modifyTask id (fun row => Task.merged held.base row stored), after.memory,
    ⟨(after.committed.tasks.find id).getD held.base, (after.working.tasks.find id).getD held.own⟩)

end Held

inductive Stage where
  | begins
  | downloads (fields : Dict)
  | saves (fields : Dict) (result : ImportResult)
  | raised
  | deactivates
  | uncancels
  | leaves
  | ended

def Importing.stage : Importing → Stage
  | .start => .begins
  | .download fields => .downloads fields
  | .save fields result => .saves fields result
  | .returned => .deactivates

namespace Stage

/-- The thread may still write the row. -/
def isWorking : Stage → Bool
  | .begins | .downloads _ | .saves .. | .raised => true
  | _ => false

/-- The thread may still ask whether it is canceled. -/
def asks : Stage → Bool
  | .begins | .downloads _ => true
  | _ => false

/-- The thread has yet to take the task out of `_active`. -/
def isActive : Stage → Bool
  | .uncancels | .leaves | .ended => false
  | _ => true

/-- The thread has yet to take the task out of `_cancelled`. -/
def clears : Stage → Bool
  | .leaves | .ended => false
  | _ => true

def isDownloading : Stage → Bool
  | .downloads _ => true
  | _ => false

def isSaving : Stage → Bool
  | .saves .. => true
  | _ => false

def hasEnded : Stage → Bool
  | .ended => true
  | _ => false

end Stage

def deactivated (id : Nat) (process : Process) : Process :=
  { process with importActive := process.importActive.filter fun other => other != id }

def uncanceled (id : Nat) (process : Process) : Process :=
  { process with importCancelled := process.importCancelled.filter fun other => other != id }

def threadGone (id : Nat) (process : Process) : Process :=
  { process with importThreads := process.importThreads.filter fun other => other != id }

def isFetched : Download → Bool
  | .fetched _ => true
  | _ => false

/-- A section, whether it reads the row anew, and where an exception leads. -/
structure ImportSection where
  fresh : Bool
  program : Program Stage
  failure : Stage

/-- The handlers read the row again after their rollback. An exception of a handler leads to the `finally` block. -/
def importSection (world : World) (id : Nat) (detail : String) : Stage → ImportSection
  | .begins => ⟨true, do return (← importStart world id).stage, .raised⟩
  | .downloads fields =>
    let fetched := isFetched (world.download id)
    ⟨!fetched, do return (← importDownloaded world id fields).stage, if fetched then .raised else .deactivates⟩
  | .saves fields result => ⟨false, do
      importSaved world id fields result
      return .deactivates, .raised⟩
  | .raised => ⟨true, do
      importFailed world id detail
      return .deactivates, .deactivates⟩
  | .deactivates => ⟨false, do
      Tx.remember (deactivated id)
      return .uncancels, .ended⟩
  | .uncancels => ⟨false, do
      Tx.remember (uncanceled id)
      return .leaves, .ended⟩
  | .leaves => ⟨false, do
      Tx.remember (threadGone id)
      return .ended, .ended⟩
  | .ended => ⟨false, return .ended, .ended⟩

/-- The thread of one import; `run` numbers the run that it was started for. -/
structure ImportThread where
  held : Held
  stage : Stage
  run : Nat

namespace ImportThread

variable (thread : ImportThread) (world : World) (id : Nat) (detail : String) (hub : Hub) (process : Process)

/-- The object with which the next section starts. -/
def reader : Held :=
  let stored := (hub.tasks.find id).getD thread.held.base
  if (importSection world id detail thread.stage).fresh then ⟨stored, stored⟩ else thread.held

def step : Hub × Process × ImportThread :=
  let part := importSection world id detail thread.stage
  let (outcome, hub, process, held) := (thread.reader world id detail hub).run id hub process part.program
  let stage := match outcome with
    | .ok next => next
    | .error _ => part.failure
  (hub, process, { thread with held, stage })

end ImportThread

section Sections

variable (world : World) (id : Nat)

theorem silent_failTask (code : ErrorCode) (extra : Dict) : Silent (failTask world id code extra) :=
  (silent_update _).bind fun _ => silent_flush.bind fun _ => silent_guardSite world _

theorem all_failAndCommit (code : ErrorCode) (extra : Dict) (step : Nat) :
    AllOrNothing (failAndCommit world id code extra step) :=
  (silent_failTask world id code extra).before fun _ => all_commitAt world _

theorem all_importStart : AllOrNothing (importStart world id) := by
  have fails (code : ErrorCode) (step : Nat) : AllOrNothing (failImport world id code [] step) :=
    (all_failAndCommit world id code [] step).map _
  refine silent_read.before fun hub => ?_
  split
  · exact (silent_pure _).all
  · generalize Text.strip _ = url
    refine .ite (fun _ => (silent_pure _).all) fun _ => .ite (fun _ => fails _ _) fun _ => .ite (fun _ => fails _ _) fun _ => ?_
    refine .ite (fun _ => fails _ _) fun _ => .ite (fun _ => fails _ _) fun _ => ?_
    exact (silent_guardSite world _).before fun _ => (all_commitAt world _).map _

theorem all_importDownloaded (fields : Dict) (fetched : isFetched (world.download id) = true) :
    AllOrNothing (importDownloaded world id fields) := by
  unfold importDownloaded
  cases download : world.download id with
  | failed code extra =>
    rw [download] at fetched
    contradiction
  | raises detail =>
    rw [download] at fetched
    contradiction
  | fetched result =>
    refine Silent.before (fun _ => rfl) fun process => .ite (fun _ => ?_) fun _ => (all_commitAt world _).map _
    exact (all_failAndCommit world id _ _ _).map _

theorem silent_enqueue : Silent (enqueueTranscribeAfterIngest world id) := by
  refine (silent_loaded id).bind fun task => silent_read.bind fun hub => ?_
  refine .ite (fun _ => silent_pure _) fun _ => .ite (fun _ => silent_pure _) fun _ => ?_
  split
  · exact silent_pure _
  · split
    · exact silent_raise _
    · exact silent_pure _
    · exact (silent_guardSite world _).bind fun _ => (silent_update _).bind fun _ => silent_flush.bind fun _ => silent_update _

theorem all_importSaved (fields : Dict) (result : ImportResult) : AllOrNothing (importSaved world id fields result) := by
  refine (silent_loaded id).before fun task => ?_
  split
  · exact all_failAndCommit world id _ _ _
  · exact all_failAndCommit world id _ _ _
  · refine silent_read.before fun hub => (silent_update _).before fun _ => silent_flush.before fun _ => ?_
    refine (silent_guardSite world _).before fun _ => (silent_update _).before fun _ =>
      (silent_guardSite world _).before fun _ => ?_
    exact (silent_enqueue world id).before fun _ => all_commitAt world _
  · exact (silent_raise _).all

end Sections

structure Taken (id : Nat) (hub : Hub) : Prop where
  below : id < hub.nextId
  row : ∃ task, hub.tasks.find id = some task ∧ task.type = .importUrl ∧ task.status ≠ .queued

section Rows

variable {id : Nat} (world : World)

theorem Taken.modified {hub : Hub} (taken : Taken id hub) {f : Task → Task}
    (type : ∀ task, task.type = .importUrl → (f task).type = .importUrl)
    (status : ∀ task, task.status ≠ .queued → (f task).status ≠ .queued) : Taken id (hub.modifyTask id f) := by
  obtain ⟨task, found, its_type, its_status⟩ := taken.row
  refine ⟨taken.below, f task, ?_, type task its_type, status task its_status⟩
  simp [Hub.modifyTask, Table.find_modify, found]

theorem Taken.added {hub : Hub} (taken : Taken id hub) (task : Task) : Taken id (hub.addTask task) := by
  obtain ⟨row, found, its⟩ := taken.row
  refine ⟨Nat.lt_succ_of_lt taken.below, row, ?_, its⟩
  simp [Hub.addTask, Table.find_put, found, Nat.ne_of_lt taken.below]

structure Minding (id : Nat) (memory : Process) (s : Session Hub Process) : Prop where
  rows : Everywhere (Taken id) s
  memory : s.memory = memory

instance Minding.transactional {memory : Process} : Transactional (Minding id memory) where
  flush s holds := ⟨Transactional.flush s holds.rows, holds.memory⟩
  commit s holds := ⟨Transactional.commit s holds.rows, holds.memory⟩
  rollback s holds := ⟨Transactional.rollback s holds.rows, holds.memory⟩

abbrev Minds {A : Type} (id : Nat) (memory : Process) (program : Program A) : Prop := Maintains (Minding id memory) program

variable {memory : Process}

theorem minds_update {f : Hub → Hub} (kept : ∀ hub, Taken id hub → Taken id (f hub)) :
    Minds id memory (Tx.update f : Program Unit) :=
  fun _ holds => ⟨⟨holds.rows.committed, holds.rows.flushed, kept _ holds.rows.working⟩, holds.memory⟩

theorem minds_modify {f : Task → Task} (type : ∀ task, task.type = .importUrl → (f task).type = .importUrl)
    (status : ∀ task, task.status ≠ .queued → (f task).status ≠ .queued) : Minds id memory (modifyTask id f) :=
  minds_update fun _ taken => taken.modified type status

theorem minds_failAndCommit (code : ErrorCode) (extra : Dict) (step : Nat) :
    Minds id memory (failAndCommit world id code extra step) := by
  have fails : Minds id memory (modifyTask id (failed code extra)) :=
    minds_modify (fun _ type => type) fun _ _ => nofun
  exact (fails.bind fun _ => maintains_flush.bind fun _ => maintains_guardSite world _).bind fun _ => maintains_commitAt world _

theorem minds_importStart : Minds id memory (importStart world id) := by
  have fails (code : ErrorCode) (step : Nat) : Minds id memory (failImport world id code [] step) :=
    (minds_failAndCommit world code [] step).bind fun _ => maintains_pure _
  refine maintains_read.bind fun hub => ?_
  split
  · exact maintains_pure _
  · generalize Text.strip _ = url
    refine .ite (fun _ => maintains_pure _) fun _ => .ite (fun _ => fails _ _) fun _ => .ite (fun _ => fails _ _) fun _ => ?_
    refine .ite (fun _ => fails _ _) fun _ => .ite (fun _ => fails _ _) fun _ => ?_
    exact (maintains_guardSite world _).bind fun _ => (maintains_commitAt world _).bind fun _ => maintains_pure _

theorem minds_importFailed (detail : String) : Minds id memory (importFailed world id detail) := by
  refine maintains_rollback.bind fun _ => maintains_read.bind fun hub => .ite (fun _ => ?_) fun _ => maintains_pure _
  exact minds_failAndCommit world _ _ _

theorem minds_importDownloaded (fields : Dict) : Minds id memory (importDownloaded world id fields) := by
  unfold importDownloaded
  split
  · refine Maintains.bind ?_ fun _ => maintains_pure _
    refine maintains_rollback.bind fun _ => maintains_read.bind fun hub => ?_
    split
    · exact maintains_pure _
    · exact minds_failAndCommit world _ _ _
  · exact (minds_importFailed world _).bind fun _ => maintains_pure _
  · refine maintains_recollect.bind fun process => .ite (fun _ => ?_) fun _ => ?_
    · exact (minds_failAndCommit world _ _ _).bind fun _ => maintains_pure _
    · exact (maintains_commitAt world _).bind fun _ => maintains_pure _

theorem minds_enqueue : Minds id memory (enqueueTranscribeAfterIngest world id) := by
  refine (maintains_loaded id).bind fun task => maintains_read.bind fun hub => ?_
  refine .ite (fun _ => maintains_pure _) fun _ => .ite (fun _ => maintains_pure _) fun _ => ?_
  split
  · exact maintains_pure _
  · split
    · exact maintains_raise _
    · exact maintains_pure _
    · refine (maintains_guardSite world _).bind fun _ => (minds_update fun _ taken => taken.added _).bind fun _ => ?_
      exact maintains_flush.bind fun _ => minds_modify (fun _ type => type) fun _ kept => kept

theorem minds_importSaved (fields : Dict) (result : ImportResult) : Minds id memory (importSaved world id fields result) := by
  refine (maintains_loaded id).bind fun task => ?_
  split
  · exact minds_failAndCommit world _ _ _
  · exact minds_failAndCommit world _ _ _
  · refine maintains_read.bind fun hub => ?_
    have adds (audio : Audio) : Minds id memory (Tx.update fun hub => hub.addAudio audio : Program Unit) :=
      minds_update fun _ taken => ⟨Nat.lt_succ_of_lt taken.below, taken.row⟩
    refine (adds _).bind fun _ => maintains_flush.bind fun _ => (maintains_guardSite world _).bind fun _ => ?_
    have saves : Minds id memory (modifyTask id (importedTask hub.nextId fields result)) :=
      minds_modify (fun _ type => type) fun _ _ => nofun
    refine saves.bind fun _ => (maintains_guardSite world _).bind fun _ => ?_
    exact (minds_enqueue world).bind fun _ => maintains_commitAt world _
  · exact maintains_raise _

theorem minds_section (detail : String) {stage : Stage} (working : stage.isWorking = true) :
    Minds id memory (importSection world id detail stage).program := by
  cases stage with
  | begins => exact (minds_importStart world).bind fun _ => maintains_pure _
  | downloads fields => exact (minds_importDownloaded world fields).bind fun _ => maintains_pure _
  | saves fields result => exact (minds_importSaved world fields result).bind fun _ => maintains_pure _
  | raised => exact (minds_importFailed world detail).bind fun _ => maintains_pure _
  | _ => contradiction

end Rows

section Outcomes

variable {id : Nat} (world : World) {s : Session Hub Process} {task : Task}

def Delivered (id : Nat) (hub : Hub) : Prop :=
  ∃ task file, hub.tasks.find id = some task ∧ task.status = .success ∧ task.audioId = some file ∧ (hub.audios.find file).isSome

theorem importStart_outcome (found : s.working.tasks.find id = some task) :
    wp (importStart world id)
      (fun next after => match next with
        | .download _ => task.status = .running ∧ after.committed.tasks.find id = some task ∧
            after.working.tasks.find id = some task
        | .returned => True
        | _ => False) (fun _ _ => True) s := by
  have fails (code : ErrorCode) (step : Nat) : wp (failImport world id code [] step)
      (fun next after => match next with
        | .download _ => task.status = .running ∧ after.committed.tasks.find id = some task ∧
            after.working.tasks.find id = some task
        | .returned => True
        | _ => False) (fun _ _ => True) s := by
    rw [failImport, wp_bind]
    exact wp_mono (wp_trivial _ _) (fun _ _ _ => trivial) fun _ _ held => held
  rw [importStart, wp_bind, wp_read, found]
  dsimp only
  generalize Text.strip _ = url
  refine wp_cases (fun _ => trivial) fun running => wp_cases (fun _ => fails _ _) fun _ => ?_
  refine wp_cases (fun _ => fails _ _) fun _ => wp_cases (fun _ => fails _ _) fun _ => wp_cases (fun _ => fails _ _) fun _ => ?_
  rw [wp_bind]
  refine wp_guardSite ?_ trivial
  rw [wp_bind]
  refine wp_commitAt ⟨?_, found, found⟩ trivial
  simp only [Bool.or_eq_true, not_or, bne_iff_ne, ne_eq, not_not] at running
  exact running.2

theorem importDownloaded_outcome (fields : Dict) (found : s.working.tasks.find id = some task) :
    wp (importDownloaded world id fields)
      (fun next after => match next with
        | .save .. => isFetched (world.download id) = true ∧
          after.committed.tasks.find id = some task ∧ after.working.tasks.find id = some task
        | .returned => True
        | _ => False) (fun _ _ => True) s := by
  unfold importDownloaded
  cases download : world.download id with
  | failed code extra =>
    rw [wp_bind]
    exact wp_mono (wp_trivial _ _) (fun _ _ _ => trivial) fun _ _ held => held
  | raises detail =>
    rw [wp_bind]
    exact wp_mono (wp_trivial _ _) (fun _ _ _ => trivial) fun _ _ held => held
  | fetched result =>
    rw [wp_bind, wp_recollect]
    refine wp_cases (fun _ => ?_) fun _ => ?_
    · rw [failImport, wp_bind]
      exact wp_mono (wp_trivial _ _) (fun _ _ _ => trivial) fun _ _ held => held
    · rw [wp_bind]
      exact wp_commitAt ⟨rfl, found, found⟩ trivial

theorem Delivered.added {hub : Hub} (delivered : Delivered id hub) (below : id < hub.nextId) (other : Task) :
    Delivered id (hub.addTask other) := by
  obtain ⟨task, file, found, success, its, stored⟩ := delivered
  refine ⟨task, file, ?_, success, its, stored⟩
  rw [Hub.addTask, Table.find_put, if_neg (Nat.ne_of_lt below)]
  exact found

theorem Delivered.modified {hub : Hub} (delivered : Delivered id hub) {f : Task → Task}
    (status : ∀ task, (f task).status = task.status)
    (file : ∀ task, (f task).audioId = task.audioId) : Delivered id (hub.modifyTask id f) := by
  obtain ⟨task, audio, found, success, its, stored⟩ := delivered
  refine ⟨f task, audio, ?_, (status task).trans success, (file task).trans its, stored⟩
  simp [Hub.modifyTask, Table.find_modify, found]

theorem enqueue_delivered (delivered : Delivered id s.working) (below : id < s.working.nextId) :
    wp (enqueueTranscribeAfterIngest world id) (fun _ after => Delivered id after.working) (fun _ _ => True) s := by
  rw [enqueueTranscribeAfterIngest, wp_bind]
  refine wp_loaded (fun task _ => ?_) trivial
  rw [wp_bind, wp_read]
  refine wp_cases (fun _ => delivered) fun _ => wp_cases (fun _ => delivered) fun _ => ?_
  cases s.working.orgs.find task.orgId with
  | none => exact delivered
  | some org =>
    dsimp only
    cases outOfBalance org with
    | none => trivial
    | some out =>
      cases out with
      | true => exact delivered
      | false =>
        simp only [wp_bind]
        refine wp_guardSite ?_ trivial
        simp only [wp_update, wp_flush]
        exact (delivered.added below _).modified (fun _ => rfl) fun _ => rfl

/-- What the thread commits once the storage has the file. -/
theorem importSaved_outcome (fields : Dict) (result : ImportResult) {filename : String}
    (stored : world.artifact id = .stored filename) (taken : Taken id s.working) :
    wp (importSaved world id fields result) (fun _ after => Delivered id after.committed) (fun _ _ => True) s := by
  obtain ⟨row, found, _⟩ := taken.row
  rw [importSaved, stored, wp_bind]
  refine wp_loaded_of found ?_
  simp only [wp_bind, wp_read, wp_update, wp_flush]
  refine wp_guardSite ?_ trivial
  rw [wp_modifyTask]
  refine wp_guardSite ?_ trivial
  refine wp_mono (enqueue_delivered world ?_ (Nat.lt_succ_of_lt taken.below)) ?_ fun _ _ _ => trivial
  · refine ⟨_, _, find_modifyTask found _, rfl, rfl, ?_⟩
    simp [Hub.modifyTask, Hub.addAudio]
  · exact fun _ after delivered => wp_commitAt delivered trivial

end Outcomes

section Steps

theorem column_or {A : Type} [DecidableEq A] (base own stored : A) :
    column base own stored = own ∨ column base own stored = stored := by
  unfold column
  split
  · exact .inr rfl
  · exact .inl rfl

theorem column_eq {A : Type} [DecidableEq A] {base own stored value : A} (unchanged : own = base → stored = value)
    (changed : own ≠ base → own = value) : column base own stored = value := by
  unfold column
  split
  · exact unchanged ‹_›
  · exact changed ‹_›

def isStored : Artifact → Bool
  | .stored _ => true
  | _ => false

def Stage.holds : Stage → Bool
  | .downloads _ | .saves .. => true
  | _ => false

/-- An object that nobody has changed, beside the stored row. -/
structure Held.Fits (held : Held) (row : Task) : Prop where
  saved : held.own = held.base
  type : held.base.type = .importUrl
  status : held.base.status ≠ .queued
  file : held.base.audioId = row.audioId

variable {id : Nat} {hub : Hub} {row : Task} {held : Held} {process : Process}

theorem Held.own_found (held : Held) (stored : hub.tasks.find id = some row) (process : Process) :
    (held.session id hub process).working.tasks.find id = some held.own :=
  find_modifyTask stored _

theorem Held.Fits.found (fits : held.Fits row) (stored : hub.tasks.find id = some row) (process : Process) :
    (held.session id hub process).committed.tasks.find id = some held.base ∧
      (held.session id hub process).working.tasks.find id = some held.base := by
  refine ⟨find_modifyTask stored _, ?_⟩
  rw [← fits.saved]
  exact find_modifyTask stored _

theorem Held.Fits.minding (fits : held.Fits row) (taken : Taken id hub) : Minding id process (held.session id hub process) := by
  have view : Taken id (hub.modifyTask id fun _ => held.base) := taken.modified (fun _ _ => fits.type) fun _ _ => fits.status
  have own : Taken id (hub.modifyTask id fun _ => held.own) := fits.saved ▸ view
  exact ⟨⟨view, own, own⟩, rfl⟩

theorem Held.run_of_wp {A : Type} {program : Program A} {Q : Except Fault A → Session Hub Process → Prop}
    (stored : hub.tasks.find id = some row)
    (holds : wp program (fun a => Q (.ok a)) (fun fault => Q (.error fault)) (held.session id hub process)) :
    ∃ (outcome : Except Fault A) (after : Session Hub Process), Q outcome after ∧
      held.run id hub process program =
        (outcome, after.committed.modifyTask id fun task => Task.merged held.base task row, after.memory,
          ⟨(after.committed.tasks.find id).getD held.base, (after.working.tasks.find id).getD held.own⟩) := by
  simp only [Held.run, stored, Option.getD_some, Tx.run]
  simp only [wp] at holds
  generalize program (held.session id hub process) = ran at holds
  obtain ⟨outcome, after⟩ := ran
  cases outcome with
  | ok a => exact ⟨_, after, holds, rfl⟩
  | error fault => exact ⟨_, after, holds, rfl⟩

/-- What a section of the thread leaves, when it has committed nothing to the row but that. -/
structure Outcome (stage : Stage) (artifact : Artifact) (base : Task) (id : Nat) (next : Stage) (after : Session Hub Process) :
    Prop where
  kept : next.isWorking = true → after.committed.tasks.find id = some base
  object : next.holds = true → after.working.tasks.find id = some base ∧ base.status = .running
  ends : next.isWorking = false → next = .deactivates
  delivers : next.isWorking = false → stage.isSaving = true → isStored artifact = true → Delivered id after.committed

theorem section_outcome (world : World) (detail : String) {stage : Stage} (working : stage.isWorking = true)
    (fits : held.Fits row) (taken : Taken id hub)
    (running : (importSection world id detail stage).fresh = false → stage.holds = true → held.base.status = .running)
    (stored : hub.tasks.find id = some row) (process : Process) :
    wp (importSection world id detail stage).program (Outcome stage (world.artifact id) held.base id)
      (fun _ => Outcome stage (world.artifact id) held.base id (importSection world id detail stage).failure)
      (held.session id hub process) := by
  have views := fits.found stored process
  -- a section that raises has committed nothing
  have none_kept {after : Session Hub Process} (same : after.committed = (held.session id hub process).committed) :
      Outcome stage (world.artifact id) held.base id .raised after :=
    ⟨fun _ => same ▸ views.1, nofun, nofun, nofun⟩
  -- one that returns early leaves the row to the last section
  have finally_kept {after : Session Hub Process} (unsaved : stage.isSaving = false) :
      Outcome stage (world.artifact id) held.base id .deactivates after :=
    ⟨nofun, nofun, fun _ => rfl, fun _ saving => by rw [unsaved] at saving; contradiction⟩
  cases stage with
  | begins =>
    show wp (importStart world id >>= _) _ _ _
    rw [wp_bind]
    refine wp_mono (wp_and (importStart_outcome world views.2) (all_importStart world id _)) ?_ fun _ _ held => none_kept held.2
    rintro next after ⟨outcome, _⟩
    cases next with
    | start => exact outcome.elim
    | download fields => exact ⟨fun _ => outcome.2.1, fun _ => ⟨outcome.2.2, outcome.1⟩, nofun, nofun⟩
    | save fields result => exact outcome.elim
    | returned => exact finally_kept rfl
  | downloads fields =>
    show wp (importDownloaded world id fields >>= _) _ _ _
    have goes {after : Session Hub Process} {next : Importing} (outcome : match next with
        | .save .. => isFetched (world.download id) = true ∧
          after.committed.tasks.find id = some held.base ∧ after.working.tasks.find id = some held.base
        | .returned => True
        | _ => False) : Outcome (.downloads fields) (world.artifact id) held.base id next.stage after := by
      cases next with
      | start => exact outcome.elim
      | download fields => exact outcome.elim
      | save fields result =>
        exact ⟨fun _ => outcome.2.1, fun _ => ⟨outcome.2.2, running (by simp [importSection, outcome.1]) rfl⟩, nofun, nofun⟩
      | returned => exact finally_kept rfl
    rw [wp_bind]
    cases fetched : isFetched (world.download id) with
    | true =>
      refine wp_mono (wp_and (importDownloaded_outcome world fields views.2) (all_importDownloaded world id fields fetched _))
        (fun next after held => goes held.1) fun _ _ held => ?_
      simpa [importSection, fetched] using none_kept held.2
    | false =>
      refine wp_mono (importDownloaded_outcome world fields views.2) (fun next after held => goes held) fun _ _ _ => ?_
      simpa [importSection, fetched] using finally_kept rfl
  | saves fields result =>
    show wp (importSaved world id fields result >>= _) _ _ _
    rw [wp_bind]
    -- the artifact decides: stored, the row is delivered
    refine wp_mono (Q := fun _ after => isStored (world.artifact id) = true → Delivered id after.committed)
      (R := fun _ after => after.committed = (held.session id hub process).committed) ?_
      (fun _ after delivered => ⟨nofun, nofun, fun _ => rfl, fun _ _ => delivered⟩) fun _ _ same => none_kept same
    cases artifact : world.artifact id with
    | stored filename =>
      exact wp_mono (wp_and (importSaved_outcome world fields result artifact (fits.minding taken).rows.working)
        (all_importSaved world id fields result _)) (fun _ _ held _ => held.1) fun _ _ held => held.2
    | _ => exact wp_mono (all_importSaved world id fields result _) (fun _ _ _ => nofun) fun _ _ held => held
  | raised =>
    show wp (importFailed world id detail >>= _) _ _ _
    rw [wp_bind]
    exact wp_mono (wp_trivial _ _) (fun _ _ _ => finally_kept rfl) fun _ _ _ => finally_kept rfl
  | _ => contradiction

structure Stepped (thread : ImportThread) (artifact : Artifact) (id : Nat) (row : Task) (process : Process)
    (result : Hub × Process × ImportThread) : Prop where
  taken : Taken id result.1
  memory : result.2.1 = process
  run : result.2.2.run = thread.run
  kept : result.2.2.stage.isWorking = true → result.1.tasks.find id = some row
  fits : result.2.2.stage.holds = true → result.2.2.held.Fits row ∧ result.2.2.held.base.status = .running
  ends : result.2.2.stage.isWorking = false → result.2.2.stage = .deactivates
  delivers : result.2.2.stage.isWorking = false → thread.stage.isSaving = true → isStored artifact = true → Delivered id result.1

theorem step_working (world : World) (detail : String) (process : Process) {thread : ImportThread}
    (working : thread.stage.isWorking = true)
    (taken : Taken id hub) (stored : hub.tasks.find id = some row)
    (fits : thread.stage.holds = true → thread.held.Fits row ∧ thread.held.base.status = .running) :
    Stepped thread (world.artifact id) id row process (thread.step world id detail hub process) := by
  obtain ⟨its, found, type, status⟩ := taken.row
  obtain rfl : its = row := Option.some.inj (found.symm.trans stored)
  -- What a section that does not read the row again starts with.
  have kept (stale : (importSection world id detail thread.stage).fresh = false) :
    thread.reader world id detail hub = thread.held := by
    simp [ImportThread.reader, stale]
  have reader : (thread.reader world id detail hub).Fits its := by
    cases fresh : (importSection world id detail thread.stage).fresh with
    | true =>
      simp only [ImportThread.reader, stored, Option.getD_some, fresh, if_true]
      exact ⟨rfl, type, status, rfl⟩
    | false =>
      rw [kept fresh]
      refine (fits ?_).1
      cases stage : thread.stage <;> simp_all [importSection, Stage.holds, Stage.isWorking]
  have running (stale : (importSection world id detail thread.stage).fresh = false) (holds : thread.stage.holds = true) :
      (thread.reader world id detail hub).base.status = .running := by
    rw [kept stale]
    exact (fits holds).2
  obtain ⟨outcome, after, ⟨holds, minding⟩, ran⟩ := @Held.run_of_wp id hub its _ process _
    (importSection world id detail thread.stage).program
    (fun outcome after => Outcome thread.stage (world.artifact id) (thread.reader world id detail hub).base id
      (match outcome with
        | .ok next => next
        | .error _ => (importSection world id detail thread.stage).failure) after ∧ Minding id process after) stored
    (wp_and (section_outcome world detail working reader taken running stored process)
      (minds_section world detail working _ (reader.minding taken)))
  rw [ImportThread.step]
  simp only [ran]
  generalize (match outcome with
    | .ok next => next
    | .error _ => (importSection world id detail thread.stage).failure) = next at holds ⊢
  generalize thread.reader world id detail hub = held at holds reader running ⊢
  obtain ⟨row, found, its_type, its_status⟩ := minding.rows.committed.row
  have at_row := find_modifyTask found fun task => Task.merged held.base task its
  refine ⟨⟨minding.rows.committed.below, _, at_row, ?_, ?_⟩, minding.memory, rfl, ?_, ?_, holds.ends, ?_⟩
  · rcases column_or held.base.type row.type its.type with same | same
    · exact same.trans its_type
    · exact same.trans type
  · rcases column_or held.base.status row.status its.status with same | same
    · exact fun queued => its_status (same.symm.trans queued)
    · exact fun queued => status (same.symm.trans queued)
  · intro works
    obtain rfl : row = held.base := Option.some.inj (found.symm.trans (holds.kept works))
    rw [at_row, Task.merged_unchanged]
  · intro goes
    obtain ⟨object, running⟩ := holds.object goes
    have works : next.isWorking = true := by cases next <;> simp_all [Stage.holds, Stage.isWorking]
    simp only [holds.kept works, object, Option.getD_some]
    exact ⟨⟨rfl, reader.type, reader.status, reader.file⟩, running⟩
  · intro ended saving artifact
    obtain ⟨task, file, there, success, its_file, audio⟩ := holds.delivers ended saving artifact
    obtain rfl : row = task := Option.some.inj (found.symm.trans there)
    refine ⟨_, file, at_row, ?_, ?_, audio⟩
    · have was : held.base.status = .running := by
        refine running ?_ ?_
        · cases stage : thread.stage <;> simp_all [importSection, Stage.isSaving]
        · cases stage : thread.stage <;> simp_all [Stage.holds, Stage.isSaving]
      simp [Task.merged, column, success, was]
    · rcases column_or held.base.audioId row.audioId its.audioId with same | same
      · exact same.trans its_file
      · by_cases unchanged : row.audioId = held.base.audioId
        · exact same.trans (reader.file.symm.trans (unchanged.symm.trans its_file))
        · rw [column, if_neg unchanged] at same
          exact (if_neg unchanged).trans its_file

end Steps

section Starting

variable {id : Nat} {world : World} {s : Session Hub Process} {task : Task}

/-- What `maybe_start_import` does to a session with the task: nothing but to the fields, or it starts the thread. -/
theorem maybeStart_outcome (found : s.working.tasks.find id = some task)
    (commits : task.status = .queued → world.raises (.spawn id) = false) :
    wp (maybeStartImport world id)
      (fun _ after =>
        (after.memory = s.memory ∧ after.committed = s.committed ∧
          ∃ metaJson, after.working.tasks.find id = some { task with metaJson }) ∨
        (task.status = .queued ∧ id ∉ s.memory.importThreads ∧
          after.memory = { s.memory with
            importActive := id :: s.memory.importActive
            importThreads := id :: s.memory.importThreads } ∧
          after.committed = s.working.modifyTask id (started "probing") ∧ after.working = after.committed))
      (fun _ _ => False) s := by
  have same : (s.memory = s.memory ∧ s.committed = s.committed ∧
      ∃ metaJson, s.working.tasks.find id = some { task with metaJson }) := ⟨rfl, rfl, task.metaJson, found⟩
  rw [maybeStartImport, wp_bind]
  refine wp_loaded_of found ?_
  rw [wp_bind, wp_recollect]
  refine wp_cases (fun _ => .inl same) fun queued => wp_cases (fun _ => .inl same) fun free => wp_cases (fun _ => ?_) fun _ => ?_
  · exact .inl ⟨rfl, rfl, _, find_modifyTask found _⟩
  · simp only [Bool.or_eq_true, not_or, bne_iff_ne, ne_eq, not_not] at queued
    simp only [Bool.or_eq_true, not_or, List.contains_eq_mem, decide_eq_true_eq] at free
    simp only [wp_bind, wp_remember, wp_modifyTask, wp_flush, commitAt, commits queued.2, Bool.false_eq_true, if_false,
      wp_commit]
    exact .inr ⟨queued.2, free.2, rfl, rfl, rfl⟩

theorem maybeStart_starts (found : s.working.tasks.find id = some task) (type : task.type = .importUrl)
    (queued : task.status = .queued) (inactive : id ∉ s.memory.importActive) (unthreaded : id ∉ s.memory.importThreads)
    (room : s.memory.importActive.length < world.importMaxConcurrent) (commits : world.raises (.spawn id) = false) :
    wp (maybeStartImport world id) (fun _ after => id ∈ after.memory.importThreads) (fun _ _ => False) s := by
  rw [maybeStartImport, wp_bind]
  refine wp_loaded_of found ?_
  rw [wp_bind, wp_recollect]
  simp only [wp_bind, wp_remember, wp_modifyTask, wp_flush, commitAt, commits, type, queued, inactive, unthreaded, room.not_ge,
    Bool.false_eq_true, List.contains_eq_mem, decide_false, bne_self_eq_false, Bool.or_self, if_false, wp_commit]
  exact List.mem_cons_self

end Starting

section Finishing

variable {id : Nat} {hub : Hub} {row : Task}

structure Resembling (id : Nat) (row : Task) (origin hub : Hub) : Prop where
  row : ∃ metaJson, hub.tasks.find id = some { row with metaJson }
  nextId : hub.nextId = origin.nextId
  audios : hub.audios = origin.audios

/-- What a session leaves that has changed no more than the fields of its object. -/
theorem Resembling.merged (stored : hub.tasks.find id = some row) (base : Task) (metaJson : Option Dict) :
    Resembling id row hub ((hub.modifyTask id fun _ => { base with metaJson }).modifyTask id fun task =>
      Task.merged base task row) := by
  refine ⟨⟨column base.metaJson metaJson row.metaJson, ?_⟩, rfl, rfl⟩
  rw [find_modifyTask (find_modifyTask stored _) _]
  simp [Task.merged]

theorem onProgress_resembles {world : World} (progress : Progress) (stored : hub.tasks.find id = some row) (process : Process) :
    Resembling id row hub ((onProgress world id progress).run (.start hub process)).2.committed := by
  have restaged {origin : Hub} (resembles : Resembling id row hub origin) :
      Resembling id row hub (origin.modifyTask id (staged progress.stage progress.fields)) := by
    obtain ⟨metaJson, found⟩ := resembles.row
    exact ⟨⟨_, find_modifyTask found _⟩, resembles.nextId, resembles.audios⟩
  have kept : Preserves (Resembling id row hub) (onProgress world id progress) := by
    refine maintains_read.bind fun hub => .ite (fun _ => ?_) fun _ => maintains_pure _
    exact ((preserves_update fun _ resembles => restaged resembles).bind fun _ => maintains_flush).bind fun _ =>
      maintains_commitAt world _
  exact kept.committed ⟨⟨row.metaJson, stored⟩, rfl, rfl⟩ process

/-- What a step of the `finally` block does to the memory of the process, and what comes after it. -/
def Stage.forgets (id : Nat) : Stage → Process → Process
  | .deactivates => deactivated id
  | .uncancels => uncanceled id
  | .leaves => threadGone id
  | _ => fun process => process

def Stage.next : Stage → Stage
  | .deactivates => .uncancels
  | .uncancels => .leaves
  | _ => .ended

theorem Held.run_remember {held : Held} {process : Process} (stored : hub.tasks.find id = some row) (f : Process → Process)
    (next : Stage) :
    held.run id hub process (do
      Tx.remember f
      return next) = (.ok next, (hub.modifyTask id fun _ => held.base).modifyTask id fun task => Task.merged held.base task row,
        f process, held) := by
  have ran : Tx.run (do
      Tx.remember f
      return next : Program Stage) (held.session id hub process) =
        (.ok next, { held.session id hub process with memory := f process }) := rfl
  simp only [Held.session] at ran
  simp only [Held.run, stored, Option.getD_some, Held.session, ran, find_modifyTask stored]

theorem step_finally (world : World) (detail : String) (process : Process) {thread : ImportThread}
    (works : thread.stage.isWorking = false) (alive : thread.stage.hasEnded = false) (stored : hub.tasks.find id = some row) :
    Resembling id row hub (thread.step world id detail hub process).1 ∧
      (thread.step world id detail hub process).2 =
        (thread.stage.forgets id process, { thread with stage := thread.stage.next }) := by
  obtain ⟨held, stage, run⟩ := thread
  have merges : Resembling id row hub ((hub.modifyTask id fun _ => held.base).modifyTask id fun task =>
    Task.merged held.base task row) :=
    Resembling.merged stored held.base held.base.metaJson
  have steps {f : Process → Process} {next : Stage} (reader : (ImportThread.reader ⟨held, stage, run⟩ world id detail hub) = held)
      (part : (importSection world id detail stage).program = do
        Tx.remember f
        return next) :
      ImportThread.step ⟨held, stage, run⟩ world id detail hub process =
        ((hub.modifyTask id fun _ => held.base).modifyTask id fun task => Task.merged held.base task row, f process,
          ⟨held, next, run⟩) := by
    simp only [ImportThread.step, reader, part, Held.run_remember stored]
  cases stage with
  | deactivates => exact ⟨by rw [steps rfl rfl]; exact merges, by rw [steps rfl rfl]; rfl⟩
  | uncancels => exact ⟨by rw [steps rfl rfl]; exact merges, by rw [steps rfl rfl]; rfl⟩
  | leaves => exact ⟨by rw [steps rfl rfl]; exact merges, by rw [steps rfl rfl]; rfl⟩
  | _ => contradiction

end Finishing

end IdigestHub.Ingest
