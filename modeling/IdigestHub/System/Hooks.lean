import IdigestHub.Dispatcher.Replies
import IdigestHub.Capture.Persist

/-! `mark_task_terminal`, and the functions that call it, up to the commit that follows each call. What it
announces has left the process at once: a log keeps it beside the memory of the process, and a rollback
does not undo it. -/

set_option autoImplicit false

namespace IdigestHub.Announcing

open Foundation Foundation.UnitOfWork Dispatcher Ingest

/-- A call of the metrics and of Telegram, in a run of the task. -/
structure Notice where
  run : Nat
  status : TaskStatus
  deriving DecidableEq

structure Book where
  run : Nat
  notices : List Notice

def Book.announce (book : Book) (status : TaskStatus) : Book :=
  { book with notices := book.notices ++ [⟨book.run, status⟩] }

abbrev Telling : Type := Session Hub (Process × Book)

abbrev Announcer (A : Type) : Type := Tx Hub (Process × Book) Fault A

def silent (s : Telling) : Session Hub Process := ⟨s.committed, s.flushed, s.working, s.memory.1⟩

def told (s : Session Hub Process) (book : Book) : Telling := ⟨s.committed, s.flushed, s.working, (s.memory, book)⟩

/-- A part of a program that announces nothing. -/
def quietly {A : Type} (program : Program A) : Announcer A := fun s =>
  match program (silent s) with
  | (outcome, after) => (outcome, told after s.memory.2)

section Programs

variable (world : World)

def markTaskTerminal (id : Nat) : Announcer Unit := do
  let task ← quietly (loaded id)
  if task.active then pure ()
  else do
    Tx.remember fun memory => (memory.1, memory.2.announce task.status)
    quietly (guardSite world (.terminalHook id))

def fail (id : Nat) (code : ErrorCode) (errorDetail : Option String) : Announcer Unit := do
  quietly (modifyTask id (failedTask code errorDetail))
  markTaskTerminal world id

def maybeTimeout (id : Nat) (pool : PoolState) : Announcer Bool := do
  let task ← quietly (loaded id)
  if task.retryWithoutTimeout || pool != .empty || world.dispatchNoCandidateSec ≤ 0 then pure false
  else
    let elapsed : Int := (world.now : Int) - task.queuedAt
    if world.dispatchNoCandidateSec * 1000000 ≤ elapsed then do
      fail world id .dispatchTimeout none
      pure true
    else pure false

def stored (id : Nat) (add : Hub → Hub) (point : Nat → Task → Task) : Program Unit := do
  guardSite world (.store id)
  let rowId := (← Tx.read).nextId
  Tx.update add
  Tx.flush
  modifyTask id fun task => succeededTask (point rowId task)

/-- `_persist_transcript` and `_persist_summary`. -/
def persist (id : Nat) (add : Task → Hub → Hub) (point : Nat → Task → Task) : Announcer Unit := do
  let task ← quietly (loaded id)
  if task.skipPersist then fail world id (task.skipReason.getD .sourceDeleted) none
  else do
    quietly (stored world id (add task) point)
    markTaskTerminal world id

def persistTranscript (id : Nat) (payload : Json) : Announcer Unit :=
  persist world id (fun task hub => hub.addTranscript {
    orgId := task.orgId
    ownerUserId := task.userId
    sourceAudioId := task.audioId
    payload
    hasToneAnalytics := storedHasTone payload }) fun rowId task => { task with producedTranscriptId := some rowId }

def persistSummary (id : Nat) (body : String) : Announcer Unit :=
  persist world id (fun task hub => hub.addSummary {
    orgId := task.orgId
    ownerUserId := task.userId
    sourceTranscriptId := task.transcriptId
    skillIds := task.skillIds
    body }) fun rowId task => { task with producedSummaryId := some rowId }

/-- `_on_transcribe_success`: the worker's task to clean up and the follow-up to dispatch after the commit. -/
def onTranscribeSuccess (id : Nat) (body : Dict) : Announcer (Option String × Option Nat) := do
  let task ← quietly (loaded id)
  let utterances := match body.get "transcript" with | .arr items => items | _ => []
  let workerMeta := (body.get "meta").asDict.getD []
  match reportedSeconds world body with
  | none => Tx.raise .typeError
  | some audioSec => do
    quietly (fillDuration task audioSec)
    match Billing.transcribeAmount task audioSec with
    | none => Tx.raise .invalidOperation
    | some amount => do
      persistTranscript world id (.obj (buildWorkerPayload body utterances))
      quietly (charge world id (some audioSec) amount none)
      let followUp ← quietly (enqueueSummarizeAfterTranscribe world id)
      quietly (modifyTask id (doneTask (reportedFields workerMeta)))
      pure (task.workerTaskId, followUp)

def onSummarizeSuccess (id : Nat) (body : Dict) : Announcer (Option String) := do
  let task ← quietly (loaded id)
  let text := reportedSummary body
  match Billing.summarizeAmount task text with
  | none => Tx.raise .invalidOperation
  | some amount => do
    persistSummary world id text
    quietly (charge world id none amount (some text.length))
    quietly (modifyTask id (doneTask []))
    pure task.workerTaskId

def onWorkerTerminalError (id : Nat) (body : Dict) : Announcer (Option String) := do
  let task ← quietly (loaded id)
  match mapWorkerError (((body.get "error").asDict.getD []).get "code") with
  | none => Tx.raise .typeError
  | some code => do
    fail world id code (workerErrorDetail body)
    pure task.workerTaskId

/-- `_fail_task` of the import runner and of the capture runner. -/
def failTask (id : Nat) (code : ErrorCode) (extra : Dict) : Announcer Unit := do
  quietly (modifyTask id (failed code extra))
  Tx.flush
  markTaskTerminal world id

/-- The end of `_run_import_task` and of `_persist_capture_artifact_locked`, once the file is saved. -/
def ingested (id : Nat) (add : Task → Hub → Hub) (point : Nat → Task → Task) : Announcer Unit := do
  let task ← quietly (loaded id)
  let audioId := (← Tx.read).nextId
  Tx.update (add task)
  Tx.flush
  quietly (guardSite world (.store id))
  quietly (modifyTask id (point audioId))
  markTaskTerminal world id
  quietly (enqueueTranscribeAfterIngest world id)

def imported (id : Nat) (fields : Dict) (result : ImportResult) : Announcer Unit :=
  ingested world id (fun task hub => hub.addAudio {
    orgId := task.orgId
    ownerUserId := task.userId
    originalFilename := result.originalFilename
    durationSec := result.durationSec }) fun audioId => importedTask audioId fields result

def captured (id : Nat) (filename : String) (fields : Dict) (duration : Option Decimal) : Announcer Unit :=
  ingested world id (fun task hub => hub.addAudio {
    orgId := task.orgId
    ownerUserId := task.userId
    originalFilename := filename
    durationSec := duration }) fun audioId => Capture.capturedTask audioId duration fields

end Programs

section Rules

variable {A : Type} {world : World} {id : Nat} {s : Telling} {Q : A → Telling → Prop} {R : Fault → Telling → Prop}

theorem wp_quietly {program : Program A} (holds : wp program (fun a after => Q a (told after s.memory.2))
    (fun fault after => R fault (told after s.memory.2)) (silent s)) : wp (quietly program) Q R s := by
  simp only [wp, quietly] at holds ⊢
  generalize program (silent s) = ran at holds ⊢
  obtain ⟨outcome, after⟩ := ran
  cases outcome with
  | ok a => exact holds
  | error fault => exact holds

def announced (s : Telling) (status : TaskStatus) : Telling :=
  { s with memory := (s.memory.1, s.memory.2.announce status) }

end Rules

section Erasure

variable {A B : Type} {world : World} {id : Nat} {task : Task} {s : Session Hub Process}

/-- What is left of a program when nobody listens. -/
def silenced (announcer : Announcer A) : Program A := fun s =>
  match announcer (told s ⟨0, []⟩) with
  | (outcome, after) => (outcome, silent after)

def Erases (announcer : Announcer A) (program : Program A) (s : Session Hub Process) : Prop :=
  ∀ book, ∃ after, announcer (told s book) = ((program s).1, told (program s).2 after)

theorem Erases.silenced {announcer : Announcer A} {program : Program A} (erases : Erases announcer program s) :
    silenced announcer s = program s := by
  obtain ⟨book, same⟩ := erases ⟨0, []⟩
  simp only [Announcing.silenced, same]
  rfl

theorem erases_quietly (program : Program A) : Erases (quietly program) program s := fun book => ⟨book, rfl⟩

theorem erases_pure (a : A) : Erases (pure a) (pure a) s := fun book => ⟨book, rfl⟩

theorem erases_raise (fault : Fault) : Erases (Tx.raise fault : Announcer A) (Tx.raise fault) s := fun book => ⟨book, rfl⟩

theorem erases_read : Erases Tx.read Tx.read s := fun book => ⟨book, rfl⟩

theorem erases_update (f : Hub → Hub) : Erases (Tx.update f) (Tx.update f) s := fun book => ⟨book, rfl⟩

theorem erases_flush : Erases Tx.flush Tx.flush s := fun book => ⟨book, rfl⟩

theorem Erases.bind {first : Announcer A} {program : Program A} {k : A → Announcer B} {l : A → Program B}
    (erases : Erases first program s) (rest : wp program (fun a after => Erases (k a) (l a) after) (fun _ _ => True) s) :
    Erases (first >>= k) (program >>= l) s := by
  intro book
  obtain ⟨between, same⟩ := erases book
  simp only [wp] at rest
  simp only [Bind.bind, Tx.bind, same]
  generalize program s = ran at rest ⊢
  obtain ⟨outcome, after⟩ := ran
  cases outcome with
  | ok a => exact rest between
  | error fault => exact ⟨between, rfl⟩

theorem Erases.read {k : Hub → Announcer B} {l : Hub → Program B} (rest : Erases (k s.working) (l s.working) s) :
    Erases (Tx.read >>= k) (Tx.read >>= l) s := erases_read.bind rest

theorem Erases.loaded {k : Task → Announcer B} {l : Task → Program B} (found : s.working.tasks.find id = some task)
    (rest : Erases (k task) (l task) s) : Erases (quietly (loaded id) >>= k) (loaded id >>= l) s :=
  (erases_quietly _).bind (wp_loaded_of found rest)

theorem Erases.modify {f : Task → Task} {k : Unit → Announcer B} {l : Unit → Program B}
    (rest : Erases (k ()) (l ()) (s.edit (s.working.modifyTask id f))) :
    Erases (quietly (modifyTask id f) >>= k) (modifyTask id f >>= l) s := (erases_quietly _).bind rest

theorem erases_markTaskTerminal (found : s.working.tasks.find id = some task) (ended : task.active = false) :
    Erases (markTaskTerminal world id) (guardSite world (.terminalHook id)) s := by
  intro book
  simp only [markTaskTerminal, Bind.bind, Tx.bind, quietly, loaded, told, silent, Tx.read, found, ended, Pure.pure, Tx.pure,
    Bool.false_eq_true, if_false, Tx.remember]
  exact ⟨_, rfl⟩

theorem erases_fail (found : s.working.tasks.find id = some task) (code : ErrorCode) (detail : Option String) :
    Erases (fail world id code detail) (Dispatcher.fail world id code detail) s := by
  have row : (s.edit (s.working.modifyTask id (failedTask code detail))).working.tasks.find id =
      some (failedTask code detail task) := by simp [found]
  exact .modify (erases_markTaskTerminal row rfl)

theorem erases_maybeTimeout (found : s.working.tasks.find id = some task) (pool : PoolState) :
    Erases (maybeTimeout world id pool) (Dispatcher.maybeTimeout world id pool) s := by
  refine .loaded found ?_
  dsimp only
  split
  · exact erases_pure _
  · split
    · exact (erases_fail found _ _).bind (wp_mono (wp_trivial _ _) (fun _ _ _ => erases_pure _) fun _ _ _ => trivial)
    · exact erases_pure _

theorem erases_persist (found : s.working.tasks.find id = some task) {add : Task → Hub → Hub} {point : Nat → Task → Task}
    (rows : ∀ hub, (add task hub).tasks = hub.tasks) :
    Erases (persist world id add point) (do
      let task ← loaded id
      if task.skipPersist then Dispatcher.fail world id (task.skipReason.getD .sourceDeleted) none
      else do
        stored world id (add task) point
        guardSite world (.terminalHook id)) s := by
  refine .loaded found ?_
  split
  · exact erases_fail found _ _
  · refine (erases_quietly _).bind ?_
    rw [stored, wp_bind]
    refine wp_guardSite ?_ trivial
    simp only [wp_bind, wp_read, wp_update, wp_flush, wp_modifyTask]
    have row : ((add task s.working).modifyTask id fun task => succeededTask (point s.working.nextId task)).tasks.find id =
        some (succeededTask (point s.working.nextId task)) := by simp [rows, found]
    exact erases_markTaskTerminal row rfl

theorem erases_persistTranscript (found : s.working.tasks.find id = some task) (payload : Json) :
    Erases (persistTranscript world id payload) (Dispatcher.persistTranscript world id payload) s := by
  have erases := @erases_persist world id task s found
    (fun task hub => hub.addTranscript ⟨task.orgId, task.userId, task.audioId, payload, storedHasTone payload⟩)
    (fun rowId task => { task with producedTranscriptId := some rowId }) fun _ => rfl
  simp only [stored, bind_assoc] at erases
  exact erases

theorem erases_persistSummary (found : s.working.tasks.find id = some task) (body : String) :
    Erases (persistSummary world id body) (Dispatcher.persistSummary world id body) s := by
  have erases := @erases_persist world id task s found
    (fun task hub => hub.addSummary ⟨task.orgId, task.userId, task.transcriptId, task.skillIds, body⟩)
    (fun rowId task => { task with producedSummaryId := some rowId }) fun _ => rfl
  simp only [stored, bind_assoc] at erases
  exact erases

theorem Erases.goes_on {announcer : Announcer A} {program : Program A} (erases : Erases announcer program s)
    (rest : A → Program B) : (Announcing.silenced announcer >>= rest) s = (program >>= rest) s := by
  simp only [Bind.bind, Tx.bind, erases.silenced]

theorem storeTranscript_eq (found : s.working.tasks.find id = some task) (body : Dict) :
    storeTranscript world id body s = (do
      let (workerTaskId, followUp) ← silenced (onTranscribeSuccess world id body)
      commitAt world (.commit id)
      finishWorkerCleanup world id workerTaskId
      pure followUp) s := by
  have erases : Erases (onTranscribeSuccess world id body) (do
      let task ← loaded id
      let utterances := match body.get "transcript" with | .arr items => items | _ => []
      let workerMeta := (body.get "meta").asDict.getD []
      match reportedSeconds world body with
      | none => Tx.raise .typeError
      | some audioSec => do
        fillDuration task audioSec
        match Billing.transcribeAmount task audioSec with
        | none => Tx.raise .invalidOperation
        | some amount => do
          Dispatcher.persistTranscript world id (.obj (buildWorkerPayload body utterances))
          charge world id (some audioSec) amount none
          let followUp ← enqueueSummarizeAfterTranscribe world id
          modifyTask id (doneTask (reportedFields workerMeta))
          pure (task.workerTaskId, followUp)) s := by
    refine .loaded found ?_
    dsimp only
    cases reportedSeconds world body with
    | none => exact erases_raise _
    | some audioSec =>
      refine (erases_quietly _).bind (wp_mono (fillDuration_aside audioSec) ?_ fun _ _ _ => trivial)
      rintro _ filled ⟨aside, _⟩
      have found : filled.working.tasks.find id = some task := by rw [aside.tasks, found]
      cases Billing.transcribeAmount task audioSec with
      | none => exact erases_raise _
      | some amount =>
        refine (erases_persistTranscript found _).bind (wp_mono (wp_trivial _ _) (fun _ _ _ => ?_) fun _ _ _ => trivial)
        refine (erases_quietly _).bind (wp_mono (wp_trivial _ _) (fun _ _ _ => ?_) fun _ _ _ => trivial)
        refine (erases_quietly _).bind (wp_mono (wp_trivial _ _) (fun _ _ _ => ?_) fun _ _ _ => trivial)
        exact .modify (erases_pure _)
  refine Eq.trans ?_ (Erases.goes_on erases _).symm
  refine congrFun ?_ s
  simp only [storeTranscript, bind_assoc]
  congr
  funext task
  cases reportedSeconds world body with
  | none => rfl
  | some audioSec =>
    simp only [bind_assoc]
    congr
    funext _
    cases Billing.transcribeAmount task audioSec with
    | none => rfl
    | some amount =>
      refine ((bind_assoc ..).trans (bind_congr fun _ => ?_)).symm
      refine (bind_assoc ..).trans (bind_congr fun _ => ?_)
      refine (bind_assoc ..).trans (bind_congr fun _ => ?_)
      exact (bind_assoc ..).trans (bind_congr fun _ => pure_bind ..)

theorem onSummarizeSuccess_eq (found : s.working.tasks.find id = some task) (body : Dict) :
    Dispatcher.onSummarizeSuccess world id body s = (do
      let workerTaskId ← silenced (onSummarizeSuccess world id body)
      commitAt world (.commit id)
      finishWorkerCleanup world id workerTaskId) s := by
  have erases : Erases (onSummarizeSuccess world id body) (do
      let task ← loaded id
      let text := reportedSummary body
      match Billing.summarizeAmount task text with
      | none => Tx.raise .invalidOperation
      | some amount => do
        Dispatcher.persistSummary world id text
        charge world id none amount (some text.length)
        modifyTask id (doneTask [])
        pure task.workerTaskId) s := by
    refine .loaded found ?_
    dsimp only
    cases Billing.summarizeAmount task (reportedSummary body) with
    | none => exact erases_raise _
    | some amount =>
      refine (erases_persistSummary found _).bind (wp_mono (wp_trivial _ _) (fun _ _ _ => ?_) fun _ _ _ => trivial)
      refine (erases_quietly _).bind (wp_mono (wp_trivial _ _) (fun _ _ _ => ?_) fun _ _ _ => trivial)
      exact .modify (erases_pure _)
  refine Eq.trans ?_ (Erases.goes_on erases _).symm
  refine congrFun ?_ s
  simp only [Dispatcher.onSummarizeSuccess, bind_assoc]
  congr
  funext task
  cases Billing.summarizeAmount task (reportedSummary body) with
  | none => rfl
  | some amount => simp only [bind_assoc, pure_bind]

theorem onWorkerTerminalError_eq (found : s.working.tasks.find id = some task) (body : Dict) :
    Dispatcher.onWorkerTerminalError world id body s = (do
      let workerTaskId ← silenced (onWorkerTerminalError world id body)
      commitAt world (.commit id)
      finishWorkerCleanup world id workerTaskId) s := by
  have erases : Erases (onWorkerTerminalError world id body) (do
      let task ← loaded id
      match mapWorkerError (((body.get "error").asDict.getD []).get "code") with
      | none => Tx.raise .typeError
      | some code => do
        Dispatcher.fail world id code (workerErrorDetail body)
        pure task.workerTaskId) s := by
    refine .loaded found ?_
    cases mapWorkerError (((body.get "error").asDict.getD []).get "code") with
    | none => exact erases_raise _
    | some code =>
      refine (erases_fail found _ _).bind ?_
      exact wp_mono (wp_trivial _ _) (fun _ _ _ => erases_pure _) fun _ _ _ => trivial
  refine Eq.trans ?_ (Erases.goes_on erases _).symm
  refine congrFun ?_ s
  simp only [Dispatcher.onWorkerTerminalError, bind_assoc]
  congr
  funext task
  cases mapWorkerError (((body.get "error").asDict.getD []).get "code") with
  | none => rfl
  | some code => simp only [bind_assoc, pure_bind]

theorem failAndCommit_eq (found : s.working.tasks.find id = some task) (code : ErrorCode) (extra : Dict) (step : Nat) :
    failAndCommit world id code extra step s = (do
      silenced (failTask world id code extra)
      commitAt world (.runner id step)) s := by
  have erases : Erases (failTask world id code extra) (Ingest.failTask world id code extra) s := by
    have row : (s.working.modifyTask id (failed code extra)).tasks.find id = some (failed code extra task) := by simp [found]
    exact .modify (erases_flush.bind (erases_markTaskTerminal row rfl))
  exact (Erases.goes_on erases _).symm

/-- A saved file becomes an audio, and its task announces it. -/
theorem erases_ingested (found : s.working.tasks.find id = some task)
    {add : Task → Hub → Hub} {point : Nat → Task → Task} (rows : ∀ hub, (add task hub).tasks = hub.tasks)
    (ended : ∀ audioId, (point audioId task).active = false) :
    Erases (ingested world id add point) (do
      let task ← loaded id
      let audioId := (← Tx.read).nextId
      Tx.update (add task)
      Tx.flush
      guardSite world (.store id)
      modifyTask id (point audioId)
      guardSite world (.terminalHook id)
      enqueueTranscribeAfterIngest world id) s := by
  refine .loaded found (.read ?_)
  refine (erases_update _).bind (erases_flush.bind ((erases_quietly _).bind (wp_guardSite ?_ trivial)))
  have row : ((add task s.working).modifyTask id (point s.working.nextId)).tasks.find id =
      some (point s.working.nextId task) := by simp [rows, found]
  refine .modify ((erases_markTaskTerminal row (ended _)).bind ?_)
  exact wp_mono (wp_trivial _ _) (fun _ _ _ => erases_quietly _) fun _ _ _ => trivial

theorem importSaved_eq (found : s.working.tasks.find id = some task) (fields : Dict)
    (result : ImportResult) {filename : String} (saved : world.artifact id = .stored filename) :
    importSaved world id fields result s = (do
      silenced (imported world id fields result)
      commitAt world (.runner id 52)) s := by
  refine Eq.trans ?_ (Erases.goes_on (erases_ingested found (fun _ => rfl) fun _ => rfl) _).symm
  refine congrFun ?_ s
  simp only [importSaved, saved, bind_assoc]
  rfl

theorem persistSaved_eq (found : s.working.tasks.find id = some task) (fields : Dict)
    (duration : Option Decimal) {filename : String} (saved : world.artifact id = .stored filename) :
    Capture.persistSaved world id fields duration s = (do
      silenced (captured world id filename fields duration)
      commitAt world (.runner id 8)) s := by
  refine Eq.trans ?_ (Erases.goes_on (erases_ingested found (fun _ => rfl) fun _ => rfl) _).symm
  refine congrFun ?_ s
  simp only [Capture.persistSaved, saved, bind_assoc]
  rfl

end Erasure

end IdigestHub.Announcing
