import IdigestHub.Capture.Thread
import IdigestHub.Foundation.Runs
import Mathlib.Logic.Function.Basic

/-! The background thread of a capture and a dispatcher tick, as two drivers of one task row. Between
two awaits a driver works on its own object of the row; a commit stores the columns that it changed. -/

set_option autoImplicit false

namespace IdigestHub

open Foundation Foundation.UnitOfWork

deriving instance DecidableEq for Snapshot

section Columns

variable {A : Type} [DecidableEq A]

/-- A column after a flush: what the session has not changed stays as it is stored. -/
def column (base own stored : A) : A := if own = base then stored else own

@[simp] theorem column_unchanged (base stored : A) : column base base stored = stored := if_pos rfl

@[simp] theorem column_current (stored own : A) : column stored own stored = own := by
  unfold column
  split
  · exact Eq.symm ‹_›
  · rfl

end Columns

namespace Task

/-- The stored row after a session that has read `base` flushes its object. -/
def merged (base own stored : Task) : Task where
  type := column base.type own.type stored.type
  status := column base.status own.status stored.status
  orgId := column base.orgId own.orgId stored.orgId
  userId := column base.userId own.userId stored.userId
  audioId := column base.audioId own.audioId stored.audioId
  transcriptId := column base.transcriptId own.transcriptId stored.transcriptId
  skillIds := column base.skillIds own.skillIds stored.skillIds
  workerId := column base.workerId own.workerId stored.workerId
  workerTaskId := column base.workerTaskId own.workerTaskId stored.workerTaskId
  producedTranscriptId := column base.producedTranscriptId own.producedTranscriptId stored.producedTranscriptId
  producedSummaryId := column base.producedSummaryId own.producedSummaryId stored.producedSummaryId
  errorCode := column base.errorCode own.errorCode stored.errorCode
  snap := column base.snap own.snap stored.snap
  queuedAt := column base.queuedAt own.queuedAt stored.queuedAt
  retryWithoutTimeout := column base.retryWithoutTimeout own.retryWithoutTimeout stored.retryWithoutTimeout
  skipPersist := column base.skipPersist own.skipPersist stored.skipPersist
  skipReason := column base.skipReason own.skipReason stored.skipReason
  billed := column base.billed own.billed stored.billed
  metaJson := column base.metaJson own.metaJson stored.metaJson

@[simp] theorem merged_unchanged (base stored : Task) : merged base base stored = stored := by simp [merged]

@[simp] theorem merged_current (stored own : Task) : merged stored own stored = own := by simp [merged]

end Task

/-- A file that came and passed its checks. -/
def Artifact.downloaded : Artifact → Bool
  | .notDownloaded | .invalid => false
  | _ => true

namespace Capture

open Dispatcher Ingest

variable (world : World)

section Asking

/-- A round of the polling loop up to the question: whether a cancel has been requested. -/
def threadAsk (id node : Nat) : Program Bool := do
  refreshTask id
  let process ← Tx.recollect
  callWorker world id node
  pure (process.cancelled.contains id)

def threadReplied (id node : Nat) (salvage : Bool) : Reply → Program Awaiting
  | .raises | .unreachable => Tx.raise .raised
  | .answer code poll => do
    let process ← Tx.recollect
    let python := world.python
    if salvage then
      if code = 200 && artifactReadyInPoll python poll then pure (.artifact node poll)
      else do
        forwardCaptureCancel world id
        failAndReturn world id .canceled [] 25
    else if code = 404 then failAndReturn world id .notFound [] 26
    else do
      let task ← loaded id
      let reported := workerStatus python poll
      let stopping := captureStopPending process id task
      let forward := stopping && captureStopForwardStatuses.contains reported
      if forward then forwardCaptureStop world id else pure ()
      let status := if forward then "finalizing" else reported
      let shown := hubStageForWorkerStatus status (status = "success" && artifactReadyInPoll python poll)
      let stage := if stopping && captureStopForwardStatuses.contains shown then "finalizing" else shown
      modifyTask id fun task =>
        { task with metaJson := some (polledFields world status stage task.metaDict) }
      Tx.flush
      commitAt world (.runner id 27)
      afterPoll world id node status poll

def threadCheck (id : Nat) : Program Bool := do
  refreshTask id
  let task ← loaded id
  pure (stillRunning task)

/-- `_persist_capture_artifact_locked` up to the download. -/
def persistAsk (id node : Nat) : Program (Option Dict) := do
  match ← persistBegin world id with
  | none => pure none
  | some fields => do
    callWorker world id node
    pure (some fields)

/-- `try_finish_capture_task` up to the question to the worker, if it gets that far. -/
def tickAsk (id : Nat) : Program (Option Nat) := do
  let task ← loaded id
  if task.type != .capture || !stillRunning task then pure none
  else
    match nonEmpty (task.workerTaskId.map Text.strip), task.workerId with
    | some _, some node => do
      let hub ← Tx.read
      if (hub.nodes.find node).isNone then pure none
      else do
        callWorker world id node
        pure (some node)
    | _, _ => pure none

/-- `try_finish_capture_task` from the answer on: the answer when it shows a ready file. -/
def tickReplied (id : Nat) : Reply → Program (Option Dict)
  | .raises => Tx.raise .raised
  | .unreachable => pure none
  | .answer code poll =>
    let reported := workerStatus world.python poll
    let ready := reported = "success" && artifactReadyInPoll world.python poll
    if code != 200 then pure none
    else if ready then pure (some poll)
    else if captureActiveWorkerStatuses.contains reported || reported = "success" then do
      updateTaskMeta id (hubStageForWorkerStatus reported ready) [("worker_capture_status", .str reported)]
      pure none
    else pure none

theorem recall_callWorker {A : Type} (id node : Nat) (next : Process → Program A) :
    (do let process ← Tx.recollect; callWorker world id node; next process) =
      (do callWorker world id node; let process ← Tx.recollect; next process) := by
  funext s
  simp only [callWorker, guardSite, commitAt, bind_assoc]
  split
  · rfl
  · split <;> rfl

theorem threadPoll_eq (id node : Nat) :
    threadPoll world id node = (do
      let salvage ← threadAsk world id node
      threadReplied world id node salvage (world.getTask id)) := by
  unfold threadPoll threadAsk pollWorker
  simp only [bind_assoc, recall_callWorker]
  congr
  funext _
  congr
  funext _
  cases world.getTask id with
  | raises => rfl
  | unreachable => rfl
  | answer code poll => rfl

theorem threadPersist_eq (id node : Nat) (poll : Dict) :
    threadPersist world id node poll = (do
      if ← threadCheck id then do
        persistCaptureArtifact world id node poll
        pure .returned
      else pure .returned) := by
  simp [threadPersist, threadCheck]

theorem persistCaptureArtifact_eq (id node : Nat) (poll : Dict) :
    persistCaptureArtifact world id node poll = (do
      match ← persistAsk world id node with
      | none => pure ()
      | some fields =>
        match ← persistDownloaded world id poll with
        | none => pure ()
        | some duration => persistSaved world id fields duration) := by
  simp only [persistCaptureArtifact, persistAsk, bind_assoc]
  congr
  funext begun
  cases begun with
  | none => rfl
  | some fields =>
    refine ((bind_assoc ..).trans (bind_congr fun _ => ?_)).symm
    exact pure_bind ..

theorem tryFinishCaptureTask_eq (id : Nat) :
    tryFinishCaptureTask world id = (do
      match ← tickAsk world id with
      | none => pure ()
      | some node =>
        match ← tickReplied world id (world.getTask id) with
        | none => pure ()
        | some poll => persistCaptureArtifact world id node poll) := by
  simp only [tryFinishCaptureTask, tickAsk, tryFinishCaptureTask.report, pollWorker, bind_assoc]
  congr
  funext task
  split
  · rfl
  · cases nonEmpty (task.workerTaskId.map Text.strip) with
    | none => rfl
    | some _ =>
      cases task.workerId with
      | none => rfl
      | some node =>
        simp only [bind_assoc]
        congr
        funext hub
        split
        · rfl
        · simp only [bind_assoc, pure_bind]
          congr
          funext _
          cases world.getTask id with
          | raises => rfl
          | unreachable => rfl
          | answer code poll =>
            simp only [tickReplied, pure_bind]
            split
            · rfl
            · split
              · rfl
              · split <;> rfl

end Asking

/-- Where a driver waits. What became of the file is settled with its download. -/
inductive Phase where
  | idle
  | loaded
  | posting (node : Nat)
  | polling (node : Nat)
  | asked (node : Nat) (salvage : Bool)
  | replied (node : Nat) (salvage : Bool) (reply : Reply)
  | fetched (node : Nat) (poll : Dict)
  | persisting (node : Nat) (poll : Dict)
  | downloading (node : Nat) (poll fields : Dict)
  | saving (node : Nat) (fields : Dict) (duration : Option Decimal) (artifact : Artifact)
  | raised
  | leaving (node : Option Nat)
  | starting
  | committing

def Phase.locks : Phase → Bool
  | .downloading .. | .saving .. => true
  | _ => false

def Phase.isPersisting : Phase → Bool
  | .persisting .. => true
  | _ => false

inductive Role where
  | thread | tick
  deriving DecidableEq

def Role.other : Role → Role
  | .thread => .tick
  | .tick => .thread

/-- What a section knows of the row when it starts: the object as it is, refreshed from the store, or
loaded by a new transaction. -/
inductive Reading where
  | stale | refreshed | fresh

structure Section where
  reading : Reading
  program : Program Phase
  failure : Phase

def Awaiting.phase (node : Option Nat) : Awaiting → Phase
  | .start => .idle
  | .post node => .posting node
  | .poll node => .polling node
  | .artifact node body => .fetched node body
  | .returned => .leaving node

def Role.afterPersist (node : Nat) : Role → Phase
  | .thread => .leaving (some node)
  | .tick => .starting

/-- The exception handler of the thread; a tick loses its session. -/
def Role.failure : Role → Phase
  | .thread => .raised
  | .tick => .idle

/-- The checks after the download are made on a refreshed row. -/
def rereads (id : Nat) (poll : Dict) : Bool :=
  !world.raises (.artifact id) && (pollDuration world.python poll).isSome && (world.artifact id).downloaded

def threadBegins (id : Nat) : Program Phase := do
  let process ← Tx.recollect
  if process.threads.contains id then do
    let waiting ← threadStart world id
    pure (waiting.phase none)
  else pure .idle

def tickBegins (id : Nat) : Program Phase := do
  let task ← loaded id
  pure (if task.active then .loaded else .idle)

/-- The `finally` block: a recording that was stored is deleted on the worker. -/
def threadLeaves (id : Nat) (node : Option Nat) : Program Phase := do
  let hub ← Tx.read
  match node with
  | none => pure ()
  | some node =>
    if (hub.tasks.find id).any fun task => task.status == .success then do
      let _ ← Tx.attempt (callWorker world id node)
      pure ()
    else pure ()
  Tx.remember (threadFinished id)
  pure .idle

/-- The section that a driver runs next. `detail` is the text of an exception. -/
def sectionOf (id : Nat) (detail : String) (role : Role) : Phase → Section
  | .idle =>
    match role with
    | .thread => ⟨.fresh, threadBegins world id, .raised⟩
    | .tick => ⟨.fresh, tickBegins id, .idle⟩
  | .loaded => ⟨.stale, do
      match ← tickAsk world id with
      | none => pure .starting
      | some node => pure (.asked node false), role.failure⟩
  | .posting node => ⟨.stale, do
      let waiting ← threadPosted world id node
      pure (waiting.phase none), role.failure⟩
  | .polling node => ⟨.refreshed, do
      let salvage ← threadAsk world id node
      pure (.asked node salvage), role.failure⟩
  | .asked node salvage => ⟨.stale, pure (.replied node salvage (world.getTask id)), role.failure⟩
  | .replied node salvage reply =>
    match role with
    | .thread => ⟨.stale, do
        let waiting ← threadReplied world id node salvage reply
        pure (waiting.phase (some node)), role.failure⟩
    | .tick => ⟨.stale, do
        match ← tickReplied world id reply with
        | none => pure .starting
        | some poll => pure (.persisting node poll), role.failure⟩
  | .fetched node poll => ⟨.refreshed, do
      let running ← threadCheck id
      pure (if running then .persisting node poll else .leaving (some node)), role.failure⟩
  | .persisting node poll => ⟨.refreshed, do
      match ← persistAsk world id node with
      | none => pure (role.afterPersist node)
      | some fields => pure (.downloading node poll fields), role.failure⟩
  | .downloading node poll fields => ⟨if rereads world id poll then .refreshed else .stale, do
      match ← persistDownloaded world id poll with
      | none => pure (role.afterPersist node)
      | some duration => pure (.saving node fields duration (world.artifact id)), role.failure⟩
  | .saving node fields duration artifact => ⟨.stale, do
      persistSaved { world with artifact := fun _ => artifact } id fields duration
      pure (role.afterPersist node), role.failure⟩
  | .raised => ⟨.fresh, do
      threadFailed world id detail
      pure (.leaving none), .leaving none⟩
  | .leaving node => ⟨.stale, threadLeaves world id node, .idle⟩
  | .starting => ⟨.stale, do
      maybeStartCapture world id
      pure .committing, role.failure⟩
  | .committing => ⟨.stale, do
      commitAt world (.tick 3)
      pure .idle, role.failure⟩

/-- A driver between two sections: the stored values that its session has last read or written, its
object of the row, and where it waits. -/
structure Driver where
  base : Task
  own : Task
  phase : Phase

namespace Driver

def read (driver : Driver) (stored : Task) : Reading → Driver
  | .stale => driver
  | .refreshed => { driver with base := stored, own := Task.merged driver.base driver.own stored }
  | .fresh => { driver with base := stored, own := stored }

def session (driver : Driver) (id : Nat) (hub : Hub) (process : Process) : Session Hub Process :=
  let view (row : Task) := hub.modifyTask id fun _ => row
  ⟨view driver.base, view driver.own, view driver.own, process⟩

def run (driver : Driver) (id : Nat) (hub : Hub) (process : Process) (part : Section) : Hub × Process × Driver :=
  let stored := (hub.tasks.find id).getD driver.base
  let reader := driver.read stored part.reading
  let (outcome, after) := part.program.run (reader.session id hub process)
  let phase := match outcome with
    | .ok next => next
    | .error _ => part.failure
  (after.committed.modifyTask id fun row => Task.merged reader.base row stored,
    after.memory,
    ⟨(after.committed.tasks.find id).getD reader.base, (after.working.tasks.find id).getD reader.own, phase⟩)

end Driver

structure Turn where
  role : Role
  world : World
  detail : String

/-- A hub with a thread and a tick on one task; `first` is the row that the first recording left. -/
structure Drivers where
  hub : Hub
  process : Process
  driver : Role → Driver
  first : Option Task

namespace Drivers

def opened (hub : Hub) (process : Process) (task : Task) : Drivers :=
  ⟨hub, process, fun _ => ⟨task, task, .idle⟩, none⟩

def blocked (s : Drivers) (role : Role) : Bool :=
  (s.driver role).phase.isPersisting && (s.driver role.other).phase.locks

def step (id : Nat) (s : Drivers) (turn : Turn) : Drivers :=
  let driver := s.driver turn.role
  if s.blocked turn.role then s
  else
    let (hub, process, after) := driver.run id s.hub s.process
      (sectionOf turn.world id turn.detail turn.role driver.phase)
    { hub, process
      driver := Function.update s.driver turn.role after
      first := s.first.or ((hub.tasks.find id).filter fun task => task.audioId.isSome) }

end Drivers

end Capture

end IdigestHub
