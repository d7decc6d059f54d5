import IdigestHub.Capture.Runner

/-! Storing a recorded meeting, in the three sections between its awaits. -/

set_option autoImplicit false

namespace IdigestHub.Capture

open Foundation Foundation.UnitOfWork Dispatcher Ingest

variable (world : World)

/-- The checks after each refresh: the row is still running and has no file. -/
def stillRunning (task : Task) : Bool := task.audioId.isNone && task.status == .running

/-- `_persist_capture_artifact_locked` up to the download: the fields to go on with. -/
def persistBegin (id : Nat) : Program (Option Dict) := do
  refreshTask id
  let task ← loaded id
  if !stillRunning task then pure none
  else if meetingUrlOf world.python task = "" then do
    failAndCommit world id .invalidUrl [] 0
    pure none
  else do
    updateTaskMeta id "downloading" [("worker_capture_status", .str "success")]
    commitAt world (.runner id 1)
    pure (some task.metaDict)

/-- `float(raw_duration)` of a number; anything else is no duration. -/
def pollDuration (python : Python) (poll : Dict) : Option (Option Decimal) :=
  match ((poll.get "meta").asDict.getD []).get "duration_sec" with
  | .num value => (python.float (.num value)).map some
  | .bool value => (python.float (.bool value)).map some
  | _ => some none

/-- What follows the checks of a download whose duration has been read. -/
def persistTimed (id : Nat) : Option (Option Decimal) → Program (Option (Option Decimal))
  | none => Tx.raise .typeError
  | some duration => do
    refreshTask id
    let task ← loaded id
    if !stillRunning task then pure none
    else do
      commitAt world (.runner id 4)
      pure (some duration)

/-- From the download to the save: whether to go on, and the duration of the file. -/
def persistDownloaded (id : Nat) (poll : Dict) : Program (Option (Option Decimal)) := do
  guardSite world (.artifact id)
  match world.artifact id with
  | .notDownloaded => do
    failAndCommit world id .downloadFailed [] 2
    pure none
  | .invalid => do
    failAndCommit world id .invalidFile [] 3
    pure none
  | _ =>
    match pollDuration world.python poll with
    | none => Tx.raise .typeError
    | some duration => do
      refreshTask id
      let task ← loaded id
      if !stillRunning task then pure none
      else do
        commitAt world (.runner id 4)
        pure (some duration)

/-- The row that points at its recorded file. -/
def capturedTask (audioId : Nat) (duration : Option Decimal) (fields : Dict) (task : Task) : Task :=
  { task with
    audioId := some audioId
    status := .success
    errorCode := none
    metaJson := some (fields.update [
      ("stage", .str "done"),
      ("meeting_host", fields.get "meeting_host"),
      ("meeting_room", fields.get "meeting_room"),
      ("duration_sec", (duration.map Json.num).getD .null),
      ("worker_capture_status", .str "success")]) }

def persistSaved (id : Nat) (fields : Dict) (duration : Option Decimal) : Program Unit := do
  match world.artifact id with
  | .tooLarge => failAndCommit world id .payloadTooLarge [] 5
  | .unreadable => failAndCommit world id .invalidFile [] 6
  | .missing => failAndCommit world id .downloadFailed [("error_detail", .str "storage write missing")] 7
  | .stored filename => do
    let task ← loaded id
    let audioId := (← Tx.read).nextId
    Tx.update fun hub => hub.addAudio {
      orgId := task.orgId
      ownerUserId := task.userId
      originalFilename := filename
      durationSec := duration }
    Tx.flush
    guardSite world (.store id)
    modifyTask id (capturedTask audioId duration fields)
    guardSite world (.terminalHook id)
    enqueueTranscribeAfterIngest world id
    commitAt world (.runner id 8)
  | .notDownloaded | .invalid => pure ()

/-- `_persist_capture_artifact_locked` without interruption. -/
def persistCaptureArtifact (id node : Nat) (poll : Dict) : Program Unit := do
  match ← persistBegin world id with
  | none => pure ()
  | some fields => do
    callWorker world id node
    match ← persistDownloaded world id poll with
    | none => pure ()
    | some duration => persistSaved world id fields duration

def tryFinishCaptureTask (id : Nat) : Program Unit := do
  let task ← loaded id
  if task.type != .capture || !stillRunning task then pure ()
  else
    match nonEmpty (task.workerTaskId.map Text.strip), task.workerId with
    | some _, some node => do
      let hub ← Tx.read
      if (hub.nodes.find node).isNone then pure ()
      else do
        match ← pollWorker world id node with
        | none => pure ()
        | some (status, poll) =>
          if status != 200 then pure () else report node poll
    | _, _ => pure ()
where
  report (node : Nat) (poll : Dict) : Program Unit := do
    let reported := workerStatus world.python poll
    let ready := reported = "success" && artifactReadyInPoll world.python poll
    if ready then persistCaptureArtifact world id node poll
    else if captureActiveWorkerStatuses.contains reported || reported = "success" then
      updateTaskMeta id (hubStageForWorkerStatus reported ready) [("worker_capture_status", .str reported)]
    else pure ()

end IdigestHub.Capture
