import IdigestHub.Capture.Persist

/-! The background thread of a capture, in the sections between its awaits. -/

set_option autoImplicit false

namespace IdigestHub.Capture

open Foundation Foundation.UnitOfWork Dispatcher Ingest

def captureStopForwardStatuses : List String := ["queued", "running", "capturing", "joining"]

inductive Awaiting where
  | start
  | post (node : Nat)
  | poll (node : Nat)
  | artifact (node : Nat) (poll : Dict)
  | returned

variable (world : World)

def forwardCaptureCancel (id : Nat) : Program Unit := do
  let task ← loaded id
  let hub ← Tx.read
  match nonEmpty (task.workerTaskId.map Text.strip), task.workerId with
  | some _, some node =>
    if (hub.nodes.find node).isSome then do
      let _ ← Tx.attempt (callWorker world id node)
      pure ()
    else pure ()
  | _, _ => pure ()

def failAndReturn (id : Nat) (code : ErrorCode) (extra : Dict) (step : Nat) : Program Awaiting := do
  failAndCommit world id code extra step
  pure .returned

/-- A stop that was requested before the worker knew the job. -/
def forwardEarlyStop (id node : Nat) : Program Awaiting := do
  let task ← loaded id
  let process ← Tx.recollect
  if captureStopPending process id task then do
    forwardCaptureStop world id
    updateTaskMeta id "finalizing" []
    commitAt world (.runner id 10)
    pure (.poll node)
  else pure (.poll node)

/-- `_run_capture_task` up to the post, or up to the first poll of a job that the worker
already has. -/
def threadStart (id : Nat) : Program Awaiting := do
  let hub ← Tx.read
  let process ← Tx.recollect
  match hub.tasks.find id with
  | none => pure .returned
  | some task =>
    if task.type != .capture || !stillRunning task then pure .returned
    else if process.cancelled.contains id then failAndReturn world id .canceled [] 11
    else if !hub.settings.captureEnabled then failAndReturn world id .captureDisabled [] 12
    else do
      match ← bindCaptureWorker world id with
      | none => do
        commitAt world (.runner id 13)
        pure .returned
      | some node => do
        let task ← loaded id
        if (nonEmpty (task.workerTaskId.map Text.strip)).isSome then do
          commitAt world (.runner id 14)
          forwardEarlyStop world id node
        else do
          updateTaskMeta id "joining" []
          commitAt world (.runner id 15)
          if process.cancelled.contains id then failAndReturn world id .canceled [] 16
          else do
            callWorker world id node
            pure (.post node)

/-- The code of a refused post, as the worker sends it; one that is no dictionary key raises. -/
def postErrorCode (body : Dict) : Option ErrorCode :=
  match ((body.get "error").asDict.getD []).get "code" with
  | .str "join_failed" => some .pipelineError
  | .str "invalid_url" => some .invalidUrl
  | .str "queue_full" => some .queueFull
  | .str code => some (mapCaptureWorkerError (some code))
  | code => mapWorkerError code

def postedFields (status : String) (workerMeta fields : Dict) : Dict :=
  let orElse (key : String) : Json := if (workerMeta.get key).truthy then workerMeta.get key else fields.get key
  [("worker_capture_status", .str status),
   ("meeting_host", orElse "meeting_host"),
   ("meeting_room", orElse "meeting_room")]

def threadPosted (id node : Nat) : Program Awaiting := do
  match world.post id node with
  | .raises => Tx.raise .raised
  | .refused _ body =>
    match postErrorCode body with
    | none => Tx.raise .raised
    | some code => failAndReturn world id code [] 17
  | .accepted body => do
    let status := world.python.orEmpty (body.get "status")
    let workerMeta := (body.get "meta").asDict.getD []
    let workerTaskId := world.python.orEmpty (workerMeta.get "task_id")
    if workerTaskId = "" then failAndReturn world id .pipelineError [] 18
    else do
      let task ← loaded id
      modifyTask id fun task => { task with workerTaskId := some workerTaskId }
      commitAt world (.runner id 19)
      if status = "error" then
        failAndReturn world id (mapCaptureWorkerError (workerErrorCode world.python body)) [] 20
      else do
        updateTaskMeta id "capturing" (postedFields status workerMeta task.metaDict)
        commitAt world (.runner id 21)
        forwardEarlyStop world id node

def polledFields (status stage : String) (fields : Dict) : Dict :=
  let since := if status = "finalizing" then
      if (fields.find "finalizing_since").isSome then fields
      else fields.set "finalizing_since" (.str world.isoNow)
    else fields.pop "finalizing_since"
  (since.set "worker_capture_status" (.str status)).set "stage" (.str stage)

/-- What the thread does with a stage that it has just stored. -/
def afterPoll (id node : Nat) (status : String) (poll : Dict) : Program Awaiting := do
  let task ← loaded id
  let process ← Tx.recollect
  let python := world.python
  let ready := artifactReadyInPoll python poll
  let stuck := match task.metaDict.get "finalizing_since" with
    | .str since => status = "finalizing" && world.finalizingStuck since
    | _ => false
  if stuck then
    failAndReturn world id .pipelineError [("error_detail", .str "capture finalize timeout")] 22
  else if status = "success" || ready then
    if !ready then pure (.poll node)
    else do
      modifyTask id fun task =>
        { task with metaJson := some ((task.metaDict.pop "stop_requested").pop "finalizing_since") }
      Tx.flush
      pure (.artifact node poll)
  else if status = "error" then
    failAndReturn world id (mapCaptureWorkerError (workerErrorCode python poll)) [] 23
  else if status = "canceled" && !captureStopPending process id task then
    failAndReturn world id .canceled [] 24
  else pure (.poll node)

def threadPoll (id node : Nat) : Program Awaiting := do
  refreshTask id
  let process ← Tx.recollect
  match ← pollWorker world id node with
  | none => Tx.raise .raised
  | some (code, poll) =>
    let python := world.python
    if process.cancelled.contains id then
      if code = 200 && artifactReadyInPoll python poll then pure (.artifact node poll)
      else do
        forwardCaptureCancel world id
        failAndReturn world id .canceled [] 25
    else if code = 404 then failAndReturn world id .notFound [] 26
    else do
      let task ← loaded id
      let reported := workerStatus python poll
      let stopping := captureStopPending process id task
      let forward := stopping && captureStopForwardStatuses.contains reported
      if forward then forwardCaptureStop world id else pure ()
      let status := if forward then "finalizing" else reported
      let shown := hubStageForWorkerStatus status (status = "success" && artifactReadyInPoll python poll)
      let stage := if stopping && captureStopForwardStatuses.contains shown then "finalizing" else shown
      modifyTask id fun task =>
        { task with metaJson := some (polledFields world status stage task.metaDict) }
      Tx.flush
      commitAt world (.runner id 27)
      afterPoll world id node status poll

/-- After the loop. A poll that left the loop shows a ready file, so the second series of
polls is never needed. -/
def threadPersist (id node : Nat) (poll : Dict) : Program Awaiting := do
  refreshTask id
  let task ← loaded id
  if stillRunning task then do
    persistCaptureArtifact world id node poll
    pure .returned
  else pure .returned

/-- The handler for an exception in any section. -/
def threadFailed (id : Nat) (detail : String) : Program Unit := do
  Tx.rollback
  let hub ← Tx.read
  if (hub.tasks.find id).isSome then
    failAndCommit world id .pipelineError (if detail = "" then [] else [("error_detail", .str detail)]) 28
  else pure ()

/-- The `finally` block: the thread leaves the memory of the process. -/
def threadFinished (id : Nat) (process : Process) : Process :=
  { process with
    active := forget id process.active
    cancelled := forget id process.cancelled
    stopRequested := forget id process.stopRequested
    threads := forget id process.threads }

end IdigestHub.Capture
