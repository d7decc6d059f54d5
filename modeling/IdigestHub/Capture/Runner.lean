import IdigestHub.Capture.Meeting
import IdigestHub.Dispatcher.Outcomes
import IdigestHub.Ingest.Rows

/-! The capture runner up to the background thread: the capacity gate, the recovery after a
restart, the choice of a worker, and the start of the thread. -/

set_option autoImplicit false

namespace IdigestHub.Capture

open Foundation Foundation.UnitOfWork Dispatcher Ingest

def captureActiveWorkerStatuses : List String := ["queued", "running", "capturing", "finalizing", "joining"]

def dispatchedCaptureStages : List String := ["joining", "capturing", "finalizing", "downloading"]

def minCaptureArtifactBytes : Int := 512

def captureWorkerErrorMap : List (String × ErrorCode) := [
  ("unauthorized", .pipelineError), ("queue_full", .queueFull), ("not_found", .notFound),
  ("invalid_url", .invalidUrl), ("unsupported_connector", .pipelineError),
  ("join_failed", .pipelineError), ("invalid_file", .invalidFile), ("task_timeout", .pipelineError),
  ("interrupted", .pipelineError), ("pipeline_error", .pipelineError), ("task_running", .taskRunning)]

def mapCaptureWorkerError : Option String → ErrorCode
  | none => .pipelineError
  | some code =>
    ((captureWorkerErrorMap.lookup code).or (workerErrorMap.lookup code)).getD .pipelineError

theorem mapCaptureWorkerError_of {P : ErrorCode → Prop} (pipeline : P .pipelineError)
    (listed : ∀ entry ∈ captureWorkerErrorMap ++ workerErrorMap, P entry.2) (code : Option String) :
    P (mapCaptureWorkerError code) := by
  cases code with
  | none => exact pipeline
  | some name =>
    rw [mapCaptureWorkerError]
    cases known : (captureWorkerErrorMap.lookup name).or (workerErrorMap.lookup name) with
    | none => exact pipeline
    | some its =>
      have entry {map : List (String × ErrorCode)} (found : map.lookup name = some its) : (name, its) ∈ map := by
        obtain ⟨before, after, rfl, _⟩ := List.lookup_eq_some_iff.mp found
        simp
      rcases Option.or_eq_some_iff.mp known with first | ⟨_, second⟩
      · exact listed (name, its) (List.mem_append_left _ (entry first))
      · exact listed (name, its) (List.mem_append_right _ (entry second))

section Values

variable (python : Python)

def workerErrorCode (body : Dict) : Option String :=
  let code := ((body.get "error").asDict.getD []).get "code"
  if code.truthy then some (python.text code) else none

/-- `str(poll.get("status") or "")`. -/
def workerStatus (poll : Dict) : String := python.orEmpty (poll.get "status")

/-- The value of a JSON integer; a truth value counts as one. -/
def integer? : Json → Option Int
  | .num (.finite value 0) => some value
  | .bool value => some (if value then 1 else 0)
  | _ => none

/-- The worker says that the file is not ready, or names an implausible size. -/
def artifactRejected (artifact : Dict) : Bool :=
  (match artifact.get "ready" with | .bool ready => !ready | _ => false) ||
    (integer? (artifact.get "size_bytes")).any fun size => 0 < size && size < minCaptureArtifactBytes

def artifactReadyInPoll (poll : Dict) : Bool :=
  let status := workerStatus python poll
  match (poll.get "artifact").asDict with
  | none => status == "success"
  | some artifact =>
    if artifactRejected artifact then false
    else if isTrue (artifact.get "ready") then ["success", "finalizing", "canceled"].contains status
    else status == "success"

def hubStageForWorkerStatus (status : String) (artifactReady : Bool) : String :=
  if status = "success" then (if artifactReady then "downloading" else "finalizing")
  else if dispatchedCaptureStages.contains status then status
  else "capturing"

def captureAlreadyDispatched (task : Task) : Bool :=
  dispatchedCaptureStages.contains (python.orEmpty (task.metaDict.get "stage")) ||
    (task.metaDict.get "worker_capture_status").truthy

/-- `meta.get("meeting_url")`, trimmed. -/
def meetingUrlOf (task : Task) : String := Text.strip (python.orEmpty (task.metaDict.get "meeting_url"))

/-- `capture_stop_pending`, and `_stop_was_graceful` with it. -/
def captureStopPending (process : Process) (id : Nat) (task : Task) : Bool :=
  process.stopRequested.contains id || isTrue (task.metaDict.get "stop_requested")

/-- `_capture_worker_held_by_other`: a query for the running tasks, the loaded objects for
the ids that the process remembers. -/
def captureWorkerHeldByOther (process : Process) (stored working : Hub) (workerId exclude : Nat) : Bool :=
  stored.tasks.count (fun id task => task.type == .capture && task.workerId == some workerId &&
      id != exclude && task.status == .running) != 0 ||
    (process.active ++ process.threads).any fun id =>
      id != exclude && (working.tasks.find id).any fun other => other.workerId == some workerId

/-- `capture_worker_capacity_available`; no value when the health report overflows. -/
def captureWorkerCapacityAvailable (process : Process) (stored working : Hub) (id : Nat) (task : Task) :
    Option Bool :=
  match task.workerId with
  | none => some false
  | some workerId =>
    match working.nodes.find workerId with
    | none => some false
    | some node =>
      if !dispatchAvailable python (allowedConnectors working.settings) node then some false
      else
        match parseHealthWorkerPool python node with
        | none => none
        | some (some pool) => some (0 < pool.available)
        | some none => some !captureWorkerHeldByOther process stored working workerId id

end Values

variable (world : World)

def capacityAvailable (id : Nat) : Program Bool := do
  let task ← loaded id
  let process ← Tx.recollect
  let stored ← Tx.query
  let working ← Tx.read
  match captureWorkerCapacityAvailable world.python process stored working id task with
  | none => Tx.raise .overflow
  | some available => pure available

def loseCaptureWorkerLink (id : Nat) (reason : String) : Program Unit := do
  let task ← loaded id
  if captureAlreadyDispatched world.python task then
    failTask world id .pipelineError
      [("error_detail", .str ("capture worker link lost (" ++ reason ++ ")"))]
  else modifyTask id requeued

def forwardCaptureStop (id : Nat) : Program Unit := do
  let task ← loaded id
  let hub ← Tx.read
  match nonEmpty (task.workerTaskId.map Text.strip), task.workerId with
  | some _, some node => if (hub.nodes.find node).isSome then callWorker world id node else pure ()
  | _, _ => pure ()

/-- `recover_capture_task`; `nodes` are the ids of the worker nodes. -/
def recoverCaptureTask (id : Nat) (nodes : List Nat) : Program Unit := do
  let task ← loaded id
  if task.type != .capture || task.status != .running then pure ()
  else
    match nonEmpty (task.workerTaskId.map Text.strip), task.workerId with
    | some _, some node =>
      if !nodes.contains node then loseCaptureWorkerLink world id "worker node missing"
      else do
        match ← pollWorker world id node with
        | none => pure ()
        | some (status, poll) =>
          if status = 404 then loseCaptureWorkerLink world id "worker 404"
          else if 500 ≤ status then pure ()
          else reattach task poll
    | _, _ => loseCaptureWorkerLink world id "no worker_task_id"
where
  /-- What the worker says about the job it still knows. -/
  reattach (task : Task) (poll : Dict) : Program Unit := do
    let process ← Tx.recollect
    let python := world.python
    let reported := workerStatus python poll
    let graceful := captureStopPending process id task
    if reported = "error" then failTask world id (mapCaptureWorkerError (workerErrorCode python poll)) []
    else if reported = "canceled" && !artifactReadyInPoll python poll then
      if graceful then updateTaskMeta id "finalizing" [("worker_capture_status", .str "finalizing")]
      else failTask world id .canceled []
    else
      let status := if reported = "canceled" then "success" else reported
      if status = "" then loseCaptureWorkerLink world id "unknown worker status ''"
      else do
        let ready := status = "success" && artifactReadyInPoll python poll
        updateTaskMeta id (hubStageForWorkerStatus status ready) [("worker_capture_status", .str status)]
        let task ← loaded id
        if captureStopPending process id task && status != "success" then do
          forwardCaptureStop world id
          updateTaskMeta id "finalizing" [("worker_capture_status", .str "finalizing")]
        else pure ()

/-- The row that `_bind_capture_worker` leaves when a target is found. -/
def bound (target : CaptureTarget) (displayName : String) (task : Task) : Task :=
  let token : Dict := match nonEmpty target.jwt with
    | none => []
    | some jwt => [("jwt", .str jwt)]
  { task with
    workerId := some target.worker.1
    metaJson := some (task.metaDict.update ([
      ("meeting_host", .str target.meetingHost),
      ("meeting_room", .str target.meetingRoom),
      ("connector", .str target.connector),
      ("display_name", .str displayName)] ++ token)) }

def displayNameOf (hub : Hub) (org : Organization) (task : Task) : String :=
  match (((task.metaDict.get "display_name").text?).map Text.strip).bind fun name => nonEmpty (some name) with
  | some name => name
  | none => resolveCaptureBotDisplayName (hub.users.find task.userId) org

def resolveTask (stored working : Hub) (org : Organization) (task : Task) : Meeting CaptureTarget :=
  resolveCaptureTarget world stored task.orgId (meetingUrlOf world.python task)
    (world.python.orEmpty (task.metaDict.get "pin")) (allowedConnectors working.settings)
    (displayNameOf working org task)

def failCaptureMeetingError (id : Nat) (code : ErrorCode) : Program Unit := do
  let task ← loaded id
  match code with
  | .captureDisabled | .invalidUrl | .captureNoWorker => failTask world id code []
  | .meetingHostNotConfigured =>
    let url := world.python.orEmpty (task.metaDict.get "meeting_url")
    match hostFromUrl world.python url >>= normalizeHost world.python with
    | .error _ => Tx.raise .raised
    | .ok host => failTask world id code (if host = "" then [] else [("meeting_host", .str host)])
  | _ => failTask world id .pipelineError []

def boundWorker (id : Nat) : Program (Option Nat) := do
  let task ← loaded id
  let hub ← Tx.read
  match task.workerId with
  | none => pure none
  | some workerId =>
    if (hub.nodes.find workerId).any fun node => node.type == .capture && node.enabled then do
      if ← capacityAvailable world id then pure (some workerId) else pure none
    else pure none

def bindCaptureWorker (id : Nat) : Program (Option Nat) := do
  let task ← loaded id
  if meetingUrlOf world.python task = "" then do
    failTask world id .invalidUrl []
    pure none
  else
    match ← boundWorker world id with
    | some workerId => pure (some workerId)
    | none => do
      modifyTask id fun task =>
        if task.workerId.isSome then { task with workerId := none, workerTaskId := none } else task
      let hub ← Tx.read
      let stored ← Tx.query
      match hub.orgs.find task.orgId with
      | none => do
        failTask world id .notFound []
        pure none
      | some org =>
        match resolveTask world stored hub org task with
        | .error .exception => Tx.raise .raised
        | .error (.meeting code) => do
          failCaptureMeetingError world id code
          pure none
        | .ok target => do
          modifyTask id (bound target (displayNameOf hub org task))
          Tx.flush
          pure (some target.worker.1)

def forget (id : Nat) (ids : List Nat) : List Nat := ids.filter fun other => other != id

def maybeStartCapture (id : Nat) : Program Unit := do
  let task ← loaded id
  let process ← Tx.recollect
  if task.type != .capture || (task.status != .queued && task.status != .running) then pure ()
  else if task.audioId.isSome || process.threads.contains id then pure ()
  else do
    Tx.remember fun process => { process with active := forget id process.active }
    if ← capacityAvailable world id then do
      Tx.remember fun process => { process with active := id :: process.active }
      if task.status = .queued then do
        modifyTask id (started "queued")
        Tx.flush
      else pure ()
      commitAt world (.spawn id)
      Tx.remember fun process => { process with threads := id :: process.threads }
    else failTask world id .captureNoWorker []

end IdigestHub.Capture
