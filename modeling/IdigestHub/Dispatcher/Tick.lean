import IdigestHub.Capture.Persist

/-! The dispatcher: sending a queued task to a worker, polling a running one, the recovery
after a restart, and the tick over all active tasks. -/

set_option autoImplicit false

namespace IdigestHub.Dispatcher

open Foundation Foundation.UnitOfWork Ingest

def maxSummarizePayloadBytes : Nat := 10 * 1024 * 1024

/-- `body["meta"]["task_id"] or body["task_id"]` as text. -/
def reportedTaskId (python : Python) (body : Dict) : Option String :=
  let inner := ((body.get "meta").asDict.getD []).get "task_id"
  let value := if inner.truthy then inner else body.get "task_id"
  if value.truthy then some (python.text value) else none

def combineSkills (skills : List Skill) : String :=
  "\n\n".intercalate (skills.map fun skill => "## " ++ skill.name ++ "\n\n" ++ Text.strip skill.body)

def withoutTone : Json → Json
  | .obj fields => .obj (Dict.pop fields "tone")
  | item => item

def payloadForSummarize : Json → Json
  | .obj fields =>
    let out := Dict.pop fields "call_summary"
    match Dict.get out "transcript" with
    | .arr items => .obj (Dict.set out "transcript" (.arr (items.map withoutTone)))
    | _ => .obj out
  | payload => payload

variable (world : World)

section Health

def healthFailGraceSec : Nat := 60

/-- `_keep_last_good_health`. Times are in microseconds. -/
def keepLastGoodHealth (node : WorkerNode) : Bool :=
  match node.lastHealthAt with
  | none => false
  | some lastAt => healthy node && (world.now : Int) - lastAt < healthFailGraceSec * 1000000

/-- The node after `_probe_node_health`. -/
def probed (id : Nat) (node : WorkerNode) : WorkerNode :=
  match world.probe id with
  | .answer status body ready =>
    let report := body.set "_http" (idJson status)
    let full := if node.type = .summarize then report.set "_ready_http" (idJson ready) else report
    { node with
      lastHealth := some full
      lastSeenVersion := if status = 200 then body.get "version" else node.lastSeenVersion
      lastHealthAt := some world.now }
  | .raises =>
    if keepLastGoodHealth world node then node
    else { node with
      lastHealth := some [("_http", idJson 0), ("status", .str "unreachable")]
      lastHealthAt := some world.now }

def unwritable (id : Nat) (node : WorkerNode) : Bool :=
  match world.probe id with
  | .answer _ _ _ =>
    let left := probed world id node
    !world.probeStored left.lastSeenVersion (left.lastHealth.getD [])
  | .raises => false

def stale (force : Bool) (node : WorkerNode) : Bool :=
  force || node.lastHealthAt.all fun lastAt => 5 * 1000000 ≤ (world.now : Int) - lastAt

/-- `refresh_nodes_health` of the nodes with these ids. A row that cannot be written fails at the next flush, before anything is
committed; the model raises here. -/
def refreshNodesHealth (ids : List Nat) (force : Bool) : Program Unit := do
  let hub ← Tx.read
  let due (id : Nat) (node : WorkerNode) : Bool := ids.contains id && stale world force node
  if hub.nodes.count due = 0 then pure ()
  else do
    commitAt world (.tick 1)
    Tx.update fun hub => { hub with
      nodes := hub.nodes.mapRows fun id node => if due id node then probed world id node else node }
    if hub.nodes.count (fun id node => due id node && unwritable world id node) = 0 then pure () else Tx.raise .raised

end Health

section Dispatch

def poolOf (task : Task) (nodes : List Node) : PoolState × List Node :=
  if task.type = .transcribe then
    (transcribePoolState nodes (asrModelOf task) task.snap.diarizationModel,
      transcribeCandidates nodes (asrModelOf task) task.snap.diarizationModel)
  else
    (summarizePoolState nodes (summarizeModelOf task), summarizeCandidates nodes (summarizeModelOf task))

def noCandidateFields (task : Task) (nodes : List Node) : Dict :=
  if task.type = .transcribe then
    let asr := asrModelOf task
    let diar := task.snap.diarizationModel
    let enabled := enabledNodes nodes .transcribe
    if !enabled.isEmpty && !enabled.any fun node => workerOffersModel node.2 asr diar then
      [("stage", .str "no_matching_worker"), ("asr_model", .str asr),
        ("diarization_model", (diar.map Json.str).getD .null)]
    else [("stage", .str "queued")]
  else
    let enabled := enabledNodes nodes .summarize
    match summarizeModelOf task with
    | none => [("stage", .str "queued")]
    | some model =>
      if !enabled.isEmpty && !enabled.any fun node => workerOffersSummarizeModel node.2 model then
        [("stage", .str "no_matching_worker"), ("summarize_model", .str model)]
      else [("stage", .str "queued")]

/-- The row of a task that waits for an engine or a free queue: it no longer times out. -/
def patient (stage : String) (task : Task) : Task :=
  { task with retryWithoutTimeout := true }.mergeMeta [("stage", .str stage)]

/-- `dispatch_queued_task` up to its loop: the candidates to try, none when it returns. -/
def candidatesToTry (id : Nat) (nodes : List Node) : Program (List Node) := do
  let task ← loaded id
  let (pool, candidates) := poolOf task nodes
  if pool = .waiting then do
    modifyTask id (patient "waiting_engine")
    pure []
  else if ← maybeTimeout world id pool then pure []
  else if candidates = [] then do
    modifyTask id fun task => task.mergeMeta (noCandidateFields task nodes)
    pure []
  else pure candidates

/-- The part of an attempt before the post to a node: whether the post follows. -/
def offerTask (id node : Nat) : Program Bool := do
  let task ← loaded id
  let hub ← Tx.read
  if task.type = .transcribe then
    if (task.audioId.bind hub.audios.find).isNone then do
      fail world id .sourceDeleted none
      pure false
    else do
      commitAt world (.release id node)
      guardSite world (.prepare id node)
      pure true
  else
    match task.transcriptId.bind hub.transcripts.find with
    | none => do
      fail world id .sourceDeleted none
      pure false
    | some transcript => do
      guardSite world (.decrypt id)
      match task.skillIds.mapM hub.skills.find with
      | none => do
        fail world id .notFound none
        pure false
      | some skills =>
        match world.python.jsonBytes (payloadForSummarize transcript.payload) with
        | none => Tx.raise .raised
        | some bytes =>
          if maxSummarizePayloadBytes < bytes + (combineSkills skills).utf8ByteSize then do
            fail world id .textTooLong none
            pure false
          else do
            callWorker world id node
            pure true

/-- How an attempt ends: the task is settled or running, or the next node is tried. -/
inductive Verdict where
  | settled
  | next (payloadTooLarge : Bool)
  deriving DecidableEq

/-- The row that an accepted post leaves. -/
def dispatched (node : Nat) (workerTaskId : Option String) (task : Task) : Task :=
  { task with
    workerId := some node
    workerTaskId := workerTaskId
    status := .running }.mergeMeta [("stage", .str "dispatched")]

/-- `worker_status == "success"` and `worker_status == "error"`. -/
def reportsSuccess (body : Dict) : Bool := (body.get "status").isText "success"

def reportsError (body : Dict) : Bool := (body.get "status").isText "error"

def answerTask (dispatchFollowUp : Nat → Program Unit) (id node : Nat) : PostReply → Program Verdict
  | .raises => Tx.raise .raised
  | .refused .queueFull _ => do
    modifyTask id (patient "queue_full")
    pure (.next false)
  | .refused .payloadTooLarge _ => pure (.next true)
  | .refused .timeout _ | .refused .http _ => pure (.next false)
  | .refused .errorStatus body =>
    match mapWorkerError (((body.get "error").asDict.getD []).get "code") with
    | none => Tx.raise .typeError
    | some .engineUnavailable => do
      modifyTask id fun task => { task with retryWithoutTimeout := true }
      pure (.next false)
    | some code => do
      fail world id code (workerErrorDetail body)
      pure .settled
  | .accepted body => do
    modifyTask id (dispatched node (reportedTaskId world.python body))
    if reportsSuccess body then onSuccess world dispatchFollowUp id body
    else if reportsError body then onWorkerTerminalError world id body
    else pure ()
    pure .settled

/-- The loop over the candidates. A round drops the node that it tried, so as many rounds
as there are candidates are enough. -/
def tryNodes (dispatchFollowUp : Nat → Program Unit) (id total : Nat) :
    Nat → List Node → Nat → Program Unit
  | 0, _, tooLarge => giveUp tooLarge
  | rounds + 1, remaining, tooLarge => do
    let stored ← Tx.query
    match pickNode stored remaining with
    | none => giveUp tooLarge
    | some node =>
      if ← offerTask world id node.1 then do
        match ← answerTask world dispatchFollowUp id node.1 (world.post id node.1) with
        | .settled => pure ()
        | .next large =>
          tryNodes dispatchFollowUp id total rounds
            (remaining.filter fun other => other.1 != node.1) (if large then tooLarge + 1 else tooLarge)
      else pure ()
where
  giveUp (tooLarge : Nat) : Program Unit :=
    if tooLarge != 0 && total ≤ tooLarge then fail world id .payloadTooLarge none else pure ()

def dispatchQueuedTask (dispatchFollowUp : Nat → Program Unit) (id : Nat) (nodes : List Node) :
    Program Unit := do
  let candidates ← candidatesToTry world id nodes
  if candidates = [] then pure ()
  else tryNodes world dispatchFollowUp id candidates.length candidates.length candidates 0

/-- `_dispatch_follow_up_task`. A chained task is a summarize task and chains nothing itself. -/
def dispatchFollowUpTask (id : Nat) : Program Unit := do
  let hub ← Tx.read
  match hub.tasks.find id with
  | none => pure ()
  | some task =>
    if task.status = .queued then dispatchQueuedTask world (fun _ => pure ()) id hub.nodeList
    else pure ()

end Dispatch

section Poll

def unassigned (task : Task) : Task :=
  { task with workerId := none, workerTaskId := none, status := .queued }

/-- The worker link goes, the status stays. -/
def unlinked (task : Task) : Task := { task with workerId := none, workerTaskId := none }

def hasProduced (task : Task) : Bool := task.producedTranscriptId.isSome || task.producedSummaryId.isSome

def stillActive (status : Json) (task : Task) : Task :=
  { task with status := .running }.mergeMeta [("stage", status)]

def linkedNode (task : Task) (nodes : List Node) : Option Nat :=
  if task.linked then task.workerId.filter fun workerId => nodes.any fun node => node.1 == workerId
  else none

/-- What a report of the worker does, in the poll as in the recovery; they differ in what
an unknown status does. -/
def applyReport (otherwise : Program Unit) (id : Nat) (body : Dict) : Program Unit :=
  if reportsSuccess body then onSuccess world (dispatchFollowUpTask world) id body
  else if reportsError body then onWorkerTerminalError world id body
  else
    match (body.get "status").inTexts ["queued", "running"] with
    | none => Tx.raise .typeError
    | some false => otherwise
    | some true => modifyTask id (stillActive (body.get "status"))

def pollRunningTask (id : Nat) (nodes : List Node) : Program Unit := do
  let task ← loaded id
  match linkedNode task nodes with
  | none => modifyTask id unassigned
  | some node => do
    match ← pollWorker world id node with
    | none => pure ()
    | some (code, body) =>
      if code = 404 then
        if task.status = .success || hasProduced task then modifyTask id unlinked
        else modifyTask id unassigned
      else if 500 ≤ code then pure ()
      else applyReport world (pure ()) id body

def recoverWorkerTask (id : Nat) (nodes : List Node) : Program Unit := do
  let task ← loaded id
  if !task.onWorker then pure ()
  else if !task.linked then modifyTask id fun task => { task with workerId := none, status := .queued }
  else
    match linkedNode task nodes with
    | none => modifyTask id unassigned
    | some node => do
      match ← pollWorker world id node with
      | none => modifyTask id unassigned
      | some (code, body) =>
        if code = 404 then
          if hasProduced task then modifyTask id unlinked else modifyTask id unassigned
        else if 500 ≤ code then modifyTask id unassigned
        else applyReport world (modifyTask id unassigned) id body

end Poll

def maybeStartImport (id : Nat) : Program Unit := do
  let task ← loaded id
  let process ← Tx.recollect
  if task.type != .importUrl || task.status != .queued then pure ()
  else if process.importActive.contains id || process.importThreads.contains id then pure ()
  else if world.importMaxConcurrent ≤ process.importActive.length then
    modifyTask id fun task => { task with metaJson := some (task.metaDict.set "stage" (.str "queued")) }
  else do
    Tx.remember fun process => { process with importActive := id :: process.importActive }
    modifyTask id (started "probing")
    Tx.flush
    commitAt world (.spawn id)
    Tx.remember fun process => { process with importThreads := id :: process.importThreads }

def pollTurn (nodes : List Node) (id : Nat) : Program Unit := do
  let task ← loaded id
  if task.status = .running && task.linked then pollRunningTask world id nodes else pure ()

def dispatchTurn (nodes : List Node) (id : Nat) : Program Unit := do
  let task ← loaded id
  if task.status = .queued then dispatchQueuedTask world (dispatchFollowUpTask world) id nodes else pure ()

/-- One turn of the loop of `tick_once`. -/
def tickTask (nodes : List Node) (id : Nat) : Program Unit := do
  let task ← loaded id
  match task.type with
  | .importUrl => if task.status = .queued then maybeStartImport world id else pure ()
  | .capture => do
    Capture.tryFinishCaptureTask world id
    Capture.maybeStartCapture world id
  | _ => do
    pollTurn world nodes id
    dispatchTurn world nodes id
    commitAt world (.turn id)

def inTick (taskId : Option Nat) (id : Nat) (task : Task) : Bool :=
  task.active && taskId.all fun wanted => wanted == id

/-- The nodes that a tick probes: those of the task asked for, if it has one. -/
def healthNodes (hub : Hub) (taskId : Option Nat) : List Nat :=
  let all := hub.nodeList.map Prod.fst
  match (taskId.bind hub.tasks.find).bind Task.workerId with
  | none => all
  | some workerId => all.filter fun id => id == workerId

def tickOnce (taskId : Option Nat) (refreshHealth : Bool) : Program Unit := do
  commitAt world (.tick 0)
  let hub ← Tx.read
  if refreshHealth then refreshNodesHealth world (healthNodes hub taskId) false else pure ()
  commitAt world (.tick 2)
  let stored ← Tx.query
  Tx.forEach (stored.tasks.select (inTick taskId)) (tickTask world stored.nodeList)

/-- A tick in its own session. -/
def tickJob (taskId : Option Nat) (refreshHealth : Bool) : Program Unit := do
  tickOnce world taskId refreshHealth
  commitAt world (.tick 3)

/-- One turn of the loop of `recover_orphaned_tasks`. -/
def recoverTask (nodes : List Node) (id : Nat) : Program Unit := do
  let task ← loaded id
  match task.type with
  | .importUrl => modifyTask id requeued
  | .capture => Capture.recoverCaptureTask world id (nodes.map Prod.fst)
  | _ => recoverWorkerTask world id nodes

def recoverOrphanedTasks : Program Unit := do
  let hub ← Tx.read
  refreshNodesHealth world (hub.nodeList.map Prod.fst) true
  let stored ← Tx.query
  let nodes := (← Tx.read).nodeList
  Tx.forEach (stored.tasks.select fun _ task => task.status == .running) (recoverTask world nodes)
  commitAt world (.tick 4)

end IdigestHub.Dispatcher
