import IdigestHub.Capture.Nodes

/-! Deleting a worker node, with or without a remediation of the tasks that used it. -/

set_option autoImplicit false

namespace IdigestHub.Tasks

open Foundation Dispatcher Capture

def sentBack (task : Task) : Task :=
  { task with
    workerId := none
    workerTaskId := none
    status := .queued
    metaJson := some [("stage", .str "queued")] }

/-- What `prepare_worker_node_delete` does to a task of the node. -/
def detached (task : Task) : Task :=
  if task.type = .capture && task.active then
    { sentBack task with retryWithoutTimeout := false }
  else
    { task with
      workerId := none
      workerTaskId := if task.status = .running then none else task.workerTaskId }

def prepareWorkerNodeDelete (workerId : Nat) (hub : Hub) : Hub :=
  { hub with tasks := hub.tasks.mapRows fun _ task =>
      if task.workerId = some workerId then detached task else task }

structure WorkerRemediation where
  asrModel : Option String
  diarizationModel : Option String
  summarizeModel : Option String
  captureWorkerId : Option Nat

/-- What `apply_capture_remediation` does to an active capture of the node. -/
def captureRemediated (replacement : Nat) (task : Task) : Task :=
  let moved := if task.status = .running then sentBack task
    else { task with workerId := some replacement, workerTaskId := none }
  { moved with retryWithoutTimeout := false }

/-- `apply_capture_remediation`; no value for `invalid_replacement`. -/
def applyCaptureRemediation (python : Python) (after : List Node) (focus replacement : Nat) (hub : Hub) :
    Option Hub :=
  let valid := after.any fun node => node.1 == replacement && node.2.type == .capture && node.2.enabled &&
    workerOffersConnector python node.2 "jitsi"
  if valid then
    some { hub with tasks := hub.tasks.mapRows fun _ task =>
      if task.type = .capture && task.workerId = some focus &&
          task.active then
        captureRemediated replacement task
      else task }
  else none

def modelRemediated (snap : Snapshot) (task : Task) : Task :=
  let moved := { task with snap }
  { if task.status = .running then sentBack moved else moved with retryWithoutTimeout := false }

def applySummarizeRemediation (after : List Node) (focus : Nat) (model : String) (hub : Hub) : Option Hub :=
  let replacement := Text.strip model
  if (summarizeModels after).contains replacement && replacement != "" then
    some { hub with tasks := hub.tasks.mapRows fun _ task =>
      let onWorker := task.workerId == some focus
      let kept := match summarizeModelOf task with
        | some model => (summarizeModels after).contains model && !(onWorker && task.status == .running)
        | none => !onWorker
      if task.type = .summarize && task.active && !kept then
        modelRemediated { task.snap with summarizeModel := some replacement } task
      else task }
  else none

def applyTranscribeRemediation (before after : List Node) (focus : Nat) (asr : String)
    (diar : Option String) (hub : Hub) : Option Hub :=
  let replacement := (Text.strip asr, (nonEmpty diar).map Text.strip)
  if (dispatchablePairs after).contains replacement && asr != "" then
    some { hub with tasks := hub.tasks.mapRows fun _ task =>
      let combo := (asrModelOf task, task.snap.diarizationModel)
      let onWorker := task.workerId == some focus
      let kept := ((dispatchablePairs after).contains combo && !(onWorker && task.status == .running)) ||
        (!(dispatchablePairs before).contains combo && !onWorker)
      if task.type = .transcribe && task.active && !kept then
        modelRemediated { task.snap with
          asrModel := some replacement.1
          diarizationModel := replacement.2 } task
      else task }
  else none

def applyWorkerRemediation (python : Python) (type : WorkerType) (before after : List Node) (focus : Nat)
    (remediation : WorkerRemediation) (hub : Hub) : Option Hub :=
  match type with
  | .transcribe => applyTranscribeRemediation before after focus (remediation.asrModel.getD "")
      remediation.diarizationModel hub
  | .summarize => (nonEmpty remediation.summarizeModel).bind fun model =>
      applySummarizeRemediation after focus model hub
  | .capture => remediation.captureWorkerId.bind fun replacement =>
      applyCaptureRemediation python after focus replacement hub

def remediate (python : Python) (workerId : Nat) (node : WorkerNode) (remediation : Option WorkerRemediation)
    (hub : Hub) : Option Hub :=
  match remediation with
  | none => some hub
  | some remediation =>
    applyWorkerRemediation python node.type hub.nodeList
      (hub.nodeList.filter fun row => row.1 != workerId) workerId remediation hub

/-- `delete_worker`; a request that is refused changes nothing. -/
def deleteWorker (python : Python) (workerId : Nat) (remediation : Option WorkerRemediation) (hub : Hub) : Hub :=
  match hub.nodes.find workerId with
  | none => hub
  | some node =>
    match remediate python workerId node remediation hub with
    | none => hub
    | some remediated =>
      let cleaned := prepareWorkerNodeDelete workerId remediated
      { cleaned with nodes := cleaned.nodes.delete workerId }

end IdigestHub.Tasks
