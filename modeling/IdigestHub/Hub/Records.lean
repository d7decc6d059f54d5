import IdigestHub.Foundation.Json
import IdigestHub.Foundation.Table

/-! The rows that tasks, workers and billing live in. Row ids are numbers; a new id
is the next number that no row has used. -/

set_option autoImplicit false

namespace IdigestHub

open Foundation

inductive TaskType where
  | transcribe | summarize | importUrl | capture
  deriving DecidableEq

inductive TaskStatus where
  | queued | running | success | error
  deriving DecidableEq

/-- Values of `error_code` and of `skip_reason`. -/
inductive ErrorCode where
  | pipelineError | payloadTooLarge | queueFull | invalidFile | notFound | taskRunning
  | engineUnavailable | textTooLong | sourceDeleted | dispatchTimeout | canceled
  | accountWiped | accountDeleted | orgDeleted | invalidUrl | unsupportedHost | downloadFailed
  | videoUnavailable | importDisabled | proxyUnavailable | captureDisabled | captureNoWorker | unsupportedConnector
  | meetingHostNotConfigured
  deriving DecidableEq

/-- Tariff values copied onto a task when it is created. -/
structure Snapshot where
  unlimited : Bool
  pricePerAudioSec : Fixed
  pricePer1kSummaryChars : Fixed
  maxUploadBytes : Nat
  asrModel : Option String
  diarizationModel : Option String
  summarizeModel : Option String
  toneAnalytics : Bool

structure Task where
  type : TaskType
  status : TaskStatus
  orgId : Nat
  userId : Nat
  audioId : Option Nat
  transcriptId : Option Nat
  skillIds : List Nat
  workerId : Option Nat
  workerTaskId : Option String
  producedTranscriptId : Option Nat
  producedSummaryId : Option Nat
  errorCode : Option ErrorCode
  snap : Snapshot
  queuedAt : Nat
  retryWithoutTimeout : Bool
  skipPersist : Bool
  skipReason : Option ErrorCode
  billed : Bool
  metaJson : Option Dict

structure UsageEvent where
  orgId : Nat
  userId : Nat
  taskId : Nat
  kind : TaskType
  audioSec : Option Decimal
  summaryChars : Option Nat
  amount : Int
  unlimitedSkip : Bool
  deriving DecidableEq

structure Organization where
  balance : Fixed
  tariffUnlimited : Bool
  captureBotDisplayName : Option String

structure User where
  captureBotDisplayName : Option String

structure InstanceSettings where
  importEnabled : Bool
  captureEnabled : Bool
  captureAllowedConnectors : Option (List String)

structure OrgCaptureJitsiHost where
  orgId : Nat
  host : String
  jwtSecretEncrypted : Option String
  jwtAppId : Option String

inductive WorkerType where
  | transcribe | summarize | capture
  deriving DecidableEq

structure WorkerNode where
  type : WorkerType
  weight : Int
  enabled : Bool
  lastHealth : Option Dict
  lastHealthAt : Option Nat
  lastSeenVersion : Json
  asrModels : Option (List String)
  diarizationModels : Option (List String)
  captureConnectors : Option (List String)

structure Audio where
  orgId : Nat
  ownerUserId : Nat
  originalFilename : String
  durationSec : Option Decimal

structure Transcript where
  orgId : Nat
  ownerUserId : Nat
  sourceAudioId : Option Nat
  payload : Json
  hasToneAnalytics : Bool

structure Summary where
  orgId : Nat
  ownerUserId : Nat
  sourceTranscriptId : Option Nat
  skillIds : List Nat
  body : String

structure Skill where
  name : String
  body : String

structure Hub where
  tasks : Table Nat Task
  nodes : Table Nat WorkerNode
  orgs : Table Nat Organization
  audios : Table Nat Audio
  transcripts : Table Nat Transcript
  summaries : Table Nat Summary
  skills : Table Nat Skill
  users : Table Nat User
  jitsiHosts : Table Nat OrgCaptureJitsiHost
  settings : InstanceSettings
  usage : List UsageEvent
  nextId : Nat

/-- Memory of the hub process, shared by the dispatcher and the background threads: for
captures the ids in `_active`, with a live thread, in `_stop_requested` and in
`_cancelled`; for imports the ids in `_active`, with a thread, and in `_cancelled`. -/
structure Process where
  active : List Nat
  threads : List Nat
  stopRequested : List Nat
  cancelled : List Nat
  importActive : List Nat
  importThreads : List Nat
  importCancelled : List Nat

/-- A hub process that has just been started. -/
def Process.fresh : Process := ⟨[], [], [], [], [], [], []⟩

/-- `value or None` for text: an empty string counts as missing. -/
def nonEmpty : Option String → Option String
  | some "" => none
  | value => value

namespace Task

/-- `dict(task.meta_json or {})`. -/
def metaDict (task : Task) : Dict := task.metaJson.getD []

def withMeta (task : Task) (metaJson : Option Dict) : Task := { task with metaJson }

def withBilled (task : Task) (billed : Bool) : Task := { task with billed }

@[simp] theorem withMeta_self (task : Task) : task.withMeta task.metaJson = task := rfl

@[simp] theorem withBilled_self (task : Task) : task.withBilled task.billed = task := rfl

/-- `_merge_task_meta`. -/
def mergeMeta (task : Task) (fields : Dict) : Task :=
  { task with metaJson := some (task.metaDict.update fields) }

/-- `bool(task.worker_task_id)`. -/
def linked (task : Task) : Bool := (nonEmpty task.workerTaskId).isSome

def stage (task : Task) : Json := task.metaDict.get "stage"

def isDone (task : Task) : Bool := task.stage.isText "done"

def active (task : Task) : Bool := task.status == .queued || task.status == .running

def onWorker (task : Task) : Bool := task.type == .transcribe || task.type == .summarize

end Task

/-- An id as it is stored inside a JSON column. -/
def idJson (id : Nat) : Json := .num (.finite id 0)

def jsonId : Json → Option Nat
  | .num (.finite (.ofNat id) 0) => some id
  | _ => none

namespace Hub

def modifyTask (hub : Hub) (id : Nat) (f : Task → Task) : Hub :=
  { hub with tasks := hub.tasks.modify id f }

def nodeList (hub : Hub) : List (Nat × WorkerNode) := hub.nodes.entries.map fun row => (row.1, row.2)

def addTask (hub : Hub) (task : Task) : Hub :=
  { hub with tasks := hub.tasks.put hub.nextId task, nextId := hub.nextId + 1 }

def addAudio (hub : Hub) (audio : Audio) : Hub :=
  { hub with audios := hub.audios.put hub.nextId audio, nextId := hub.nextId + 1 }

def addTranscript (hub : Hub) (transcript : Transcript) : Hub :=
  { hub with transcripts := hub.transcripts.put hub.nextId transcript, nextId := hub.nextId + 1 }

def addSummary (hub : Hub) (summary : Summary) : Hub :=
  { hub with summaries := hub.summaries.put hub.nextId summary, nextId := hub.nextId + 1 }

end Hub

end IdigestHub
