import IdigestHub.Foundation.UnitOfWork
import IdigestHub.Hub.Database
import IdigestHub.Hub.Records

/-! What a program of the hub runs in: a session over the rows, the memory of the
process, and the answers of everything outside. -/

set_option autoImplicit false

namespace IdigestHub

open Foundation Foundation.UnitOfWork

inductive Fault where
  | raised | invalidOperation | typeError | overflow
  deriving DecidableEq

/-- Statements that can raise besides the ones whose failure is computed: hooks, cipher,
storage, constraint checks, the commit itself. -/
inductive Site where
  | terminalHook (task : Nat)
  | store (task : Nat)
  | chain (task : Nat)
  | commit (task : Nat)
  | cleanup (task : Nat)
  | decrypt (task : Nat)
  | prepare (task node : Nat)
  | release (task node : Nat)
  | artifact (task : Nat)
  | spawn (task : Nat)
  | runner (task step : Nat)
  | turn (task : Nat)
  | tick (n : Nat)
  deriving DecidableEq

inductive WorkerErrorKind where
  | http | timeout | queueFull | payloadTooLarge | errorStatus
  deriving DecidableEq

/-- `get_task`: an HTTP answer, a `WorkerClientError`, or another exception. -/
inductive Reply where
  | answer (status : Nat) (body : Dict)
  | unreachable
  | raises

/-- `post_transcribe` and `post_summarize`. -/
inductive PostReply where
  | accepted (body : Dict)
  | refused (kind : WorkerErrorKind) (body : Dict)
  | raises

/-- A health probe: the status and body of `/health` and the status of `/ready`. -/
inductive Probe where
  | answer (status : Nat) (body : Dict) (ready : Nat)
  | raises

/-- What downloading, checking and storing a recorded file comes to. -/
inductive Artifact where
  | notDownloaded | invalid
  | tooLarge | unreadable | missing
  | stored (filename : String)

/-- A downloaded audio file and where it came from. -/
structure ImportResult where
  originalFilename : String
  title : Option String
  durationSec : Option Decimal
  extractorKey : String
  host : String
  platformLabel : String

/-- `download_audio`: a file, a `UrlImportError` with its code and fields, or another
exception with its text. -/
inductive Download where
  | fetched (result : ImportResult)
  | failed (code : ErrorCode) (fields : Dict)
  | raises (detail : String)

/-- Everything outside the database that one tick meets. A tick polls a task at most
once and posts a task to a node at most once, so answers are looked up by id.
`finalizingStuck` compares a stored time with the clock; a text that is no time is not stuck.
`probeStored` is whether the columns of a node take a version and a report. -/
structure World where
  python : Python
  database : Database
  now : Nat
  dispatchNoCandidateSec : Int
  importMaxConcurrent : Nat
  probe : (node : Nat) → Probe
  probeStored : (version : Json) → (report : Dict) → Bool
  getTask : (task : Nat) → Reply
  post : (task node : Nat) → PostReply
  artifact : (task : Nat) → Artifact
  downloadProxyReady : Bool
  download : (task : Nat) → Download
  isoNow : String
  finalizingStuck : (since : String) → Bool
  jitsiToken : (secretEncrypted appId room displayName : String) → Option String
  raises : Site → Bool

abbrev Program (A : Type) : Type := Tx Hub Process Fault A

variable (world : World)

def guardSite (site : Site) : Program Unit := if world.raises site then Tx.raise .raised else pure ()

/-- `_commit`. -/
def commitAt (site : Site) : Program Unit := if world.raises site then Tx.raise .raised else Tx.commit

def loaded (id : Nat) : Program Task := do
  let hub ← Tx.read
  match hub.tasks.find id with
  | some task => pure task
  | none => Tx.raise .raised

def modifyTask (id : Nat) (f : Task → Task) : Program Unit := Tx.update fun hub => hub.modifyTask id f

/-- The headers of a worker call, then `release_connection`. -/
def callWorker (task node : Nat) : Program Unit := do
  guardSite world (.prepare task node)
  commitAt world (.release task node)

/-- `get_task` or `get_capture_task`; no value for a `WorkerClientError`. -/
def pollWorker (task node : Nat) : Program (Option (Nat × Dict)) := do
  callWorker world task node
  match world.getTask task with
  | .answer status body => pure (some (status, body))
  | .unreachable => pure none
  | .raises => Tx.raise .raised

/-- `db.refresh`: the loaded object takes the stored values. -/
def refreshTask (id : Nat) : Program Unit := do
  let stored ← Tx.query
  match stored.tasks.find id with
  | some task => modifyTask id fun _ => task
  | none => Tx.raise .raised

end IdigestHub
