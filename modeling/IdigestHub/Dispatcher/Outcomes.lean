import IdigestHub.Billing.Charge
import IdigestHub.Dispatcher.Pool
import IdigestHub.Hub.World

/-! What the hub writes when a worker's answer settles a task: failure, the stored
result, the charge, the chained task. -/

set_option autoImplicit false

namespace IdigestHub.Dispatcher

open Foundation Foundation.UnitOfWork

variable (world : World)

def workerErrorMap : List (String × ErrorCode) := [
  ("unauthorized", .pipelineError), ("payload_too_large", .payloadTooLarge),
  ("queue_full", .queueFull), ("invalid_file", .invalidFile), ("not_found", .notFound),
  ("task_running", .taskRunning), ("missing_upload", .pipelineError),
  ("ffmpeg_timeout", .pipelineError), ("task_timeout", .pipelineError),
  ("zero_duration", .pipelineError), ("pipeline_error", .pipelineError),
  ("engine_unavailable", .engineUnavailable), ("interrupted", .pipelineError),
  ("process_killed", .pipelineError), ("missing_payload", .pipelineError),
  ("llm_unconfigured", .pipelineError), ("llm_unavailable", .pipelineError),
  ("llm_timeout", .pipelineError), ("llm_bad_response", .pipelineError),
  ("text_too_long", .textTooLong)]

/-- A truthy code that is no dictionary key raises. -/
def mapWorkerError (code : Json) : Option ErrorCode :=
  if !code.truthy then some .pipelineError
  else if !code.hashable then none
  else
    match code with
    | .str name => some ((workerErrorMap.lookup name).getD .pipelineError)
    | _ => some .pipelineError

def errorDetailMaxLen : Nat := 500

def workerErrorDetail (body : Dict) : Option String := do
  let error ← (body.get "error").asDict
  let message ← (error.get "message").text?
  let text := Text.squeeze message
  if text = "" then none
  else if text.length ≤ errorDetailMaxLen then some text
  else some (.ofList (text.toList.take (errorDetailMaxLen - 3)) ++ "...")

/-- The row that `_fail` leaves. -/
def failedTask (code : ErrorCode) (errorDetail : Option String) (task : Task) : Task :=
  let detail : Dict := match nonEmpty errorDetail with
    | none => []
    | some text => [("error_detail", .str text)]
  { task with
    status := .error
    errorCode := some code
    workerId := none
    workerTaskId := none }.mergeMeta (("stage", .str "error") :: detail)

def fail (id : Nat) (code : ErrorCode) (errorDetail : Option String) : Program Unit := do
  modifyTask id (failedTask code errorDetail)
  guardSite world (.terminalHook id)

/-- `_maybe_timeout`. Times are in microseconds. -/
def maybeTimeout (id : Nat) (pool : PoolState) : Program Bool := do
  let task ← loaded id
  if task.retryWithoutTimeout || pool != .empty || world.dispatchNoCandidateSec ≤ 0 then pure false
  else
    let elapsed : Int := (world.now : Int) - task.queuedAt
    if world.dispatchNoCandidateSec * 1000000 ≤ elapsed then do
      fail world id .dispatchTimeout none
      pure true
    else pure false

def finishWorkerCleanup (id : Nat) (workerTaskId : Option String) : Program Unit :=
  if (nonEmpty workerTaskId).isSome then guardSite world (.cleanup id) else pure ()

def buildWorkerPayload (body : Dict) (utterances : List Json) : Dict :=
  let status := body.get "status"
  let payload : Dict := [
    ("status", if status.truthy then status else .str "success"),
    ("meta", .obj ((body.get "meta").asDict.getD [])),
    ("transcript", .arr utterances),
    ("error", body.get "error")]
  match body.find "call_summary" with
  | none => payload
  | some summary => payload ++ [("call_summary", summary)]

def storedHasTone (payload : Json) : Bool :=
  let fields := payload.asDict.getD []
  let summary := !((fields.get "call_summary").asDict.getD []).isEmpty
  let transcript := match fields.get "transcript" with | .arr items => items | _ => []
  summary || transcript.any fun item => ((item.asDict.getD []).get "tone").truthy

/-- The rest of a persist step: the row points at what was produced and succeeds. -/
def succeededTask (task : Task) : Task := { task with status := .success, errorCode := none }

def persistTranscript (id : Nat) (payload : Json) : Program Unit := do
  let task ← loaded id
  if task.skipPersist then fail world id (task.skipReason.getD .sourceDeleted) none
  else do
    guardSite world (.store id)
    let rowId := (← Tx.read).nextId
    Tx.update fun hub => hub.addTranscript {
      orgId := task.orgId
      ownerUserId := task.userId
      sourceAudioId := task.audioId
      payload
      hasToneAnalytics := storedHasTone payload }
    Tx.flush
    modifyTask id fun task => succeededTask { task with producedTranscriptId := some rowId }
    guardSite world (.terminalHook id)

def persistSummary (id : Nat) (body : String) : Program Unit := do
  let task ← loaded id
  if task.skipPersist then fail world id (task.skipReason.getD .sourceDeleted) none
  else do
    guardSite world (.store id)
    let rowId := (← Tx.read).nextId
    Tx.update fun hub => hub.addSummary {
      orgId := task.orgId
      ownerUserId := task.userId
      sourceTranscriptId := task.transcriptId
      skillIds := task.skillIds
      body }
    Tx.flush
    modifyTask id fun task => succeededTask { task with producedSummaryId := some rowId }
    guardSite world (.terminalHook id)

/-- `_charge`. A value that its column refuses fails at the next flush, before anything is committed; the model raises here. -/
def charge (id : Nat) (audioSec : Option Decimal) (amount : Int) (summaryChars : Option Nat) : Program Unit := do
  let task ← loaded id
  let hub ← Tx.read
  match hub.orgs.find task.orgId with
  | none => pure ()
  | some org =>
    match Billing.applySuccessCharge id audioSec amount summaryChars task org with
    | none => Tx.raise .invalidOperation
    | some charged =>
      match charged.stored world.database org with
      | none => Tx.raise .raised
      | some charged => Tx.update fun hub => { hub with
          tasks := hub.tasks.modify id fun _ => charged.task
          orgs := hub.orgs.modify task.orgId fun _ => charged.org
          usage := hub.usage ++ charged.event.toList }

def telegramNotifyMeta (source : Dict) : Dict :=
  let chatId := source.get "telegram_chat_id"
  if (source.get "notify_telegram").truthy && chatId.truthy then
    [("notify_telegram", .bool true), ("telegram_chat_id", .str (world.python.text chatId))]
  else []

/-- `value or None` for a dictionary. -/
def dictOrNone : Dict → Option Dict
  | [] => none
  | fields => some fields

def chainedTask (now : Nat) (notifyMeta : Dict) (parent : Task) : Task where
  type := .summarize
  status := .queued
  orgId := parent.orgId
  userId := parent.userId
  audioId := none
  transcriptId := parent.producedTranscriptId
  skillIds := parent.skillIds
  workerId := none
  workerTaskId := none
  producedTranscriptId := none
  producedSummaryId := none
  errorCode := none
  snap := { parent.snap with
    asrModel := none
    diarizationModel := none
    summarizeModel := none
    toneAnalytics := false }
  queuedAt := now
  retryWithoutTimeout := false
  skipPersist := false
  skipReason := none
  billed := false
  metaJson := dictOrNone notifyMeta

def enqueueSummarizeAfterTranscribe (id : Nat) : Program (Option Nat) := do
  let task ← loaded id
  if task.skillIds = [] || task.producedTranscriptId.isNone then pure none
  else do
    guardSite world (.chain id)
    let hub ← Tx.read
    let followUp := hub.nextId
    Tx.update fun hub => hub.addTask (chainedTask world.now (telegramNotifyMeta world task.metaDict) task)
    Tx.flush
    modifyTask id fun task => task.mergeMeta [("follow_up_task_id", idJson followUp)]
    pure (some followUp)

/-- The transcribe task chained to an import or a capture. -/
def ingestFollowUp (now : Nat) (notifyMeta : Dict) (parent : Task) : Task where
  type := .transcribe
  status := .queued
  orgId := parent.orgId
  userId := parent.userId
  audioId := parent.audioId
  transcriptId := none
  skillIds := parent.skillIds
  workerId := none
  workerTaskId := none
  producedTranscriptId := none
  producedSummaryId := none
  errorCode := none
  snap := { parent.snap with summarizeModel := none }
  queuedAt := now
  retryWithoutTimeout := false
  skipPersist := false
  skipReason := none
  billed := false
  metaJson := dictOrNone notifyMeta

def isTrue : Json → Bool
  | .bool value => value
  | _ => false

/-- `not tariff.unlimited and org.balance <= 0`. -/
def outOfBalance (org : Organization) : Option Bool :=
  if org.tariffUnlimited then some false else (Decimal.ofFixed Billing.moneyPlaces org.balance).nonpos

def enqueueTranscribeAfterIngest (id : Nat) : Program Unit := do
  let task ← loaded id
  let hub ← Tx.read
  let fields := task.metaDict
  let existing := (jsonId (fields.get "follow_up_task_id")).bind hub.tasks.find
  if task.onWorker || task.status != .success || task.audioId.isNone then pure ()
  else if !isTrue (fields.get "pipeline_transcribe") || existing.isSome then pure ()
  else
    match hub.orgs.find task.orgId with
    | none => pure ()
    | some org =>
      match outOfBalance org with
      | none => Tx.raise .invalidOperation
      | some true => pure ()
      | some false => do
        guardSite world (.chain id)
        Tx.update fun hub => hub.addTask (ingestFollowUp world.now (telegramNotifyMeta world fields) task)
        Tx.flush
        modifyTask id fun task => task.mergeMeta [("follow_up_task_id", idJson hub.nextId)]

/-- The row after the success of its worker task: stage `done`, the worker let go. -/
def doneTask (fields : Dict) (task : Task) : Task :=
  { task.mergeMeta (("stage", .str "done") :: fields) with workerTaskId := none, workerId := none }

/-- The keys of the worker's report that are copied when they are not null. -/
def reportedFields (workerMeta : Dict) : Dict :=
  ["audio_duration_sec", "asr_model"].filterMap fun key =>
    match workerMeta.get key with
    | .null => none
    | value => some (key, value)

/-- `worker_meta.get("audio_duration_sec")` as seconds, zero when it is missing. -/
def reportedSeconds (body : Dict) : Option Decimal :=
  match ((body.get "meta").asDict.getD []).get "audio_duration_sec" with
  | .null => some (.finite 0 (-1))
  | duration => world.python.float duration

/-- `bool(value)` of a float. -/
def nonZero : Decimal → Bool
  | .finite coefficient _ => coefficient != 0
  | _ => true

def fillDuration (task : Task) (audioSec : Decimal) : Program Unit :=
  if nonZero audioSec then
    match task.audioId with
    | none => pure ()
    | some audioId => Tx.update fun hub => { hub with
        audios := hub.audios.modify audioId fun audio =>
          if audio.durationSec.isNone then { audio with durationSec := some audioSec } else audio }
  else pure ()

/-- `_on_transcribe_success`; `dispatchFollowUp` is `_dispatch_follow_up_task`. -/
def onTranscribeSuccess (dispatchFollowUp : Nat → Program Unit) (id : Nat) (body : Dict) : Program Unit := do
  let task ← loaded id
  let utterances := match body.get "transcript" with | .arr items => items | _ => []
  let workerMeta := (body.get "meta").asDict.getD []
  match reportedSeconds world body with
  | none => Tx.raise .typeError
  | some audioSec => do
    fillDuration task audioSec
    match Billing.transcribeAmount task audioSec with
    | none => Tx.raise .invalidOperation
    | some amount => do
      persistTranscript world id (.obj (buildWorkerPayload body utterances))
      charge world id (some audioSec) amount none
      let followUp ← enqueueSummarizeAfterTranscribe world id
      modifyTask id (doneTask (reportedFields workerMeta))
      commitAt world (.commit id)
      finishWorkerCleanup world id task.workerTaskId
      match followUp with
      | none => pure ()
      | some followUp => dispatchFollowUp followUp

/-- The text of a summarize report; anything but a string counts as empty. -/
def reportedSummary (body : Dict) : String := ((body.get "summary").text?).getD ""

def onSummarizeSuccess (id : Nat) (body : Dict) : Program Unit := do
  let task ← loaded id
  let text := reportedSummary body
  match Billing.summarizeAmount task text with
  | none => Tx.raise .invalidOperation
  | some amount => do
    persistSummary world id text
    charge world id none amount (some text.length)
    modifyTask id (doneTask [])
    commitAt world (.commit id)
    finishWorkerCleanup world id task.workerTaskId

def onWorkerTerminalError (id : Nat) (body : Dict) : Program Unit := do
  let task ← loaded id
  match mapWorkerError (((body.get "error").asDict.getD []).get "code") with
  | none => Tx.raise .typeError
  | some code => do
    fail world id code (workerErrorDetail body)
    commitAt world (.commit id)
    finishWorkerCleanup world id task.workerTaskId

def onSuccess (dispatchFollowUp : Nat → Program Unit) (id : Nat) (body : Dict) : Program Unit := do
  let task ← loaded id
  if task.type = .transcribe then onTranscribeSuccess world dispatchFollowUp id body
  else onSummarizeSuccess world id body

end IdigestHub.Dispatcher
