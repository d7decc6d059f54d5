import IdigestHub.Capture.Meeting
import IdigestHub.Dispatcher.Outcomes
import IdigestHub.Ingest.Rows

/-! What users do to tasks: create, retry, cancel, delete a source. Checks on the caller are
not modelled; a request that fails them changes nothing. -/

set_option autoImplicit false

namespace IdigestHub.Tasks

open Foundation

/-- What a new task takes from the request and from the tariff. -/
structure Submission where
  orgId : Nat
  userId : Nat
  skillIds : List Nat
  snap : Snapshot
  now : Nat

def newTask (type : TaskType) (submission : Submission) (metaJson : Option Dict) : Task where
  type
  status := .queued
  orgId := submission.orgId
  userId := submission.userId
  audioId := none
  transcriptId := none
  skillIds := submission.skillIds
  workerId := none
  workerTaskId := none
  producedTranscriptId := none
  producedSummaryId := none
  errorCode := none
  snap := submission.snap
  queuedAt := submission.now
  retryWithoutTimeout := false
  skipPersist := false
  skipReason := none
  billed := false
  metaJson

/-- `assert_can_accept_task` lets the organization through. -/
def canAccept (hub : Hub) (orgId : Nat) : Bool :=
  (hub.orgs.find orgId).any fun org => Dispatcher.outOfBalance org == some false

def skillsExist (hub : Hub) (skillIds : List Nat) : Bool :=
  skillIds.all fun id => (hub.skills.find id).isSome

/-- `enqueue_transcribe_task`. -/
def createTranscribe (audioId : Nat) (submission : Submission) (hub : Hub) : Hub :=
  let ours := (hub.audios.find audioId).any fun audio => audio.orgId == submission.orgId
  if ours && canAccept hub submission.orgId && skillsExist hub submission.skillIds then
    hub.addTask { newTask .transcribe submission none with audioId := some audioId }
  else hub

def createSummarize (transcriptId : Nat) (submission : Submission) (hub : Hub) : Hub :=
  let ours := (hub.transcripts.find transcriptId).any fun transcript => transcript.orgId == submission.orgId
  if ours && submission.skillIds != [] && skillsExist hub submission.skillIds &&
      canAccept hub submission.orgId then
    hub.addTask { newTask .summarize submission none with transcriptId := some transcriptId }
  else hub

/-- The fields that a request adds to an import or a capture: the pipeline, the tags, and
the chat of a request that came by Telegram. -/
structure Pipeline where
  transcribe : Bool
  userTags : List String
  telegramChatId : Option String

def Pipeline.fields (pipeline : Pipeline) : Dict :=
  (if pipeline.transcribe then [("pipeline_transcribe", .bool true)] else []) ++
    (if pipeline.userTags = [] then [] else [("user_tags", .arr (pipeline.userTags.map Json.str))]) ++
    match pipeline.telegramChatId with
    | none => []
    | some chat => [("notify_telegram", .bool true), ("telegram_chat_id", .str chat)]

/-- Only a request with a transcribe step keeps its skills. -/
def Pipeline.submission (pipeline : Pipeline) (submission : Submission) : Submission :=
  if pipeline.transcribe then submission else { submission with skillIds := [] }

/-- The checks that only a request with a transcribe step makes. -/
def Pipeline.accepts (pipeline : Pipeline) (submission : Submission) (hub : Hub) : Bool :=
  (hub.orgs.find submission.orgId).isSome &&
    (!pipeline.transcribe || (canAccept hub submission.orgId && skillsExist hub submission.skillIds))

/-- `enqueue_import_task` of a URL that passed the checks. -/
def createImport (url : String) (pipeline : Pipeline) (submission : Submission) (hub : Hub) : Hub :=
  if pipeline.accepts submission hub then
    hub.addTask (newTask .importUrl (pipeline.submission submission)
      (some (Dict.update [("url", .str url), ("stage", .str "queued")] pipeline.fields)))
  else hub

def captureFields (target : Capture.CaptureTarget) (meetingUrl displayName : String) : Dict :=
  let token : Dict := match nonEmpty target.jwt with
    | none => []
    | some jwt => [("jwt", .str jwt)]
  [("meeting_url", .str meetingUrl),
   ("meeting_host", .str target.meetingHost),
   ("meeting_room", .str target.meetingRoom),
   ("pin", .str target.pin),
   ("connector", .str target.connector),
   ("display_name", .str displayName),
   ("stage", .str "queued")] ++ token

/-- `enqueue_capture_task` of a meeting that resolved to a ready worker. -/
def createCapture (target : Capture.CaptureTarget) (meetingUrl displayName : String) (pipeline : Pipeline)
    (submission : Submission) (hub : Hub) : Hub :=
  if hub.settings.captureEnabled && pipeline.accepts submission hub then
    hub.addTask { newTask .capture (pipeline.submission submission)
      (some ((captureFields target meetingUrl displayName).update pipeline.fields)) with
        workerId := some target.worker.1 }
  else hub

def nonRetriableErrorCodes : List ErrorCode :=
  [.canceled, .sourceDeleted, .textTooLong, .payloadTooLarge, .invalidFile, .invalidUrl,
    .proxyUnavailable, .captureDisabled, .meetingHostNotConfigured, .captureNoWorker]

/-- `_validate_task_source` of the types that can be retried. -/
def sourceValid (hub : Hub) (orgId : Nat) (task : Task) : Bool :=
  match task.type with
  | .transcribe => (task.audioId.bind hub.audios.find).any fun audio => audio.orgId == orgId
  | .summarize =>
    ((task.transcriptId.bind hub.transcripts.find).any fun transcript => transcript.orgId == orgId) &&
      task.skillIds != [] && skillsExist hub task.skillIds
  | .importUrl => ((task.metaDict.get "url").text?).any fun url => Text.strip url != ""
  | .capture => false

/-- The row that `retry_task` leaves. -/
def retried (now : Nat) (task : Task) : Task :=
  { task with
    status := .queued
    errorCode := none
    workerId := none
    workerTaskId := none
    producedTranscriptId := none
    producedSummaryId := none
    retryWithoutTimeout := false
    skipPersist := false
    skipReason := none
    queuedAt := now
    metaJson := some ((task.metaDict.set "stage" (.str "queued")).pop "error_detail") }

def retriable (hub : Hub) (orgId : Nat) (task : Task) : Bool :=
  task.status == .error && task.type != .capture &&
    !(task.errorCode.any nonRetriableErrorCodes.contains) && canAccept hub orgId && sourceValid hub orgId task

/-- `retry_task` by a user of an organization. -/
def retryTask (id orgId now : Nat) (hub : Hub) : Hub :=
  if (hub.tasks.find id).any (retriable hub orgId) then hub.modifyTask id (retried now) else hub

def canceled (code : ErrorCode) (task : Task) : Task := { task with status := .error, errorCode := some code }

/-- `cancel_task` accepts the task. -/
def cancelable (task : Task) : Bool :=
  if task.onWorker then task.status == .queued && !task.linked else task.active

def cancelTask (id : Nat) (hub : Hub) : Hub :=
  if (hub.tasks.find id).any cancelable then hub.modifyTask id (canceled .canceled) else hub

/-- What `cancel_task` tells the background threads. -/
def cancelSignal (id : Nat) (hub : Hub) (process : Process) : Process :=
  match hub.tasks.find id with
  | none => process
  | some task =>
    if !cancelable task then process
    else
      match task.type with
      | .importUrl => { process with importCancelled := id :: process.importCancelled }
      | .capture => { process with cancelled := id :: process.cancelled }
      | _ => process

/-- The row that `mark_capture_stop_requested` leaves. -/
def stopMarked (python : Python) (task : Task) : Task :=
  let fields := task.metaDict.set "stop_requested" (.bool true)
  let stage := python.orEmpty (fields.get "stage")
  { task with metaJson := some (if ["downloading", "done"].contains stage then fields
      else fields.set "stage" (.str "finalizing")) }

def stoppable (task : Task) : Bool := task.type == .capture && task.status == .running

/-- The rows after `stop_capture_task`. -/
def stopTask (python : Python) (id : Nat) (hub : Hub) : Hub :=
  if (hub.tasks.find id).any stoppable then hub.modifyTask id (stopMarked python) else hub

/-- What `stop_capture_task` tells the thread. -/
def stopSignal (id : Nat) (hub : Hub) (process : Process) : Process :=
  if (hub.tasks.find id).any stoppable then { process with stopRequested := id :: process.stopRequested }
  else process

/-- An active task whose source or owner goes: it fails when no worker has it, otherwise its
result will not be stored. -/
def withdrawn (code reason : ErrorCode) (task : Task) : Task :=
  if task.status = .queued && !task.linked then canceled code task
  else { task with skipPersist := true, skipReason := some reason }

def withdraw (code reason : ErrorCode) (condition : Task → Bool) (hub : Hub) : Hub :=
  { hub with tasks := hub.tasks.mapRows fun _ task =>
      if task.active && condition task then withdrawn code reason task else task }

/-- `cancel_queued_for_source` of an audio. -/
def cancelQueuedForAudio (audioId : Nat) : Hub → Hub :=
  withdraw .canceled .sourceDeleted fun task => task.type == .transcribe && task.audioId == some audioId

/-- `cancel_queued_for_source` of a transcript. -/
def cancelQueuedForTranscript (transcriptId : Nat) : Hub → Hub :=
  withdraw .canceled .sourceDeleted fun task =>
    task.type == .summarize && task.transcriptId == some transcriptId

def cancelActiveOrgTasks (orgId : Nat) : Hub → Hub :=
  withdraw .orgDeleted .orgDeleted fun task => task.orgId == orgId

/-- The task part of `wipe_user_content`. -/
def wipeUserTasks (userId : Nat) : Hub → Hub :=
  withdraw .accountWiped .accountWiped fun task => task.userId == userId

/-- A reference that is set to null when its row is deleted. -/
def cleared (gone : Nat) (reference : Option Nat) : Option Nat := reference.filter fun id => id != gone

def hardDeleteAudio (audioId : Nat) (hub : Hub) : Hub :=
  let hub := cancelQueuedForAudio audioId hub
  { hub with
    audios := hub.audios.delete audioId
    tasks := hub.tasks.mapRows fun _ task => { task with audioId := cleared audioId task.audioId }
    transcripts := hub.transcripts.mapRows fun _ transcript =>
      { transcript with sourceAudioId := cleared audioId transcript.sourceAudioId } }

def hardDeleteTranscript (transcriptId : Nat) (hub : Hub) : Hub :=
  let hub := cancelQueuedForTranscript transcriptId hub
  { hub with
    transcripts := hub.transcripts.delete transcriptId
    tasks := hub.tasks.mapRows fun _ task => { task with
      transcriptId := cleared transcriptId task.transcriptId
      producedTranscriptId := cleared transcriptId task.producedTranscriptId }
    summaries := hub.summaries.mapRows fun _ summary =>
      { summary with sourceTranscriptId := cleared transcriptId summary.sourceTranscriptId } }

end IdigestHub.Tasks
