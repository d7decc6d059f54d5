import IdigestHub.Dispatcher.Outcomes
import IdigestHub.Ingest.Rows

/-! The background thread of an import, in the sections between its awaits. -/

set_option autoImplicit false

namespace IdigestHub.Ingest

open Foundation Foundation.UnitOfWork Dispatcher

/-- Where the thread waits. `fields` is its own copy of the row's fields. -/
inductive Importing where
  | start
  | download (fields : Dict)
  | save (fields : Dict) (result : ImportResult)
  | returned

variable (world : World)

def failImport (id : Nat) (code : ErrorCode) (extra : Dict) (step : Nat) : Program Importing := do
  failAndCommit world id code extra step
  pure .returned

/-- `_run_import_task` up to the download. -/
def importStart (id : Nat) : Program Importing := do
  let hub ← Tx.read
  match hub.tasks.find id with
  | none => pure .returned
  | some task =>
    if task.type != .importUrl || task.status != .running then pure .returned
    else if !hub.settings.importEnabled then failImport world id .importDisabled [] 40
    else if Text.strip (world.python.orEmpty (task.metaDict.get "url")) = "" then
      failImport world id .invalidUrl [] 41
    else if (hub.orgs.find task.orgId).isNone then failImport world id .notFound [] 42
    else if !world.downloadProxyReady then failImport world id .proxyUnavailable [] 43
    else do
      guardSite world (.prepare id 0)
      commitAt world (.runner id 44)
      pure (.download task.metaDict)

/-- The reports of the download, each written in a session of its own. -/
inductive Progress where
  | probing (host : String)
  | downloading (host platform : String) (title : Option String) (durationSec : Option Decimal)
  | converting (host platform : String) (title : Option String)

def textOrNull (text : Option String) : Json := (text.map Json.str).getD .null

def Progress.stage : Progress → String
  | .probing _ => "probing"
  | .downloading .. => "downloading"
  | .converting .. => "converting"

def Progress.fields : Progress → Dict
  | .probing host => [("host", .str host)]
  | .downloading host platform title durationSec =>
    [("host", .str host), ("platform", .str platform), ("title", textOrNull title),
      ("duration_sec", (durationSec.map Json.num).getD .null)]
  | .converting host platform title =>
    [("host", .str host), ("platform", .str platform), ("title", textOrNull title)]

def onProgress (id : Nat) (progress : Progress) : Program Unit := do
  let hub ← Tx.read
  if (hub.tasks.find id).isSome then do
    updateTaskMeta id progress.stage progress.fields
    commitAt world (.runner id 45)
  else pure ()

/-- The handler for a `UrlImportError`. -/
def importRefused (id : Nat) (code : ErrorCode) (fields : Dict) : Program Unit := do
  Tx.rollback
  let hub ← Tx.read
  match hub.tasks.find id with
  | none => pure ()
  | some task =>
    let limit := if code = .payloadTooLarge && (fields.find "max_bytes").isNone then
        fields.set "max_bytes" (idJson task.snap.maxUploadBytes)
      else fields
    failAndCommit world id code limit 46

/-- The handler for any other exception. -/
def importFailed (id : Nat) (detail : String) : Program Unit := do
  Tx.rollback
  let hub ← Tx.read
  if (hub.tasks.find id).isSome then
    failAndCommit world id .downloadFailed (if detail = "" then [] else [("error_detail", .str detail)]) 47
  else pure ()

def importDownloaded (id : Nat) (fields : Dict) : Program Importing := do
  match world.download id with
  | .failed code extra => do
    importRefused world id code extra
    pure .returned
  | .raises detail => do
    importFailed world id detail
    pure .returned
  | .fetched result => do
    let process ← Tx.recollect
    if process.importCancelled.contains id then failImport world id .canceled [] 48
    else do
      commitAt world (.runner id 49)
      pure (.save fields result)

def importedTask (audioId : Nat) (fields : Dict) (result : ImportResult) (task : Task) : Task :=
  { task with
    audioId := some audioId
    status := .success
    errorCode := none
    metaJson := some (fields.update [
      ("stage", .str "done"),
      ("host", .str result.host),
      ("platform", .str result.platformLabel),
      ("title", textOrNull result.title),
      ("extractor", .str result.extractorKey)]) }

def importSaved (id : Nat) (fields : Dict) (result : ImportResult) : Program Unit := do
  let task ← loaded id
  match world.artifact id with
  | .tooLarge =>
    failAndCommit world id .payloadTooLarge
      [("host", .str result.host), ("max_bytes", idJson task.snap.maxUploadBytes)] 50
  | .unreadable => failAndCommit world id .invalidFile [("host", .str result.host)] 51
  | .stored _ => do
    let audioId := (← Tx.read).nextId
    Tx.update fun hub => hub.addAudio {
      orgId := task.orgId
      ownerUserId := task.userId
      originalFilename := result.originalFilename
      durationSec := result.durationSec }
    Tx.flush
    guardSite world (.store id)
    modifyTask id (importedTask audioId fields result)
    guardSite world (.terminalHook id)
    enqueueTranscribeAfterIngest world id
    commitAt world (.runner id 52)
  | _ => Tx.raise .raised

/-- The `finally` block: the thread leaves the memory of the process. -/
def importFinished (id : Nat) (process : Process) : Process :=
  { process with
    importActive := process.importActive.filter fun other => other != id
    importCancelled := process.importCancelled.filter fun other => other != id
    importThreads := process.importThreads.filter fun other => other != id }

end IdigestHub.Ingest
