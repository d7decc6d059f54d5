import IdigestHub.Crypto.Store

/-! The background job that moves tokens of retiring keys onto the active key and
then deletes the keys nothing names any more. -/

set_option autoImplicit false

namespace IdigestHub.Crypto

open Foundation Foundation.UnitOfWork

inductive CommitSite where
  | nothingRetiring | started | targetNotActive | batch (pass : Nat) (column : EncryptedColumn)
  | canceled | dropped (id : DekId) | completed | failed
  deriving DecidableEq

/-- What one run meets: the answers of `_is_cancelled`, and the commits that raise. A
process that dies between two commits is a run whose next commit, and whose
commit of the failure, both raise. -/
structure Interrupts where
  cancelled : (pass : Nat) → Bool
  cancelledAtEnd : Bool
  commitFails : CommitSite → Option Text

inductive JobError where
  | crypto (failure : CryptoError)
  | database (message : Text)
  | killed
  deriving DecidableEq

def JobError.message : JobError → Text
  | .crypto failure => failure.message
  | .database message => message
  | .killed => []

abbrev Job (A : Type) : Type := Tx Database Unit JobError A

def batchSize : Nat := 50

def initProgress : Progress := ⟨fun _ => ⟨0, 0⟩, 0⟩

def Progress.setTotal (progress : Progress) (column : EncryptedColumn) (total : Nat) : Progress :=
  let entry := { progress.tables column with total := total }
  { progress with tables := Function.update progress.tables column entry }

def Progress.addDone (progress : Progress) (column : EncryptedColumn) (n : Nat) : Progress :=
  let entry := { progress.tables column with done := (progress.tables column).done + n }
  { progress with tables := Function.update progress.tables column entry }

def liftCrypto {A : Type} (r : Except CryptoError A) : Job A :=
  Tx.lift (r.mapError JobError.crypto)

def commitAt (interrupts : Interrupts) (site : CommitSite) : Job Unit :=
  match interrupts.commitFails site with
  | some message => Tx.raise (.database message)
  | none => Tx.commit

/-- `token_dek_id(value) in retiring_ids`. -/
def namesRetiring (retiring : List DekId) (value : Option Text) : Bool :=
  match tokenDekId value with
  | none => false
  | some dekId => (retiring.map DekId.text).contains dekId

/-- The rows a table's branch goes through. There is no branch for users and for
the capture hosts. -/
def branchKeys (db : Database) : StoredTable → List Nat
  | .workerNodes => (db.rows .workerNodes).keys
  | .instanceSettings => [settingsId]
  | .organizations => (db.rows .organizations).keys
  | .transcripts => (db.rows .transcripts).keys
  | .summaries => (db.rows .summaries).keys
  | .summaryPublicLinks => (db.rows .summaryPublicLinks).keys
  | .users | .orgCaptureJitsiHosts => []

def countPending (db : Database) (column : EncryptedColumn) (retiring : List DekId) : Nat :=
  (branchKeys db column.1).countP fun key => namesRetiring retiring (db.cell column key)

section Run

variable {Nonce : Type} (fernet : Fernet Nonce) (secrets : Secrets)
variable (nonce : (pass : Nat) → EncryptedColumn → (key : Nat) → Nonce)

def reencryptRows (pass : Nat) (column : EncryptedColumn) (retiring : List DekId) :
    List Nat → Nat → Job Nat
  | [], _ => pure 0
  | _ :: _, 0 => pure 0
  | key :: rest, limit + 1 => do
    let db ← Tx.read
    match db.cell column key with
    | none => reencryptRows pass column retiring rest (limit + 1)
    | some value =>
      if namesRetiring retiring (some value) then do
        let plain ← liftCrypto (decryptStr fernet secrets value db)
        let token ← liftCrypto (encryptStr fernet secrets (nonce pass column key) plain db)
        Tx.update (fun db => db.setCell column key token)
        let n ← reencryptRows pass column retiring rest limit
        pure (n + 1)
      else reencryptRows pass column retiring rest (limit + 1)

def reencryptBatch (pass : Nat) (column : EncryptedColumn) (retiring : List DekId) (limit : Nat) :
    Job Nat := do
  let db ← Tx.read
  reencryptRows fernet secrets nonce pass column retiring (branchKeys db column.1) limit

variable (interrupts : Interrupts) (jobId : Nat) (limit : Nat)

/-- One turn over the columns, each committed when it moved something. -/
def reencryptPass (pass : Nat) (retiring : List DekId) : List EncryptedColumn → Job Bool
  | [] => pure false
  | column :: rest => do
    let n ← reencryptBatch fernet secrets nonce pass column retiring limit
    if n = 0 then reencryptPass pass retiring rest
    else do
      Tx.update (fun db => db.modifyJob jobId fun job =>
        { job with progress := job.progress.map fun progress => progress.addDone column n })
      commitAt interrupts (.batch pass column)
      let _ ← reencryptPass pass retiring rest
      pure true

/-- The `while` loop. It need not end by itself (the active key may be retiring), so
`passes` says after how many turns the process is killed. -/
def reencryptLoop (retiring : List DekId) : (passes pass : Nat) → Job Unit
  | 0, _ => Tx.raise .killed
  | passes + 1, pass =>
    if interrupts.cancelled pass then pure ()
    else do
      let moved ← reencryptPass fernet secrets nonce interrupts jobId limit pass retiring encryptedColumns
      if moved then reencryptLoop retiring passes (pass + 1) else pure ()

variable (dialect : Dialect)

def deleteRetiringDek (id : DekId) : Job Bool := do
  let db ← Tx.read
  if db.activeDekId = some id then pure false
  else do
    let stored ← Tx.query
    if 0 < countDekUsage dialect stored id then pure false
    else
      match db.deks.find id with
      | none => pure false
      | some dek =>
        if dek.status ≠ .retiring then pure false
        else do
          Tx.update (fun db => db.dropDek id)
          commitAt interrupts (.dropped id)
          pure true

def deleteRetiring : List DekId → Job Nat
  | [] => pure 0
  | id :: rest => do
    let removed ← deleteRetiringDek interrupts dialect id
    let n ← deleteRetiring rest
    pure (if removed then n + 1 else n)

/-- The `try` block of `_run_job`. -/
def runJobBody (passes : Nat) : Job Unit := do
  let db ← Tx.read
  match db.jobs.find jobId with
  | none => pure ()
  | some job =>
    let retiring := db.retiringIds
    if retiring = [] then do
      Tx.update (fun db => db.modifyJob jobId fun job =>
        { job with status := .completed, progress := some initProgress })
      commitAt interrupts .nothingRetiring
    else do
      let progress := encryptedColumns.foldl
        (fun progress column => progress.setTotal column (countPending db column retiring))
        (job.progress.getD initProgress)
      Tx.update (fun db => db.modifyJob jobId fun job =>
        { job with status := .running, progress := some progress })
      commitAt interrupts .started
      let (activeId, _) ← liftCrypto (getActiveDek fernet secrets db)
      if job.targetDekId ≠ some activeId then do
        Tx.update (fun db => db.modifyJob jobId fun job =>
          { job with status := .failed, error := some "target DEK is not active".toList })
        commitAt interrupts .targetNotActive
      else do
        reencryptLoop fernet secrets nonce interrupts jobId limit retiring passes 0
        if interrupts.cancelledAtEnd then do
          Tx.update (fun db => db.modifyJob jobId fun job => { job with status := .canceled })
          commitAt interrupts .canceled
        else do
          let deleted ← deleteRetiring interrupts dialect retiring
          Tx.update (fun db => db.modifyJob jobId fun job => { job with
            status := .completed
            progress := job.progress.map fun progress => { progress with retiringDeleted := deleted } })
          commitAt interrupts .completed

/-- The job with its handler: roll back, and note the failure on the job row. A killed
process leaves what was committed. -/
def runJob (passes : Nat) : Job Unit := do
  match ← Tx.attempt (runJobBody fernet secrets nonce interrupts jobId limit dialect passes) with
  | .ok () => pure ()
  | .error .killed => Tx.rollback
  | .error failure => do
    Tx.rollback
    Tx.update (fun db => db.modifyJob jobId fun job =>
      { job with status := .failed, error := some (failure.message.take 500) })
    commitAt interrupts .failed

/-- The store as the other sessions see it once the job is over. -/
def afterJob (passes : Nat) (db : Database) : Database :=
  ((runJob fernet secrets nonce interrupts jobId limit dialect passes).run (.start db ())).2.committed

end Run

end IdigestHub.Crypto
