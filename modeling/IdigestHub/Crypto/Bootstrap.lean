import IdigestHub.Crypto.Writers
import IdigestHub.Foundation.Text

/-! Start-up: the secrets are checked, the first data key is made and legacy tokens are moved onto it, and data keys
under the previous hub secret are wrapped again. -/

set_option autoImplicit false

namespace IdigestHub.Crypto

open Foundation Foundation.UnitOfWork

inductive StartCommit where
  | bootstrapped | rewrapped (id : DekId)
  deriving DecidableEq

inductive StartError where
  | secretsConfig | cryptoConfig | crypto (failure : CryptoError) | killed
  deriving DecidableEq

/-- What one start meets: the outcome of `validate_secrets_config`, the flag of the settings row, the rows that
queries with a limit pick, what it draws, and the commits before which the process dies. -/
structure Start (Nonce : Type) where
  sessionSecretOk : Bool
  bootstrapDone : Bool
  pick : List Nat → Option Nat
  newId : DekId
  rawDek : Text
  wrapNonce : Nonce
  nonce : EncryptedColumn → (key : Nat) → Nonce
  rewrapNonce : DekId → Nonce
  dies : StartCommit → Bool

abbrev Boot (A : Type) : Type := Tx Database Unit StartError A

/-- `get_instance_settings`: the row is made when there is none. -/
def Database.ensureSettings (db : Database) : Database :=
  if ((db.rows .instanceSettings).find settingsId).isSome then db
  else
    let rows := (db.rows .instanceSettings).put settingsId ⟨fun _ => none, none⟩
    { db with rows := Function.update db.rows .instanceSettings rows }

def Database.modifyDek (db : Database) (id : DekId) (wrappedKey : Text) : Database :=
  { db with deks := db.deks.modify id fun dek => { dek with wrappedKey } }

def stripped (secret : Text) : Text := Foundation.Text.trimBoth Foundation.Text.isSpace secret

def isSet (value : Option Text) : Bool := value.any (· != [])

section Keys

variable {Nonce : Type} (fernet : Fernet Nonce) (secrets : Secrets)

def wrapDek (nonce : Nonce) (rawDek : Text) : Except CryptoError Text := do
  fernet.encrypt (← kekFernet secrets secrets.hubSecret) nonce rawDek

/-- Whether a secret decrypts a wrapped key; only an invalid token says that it does not. -/
def unwrapsUnder (secret wrapped : Text) : Except CryptoError Bool := do
  match fernet.decrypt (← kekFernet secrets secret) wrapped with
  | .ok _ => .ok true
  | .error .invalidToken => .ok false
  | .error failure => .error failure

/-- It strips the previous secret, as `unwrap_dek` and `dek_needs_rewrap` do not. -/
def canUnwrapDek (wrapped : Text) : Except CryptoError Bool := do
  match ← tryUnwrapWithCurrent fernet secrets wrapped with
  | some _ => .ok true
  | none =>
    if stripped secrets.hubSecretPrev = [] then .ok false
    else unwrapsUnder fernet secrets (stripped secrets.hubSecretPrev) wrapped

def dekNeedsRewrap (wrapped : Text) : Except CryptoError Bool := do
  match ← tryUnwrapWithCurrent fernet secrets wrapped with
  | some _ => .ok false
  | none =>
    if secrets.hubSecretPrev = [] then .ok false
    else unwrapsUnder fernet secrets secrets.hubSecretPrev wrapped

end Keys

section Validation

def hasEncryptedData (db : Database) : Bool :=
  ((db.rows .workerNodes).select fun _ row => isSet (row.cell .apiTokenEncrypted)) != [] ||
    ([.smtpPasswordEncrypted, .downloadProxyPasswordEncrypted, .telegramBotTokenEncrypted].any fun column =>
      isSet (db.cell (.instanceSettings, column) settingsId)) ||
    ((db.rows .organizations).select fun _ row => (row.cell .ssoClientSecretEncrypted).isSome) != [] ||
    (db.rows .transcripts).size != 0 || (db.rows .summaries).size != 0

variable {Nonce : Type} (fernet : Fernet Nonce) (secrets : Secrets) (start : Start Nonce)

/-- The value that `_encrypted_sample_readable` tries, if there is one. -/
def encryptedSample (db : Database) : Option Text :=
  let picked (column : EncryptedColumn) (keys : List Nat) : Option Text := (start.pick keys).bind (db.cell column)
  let node := (picked (.workerNodes, .apiTokenEncrypted) (db.rows .workerNodes).keys).filter (· != [])
  let smtp := (db.cell (.instanceSettings, .smtpPasswordEncrypted) settingsId).filter (· != [])
  let orgs := (db.rows .organizations).select fun _ row => (row.cell .ssoClientSecretEncrypted).isSome
  let org := (picked (.organizations, .ssoClientSecretEncrypted) orgs).filter (· != [])
  let transcript := picked (.transcripts, .utterancesEncrypted) (db.rows .transcripts).keys
  let summary := picked (.summaries, .bodyEncrypted) (db.rows .summaries).keys
  node.or (smtp.or (org.or (transcript.or summary)))

def encryptedSampleReadable (db : Database) : Except CryptoError Bool :=
  match encryptedSample start db with
  | none => .ok true
  | some token =>
    match decryptStr fernet secrets token db with
    | .ok _ => .ok true
    | .error .invalidToken => .ok false
    | .error failure => .error failure

def liftBoot {A : Type} (r : Except CryptoError A) : Boot A := Tx.lift (r.mapError StartError.crypto)

def validateCryptoConfig : Boot Unit := do
  Tx.update Database.ensureSettings
  Tx.flush
  let db ← Tx.read
  let wrapped := db.deks.entries.map fun dek => dek.2.wrappedKey
  let needsSecret := start.bootstrapDone || wrapped != [] || hasEncryptedData db
  if needsSecret && stripped secrets.hubSecret == [] then Tx.raise .cryptoConfig
  else
    Tx.forEach wrapped fun wrappedKey => do
      let readable ← liftBoot (canUnwrapDek fernet secrets wrappedKey)
      if readable then pure () else Tx.raise .cryptoConfig
    if start.bootstrapDone && hasEncryptedData db && stripped secrets.hubSecret != [] then
      let readable ← liftBoot (encryptedSampleReadable fernet secrets start db)
      if readable then pure () else Tx.raise .cryptoConfig
    else pure ()

end Validation

section Starting

variable {Nonce : Type} (fernet : Fernet Nonce) (secrets : Secrets) (start : Start Nonce)

/-- A process that dies between two commits does not reach the second. -/
def bootCommit (site : StartCommit) : Boot Unit := if start.dies site then Tx.raise .killed else Tx.commit

/-- One row of `_migrate_table`. -/
def migrateRow (column : EncryptedColumn) (key : Nat) : Boot Unit := do
  let db ← Tx.read
  match db.cell column key with
  | none => pure ()
  | some value =>
    if value == [] || v1Prefix.isPrefixOf value then pure ()
    else
      let plain ← liftBoot (decryptStr fernet secrets value db)
      let token ← liftBoot (encryptStr fernet secrets (start.nonce column key) plain db)
      Tx.update fun db => db.setCell column key token

/-- Like the re-encryption, the migration has no branch for users. -/
def migrateTable (column : EncryptedColumn) : Boot Unit := do
  let db ← Tx.read
  Tx.forEach (branchKeys db column.1) (migrateRow fernet secrets start column)

def bootstrapEncryptionDb : Boot Unit := do
  if secrets.hubSecret = [] then pure ()
  else
    let db ← Tx.read
    if 0 < db.deks.size then pure ()
    else
      let wrapped ← liftBoot (wrapDek fernet secrets start.wrapNonce start.rawDek)
      Tx.update fun db => db.ensureSettings.addDek start.newId wrapped
      Tx.flush
      Tx.forEach encryptedColumns (migrateTable fernet secrets start)
      bootCommit start .bootstrapped

def rewrapDek (id : DekId) : Boot Unit := do
  let db ← Tx.read
  match db.deks.find id with
  | none => pure ()
  | some dek =>
    let needed ← liftBoot (dekNeedsRewrap fernet secrets dek.wrappedKey)
    if needed then
      let raw ← liftBoot (unwrapDek fernet secrets dek.wrappedKey)
      let wrapped ← liftBoot (wrapDek fernet secrets (start.rewrapNonce id) raw)
      Tx.update fun db => db.modifyDek id wrapped
      bootCommit start (.rewrapped id)
    else pure ()

def rewrapPendingDeks : Boot Unit := do
  if secrets.hubSecret = [] then pure ()
  else
    let db ← Tx.read
    Tx.forEach db.deks.keys (rewrapDek fernet secrets start)

/-- `bootstrap_encryption`; an exception rolls back what is not committed, and so does its end. -/
def bootstrapEncryption : Boot Unit := do
  if start.sessionSecretOk = false then Tx.raise .secretsConfig
  else
    validateCryptoConfig fernet secrets start
    bootstrapEncryptionDb fernet secrets start
    rewrapPendingDeks fernet secrets start

def afterStart (db : Database) : Database := ((bootstrapEncryption fernet secrets start).run (.start db ())).2.committed

/-- One start after the other, each killed where it dies or ended by itself. -/
def afterStarts (starts : List (Start Nonce)) (db : Database) : Database :=
  starts.foldl (fun db start => afterStart fernet secrets start db) db

end Starting

section Databases

variable {db : Database} {column : EncryptedColumn} {key : Nat}

def NoDeks (db : Database) : Prop := ∀ id, db.deks.find id = none

theorem noDeks_of_size (empty : ¬0 < db.deks.size) : NoDeks db := by
  intro id
  cases found : db.deks.find id with
  | none => rfl
  | some dek =>
    have member := (Table.mem_entries ..).mpr found
    rw [Table.size, not_lt, Nat.le_zero, List.length_eq_zero_iff] at empty
    rw [empty] at member
    cases member

theorem not_noDeks_of_size (some' : 0 < db.deks.size) : ¬NoDeks db := by
  intro empty
  obtain ⟨entry, member⟩ := List.exists_mem_of_length_pos some'
  have found := (Table.mem_entries db.deks entry.1 entry.2).mp member
  cases found.symm.trans (empty entry.1)

@[simp] theorem deks_ensureSettings (db : Database) : db.ensureSettings.deks = db.deks := by
  unfold Database.ensureSettings
  split <;> rfl

theorem cell_ensureSettings (db : Database) (column : EncryptedColumn) (key : Nat) :
    db.ensureSettings.cell column key = db.cell column key := by
  unfold Database.ensureSettings
  split
  · rfl
  · rename_i absent
    have missing : (db.rows .instanceSettings).find settingsId = none := Option.not_isSome_iff_eq_none.mp absent
    by_cases table : column.1 = .instanceSettings
    · simp only [Database.cell, table, Function.update_self, Table.find_put]
      split
      · rename_i same
        rw [same, missing]
        rfl
      · rfl
    · simp [Database.cell, table]

/-- A cell that no branch of the migration goes through. -/
def Skipped (column : EncryptedColumn) (key : Nat) : Prop :=
  column ∈ missedColumns ∨ column.1 = .instanceSettings ∧ key ≠ settingsId

theorem mem_branchKeys (covered : column ∈ coveredColumns) (kept : ¬Skipped column key) {value : Text}
    (present : db.cell column key = some value) : key ∈ branchKeys db column.1 := by
  obtain ⟨row, found, _⟩ := Option.bind_eq_some_iff.mp present
  have member : key ∈ (db.rows column.1).keys := AList.mem_keys.mp (AList.lookup_isSome.mp (Option.isSome_of_eq_some found))
  obtain ⟨table, name⟩ := column
  cases table with
  | users => exact absurd covered (by simp [coveredColumns])
  | orgCaptureJitsiHosts => exact absurd covered (by simp [coveredColumns, encryptedColumns])
  | instanceSettings =>
    by_cases single : key = settingsId
    · exact List.mem_singleton.mpr single
    · exact absurd (.inr ⟨rfl, single⟩) kept
  | _ => exact member

end Databases

section Ciphers

variable {Nonce : Type} {fernet : Fernet Nonce} {secrets : Secrets} {db : Database} {token plain wrapped raw : Text}

theorem kekFernet_of_set {secret : Text} (given : secret ≠ []) : kekFernet secrets secret = .ok (secrets.digest secret) :=
  if_neg given

theorem unwrapDek_of_current (given : secrets.hubSecret ≠ [])
    (decrypted : fernet.decrypt (secrets.digest secrets.hubSecret) wrapped = .ok raw) :
    unwrapDek fernet secrets wrapped = .ok raw := by
  simp [unwrapDek, tryUnwrapWithCurrent, kekFernet_of_set given, decrypted, bind, Except.bind]

theorem unwrapDek_wrapDek {nonce : Nonce} (given : secrets.hubSecret ≠ [])
    (written : wrapDek fernet secrets nonce raw = .ok wrapped) :
    unwrapDek fernet secrets wrapped = .ok raw ∧ dekNeedsRewrap fernet secrets wrapped = .ok false := by
  have decrypted : fernet.decrypt (secrets.digest secrets.hubSecret) wrapped = .ok raw := by
    refine fernet.decrypt_encrypt _ nonce raw wrapped ?_
    simpa [wrapDek, kekFernet_of_set given, bind, Except.bind] using written
  refine ⟨unwrapDek_of_current given decrypted, ?_⟩
  simp [dekNeedsRewrap, tryUnwrapWithCurrent, kekFernet_of_set given, decrypted, bind, Except.bind]

def Secrets.withoutPrev (secrets : Secrets) : Secrets := { secrets with hubSecretPrev := [] }

theorem current_of_no_rewrap (given : secrets.hubSecret ≠ []) (settled : dekNeedsRewrap fernet secrets wrapped = .ok false)
    (unwrapped : unwrapDek fernet secrets wrapped = .ok raw) :
    fernet.decrypt (secrets.digest secrets.hubSecret) wrapped = .ok raw := by
  simp only [dekNeedsRewrap, unwrapDek, tryUnwrapWithCurrent, kekFernet_of_set given, bind, Except.bind] at settled unwrapped
  cases decrypted : fernet.decrypt (secrets.digest secrets.hubSecret) wrapped with
  | ok its => simpa [decrypted] using unwrapped
  | error failure =>
    cases failure with
    | invalidToken =>
      simp only [decrypted] at settled unwrapped
      split at unwrapped
      · cases unwrapped
      · rename_i previous
        rw [kekFernet_of_set previous] at unwrapped
        have unwrapped : fernet.decrypt (secrets.digest secrets.hubSecretPrev) wrapped = .ok raw := unwrapped
        simp [previous, unwrapsUnder, kekFernet_of_set previous, unwrapped, bind, Except.bind] at settled
    | _ => simp [decrypted] at unwrapped

theorem legacy_of_noDeks (empty : NoDeks db) (decrypted : decryptStr fernet secrets token db = .ok plain) :
    (parseToken token).1 = none := by
  unfold decryptStr at decrypted
  split at decrypted
  · rename_i parsed
    rw [parsed]
  · rename_i dekId inner parsed
    have missing : db.findDek dekId = none := by
      unfold Database.findDek
      split
      · exact empty _
      · rfl
    rw [missing] at decrypted
    cases decrypted

/-- Legacy tokens decrypt the same whatever keys there are. -/
theorem decryptStr_of_legacy {other : Database} (legacy : (parseToken token).1 = none) :
    decryptStr fernet secrets token other = decryptStr fernet secrets token db := by
  obtain ⟨named, inner, parsed⟩ : ∃ named inner, parseToken token = (named, inner) := ⟨_, _, rfl⟩
  rw [parsed] at legacy
  obtain rfl : named = none := legacy
  simp only [decryptStr, parsed]

theorem findDek_modifyDek (id : DekId) (wrappedKey dekId : Text) : (db.modifyDek id wrappedKey).findDek dekId =
    if dekId = id.text then (db.findDek dekId).map fun dek => { dek with wrappedKey } else db.findDek dekId := by
  unfold Database.findDek
  by_cases valid : isDekId dekId = true
  · simp only [dif_pos valid, Database.modifyDek, Table.find_modify]
    by_cases same : dekId = id.text
    · obtain rfl : id = ⟨dekId, valid⟩ := by
        cases id
        cases same
        rfl
      rw [if_pos rfl, if_pos rfl]
    · rw [if_neg same, if_neg fun equal => same (congrArg DekId.text equal)]
  · rw [dif_neg valid, dif_neg valid]
    split <;> rfl

theorem decryptStr_modifyDek {id : DekId} {dek : DataEncryptionKey} (found : db.deks.find id = some dek)
    (before : unwrapDek fernet secrets dek.wrappedKey = .ok raw) (after : unwrapDek fernet secrets wrapped = .ok raw) :
    decryptStr fernet secrets token (db.modifyDek id wrapped) = decryptStr fernet secrets token db := by
  unfold decryptStr
  cases parsed : parseToken token with
  | mk named inner =>
    cases named with
    | none => rfl
    | some dekId =>
      simp only [findDek_modifyDek]
      by_cases same : dekId = id.text
      · subst same
        simp [Database.findDek_text, found, before, after, bind, Except.bind]
      · rw [if_neg same]

theorem decryptStr_withoutPrev (given : secrets.hubSecret ≠ [])
    (settled : ∀ id dek, db.deks.find id = some dek → dekNeedsRewrap fernet secrets dek.wrappedKey = .ok false)
    (decrypted : decryptStr fernet secrets token db = .ok plain) : decryptStr fernet secrets.withoutPrev token db =
      .ok plain := by
  unfold decryptStr at decrypted ⊢
  split at decrypted
  · exact decrypted
  · rename_i dekId inner parsed
    unfold Database.findDek at decrypted ⊢
    split at decrypted
    · cases decrypted
    · rename_i dek found
      split at found
      · cases unwrapped : unwrapDek fernet secrets dek.wrappedKey with
        | error failure => simp [unwrapped, bind, Except.bind] at decrypted
        | ok raw =>
          have current := current_of_no_rewrap given (settled _ dek found) unwrapped
          have same : unwrapDek fernet secrets.withoutPrev dek.wrappedKey = .ok raw := unwrapDek_of_current given current
          simpa [unwrapped, same, bind, Except.bind] using decrypted
      · cases found

end Ciphers

end IdigestHub.Crypto
