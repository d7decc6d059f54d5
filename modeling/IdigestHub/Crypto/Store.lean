import IdigestHub.Crypto.Token
import IdigestHub.Foundation.Table
import IdigestHub.Foundation.UnitOfWork
import Mathlib.Algebra.GroupWithZero.Nat

/-! The columns that hold encrypted text, the data keys they name, and the usage
count that decides whether a retiring key may be deleted. -/

set_option autoImplicit false

namespace IdigestHub.Crypto

open Foundation Foundation.UnitOfWork

inductive StoredTable where
  | workerNodes | instanceSettings | organizations | users | transcripts | summaries
  | summaryPublicLinks | orgCaptureJitsiHosts
  deriving DecidableEq

inductive Column where
  | apiTokenEncrypted | smtpPasswordEncrypted | downloadProxyPasswordEncrypted
  | telegramBotTokenEncrypted | ssoClientSecretEncrypted | totpSecretEncrypted
  | utterancesEncrypted | bodyEncrypted | tokenEncrypted | jwtSecretEncrypted
  deriving DecidableEq

abbrev EncryptedColumn : Type := StoredTable × Column

def encryptedColumns : List EncryptedColumn := [
  (.workerNodes, .apiTokenEncrypted),
  (.instanceSettings, .smtpPasswordEncrypted),
  (.instanceSettings, .downloadProxyPasswordEncrypted),
  (.instanceSettings, .telegramBotTokenEncrypted),
  (.organizations, .ssoClientSecretEncrypted),
  (.users, .totpSecretEncrypted),
  (.transcripts, .utterancesEncrypted),
  (.summaries, .bodyEncrypted),
  (.summaryPublicLinks, .tokenEncrypted)]

/-- Every column of the data model that `encryptStr` writes. -/
def schemaColumns : List EncryptedColumn :=
  encryptedColumns ++ [(.orgCaptureJitsiHosts, .jwtSecretEncrypted)]

inductive DekStatus where
  | active | retiring
  deriving DecidableEq

structure DataEncryptionKey where
  wrappedKey : Text
  status : DekStatus
  deriving DecidableEq

inductive JobStatus where
  | queued | running | completed | canceled | failed
  deriving DecidableEq

structure ColumnProgress where
  total : Nat
  done : Nat

structure Progress where
  tables : EncryptedColumn → ColumnProgress
  retiringDeleted : Nat

structure EncryptionJob where
  targetDekId : Option DekId
  status : JobStatus
  progress : Option Progress
  error : Option Text

/-- `activeDekId` is a column of the settings table only. -/
structure Row where
  cell : Column → Option Text
  activeDekId : Option DekId

structure Database where
  rows : StoredTable → Table Nat Row
  deks : Table DekId DataEncryptionKey
  jobs : Table Nat EncryptionJob

def settingsId : Nat := 1

namespace Database

def cell (db : Database) (column : EncryptedColumn) (key : Nat) : Option Text :=
  ((db.rows column.1).find key).bind fun row => row.cell column.2

def setCell (db : Database) (column : EncryptedColumn) (key : Nat) (value : Text) : Database :=
  { db with rows := Function.update db.rows column.1 ((db.rows column.1).modify key fun row =>
      { row with cell := Function.update row.cell column.2 (some value) }) }

def modifyJob (db : Database) (jobId : Nat) (f : EncryptionJob → EncryptionJob) : Database :=
  { db with jobs := db.jobs.modify jobId f }

/-- Delete a key and clear the job references to it. -/
def dropDek (db : Database) (id : DekId) : Database :=
  { db with
    deks := db.deks.delete id
    jobs := db.jobs.mapRows fun _ job =>
      if job.targetDekId = some id then { job with targetDekId := none } else job }

def activeDekId (db : Database) : Option DekId :=
  ((db.rows .instanceSettings).find settingsId).bind Row.activeDekId

def findDek (db : Database) (dekId : Text) : Option DataEncryptionKey :=
  if valid : isDekId dekId = true then db.deks.find ⟨dekId, valid⟩ else none

def retiringIds (db : Database) : List DekId := db.deks.select fun _ dek => dek.status == .retiring

def Names (db : Database) (column : EncryptedColumn) (key : Nat) (id : DekId) : Prop :=
  tokenDekId (db.cell column key) = some id.text

instance (db : Database) (column : EncryptedColumn) (key : Nat) (id : DekId) :
    Decidable (db.Names column key id) := inferInstanceAs (Decidable (_ = _))

@[simp] theorem deks_setCell (db : Database) (column : EncryptedColumn) (key : Nat) (value : Text) :
    (db.setCell column key value).deks = db.deks := rfl

@[simp] theorem deks_modifyJob (db : Database) (jobId : Nat) (f : EncryptionJob → EncryptionJob) :
    (db.modifyJob jobId f).deks = db.deks := rfl

@[simp] theorem cell_modifyJob (db : Database) (jobId : Nat) (f : EncryptionJob → EncryptionJob)
    (column : EncryptedColumn) (key : Nat) : (db.modifyJob jobId f).cell column key = db.cell column key :=
  rfl

@[simp] theorem cell_dropDek (db : Database) (id : DekId) (column : EncryptedColumn) (key : Nat) :
    (db.dropDek id).cell column key = db.cell column key := rfl

theorem cell_setCell (db : Database) (column other : EncryptedColumn) (key otherKey : Nat)
    (value : Text) : (db.setCell column key value).cell other otherKey =
      if other = column ∧ otherKey = key then ((db.rows column.1).find key).map fun _ => value
      else db.cell other otherKey := by
  obtain ⟨table, name⟩ := column
  obtain ⟨otherTable, otherName⟩ := other
  by_cases sameTable : otherTable = table
  · subst sameTable
    simp only [cell, setCell, Function.update_self, Table.find_modify]
    by_cases sameKey : otherKey = key
    · subst sameKey
      cases (db.rows otherTable).find otherKey with
      | none => simp
      | some row => by_cases sameName : otherName = name <;> simp [sameName]
    · simp [sameKey]
  · simp [cell, setCell, sameTable]

theorem cell_setCell_self (db : Database) {column : EncryptedColumn} {key : Nat} {old : Text}
    (value : Text) (present : db.cell column key = some old) :
    (db.setCell column key value).cell column key = some value := by
  rw [cell_setCell, if_pos ⟨rfl, rfl⟩]
  obtain ⟨row, found, _⟩ := Option.bind_eq_some_iff.mp present
  simp [found]

theorem cell_setCell_ne (db : Database) {column other : EncryptedColumn} {key otherKey : Nat}
    (value : Text) (different : ¬(other = column ∧ otherKey = key)) :
    (db.setCell column key value).cell other otherKey = db.cell other otherKey := by
  rw [cell_setCell, if_neg different]

theorem findDek_text (db : Database) (id : DekId) : db.findDek id.text = db.deks.find id := by
  simp [findDek, id.valid]

theorem findDek_congr {db db' : Database} (same : db'.deks = db.deks) (dekId : Text) :
    db'.findDek dekId = db.findDek dekId := by
  simp [findDek, same]

theorem mem_retiringIds (db : Database) (id : DekId) :
    id ∈ db.retiringIds ↔ ∃ dek, db.deks.find id = some dek ∧ dek.status = .retiring := by
  simp [retiringIds, Table.mem_select]

end Database

section Cipher

variable {Nonce : Type} (fernet : Fernet Nonce) (secrets : Secrets)

def getActiveDek (db : Database) : Except CryptoError (DekId × Text) :=
  match db.activeDekId with
  | none => .error .noActiveDek
  | some id =>
    match db.deks.find id with
    | none => .error .activeDekMissing
    | some dek => do
      let raw ← unwrapDek fernet secrets dek.wrappedKey
      .ok (id, raw)

def encryptStr (nonce : Nonce) (plain : Text) (db : Database) : Except CryptoError Text := do
  let (id, raw) ← getActiveDek fernet secrets db
  encryptWithDek fernet nonce plain id raw

def decryptStr (token : Text) (db : Database) : Except CryptoError Text :=
  match parseToken token with
  | (none, inner) => do
    let key ← kekFernet secrets secrets.hubSecret
    fernet.decrypt key inner
  | (some dekId, inner) =>
    match db.findDek dekId with
    | none => .error (.dekNotFound dekId)
    | some dek => do
      let raw ← unwrapDek fernet secrets dek.wrappedKey
      fernet.decrypt raw inner

theorem decryptStr_congr {db db' : Database} (same : db'.deks = db.deks) (token : Text) :
    decryptStr fernet secrets token db' = decryptStr fernet secrets token db := by
  simp only [decryptStr, Database.findDek_congr same]

/-- A token of another key decrypts as before when a key is deleted. -/
theorem decryptStr_dropDek {db : Database} {id : DekId} {token : Text}
    (other : (parseToken token).1 ≠ some id.text) :
    decryptStr fernet secrets token (db.dropDek id) = decryptStr fernet secrets token db := by
  unfold decryptStr
  cases parsed : parseToken token with
  | mk named inner =>
    cases named with
    | none => rfl
    | some dekId =>
      have different : dekId ≠ id.text := fun same => other (by rw [parsed, same])
      have kept : (db.dropDek id).findDek dekId = db.findDek dekId := by
        unfold Database.findDek
        split
        · rename_i valid
          rw [Database.dropDek, Table.find_delete, if_neg]
          exact fun same => different (congrArg DekId.text same)
        · rfl
      simp only [kept]

/-- What the hub writes it can read, and it names a stored key. -/
theorem decryptStr_encryptStr {db : Database} {nonce : Nonce} {plain token : Text}
    (written : encryptStr fernet secrets nonce plain db = .ok token) :
    decryptStr fernet secrets token db = .ok plain ∧
    ∃ id dek, db.deks.find id = some dek ∧ tokenDekId (some token) = some id.text := by
  unfold encryptStr getActiveDek at written
  cases active : db.activeDekId with
  | none => simp [active, bind, Except.bind] at written
  | some id =>
    cases found : db.deks.find id with
    | none => simp [active, found, bind, Except.bind] at written
    | some dek =>
      cases unwrapped : unwrapDek fernet secrets dek.wrappedKey with
      | error failure => simp [active, found, unwrapped, bind, Except.bind] at written
      | ok raw =>
        cases encrypted : fernet.encrypt raw nonce plain with
        | error failure =>
          simp [active, found, unwrapped, encryptWithDek, encrypted, bind, Except.bind] at written
        | ok inner =>
          have shape : token = dekPrefix id ++ inner := by
            simpa [active, found, unwrapped, encryptWithDek, encrypted, bind, Except.bind, eq_comm]
              using written
          refine ⟨?_, id, dek, found, by rw [shape, tokenDekId_dekPrefix]⟩
          simp [decryptStr, shape, parseToken_dekPrefix, Database.findDek_text, found, unwrapped,
            fernet.decrypt_encrypt raw nonce plain inner encrypted, bind, Except.bind]

end Cipher

section Usage

/-- SQLite's `LIKE` folds the case of ASCII letters, PostgreSQL's does not. -/
inductive Dialect where
  | sqlite | postgres
  deriving DecidableEq

def Dialect.fold : Dialect → Char → Char
  | .sqlite, c => c.toLower
  | .postgres, c => c

/-- `column LIKE 'prefix%'` for a prefix without wildcards; null matches nothing. -/
def like (dialect : Dialect) (columnPrefix : Text) : Option Text → Bool
  | none => false
  | some text => (columnPrefix.map dialect.fold).isPrefixOf (text.map dialect.fold)

def countLike (dialect : Dialect) (db : Database) (column : EncryptedColumn) (id : DekId) : Nat :=
  (db.rows column.1).count fun _ row => like dialect (dekPrefix id) (row.cell column.2)

/-- Per table the column is fixed, except in the settings table. -/
def countColumnUsage (dialect : Dialect) (db : Database) : EncryptedColumn → DekId → Nat
  | (.workerNodes, _), id => countLike dialect db (.workerNodes, .apiTokenEncrypted) id
  | (.instanceSettings, column), id => countLike dialect db (.instanceSettings, column) id
  | (.organizations, _), id => countLike dialect db (.organizations, .ssoClientSecretEncrypted) id
  | (.transcripts, _), id => countLike dialect db (.transcripts, .utterancesEncrypted) id
  | (.summaries, _), id => countLike dialect db (.summaries, .bodyEncrypted) id
  | (.summaryPublicLinks, _), id => countLike dialect db (.summaryPublicLinks, .tokenEncrypted) id
  | _, _ => 0

def countDekUsage (dialect : Dialect) (db : Database) (id : DekId) : Nat :=
  (encryptedColumns.map fun column => countColumnUsage dialect db column id).sum

theorem like_of_names {dialect : Dialect} {token : Option Text} {id : DekId}
    (named : tokenDekId token = some id.text) : like dialect (dekPrefix id) token = true := by
  cases token with
  | none => simp [tokenDekId] at named
  | some token =>
    obtain ⟨inner, rfl⟩ := dekPrefix_of_tokenDekId named
    simp only [like, List.map_append]
    exact List.isPrefixOf_iff_prefix.mpr (List.prefix_append ..)

theorem not_names_of_countLike {dialect : Dialect} {db : Database} {column : EncryptedColumn}
    {id : DekId} (unused : countLike dialect db column id = 0) (key : Nat) :
    ¬db.Names column key id := by
  intro named
  unfold Database.Names Database.cell at named
  cases found : (db.rows column.1).find key with
  | none => simp [found, tokenDekId] at named
  | some row =>
    have counted := (Table.count_eq_zero _ _).mp unused key row found
    rw [found] at named
    rw [like_of_names (by simpa using named)] at counted
    exact absurd counted (by decide)

/-- The listed columns that the per-table dispatchers do handle. -/
def coveredColumns : List EncryptedColumn := encryptedColumns.filter (·.1 ≠ .users)

/-- The columns of the data model that no dispatcher handles. -/
def missedColumns : List EncryptedColumn :=
  [(.users, .totpSecretEncrypted), (.orgCaptureJitsiHosts, .jwtSecretEncrypted)]

theorem covered_or_missed : ∀ column ∈ schemaColumns,
    column ∈ coveredColumns ∨ column ∈ missedColumns := by decide

theorem covered_not_missed : ∀ column ∈ coveredColumns, column ∉ missedColumns := by decide

theorem countColumnUsage_covered (dialect : Dialect) (db : Database) (id : DekId) :
    ∀ column ∈ coveredColumns,
      countColumnUsage dialect db column id = countLike dialect db column id := by
  intro column member
  simp only [coveredColumns, encryptedColumns, List.filter_cons, List.filter_nil, ne_eq,
    decide_not, decide_true, Bool.not_true, reduceCtorEq, decide_false, Bool.not_false, if_true,
    Bool.false_eq_true, if_false, List.mem_cons, List.not_mem_nil, or_false] at member
  rcases member with rfl | rfl | rfl | rfl | rfl | rfl | rfl | rfl <;> rfl

theorem not_names_of_unused {dialect : Dialect} {db : Database} {id : DekId}
    (unused : countDekUsage dialect db id = 0) {column : EncryptedColumn}
    (covered : column ∈ coveredColumns) (key : Nat) : ¬db.Names column key id := by
  have listed : column ∈ encryptedColumns := (List.mem_filter.mp covered).1
  have zero : countColumnUsage dialect db column id = 0 := by
    have all := List.sum_eq_zero_iff_forall_eq_nat.mp unused
    exact all _ (List.mem_map_of_mem listed)
  rw [countColumnUsage_covered dialect db id column covered] at zero
  exact not_names_of_countLike zero key

end Usage

end IdigestHub.Crypto
