import IdigestHub.Crypto.Reencrypt

/-! What the rotation may do to the store, and what that means for the secrets in it. -/

set_option autoImplicit false

namespace IdigestHub.Crypto

open Foundation Foundation.UnitOfWork Relation

section Steps

variable {Nonce : Type} (fernet : Fernet Nonce) (secrets : Secrets)

/-- The job edits job rows, moves a readable token of a covered column onto the active
key, or deletes a retiring key that no covered column names. -/
inductive Step : Database → Database → Prop
  | job (db : Database) (jobId : Nat) (f : EncryptionJob → EncryptionJob) : Step db (db.modifyJob jobId f)
  | moved (db : Database) {column : EncryptedColumn} {key : Nat} {value plain token : Text} {nonce : Nonce}
      (covered : column ∈ coveredColumns) (present : db.cell column key = some value)
      (readable : decryptStr fernet secrets value db = .ok plain)
      (written : encryptStr fernet secrets nonce plain db = .ok token) : Step db (db.setCell column key token)
  | dropped (db : Database) {id : DekId} {dek : DataEncryptionKey} (found : db.deks.find id = some dek)
      (retiring : dek.status = .retiring)
      (unused : ∀ column ∈ coveredColumns, ∀ key, ¬db.Names column key id) : Step db (db.dropDek id)

/-- A key that the store held before and no longer holds. -/
def Removed (before after : Database) (id : DekId) : Prop :=
  (before.deks.find id).isSome ∧ after.deks.find id = none

/-- No stored secret is lost: a removed key is named nowhere, and what could be
decrypted still decrypts to the same text. -/
structure Safe (before after : Database) : Prop where
  unnamed : ∀ id, Removed before after id → ∀ column ∈ schemaColumns, ∀ key, ¬after.Names column key id
  readable : ∀ column ∈ schemaColumns, ∀ key token plain, before.cell column key = some token →
    decryptStr fernet secrets token before = .ok plain →
    ∃ token', after.cell column key = some token' ∧ decryptStr fernet secrets token' after = .ok plain

/-- No column outside the dispatchers holds a token of a retiring key. -/
def ClearOfMissed (db : Database) : Prop :=
  ∀ column ∈ missedColumns, ∀ key, ∀ id ∈ db.retiringIds, ¬db.Names column key id

variable {fernet secrets} {before mid after : Database}

theorem step_deks (step : Step fernet secrets before after) {id : DekId} {dek : DataEncryptionKey}
    (found : after.deks.find id = some dek) : before.deks.find id = some dek := by
  cases step with
  | job jobId f => exact found
  | moved => exact found
  | dropped _ _ _ =>
    rw [Database.dropDek, Table.find_delete] at found
    split at found
    · simp at found
    · exact found

/-- Keys are never created, re-wrapped or re-labelled by the job. -/
theorem path_deks (path : ReflTransGen (Step fernet secrets) before after) {id : DekId}
    {dek : DataEncryptionKey} (found : after.deks.find id = some dek) :
    before.deks.find id = some dek := by
  induction path with
  | refl => exact found
  | tail _ step ih => exact ih (step_deks step found)

theorem step_missed (step : Step fernet secrets before after) {column : EncryptedColumn}
    (missed : column ∈ missedColumns) (key : Nat) : after.cell column key = before.cell column key := by
  cases step with
  | job jobId f => rfl
  | moved covered _ _ _ =>
    refine Database.cell_setCell_ne _ _ ?_
    rintro ⟨rfl, _⟩
    exact covered_not_missed _ covered missed
  | dropped _ _ _ => rfl

theorem path_missed (path : ReflTransGen (Step fernet secrets) before after) {column : EncryptedColumn}
    (missed : column ∈ missedColumns) (key : Nat) : after.cell column key = before.cell column key := by
  induction path with
  | refl => rfl
  | tail _ step ih => rw [step_missed step missed, ih]

theorem removed_retiring (path : ReflTransGen (Step fernet secrets) before after) {id : DekId}
    (removed : Removed before after id) : id ∈ before.retiringIds := by
  induction path with
  | refl =>
    obtain ⟨present, absent⟩ := removed
    simp [absent] at present
  | @tail mid after path step ih =>
    cases held : mid.deks.find id with
    | none => exact ih ⟨removed.1, held⟩
    | some dek =>
      cases step with
      | job jobId f => simp [show mid.deks.find id = none from removed.2] at held
      | moved => simp [show mid.deks.find id = none from removed.2] at held
      | @dropped gone goneDek found retiring unused =>
        have absent := removed.2
        rw [Database.dropDek, Table.find_delete] at absent
        split at absent
        · rename_i same
          subst same
          exact (Database.mem_retiringIds before id).mpr ⟨goneDek, path_deks path found, retiring⟩
        · simp [absent] at held

theorem parseToken_of_not_names {db : Database} {column : EncryptedColumn} {key : Nat} {id : DekId}
    {token : Text} (present : db.cell column key = some token) (unnamed : ¬db.Names column key id) :
    (parseToken token).1 ≠ some id.text := by
  intro parsed
  apply unnamed
  rw [Database.Names, present]
  cases token with
  | nil => simp [parseToken, v1Prefix] at parsed
  | cons c rest => exact parsed

/-- Along a path every secret survives, provided that no removed key was named by a
column outside the dispatchers. -/
theorem safe_of_path (path : ReflTransGen (Step fernet secrets) before after)
    (clear : ∀ id, Removed before after id → ∀ column ∈ missedColumns, ∀ key, ¬before.Names column key id) :
    Safe fernet secrets before after := by
  induction path with
  | refl =>
    refine ⟨?_, fun _ _ _ token plain present decrypts => ⟨token, present, decrypts⟩⟩
    intro id removed
    have present := removed.1
    simp [removed.2] at present
  | @tail mid after path step ih =>
    have earlier : ∀ id, Removed before mid id → Removed before after id := by
      intro id removed
      refine ⟨removed.1, ?_⟩
      cases held : after.deks.find id with
      | none => rfl
      | some dek => rw [← removed.2]; exact (step_deks step held).symm
    have safe := ih fun id removed => clear id (earlier id removed)
    have schema_unnamed : ∀ id, (before.deks.find id).isSome → mid.deks.find id = none →
        ∀ column ∈ schemaColumns, ∀ key, ¬mid.Names column key id :=
      fun id held gone => safe.unnamed id ⟨held, gone⟩
    cases step with
    | job jobId f => exact ⟨safe.unnamed, safe.readable⟩
    | @moved column key value plain token nonce covered present readable written =>
      obtain ⟨decrypts, active, dek, found, names⟩ := decryptStr_encryptStr fernet secrets written
      have same : (mid.setCell column key token).deks = mid.deks := rfl
      constructor
      · intro id removed other member otherKey named
        by_cases here : other = column ∧ otherKey = key
        · obtain ⟨rfl, rfl⟩ := here
          rw [Database.Names, mid.cell_setCell_self token present, names] at named
          -- the new token names the active key, and that key is still stored
          have : active = id := by
            have texts : active.text = id.text := by simpa using named
            cases active; cases id; simpa using texts
          subst this
          have gone : mid.deks.find active = none := removed.2
          simp [gone] at found
        · rw [Database.Names, mid.cell_setCell_ne token here] at named
          exact schema_unnamed id removed.1 removed.2 other member otherKey named
      · intro other member otherKey old text held decrypted
        obtain ⟨current, stored, reads⟩ := safe.readable other member otherKey old text held decrypted
        by_cases here : other = column ∧ otherKey = key
        · obtain ⟨rfl, rfl⟩ := here
          rw [present] at stored
          obtain rfl : value = current := by simpa using stored
          rw [readable] at reads
          obtain rfl : plain = text := by simpa using reads
          exact ⟨token, mid.cell_setCell_self token present,
            (decryptStr_congr fernet secrets same token).trans decrypts⟩
        · exact ⟨current, (mid.cell_setCell_ne token here).trans stored,
            (decryptStr_congr fernet secrets same current).trans reads⟩
    | @dropped id dek found retiring unused =>
      have gone : Removed before (mid.dropDek id) id := by
        refine ⟨by simp [path_deks path found], ?_⟩
        simp [Database.dropDek, Table.find_delete]
      have unnamed : ∀ column ∈ schemaColumns, ∀ key, ¬mid.Names column key id := by
        intro column member key
        rcases covered_or_missed column member with covered | missed
        · exact unused column covered key
        · have clean := clear id gone column missed key
          rwa [Database.Names, ← path_missed path missed key] at clean
      constructor
      · intro other removed column member key
        by_cases same : other = id
        · subst same; exact unnamed column member key
        · have absent := removed.2
          rw [Database.dropDek, Table.find_delete, if_neg same] at absent
          exact schema_unnamed other removed.1 absent column member key
      · intro column member key old text held decrypted
        obtain ⟨current, stored, reads⟩ := safe.readable column member key old text held decrypted
        refine ⟨current, stored, ?_⟩
        rw [decryptStr_dropDek fernet secrets
          (parseToken_of_not_names stored (unnamed column member key))]
        exact reads

end Steps

section Simulation

variable {Nonce : Type} {fernet : Fernet Nonce} {secrets : Secrets}
variable {nonce : Nat → EncryptedColumn → Nat → Nonce} {interrupts : Interrupts}
variable {jobId limit : Nat} {dialect : Dialect} {origin : Database} {s : Session Database Unit}

theorem wp_liftCrypto {A : Type} {r : Except CryptoError A} {Q : A → Session Database Unit → Prop}
    {R : JobError → Session Database Unit → Prop} (value : ∀ a, r = .ok a → Q a s)
    (raised : ∀ failure, R (.crypto failure) s) : wp (liftCrypto r) Q R s := by
  rw [liftCrypto, wp_lift]
  cases r with
  | ok a => exact ⟨by rintro _ ⟨⟩; exact value a rfl, by rintro _ ⟨⟩⟩
  | error failure => exact ⟨by rintro _ ⟨⟩, by rintro _ ⟨⟩; exact raised failure⟩

theorem wp_commitAt {site : CommitSite} {Q : Unit → Session Database Unit → Prop}
    {R : JobError → Session Database Unit → Prop} (done : Q () s.commit)
    (raised : ∀ message, R (.database message) s) : wp (commitAt interrupts site) Q R s := by
  unfold commitAt
  cases interrupts.commitFails site with
  | none => exact done
  | some message => exact raised message

/-- Between two statements of the job: the store is on a path of steps, and no
token is waiting to be flushed. -/
structure Settled (fernet : Fernet Nonce) (secrets : Secrets) (origin : Database)
    (s : Session Database Unit) : Prop where
  follows : Follows (Step fernet secrets) origin s
  flushed : s.flushed.rows = s.working.rows

/-- After an exception only the committed state counts. -/
abbrev Saved (fernet : Fernet Nonce) (secrets : Secrets) (origin : Database) :
    JobError → Session Database Unit → Prop :=
  fun _ s => ReflTransGen (Step fernet secrets) origin s.committed

theorem Settled.committed (settled : Settled fernet secrets origin s) :
    ReflTransGen (Step fernet secrets) origin s.committed := settled.follows.saved

theorem Settled.of_commit {d : Database} (path : ReflTransGen (Step fernet secrets) origin d) :
    Settled fernet secrets origin ⟨d, d, d, ()⟩ := ⟨⟨path, .refl⟩, rfl⟩

theorem settled_job_commit (settled : Settled fernet secrets origin s) (site : CommitSite)
    (f : EncryptionJob → EncryptionJob) :
    wp (do Tx.update (fun db => db.modifyJob jobId f); commitAt interrupts site)
      (fun _ => Settled fernet secrets origin) (Saved fernet secrets origin) s := by
  rw [wp_bind, wp_update]
  exact wp_commitAt (.of_commit (settled.follows.whole.tail (.job ..))) fun _ => settled.committed

/-- Rows of a covered column move by steps, and nothing changes when nothing moves. -/
theorem rows_simulate {column : EncryptedColumn} (covered : column ∈ coveredColumns) (pass : Nat)
    (retiring : List DekId) (keys : List Nat) (limit : Nat)
    (follows : Follows (Step fernet secrets) origin s) :
    wp (reencryptRows fernet secrets nonce pass column retiring keys limit)
      (fun n s' => Follows (Step fernet secrets) origin s' ∧ (n = 0 → s' = s))
      (Saved fernet secrets origin) s := by
  induction keys generalizing s limit with
  | nil => exact ⟨follows, fun _ => rfl⟩
  | cons key rest ih =>
    cases limit with
    | zero => exact ⟨follows, fun _ => rfl⟩
    | succ limit =>
      rw [reencryptRows, wp_bind, wp_read]
      cases present : s.working.cell column key with
      | none => exact ih (limit + 1) follows
      | some value =>
        simp only [wp_ite]
        split
        · rw [wp_bind]
          refine wp_liftCrypto ?_ fun _ => follows.saved
          intro plain readable
          rw [wp_bind]
          refine wp_liftCrypto ?_ fun _ => follows.saved
          intro token written
          rw [wp_bind, wp_update, wp_bind]
          have step : Step fernet secrets s.working (s.working.setCell column key token) :=
            .moved _ covered present readable written
          refine wp_mono (ih limit (follows.edit (.single step))) ?_ fun _ _ saved => saved
          rintro n s' ⟨next, _⟩
          exact ⟨next, fun zero => absurd zero (Nat.succ_ne_zero n)⟩
        · exact ih (limit + 1) follows

theorem batch_simulate {column : EncryptedColumn} (listed : column ∈ encryptedColumns) (pass : Nat)
    (retiring : List DekId) (limit : Nat) (follows : Follows (Step fernet secrets) origin s) :
    wp (reencryptBatch fernet secrets nonce pass column retiring limit)
      (fun n s' => Follows (Step fernet secrets) origin s' ∧ (n = 0 → s' = s))
      (Saved fernet secrets origin) s := by
  rw [reencryptBatch, wp_bind, wp_read]
  by_cases users : column.1 = .users
  · rw [users]
    exact ⟨follows, fun _ => rfl⟩
  · exact rows_simulate (List.mem_filter.mpr ⟨listed, by simpa using users⟩) pass retiring _ limit follows

theorem pass_simulate (pass : Nat) (retiring : List DekId) (columns : List EncryptedColumn)
    (listed : ∀ column ∈ columns, column ∈ encryptedColumns) (settled : Settled fernet secrets origin s) :
    wp (reencryptPass fernet secrets nonce interrupts jobId limit pass retiring columns)
      (fun _ => Settled fernet secrets origin) (Saved fernet secrets origin) s := by
  induction columns generalizing s with
  | nil => exact settled
  | cons column rest ih =>
    have later := fun other member => listed other (List.mem_cons_of_mem column member)
    rw [reencryptPass, wp_bind]
    refine wp_mono (batch_simulate (listed column (List.mem_cons_self ..)) pass retiring limit
      settled.follows) ?_ fun _ _ saved => saved
    rintro n s' ⟨follows, idle⟩
    rw [wp_ite]
    split
    · rename_i zero
      rw [idle zero]
      exact ih later settled
    · rw [wp_bind, wp_update, wp_bind]
      refine wp_commitAt ?_ fun _ => follows.saved
      rw [wp_bind]
      refine wp_mono (ih later (.of_commit (follows.whole.tail (.job ..)))) ?_ fun _ _ saved => saved
      exact fun _ _ kept => kept

theorem loop_simulate (retiring : List DekId) (passes pass : Nat)
    (settled : Settled fernet secrets origin s) :
    wp (reencryptLoop fernet secrets nonce interrupts jobId limit retiring passes pass)
      (fun _ => Settled fernet secrets origin) (Saved fernet secrets origin) s := by
  induction passes generalizing s pass with
  | zero => exact settled.committed
  | succ passes ih =>
    rw [reencryptLoop, wp_ite]
    split
    · exact settled
    · rw [wp_bind]
      refine wp_mono (pass_simulate pass retiring _ (fun _ listed => listed) settled) ?_
        fun _ _ saved => saved
      intro moved s' kept
      rw [wp_ite]
      split
      · exact ih (pass + 1) kept
      · exact kept

theorem names_congr {db db' : Database} (same : db'.rows = db.rows) (column : EncryptedColumn) (key : Nat)
    (id : DekId) : db'.Names column key id ↔ db.Names column key id := by
  simp [Database.Names, Database.cell, same]

theorem delete_simulate (id : DekId) (settled : Settled fernet secrets origin s) :
    wp (deleteRetiringDek interrupts dialect id)
      (fun _ => Settled fernet secrets origin) (Saved fernet secrets origin) s := by
  rw [deleteRetiringDek, wp_bind, wp_read, wp_ite]
  split
  · exact settled
  · rw [wp_bind, wp_query, wp_ite]
    split
    · exact settled
    · rename_i unused
      cases found : s.working.deks.find id with
      | none => exact settled
      | some dek =>
        simp only [wp_ite]
        split
        · exact settled
        · rename_i retiring
          have zero : countDekUsage dialect s.flushed id = 0 := Nat.eq_zero_of_not_pos unused
          have step : Step fernet secrets s.working (s.working.dropDek id) := by
            refine .dropped _ found (not_not.mp retiring) fun column covered key named => ?_
            exact not_names_of_unused zero covered key
              ((names_congr settled.flushed column key id).mpr named)
          rw [wp_bind, wp_update, wp_bind]
          exact wp_commitAt (.of_commit (settled.follows.whole.tail step)) fun _ => settled.committed

theorem deleteRetiring_simulate (ids : List DekId) (settled : Settled fernet secrets origin s) :
    wp (deleteRetiring interrupts dialect ids)
      (fun _ => Settled fernet secrets origin) (Saved fernet secrets origin) s := by
  induction ids generalizing s with
  | nil => exact settled
  | cons id rest ih =>
    rw [deleteRetiring, wp_bind]
    refine wp_mono (delete_simulate id settled) ?_ fun _ _ saved => saved
    intro removed s' kept
    rw [wp_bind]
    exact wp_mono (ih kept) (fun _ _ kept => kept) fun _ _ saved => saved

theorem body_simulate (passes : Nat) (settled : Settled fernet secrets origin s) :
    wp (runJobBody fernet secrets nonce interrupts jobId limit dialect passes)
      (fun _ => Settled fernet secrets origin) (Saved fernet secrets origin) s := by
  rw [runJobBody, wp_bind, wp_read]
  cases s.working.jobs.find jobId with
  | none => exact settled
  | some job =>
    simp only [wp_ite]
    split
    · exact settled_job_commit settled _ _
    · rw [← bind_assoc, wp_bind]
      refine wp_mono (settled_job_commit settled _ _) ?_ fun _ _ saved => saved
      intro _ s' kept
      rw [wp_bind]
      refine wp_liftCrypto ?_ fun _ => kept.committed
      rintro ⟨activeId, raw⟩ _
      simp only [wp_ite]
      split
      · exact settled_job_commit kept _ _
      · rw [wp_bind]
        refine wp_mono (loop_simulate _ passes 0 kept) ?_ fun _ _ saved => saved
        intro _ s' kept
        rw [wp_ite]
        split
        · exact settled_job_commit kept _ _
        · rw [wp_bind]
          refine wp_mono (deleteRetiring_simulate _ kept) ?_ fun _ _ saved => saved
          intro deleted s' kept
          exact settled_job_commit kept _ _

/-- Whatever interrupts it, a run of the job takes the store along steps. -/
theorem afterJob_path (passes : Nat) (db : Database) : ReflTransGen (Step fernet secrets) db
    (afterJob fernet secrets nonce interrupts jobId limit dialect passes db) := by
  refine committed_path ?_
  have start : Settled fernet secrets db ⟨db, db, db, ()⟩ := .of_commit .refl
  rw [runJob, wp_bind, wp_attempt]
  refine wp_mono (body_simulate passes start) (fun _ _ settled => settled.follows) ?_
  intro failure s' saved
  have clean := Settled.of_commit saved
  cases failure with
  | killed => exact clean.follows
  | crypto failure =>
    rw [wp_bind, wp_rollback]
    exact wp_mono (settled_job_commit clean _ _) (fun _ _ settled => settled.follows) fun _ _ saved => saved
  | database message =>
    rw [wp_bind, wp_rollback]
    exact wp_mono (settled_job_commit clean _ _) (fun _ _ settled => settled.follows) fun _ _ saved => saved

/-- A run loses no secret when the columns outside the dispatchers name no retiring key,
and otherwise exactly when it deletes a key that one of them names. -/
theorem rotation_safe_iff (fernet : Fernet Nonce) (secrets : Secrets)
    (nonce : Nat → EncryptedColumn → Nat → Nonce) (interrupts : Interrupts) (jobId limit : Nat)
    (dialect : Dialect) (passes : Nat) (db : Database) :
    (ClearOfMissed db →
      Safe fernet secrets db (afterJob fernet secrets nonce interrupts jobId limit dialect passes db)) ∧
    (Safe fernet secrets db (afterJob fernet secrets nonce interrupts jobId limit dialect passes db) ↔
      ∀ id, Removed db (afterJob fernet secrets nonce interrupts jobId limit dialect passes db) id →
        ∀ column ∈ missedColumns, ∀ key, ¬db.Names column key id) := by
  have path : ReflTransGen (Step fernet secrets) db
      (afterJob fernet secrets nonce interrupts jobId limit dialect passes db) := afterJob_path passes db
  refine ⟨?_, ?_, safe_of_path path⟩
  · intro clear
    exact safe_of_path path fun id removed column missed key =>
      clear column missed key id (removed_retiring path removed)
  · intro safe id removed column missed key named
    have member : column ∈ schemaColumns := by
      simp only [missedColumns, List.mem_cons, List.not_mem_nil, or_false] at missed
      rcases missed with rfl | rfl <;> decide
    refine safe.unnamed id removed column member key ?_
    rwa [Database.Names, path_missed path missed key]

end Simulation

section LostSecret

def keyedCipher : Fernet Unit where
  encrypt key _ plain := .ok (key ++ plain)
  decrypt key token :=
    if key.isPrefixOf token then .ok (token.drop key.length) else .error .invalidToken
  decrypt_encrypt := by
    rintro key nonce plain token ⟨⟩
    simp

def hubSecrets : Secrets := ⟨"secret".toList, [], fun secret => '#' :: secret⟩

def retiringDek : DekId := ⟨"00000000-0000-4000-8000-000000000001".toList, by decide⟩

def activeDek : DekId := ⟨"00000000-0000-4000-8000-000000000002".toList, by decide⟩

def totpToken : Text := dekPrefix retiringDek ++ "k1JBSWY3DP".toList

/-- One user whose second factor is still under the retiring key. -/
def beforeRotation : Database where
  rows
    | .instanceSettings => Table.put ∅ settingsId ⟨fun _ => none, some activeDek⟩
    | .users => Table.put ∅ 7 ⟨fun column => if column = .totpSecretEncrypted then some totpToken else none, none⟩
    | _ => ∅
  deks := Table.put (Table.put ∅ activeDek ⟨"#secretk2".toList, .active⟩)
    retiringDek ⟨"#secretk1".toList, .retiring⟩
  jobs := Table.put ∅ 3 ⟨some activeDek, .queued, some initProgress, none⟩

def afterRotation : Database :=
  afterJob keyedCipher hubSecrets (fun _ _ _ => ()) ⟨fun _ => false, false, fun _ => none⟩ 3 batchSize
    .sqlite 1 beforeRotation

/-- The job deletes the key that the second factor still needs. -/
theorem rotation_loses_totp :
    decryptStr keyedCipher hubSecrets totpToken beforeRotation = .ok "JBSWY3DP".toList ∧
    decryptStr keyedCipher hubSecrets totpToken afterRotation = .error (.dekNotFound retiringDek.text) ∧
    ¬Safe keyedCipher hubSecrets beforeRotation afterRotation := by
  refine ⟨by decide +kernel, by decide +kernel, fun safe => ?_⟩
  have removed : Removed beforeRotation afterRotation retiringDek :=
    ⟨by decide +kernel, by decide +kernel⟩
  have unnamed := safe.unnamed retiringDek removed (.users, .totpSecretEncrypted) (by decide) 7
  exact unnamed (show tokenDekId _ = _ by decide +kernel)

end LostSecret

end IdigestHub.Crypto
