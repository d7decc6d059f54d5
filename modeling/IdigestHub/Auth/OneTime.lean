import IdigestHub.Auth.Calls
import IdigestHub.Foundation.ReadCommitted

/-! Secrets that are meant to be accepted once, in requests that run at the same time: password resets,
MFA challenges, recovery codes and Telegram link codes. -/

set_option autoImplicit false

namespace IdigestHub.Auth.OneTime

open Foundation Foundation.ReadCommitted Foundation.Runs

inductive Secret where
  | resetToken (tokenHash : String)
  | challenge (tokenHash : String)
  | recoveryCode (userId id : Nat)
  | linkCode (userId : Nat) (codeHash : String)
  deriving DecidableEq

def Secret.good (vault : Vault) : Secret → Bool
  | resetToken tokenHash => (vault.resetTokens.find tokenHash).any fun row => row.usedAt.isNone
  | challenge tokenHash => (vault.mfaChallenges.find tokenHash).isSome
  | recoveryCode userId id => (vault.recoveryCodes.find id).any fun row => row.userId == userId && row.usedAt.isNone
  | linkCode userId codeHash => (vault.linkChallenges.find userId).any fun row => row.codeHash == codeHash

/-- The rows that a transaction holds, and the unique values that it has taken. -/
inductive Lock where
  | user (id : Nat)
  | session (id : Nat)
  | apiToken (tokenHash : String)
  | resetToken (tokenHash : String)
  | challenge (tokenHash : String)
  | recoveryCode (id : Nat)
  | link (userId : Nat)
  | telegramAccount (telegramUserId : String)
  | linkChallenge (userId : Nat)
  deriving DecidableEq

abbrev Stmt : Type := Statement Vault Lock

section Statements

/-- The flush of a changed object, which fails when its row is gone. -/
def flushed (lock : Lock) (there : Vault → Bool) (update : Vault → Vault) : Stmt where
  keys _ := [lock]
  run vault := if there vault then some (update vault) else none

/-- A deletion, which succeeds when there is nothing to delete. -/
def deletion (locks : Vault → List Lock) (delete : Vault → Vault) : Stmt where
  keys := locks
  run vault := some (delete vault)

def updateUser (userId : Nat) (columns : User → User) : Stmt :=
  flushed (.user userId) (fun vault => (vault.users.find userId).isSome) fun vault =>
    { vault with users := vault.users.modify userId columns }

def revokeToken (now : Int) (tokenHash : String) : Stmt :=
  flushed (.apiToken tokenHash) (fun vault => (vault.apiTokens.find tokenHash).isSome) fun vault =>
    vault.write (.revokeApiToken tokenHash now)

def useResetToken (tokenHash : String) (now : Int) : Stmt :=
  flushed (.resetToken tokenHash) (fun vault => (vault.resetTokens.find tokenHash).isSome) fun vault =>
    vault.write (.useResetToken tokenHash now)

def useRecoveryCode (id : Nat) (now : Int) : Stmt :=
  flushed (.recoveryCode id) (fun vault => (vault.recoveryCodes.find id).isSome) fun vault =>
    vault.write (.useRecoveryCode id now)

def deleteUserSessions (userId : Nat) : Stmt :=
  deletion (fun vault => (Table.select vault.sessions fun _ row => row.userId == userId).map Lock.session) fun vault =>
    vault.write (.deleteUserSessions userId)

def deleteUserTokens (userId : Nat) : Stmt :=
  deletion (fun vault => (vault.apiTokens.select fun _ row => row.userId == userId).map Lock.apiToken) fun vault =>
    { vault with apiTokens := vault.apiTokens.keep fun _ row => row.userId != userId }

def deleteUserResetTokens (userId : Nat) : Stmt :=
  deletion (fun vault => (vault.resetTokens.select fun _ row => row.userId == userId).map Lock.resetToken) fun vault =>
    { vault with resetTokens := vault.resetTokens.keep fun _ row => row.userId != userId }

def deleteUserChallenges (userId : Nat) : Stmt :=
  deletion (fun vault => (vault.mfaChallenges.select fun _ row => row.userId == userId).map Lock.challenge) fun vault =>
    vault.write (.deleteUserChallenges userId)

def deleteUserRecoveryCodes (userId : Nat) : Stmt :=
  deletion (fun vault => (vault.recoveryCodes.select fun _ row => row.userId == userId).map Lock.recoveryCode) fun vault =>
    vault.write (.deleteUserRecoveryCodes userId)

def deleteChallenge (tokenHash : String) : Stmt :=
  deletion (fun _ => [.challenge tokenHash]) fun vault => vault.write (.deleteChallenge tokenHash)

/-- The row of the user, and the rows that go with it on their own: those of Telegram. -/
def deleteUser (userId : Nat) : Stmt :=
  deletion (fun _ => [.user userId, .link userId, .linkChallenge userId]) fun vault =>
    { vault.write (.deleteLink userId) with
      users := vault.users.delete userId
      memberships := vault.memberships.delete userId }

/-- The row refers to its user, and its key is free. -/
def insertSession (id userId : Nat) (tokenHash : String) (ttlSec now : Int) : Stmt where
  keys _ := [.session id]
  run vault :=
    if (Table.find vault.sessions id).isNone && (vault.users.find userId).isSome then
      some (vault.write (.insertSession id userId tokenHash ttlSec now))
    else none

def deleteLink (userId : Nat) : Stmt :=
  deletion
    (fun vault => (vault.telegramLinks.find userId).toList.flatMap fun row => [.link userId, .telegramAccount row.telegramUserId])
    fun vault => { vault with telegramLinks := vault.telegramLinks.delete userId }

def insertLink (userId : Nat) (row : TelegramLink) : Stmt where
  keys _ := [.link userId, .telegramAccount row.telegramUserId]
  run vault :=
    let taken := vault.telegramLinks.select fun other stored => other == userId || stored.telegramUserId == row.telegramUserId
    if taken.isEmpty && (vault.users.find userId).isSome then
      some { vault with telegramLinks := vault.telegramLinks.put userId row }
    else none

def deleteLinkChallenge (userId : Nat) (codeHash : String) : Stmt :=
  deletion (fun _ => [.linkChallenge userId]) fun vault =>
    { vault with linkChallenges := vault.linkChallenges.keep fun other row => !(other == userId && row.codeHash == codeHash) }

end Statements

def Removing (statement : Stmt) : Prop :=
  ∀ vault vault', statement.run vault = some vault' → ∀ secret : Secret, secret.good vault' = true → secret.good vault = true

/-- What `delete_user_account` does besides the rows of the account: `flushes` says whether it deletes an
audio first, which flushes what is pending. -/
structure Removal where
  flushes : Bool
  before : List Stmt
  after : List Stmt
  removing : ∀ statement ∈ before ++ after, Removing statement

inductive Request where
  | resetConfirm (token password : String)
  | mfaVerify (challengeId code : String) (fresh : Fresh)
  | mfaRecover (challengeId recoveryCode : String) (fresh : Fresh)
  | mfaDisable (headers : Headers) (password code : String)
  | accountDelete (headers : Headers) (password totpCode : Option String) (removal : Vault → Option Removal)
  | linkTelegram (code telegramUserId chatId : String) (instanceBotId : Option Int)

section Handlers

variable (env : Platform) (vault : Vault)

/-- `revoke_user_tokens`: the objects that it changes. -/
def liveTokens (userId : Nat) : List String :=
  vault.apiTokens.select fun _ token => token.userId == userId && token.revokedAt.isNone

def secondFactorCode (userId : Nat) (user : User) (code : String) : Option Nat :=
  if verifyUserTotp env user code then none else consumeRecoveryCode env vault userId code

/-- The statements of `reset_confirm`, in the order in which they are sent. -/
def resetting (userId : Nat) (tokenHash password : String) : List Stmt :=
  [deleteUserSessions userId, updateUser userId fun user => user.withPassword env password false] ++
    (liveTokens vault userId).map (revokeToken env.now) ++ [useResetToken tokenHash env.now]

/-- The end of `mfa_verify` and of `mfa_recover`. -/
def entering (userId : Nat) (tokenHash : String) (fresh : Fresh) (ttlSec : Int) : List Stmt :=
  [insertSession fresh.sessionId userId (env.hashSecret fresh.token) ttlSec env.now, deleteChallenge tokenHash]

/-- The deletion of the recovery codes drops the mark that one of them would get. -/
def disabling (userId : Nat) : List Stmt :=
  [deleteUserRecoveryCodes userId, deleteUserSessions userId,
    updateUser userId fun user => { user with totpSecret := none, totpEnabledAt := none }] ++
    (liveTokens vault userId).map (revokeToken env.now)

/-- `_verify_account_delete_step_up`: the recovery code that it takes, if any. -/
def accountDeleteStepUp (ctx : AuthContext) (password totpCode : Option String) : Option (Option Nat) :=
  if ctx.viaApiToken || ctx.impersonating || ctx.user.isInstanceAdmin then none
  else if ctx.user.hasPassword && !(password.any fun text => text != "" && verifyUserPassword env ctx.user text) then none
  else if totpEnabled ctx.user then
    let code := Text.strip (totpCode.getD "")
    if code = "" then none
    else if verifyUserTotp env ctx.user code then some none
    else (consumeRecoveryCode env vault ctx.userId code).map some
  else some none

def deleting (userId : Nat) (used : Option Nat) (removal : Removal) : List Stmt :=
  (if removal.flushes then used.toList.map fun id => useRecoveryCode id env.now else []) ++ removal.before ++
    [deleteUserSessions userId, deleteUserTokens userId, deleteUserResetTokens userId, deleteUserChallenges userId,
      deleteUserRecoveryCodes userId, deleteUser userId] ++ removal.after

def normalizeCode (raw : String) : List Char := (env.upper (Text.strip raw)).toList.filter (· != '-')

/-- `_CODE_RE.match`, whose `$` also stands before a last newline. -/
def codeMatches (code : List Char) : Bool :=
  let body := if code.getLast? = some '\n' then code.dropLast else code
  body.length == 8 && body.all fun c => 'A' ≤ c && c ≤ 'Z' || '2' ≤ c && c ≤ '9'

def consumeLinkCode (code telegramUserId : String) : Option (Nat × String) := do
  let normalized := normalizeCode env code
  let codeHash := env.hashSecret (.ofList ("telegram-link:".toList ++ normalized))
  let userId ← (vault.linkChallenges.select fun _ row => row.codeHash == codeHash).head?
  let challenge ← vault.linkChallenges.find userId
  let existing := (vault.telegramLinks.select fun _ row => row.telegramUserId == telegramUserId).head?
  let user ← vault.users.find userId
  if codeMatches normalized && !(challenge.expiresAt < env.now) && existing.all (· == userId) && user.enabled then
    some (userId, codeHash)
  else none

def linking (userId : Nat) (codeHash : String) (row : TelegramLink) : List Stmt :=
  [deleteLink userId, insertLink userId row, deleteLinkChallenge userId codeHash]

/-- What a request that passes its checks presents, and the statements that follow. -/
def handle : Request → Option (List Secret × List Stmt)
  | .resetConfirm token password => do
    let (userId, _) ← (Auth.resetConfirm env vault token password).toOption
    let tokenHash := env.hashSecret token
    some ([.resetToken tokenHash], resetting env vault userId tokenHash password)
  | .mfaVerify challengeId code fresh => do
    let (userId, _) ← (Auth.mfaVerify env vault challengeId code fresh).toOption
    let ttlSec ← (sessionTtlSec vault.settings).toOption
    let tokenHash := env.hashSecret (Text.strip challengeId)
    some ([.challenge tokenHash], entering env userId tokenHash fresh ttlSec)
  | .mfaRecover challengeId recoveryCode fresh => do
    let (userId, _) ← (Auth.mfaRecover env vault challengeId recoveryCode fresh).toOption
    let id ← consumeRecoveryCode env vault userId recoveryCode
    let ttlSec ← (sessionTtlSec vault.settings).toOption
    let tokenHash := env.hashSecret (Text.strip challengeId)
    some ([.challenge tokenHash, .recoveryCode userId id],
      useRecoveryCode id env.now :: entering env userId tokenHash fresh ttlSec)
  | .mfaDisable headers password code => do
    let (ctx, db) ← (requireAuth env.toEnv vault.toDb ((SignedCall.mfaDisable password code).request headers)).toOption
    let _ ← (Auth.mfaDisable env { vault with toDb := db } ctx password code).toOption
    let used := secondFactorCode env vault ctx.userId ctx.user code
    some (used.toList.map (.recoveryCode ctx.userId), disabling env vault ctx.userId)
  | .accountDelete headers password totpCode removal => do
    let (ctx, _) ← (requireAuth env.toEnv vault.toDb
      ((SignedCall.look .post "/api/v1/me/account-delete".toList).request headers)).toOption
    let used ← accountDeleteStepUp env vault ctx password totpCode
    let removal ← removal vault
    some (used.toList.map (.recoveryCode ctx.userId), deleting env ctx.userId used removal)
  | .linkTelegram code telegramUserId chatId instanceBotId => do
    let (userId, codeHash) ← consumeLinkCode env vault code telegramUserId
    some ([.linkCode userId codeHash], linking userId codeHash ⟨telegramUserId, chatId, instanceBotId⟩)

end Handlers

inductive Call (secret : Secret) where
  | present (env : Platform) (request : Request)
  | other (statements : Vault → Option (List Stmt))
      (leaves : ∀ vault all, statements vault = some all → ∀ statement ∈ all, ∀ vault,
        secret.good (statement.apply vault) = secret.good vault)

def plan (secret : Secret) : Call secret → Vault → Option (Bool × List Stmt)
  | .present env request, vault =>
    (handle env vault request).bind fun (secrets, statements) =>
      if secret ∈ secrets then some (true, statements) else none
  | .other statements _, vault => (statements vault).map fun all => (false, all)

section Spent

variable {vault vault' : Vault} {statement : Stmt}

theorem good_resetToken {tokenHash : String} : (Secret.resetToken tokenHash).good vault = true ↔
    ∃ row, vault.resetTokens.find tokenHash = some row ∧ row.usedAt = none := by
  simp [Secret.good, Option.any_eq_true]

theorem good_challenge {tokenHash : String} : (Secret.challenge tokenHash).good vault = true ↔
    ∃ row, vault.mfaChallenges.find tokenHash = some row ∧ True := by
  simp [Secret.good, Option.isSome_iff_exists]

theorem good_recoveryCode {userId id : Nat} : (Secret.recoveryCode userId id).good vault = true ↔
    ∃ row, vault.recoveryCodes.find id = some row ∧ row.userId = userId ∧ row.usedAt = none := by
  simp [Secret.good, Option.any_eq_true]

theorem good_linkCode {userId : Nat} {codeHash : String} : (Secret.linkCode userId codeHash).good vault = true ↔
    ∃ row, vault.linkChallenges.find userId = some row ∧ row.codeHash = codeHash := by
  simp [Secret.good, Option.any_eq_true]

def secrets (vault : Vault) := (vault.resetTokens, vault.mfaChallenges, vault.recoveryCodes, vault.linkChallenges)

theorem good_congr (same : secrets vault' = secrets vault) (secret : Secret) : secret.good vault' = secret.good vault := by
  simp only [secrets, Prod.mk.injEq] at same
  obtain ⟨resets, challenges, codes, links⟩ := same
  cases secret with
  | resetToken tokenHash => rw [Secret.good, Secret.good, resets]
  | challenge tokenHash => rw [Secret.good, Secret.good, challenges]
  | recoveryCode userId id => rw [Secret.good, Secret.good, codes]
  | linkCode userId codeHash => rw [Secret.good, Secret.good, links]

theorem removing_flushed {lock : Lock} {there : Vault → Bool} {update : Vault → Vault}
    (kept : ∀ vault (secret : Secret), secret.good (update vault) = true → secret.good vault = true) :
    Removing (flushed lock there update) := by
  intro vault vault' ran secret good
  rw [flushed, Option.ite_none_right_eq_some] at ran
  rw [← Option.some.inj ran.2] at good
  exact kept vault secret good

theorem removing_deletion {locks : Vault → List Lock} {delete : Vault → Vault}
    (kept : ∀ vault (secret : Secret), secret.good (delete vault) = true → secret.good vault = true) :
    Removing (deletion locks delete) := by
  intro vault vault' ran secret good
  rw [← Option.some.inj ran] at good
  exact kept vault secret good

theorem removing_updateUser (userId : Nat) (columns : User → User) : Removing (updateUser userId columns) :=
  removing_flushed fun _ secret good => good_congr rfl secret ▸ good

theorem removing_revokeToken (now : Int) (tokenHash : String) : Removing (revokeToken now tokenHash) :=
  removing_flushed fun _ secret good => good_congr rfl secret ▸ good

theorem removing_deleteUserSessions (userId : Nat) : Removing (deleteUserSessions userId) :=
  removing_deletion fun _ secret good => good_congr rfl secret ▸ good

theorem removing_deleteUserTokens (userId : Nat) : Removing (deleteUserTokens userId) :=
  removing_deletion fun _ secret good => good_congr rfl secret ▸ good

theorem removing_deleteLink (userId : Nat) : Removing (deleteLink userId) :=
  removing_deletion fun _ secret good => good_congr rfl secret ▸ good

theorem removing_insertSession (id userId : Nat) (tokenHash : String) (ttlSec now : Int) :
    Removing (insertSession id userId tokenHash ttlSec now) := by
  intro vault vault' ran secret good
  rw [insertSession, Option.ite_none_right_eq_some] at ran
  rw [← Option.some.inj ran.2] at good
  exact good_congr rfl secret ▸ good

theorem removing_insertLink (userId : Nat) (row : TelegramLink) : Removing (insertLink userId row) := by
  intro vault vault' ran secret good
  rw [insertLink, Option.ite_none_right_eq_some] at ran
  rw [← Option.some.inj ran.2] at good
  exact good_congr rfl secret ▸ good

theorem removing_useResetToken (tokenHash : String) (now : Int) : Removing (useResetToken tokenHash now) := by
  apply removing_flushed
  intro vault secret good
  cases secret with
  | resetToken other =>
    rw [good_resetToken] at good ⊢
    exact Table.exists_modify (fun _ used => absurd used (Option.some_ne_none now)) good
  | _ => exact good

theorem removing_useRecoveryCode (id : Nat) (now : Int) : Removing (useRecoveryCode id now) := by
  apply removing_flushed
  intro vault secret good
  cases secret with
  | recoveryCode userId other =>
    rw [good_recoveryCode] at good ⊢
    exact Table.exists_modify (fun _ used => absurd used.2 (Option.some_ne_none now)) good
  | _ => exact good

theorem removing_deleteUserResetTokens (userId : Nat) : Removing (deleteUserResetTokens userId) := by
  apply removing_deletion
  intro vault secret good
  cases secret with
  | resetToken tokenHash =>
    rw [good_resetToken] at good ⊢
    exact Table.exists_keep good
  | _ => exact good

theorem removing_deleteUserChallenges (userId : Nat) : Removing (deleteUserChallenges userId) := by
  apply removing_deletion
  intro vault secret good
  cases secret with
  | challenge tokenHash =>
    rw [good_challenge] at good ⊢
    exact Table.exists_keep good
  | _ => exact good

theorem removing_deleteUserRecoveryCodes (userId : Nat) : Removing (deleteUserRecoveryCodes userId) := by
  apply removing_deletion
  intro vault secret good
  cases secret with
  | recoveryCode owner id =>
    rw [good_recoveryCode] at good ⊢
    exact Table.exists_keep good
  | _ => exact good

theorem removing_deleteLinkChallenge (userId : Nat) (codeHash : String) : Removing (deleteLinkChallenge userId codeHash) := by
  apply removing_deletion
  intro vault secret good
  cases secret with
  | linkCode owner other =>
    rw [good_linkCode] at good ⊢
    exact Table.exists_keep good
  | _ => exact good

theorem removing_deleteChallenge (tokenHash : String) : Removing (deleteChallenge tokenHash) := by
  apply removing_deletion
  intro vault secret good
  cases secret with
  | challenge other =>
    rw [good_challenge] at good ⊢
    exact Table.exists_delete good
  | _ => exact good

theorem removing_deleteUser (userId : Nat) : Removing (deleteUser userId) := by
  apply removing_deletion
  intro vault secret good
  cases secret with
  | linkCode owner codeHash =>
    rw [good_linkCode] at good ⊢
    exact Table.exists_delete good
  | _ => exact good

theorem spent_apply (removing : Removing statement) {secret : Secret} (spent : ¬ secret.good vault = true) :
    ¬ secret.good (statement.apply vault) = true := by
  rw [Statement.apply]
  cases ran : statement.run vault with
  | none => exact spent
  | some vault' =>
    intro good
    exact spent (removing vault vault' ran secret good)

end Spent

section Presented

variable {env : Platform} {vault : Vault} {secret : Secret} {statement : Stmt}

/-- After the statement the secret is spent, even when its row has gone. -/
def Spends (secret : Secret) (statement : Stmt) : Prop := ∀ rows, ¬ secret.good (statement.apply rows) = true

theorem spends_useResetToken (tokenHash : String) (now : Int) :
    Spends (.resetToken tokenHash) (useResetToken tokenHash now) := by
  intro rows good
  rw [good_resetToken] at good
  obtain ⟨row, found, unused⟩ := good
  cases stored : rows.resetTokens.find tokenHash with
  | none => simp [useResetToken, flushed, Statement.apply, stored] at found
  | some old =>
    simp [useResetToken, flushed, Statement.apply, stored, Vault.write, Table.find_modify] at found
    simp [← found] at unused

theorem spends_useRecoveryCode (userId id : Nat) (now : Int) :
    Spends (.recoveryCode userId id) (useRecoveryCode id now) := by
  intro rows good
  rw [good_recoveryCode] at good
  obtain ⟨row, found, _, unused⟩ := good
  cases stored : rows.recoveryCodes.find id with
  | none => simp [useRecoveryCode, flushed, Statement.apply, stored] at found
  | some old =>
    simp [useRecoveryCode, flushed, Statement.apply, stored, Vault.write, Table.find_modify] at found
    simp [← found] at unused

theorem spends_deleteUserRecoveryCodes (userId id : Nat) :
    Spends (.recoveryCode userId id) (deleteUserRecoveryCodes userId) := by
  intro rows good
  rw [good_recoveryCode] at good
  obtain ⟨row, found, owner, _⟩ := good
  have left : (rows.recoveryCodes.keep fun _ row => row.userId != userId).find id = some row := found
  rw [Table.find_keep, Option.filter_eq_some_iff] at left
  simp [owner] at left

theorem spends_deleteChallenge (tokenHash : String) : Spends (.challenge tokenHash) (deleteChallenge tokenHash) := by
  intro rows good
  rw [good_challenge] at good
  obtain ⟨row, found, _⟩ := good
  have left : (rows.mfaChallenges.delete tokenHash).find tokenHash = some row := found
  rw [Table.find_delete, if_pos rfl] at left
  contradiction

theorem spends_deleteLinkChallenge (userId : Nat) (codeHash : String) :
    Spends (.linkCode userId codeHash) (deleteLinkChallenge userId codeHash) := by
  intro rows good
  rw [good_linkCode] at good
  obtain ⟨row, found, same⟩ := good
  have left : (rows.linkChallenges.keep fun other row => !(other == userId && row.codeHash == codeHash)).find userId =
      some row := found
  rw [Table.find_keep, Option.filter_eq_some_iff] at left
  simp [same] at left

theorem consumeRecoveryCode_some {userId id : Nat} {code : String}
    (found : consumeRecoveryCode env vault userId code = some id) :
    (Secret.recoveryCode userId id).good vault = true := by
  unfold consumeRecoveryCode at found
  dsimp only at found
  split at found
  · contradiction
  · obtain ⟨row, stored, matching⟩ := (Table.mem_select ..).mp (List.mem_of_mem_head? found)
    simp only [Bool.and_eq_true, beq_iff_eq, Option.isNone_iff_eq_none] at matching
    exact good_recoveryCode.mpr ⟨row, stored, matching.1.1, matching.2⟩

structure Redeems (vault : Vault) (secrets : List Secret) (statements : List Stmt) : Prop where
  good : ∀ secret ∈ secrets, secret.good vault = true
  spends : ∀ secret ∈ secrets, ∃ statement ∈ statements, Spends secret statement
  removing : ∀ statement ∈ statements, Removing statement

theorem removing_revokeTokens (now : Int) (tokens : List String) :
    ∀ statement ∈ tokens.map (revokeToken now), Removing statement := by
  intro statement member
  obtain ⟨tokenHash, _, same⟩ := List.mem_map.mp member
  rw [← same]
  exact removing_revokeToken now tokenHash

theorem redeems_resetConfirm {userId : Nat} {token password : String} {all : List Write}
    (goes : Auth.resetConfirm env vault token password = .ok (userId, all)) :
    Redeems vault [.resetToken (env.hashSecret token)] (resetting env vault userId (env.hashSecret token) password) where
  good := by
    obtain ⟨row, _, found, unused, _⟩ := resetConfirm_ok goes
    simpa using good_resetToken.mpr ⟨row, found, unused⟩
  spends := by
    intro secret member
    rw [List.mem_singleton.mp member]
    exact ⟨_, List.mem_append_right _ List.mem_cons_self, spends_useResetToken _ _⟩
  removing := by
    simp only [resetting, List.forall_mem_append, List.forall_mem_cons]
    refine ⟨⟨⟨?_, ?_, ?_⟩, ?_⟩, ?_, ?_⟩
    · exact removing_deleteUserSessions userId
    · exact removing_updateUser userId _
    · intro _ nothing
      nomatch nothing
    · exact removing_revokeTokens env.now _
    · exact removing_useResetToken _ env.now
    · intro _ nothing
      nomatch nothing

theorem removing_entering (userId : Nat) (tokenHash : String) (fresh : Fresh) (ttlSec : Int) :
    ∀ statement ∈ entering env userId tokenHash fresh ttlSec, Removing statement := by
  simp only [entering, List.forall_mem_cons]
  refine ⟨?_, ?_, ?_⟩
  · exact removing_insertSession _ _ _ _ _
  · exact removing_deleteChallenge tokenHash
  · intro _ nothing
    nomatch nothing

theorem spends_entering (userId : Nat) (tokenHash : String) (fresh : Fresh) (ttlSec : Int) :
    ∃ statement ∈ entering env userId tokenHash fresh ttlSec, Spends (.challenge tokenHash) statement :=
  ⟨_, List.mem_cons_of_mem _ List.mem_cons_self, spends_deleteChallenge tokenHash⟩

theorem mfaEnter_good {userId : Nat} {challengeId : String} {proof : Nat → User → Option (List Write)} {fresh : Fresh}
    {all : List Write} (goes : mfaEnter env vault challengeId proof fresh = .ok (userId, all)) :
    (Secret.challenge (env.hashSecret (Text.strip challengeId))).good vault = true := by
  obtain ⟨⟨row, found, _⟩, _⟩ := mfaEnter_ok goes
  exact good_challenge.mpr ⟨row, found, trivial⟩

theorem redeems_mfaVerify {userId : Nat} {challengeId code : String} {fresh : Fresh} {all : List Write}
    (goes : Auth.mfaVerify env vault challengeId code fresh = .ok (userId, all)) (ttlSec : Int) :
    Redeems vault [.challenge (env.hashSecret (Text.strip challengeId))]
      (entering env userId (env.hashSecret (Text.strip challengeId)) fresh ttlSec) where
  good := by simpa using mfaEnter_good goes
  spends := by
    intro secret member
    rw [List.mem_singleton.mp member]
    exact spends_entering _ _ _ _
  removing := removing_entering _ _ _ _

theorem redeems_mfaRecover {userId id : Nat} {challengeId recoveryCode : String} {fresh : Fresh} {all : List Write}
    (goes : Auth.mfaRecover env vault challengeId recoveryCode fresh = .ok (userId, all))
    (used : consumeRecoveryCode env vault userId recoveryCode = some id) (ttlSec : Int) :
    Redeems vault [.challenge (env.hashSecret (Text.strip challengeId)), .recoveryCode userId id]
      (useRecoveryCode id env.now :: entering env userId (env.hashSecret (Text.strip challengeId)) fresh ttlSec) where
  good := by
    simp only [List.forall_mem_cons]
    refine ⟨mfaEnter_good goes, consumeRecoveryCode_some used, ?_⟩
    intro _ nothing
    nomatch nothing
  spends := by
    intro secret member
    rcases List.mem_cons.mp member with same | member
    · obtain ⟨spending, inside, spends⟩ :
        ∃ statement ∈ entering env userId (env.hashSecret (Text.strip challengeId)) fresh ttlSec,
          Spends (.challenge (env.hashSecret (Text.strip challengeId))) statement := spends_entering userId _ fresh ttlSec
      rw [same]
      exact ⟨spending, List.mem_cons_of_mem _ inside, spends⟩
    · rw [List.mem_singleton.mp member]
      exact ⟨_, List.mem_cons_self, spends_useRecoveryCode _ _ _⟩
  removing := by
    rw [List.forall_mem_cons]
    exact ⟨removing_useRecoveryCode id env.now, removing_entering _ _ _ _⟩

theorem good_of_second_factor {userId : Nat} {used : Option Nat}
    (taken : ∀ id, used = some id → (Secret.recoveryCode userId id).good vault = true) :
    ∀ secret ∈ used.toList.map (Secret.recoveryCode userId), secret.good vault = true := by
  intro secret member
  obtain ⟨id, inside, same⟩ := List.mem_map.mp member
  rw [← same]
  exact taken id (Option.mem_toList.mp inside)

theorem spends_of_second_factor {userId : Nat} {used : Option Nat} {statements : List Stmt}
    (deletes : deleteUserRecoveryCodes userId ∈ statements) :
    ∀ secret ∈ used.toList.map (Secret.recoveryCode userId), ∃ statement ∈ statements, Spends secret statement := by
  intro secret member
  obtain ⟨id, _, same⟩ := List.mem_map.mp member
  rw [← same]
  exact ⟨_, deletes, spends_deleteUserRecoveryCodes userId id⟩

theorem redeems_mfaDisable (userId : Nat) (user : User) (code : String) :
    Redeems vault ((secondFactorCode env vault userId user code).toList.map (.recoveryCode userId))
      (disabling env vault userId) where
  good := by
    apply good_of_second_factor
    intro id taken
    unfold secondFactorCode at taken
    split at taken
    · contradiction
    · exact consumeRecoveryCode_some taken
  spends := spends_of_second_factor (List.mem_append_left _ List.mem_cons_self)
  removing := by
    simp only [disabling, List.forall_mem_append, List.forall_mem_cons]
    refine ⟨⟨?_, ?_, ?_, ?_⟩, ?_⟩
    · exact removing_deleteUserRecoveryCodes userId
    · exact removing_deleteUserSessions userId
    · exact removing_updateUser userId _
    · intro _ nothing
      nomatch nothing
    · exact removing_revokeTokens env.now _

theorem accountDeleteStepUp_some {ctx : AuthContext} {password totpCode : Option String} {id : Nat}
    (passes : accountDeleteStepUp env vault ctx password totpCode = some (some id)) :
    (Secret.recoveryCode ctx.userId id).good vault = true := by
  unfold accountDeleteStepUp at passes
  rw [Option.ite_none_left_eq_some, Option.ite_none_left_eq_some] at passes
  obtain ⟨_, _, passes⟩ := passes
  split at passes
  · rw [Option.ite_none_left_eq_some] at passes
    obtain ⟨_, passes⟩ := passes
    split at passes
    · cases passes
    · obtain ⟨taken, used, same⟩ := Option.map_eq_some_iff.mp passes
      rw [← Option.some.inj same]
      exact consumeRecoveryCode_some used
  · cases passes

theorem redeems_accountDelete {ctx : AuthContext} {password totpCode : Option String} {used : Option Nat}
    (passes : accountDeleteStepUp env vault ctx password totpCode = some used) (removal : Removal) :
    Redeems vault (used.toList.map (.recoveryCode ctx.userId)) (deleting env ctx.userId used removal) where
  good := by
    apply good_of_second_factor
    intro id taken
    rw [taken] at passes
    exact accountDeleteStepUp_some passes
  spends := by
    apply spends_of_second_factor
    simp [deleting]
  removing := by
    have rest := removal.removing
    rw [List.forall_mem_append] at rest
    simp only [deleting, List.forall_mem_append, List.forall_mem_cons]
    refine ⟨⟨⟨?_, rest.1⟩, ?_, ?_, ?_, ?_, ?_, ?_, ?_⟩, rest.2⟩
    · split
      · intro statement member
        obtain ⟨id, _, same⟩ := List.mem_map.mp member
        rw [← same]
        exact removing_useRecoveryCode id env.now
      · intro _ nothing
        nomatch nothing
    · exact removing_deleteUserSessions ctx.userId
    · exact removing_deleteUserTokens ctx.userId
    · exact removing_deleteUserResetTokens ctx.userId
    · exact removing_deleteUserChallenges ctx.userId
    · exact removing_deleteUserRecoveryCodes ctx.userId
    · exact removing_deleteUser ctx.userId
    · intro _ nothing
      nomatch nothing

theorem consumeLinkCode_some {code telegramUserId codeHash : String} {userId : Nat}
    (taken : consumeLinkCode env vault code telegramUserId = some (userId, codeHash)) :
    (Secret.linkCode userId codeHash).good vault = true := by
  simp only [consumeLinkCode, Option.bind_eq_bind, Option.bind_eq_some_iff, Option.ite_none_right_eq_some] at taken
  obtain ⟨owner, selected, _, _, _, _, _, same⟩ := taken
  cases same
  obtain ⟨row, stored, matching⟩ := (Table.mem_select ..).mp (List.mem_of_mem_head? selected)
  exact good_linkCode.mpr ⟨row, stored, beq_iff_eq.mp matching⟩

theorem redeems_linkTelegram {code telegramUserId codeHash : String} {userId : Nat}
    (taken : consumeLinkCode env vault code telegramUserId = some (userId, codeHash)) (row : TelegramLink) :
    Redeems vault [.linkCode userId codeHash] (linking userId codeHash row) where
  good := by simpa using consumeLinkCode_some taken
  spends := by
    intro secret member
    rw [List.mem_singleton.mp member]
    exact ⟨_, by simp [linking], spends_deleteLinkChallenge userId codeHash⟩
  removing := by
    simp only [linking, List.forall_mem_cons]
    refine ⟨?_, ?_, ?_, ?_⟩
    · exact removing_deleteLink userId
    · exact removing_insertLink userId row
    · exact removing_deleteLinkChallenge userId codeHash
    · intro _ nothing
      nomatch nothing

theorem toOption_eq_some {E A : Type} {program : Except E A} {result : A} :
    program.toOption = some result ↔ program = .ok result := by
  cases program with
  | error failure => simp [Except.toOption]
  | ok value => simp [Except.toOption]

theorem handle_redeems {request : Request} {secrets : List Secret} {statements : List Stmt}
    (passes : handle env vault request = some (secrets, statements)) : Redeems vault secrets statements := by
  cases request with
  | resetConfirm token password =>
    simp only [handle, Option.bind_eq_bind, Option.bind_eq_some_iff, toOption_eq_some, Prod.exists] at passes
    obtain ⟨userId, all, goes, same⟩ := passes
    cases same
    exact redeems_resetConfirm goes
  | mfaVerify challengeId code fresh =>
    simp only [handle, Option.bind_eq_bind, Option.bind_eq_some_iff, toOption_eq_some, Prod.exists] at passes
    obtain ⟨userId, all, goes, ttlSec, _, same⟩ := passes
    cases same
    exact redeems_mfaVerify goes ttlSec
  | mfaRecover challengeId recoveryCode fresh =>
    simp only [handle, Option.bind_eq_bind, Option.bind_eq_some_iff, toOption_eq_some, Prod.exists] at passes
    obtain ⟨userId, all, goes, id, used, ttlSec, _, same⟩ := passes
    cases same
    exact redeems_mfaRecover goes used ttlSec
  | mfaDisable headers password code =>
    simp only [handle, Option.bind_eq_bind, Option.bind_eq_some_iff, toOption_eq_some, Prod.exists] at passes
    obtain ⟨ctx, db, _, all, _, same⟩ := passes
    cases same
    exact redeems_mfaDisable ctx.userId ctx.user code
  | accountDelete headers password totpCode removal =>
    simp only [handle, Option.bind_eq_bind, Option.bind_eq_some_iff, toOption_eq_some, Prod.exists] at passes
    obtain ⟨ctx, db, _, used, stepped, rest, _, same⟩ := passes
    cases same
    exact redeems_accountDelete stepped rest
  | linkTelegram code telegramUserId chatId instanceBotId =>
    simp only [handle, Option.bind_eq_bind, Option.bind_eq_some_iff, Prod.exists] at passes
    obtain ⟨userId, codeHash, taken, same⟩ := passes
    cases same
    exact redeems_linkTelegram taken _

theorem plan_redeems {call : Call secret} {statements : List Stmt} (planned : plan secret call vault = some (true, statements)) :
    ∃ secrets, secret ∈ secrets ∧ Redeems vault secrets statements := by
  cases call with
  | present env request =>
    obtain ⟨⟨secrets, all⟩, passes, rest⟩ := Option.bind_eq_some_iff.mp planned
    rw [Option.ite_none_right_eq_some] at rest
    obtain ⟨presented, same⟩ := rest
    cases same
    exact ⟨secrets, presented, handle_redeems passes⟩
  | other all leaves =>
    obtain ⟨_, _, same⟩ := Option.map_eq_some_iff.mp planned
    cases same

theorem plan_other {call : Call secret} {statements : List Stmt} (planned : plan secret call vault = some (false, statements)) :
    ∀ statement ∈ statements, ∀ rows, secret.good (statement.apply rows) = secret.good rows := by
  cases call with
  | present env request =>
    obtain ⟨_, _, rest⟩ := Option.bind_eq_some_iff.mp planned
    rw [Option.ite_none_right_eq_some] at rest
    cases rest.2
  | other all leaves =>
    obtain ⟨found, taken, same⟩ := Option.map_eq_some_iff.mp planned
    cases same
    exact leaves vault statements taken

theorem redeeming (secret : Secret) : Redeeming (plan secret) fun vault => secret.good vault = true where
  checks request rows statements planned := by
    obtain ⟨secrets, presented, redeems⟩ := plan_redeems planned
    exact redeems.good secret presented
  spends request rows statements planned := by
    obtain ⟨secrets, presented, redeems⟩ := plan_redeems planned
    exact redeems.spends secret presented
  final request rows redeemed statements planned statement member vault spent := by
    cases redeemed with
    | true =>
      obtain ⟨secrets, _, redeems⟩ := plan_redeems planned
      exact spent_apply (redeems.removing statement member) spent
    | false =>
      rw [plan_other planned statement member vault]
      exact spent
  others request rows statements planned statement member vault good := by
    rw [plan_other planned statement member vault]
    exact good

end Presented

/-- Whatever the order of the requests' statements, a secret is accepted once when, and only when, each
request that presents it finds it good at its commit, as it did at its check. -/
theorem accepted_once_iff (secret : Secret) (start : Vault) (events : List (ReadCommitted.Event (Call secret))) :
    Always (Server.step (plan secret)) (Server.RedeemedOnce start) (Server.opening start) events ↔
      Along (Server.step (plan secret)) (Server.StillGood fun vault => secret.good vault = true)
        (Server.opening start) events :=
  spent_once_iff (redeeming secret) start events

def secretsVault : Vault :=
  { sampleVault with
    users := Table.put ∅ 1 { sampleUser with totpSecret := some "123456", totpEnabledAt := some 0 }
    resetTokens := Table.put ∅ "reset" ⟨1, 60, none, 0⟩
    mfaChallenges := Table.put ∅ "challenge" ⟨1, 60⟩
    recoveryCodes := Table.put ∅ 1 ⟨1, "ABCD", none⟩
    linkChallenges := Table.put ∅ 1 ⟨"telegram-link:ABCDEFGH", 60⟩ }

def bothPresent (secret : Secret) (first second : Request) (statements : Nat) : List (ReadCommitted.Event (Call secret)) :=
  [.start 1 (.present samplePlatform first), .start 2 (.present samplePlatform second)] ++
    List.replicate statements (.execute 1) ++ [.commit 1] ++ List.replicate statements (.execute 2) ++ [.commit 2]

def acceptedTwice (secret : Secret) (first second : Request) (statements : Nat) : Prop :=
  (run (Server.step (plan secret)) (Server.opening secretsVault)
    (bothPresent secret first second statements)).redemptions.length = 2

theorem not_always_of_twice {secret : Secret} {first second : Request} {statements : Nat}
    (twice : acceptedTwice secret first second statements) :
    ¬ Always (Server.step (plan secret)) (Server.RedeemedOnce secretsVault) (Server.opening secretsVault)
      (bothPresent secret first second statements) := by
  intro always
  have once := (always (bothPresent secret first second statements) [] (List.append_nil _).symm).once
  have two : _ = 2 := twice
  omega

theorem accepted_twice :
    (¬ Always (Server.step (plan (.resetToken "reset"))) (Server.RedeemedOnce secretsVault) (Server.opening secretsVault)
      (bothPresent _ (.resetConfirm "reset" "first") (.resetConfirm "reset" "second") 3)) ∧
    (¬ Always (Server.step (plan (.challenge "challenge"))) (Server.RedeemedOnce secretsVault) (Server.opening secretsVault)
      (bothPresent _ (.mfaVerify "challenge" "123456" sampleFresh)
        (.mfaVerify "challenge" "123456" { sampleFresh with sessionId := 8 }) 2)) ∧
    (¬ Always (Server.step (plan (.recoveryCode 1 1))) (Server.RedeemedOnce secretsVault) (Server.opening secretsVault)
      (bothPresent _ (.mfaRecover "challenge" "ABCD" sampleFresh)
        (.mfaRecover "challenge" "ABCD" { sampleFresh with sessionId := 8 }) 3)) ∧
    (¬ Always (Server.step (plan (.linkCode 1 "telegram-link:ABCDEFGH"))) (Server.RedeemedOnce secretsVault)
      (Server.opening secretsVault)
      (bothPresent _ (.linkTelegram "ABCD-EFGH" "10" "10" none) (.linkTelegram "ABCD-EFGH" "20" "20" none) 3)) := by
  refine ⟨?_, ?_, ?_, ?_⟩
  all_goals apply not_always_of_twice
  · show List.length _ = 2
    decide +kernel
  · show List.length _ = 2
    decide +kernel
  · show List.length _ = 2
    decide +kernel
  · show List.length _ = 2
    decide +kernel

end IdigestHub.Auth.OneTime
