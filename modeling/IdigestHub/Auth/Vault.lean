import IdigestHub.Auth.Contexts
import IdigestHub.Foundation.Fallible
import IdigestHub.OAuth.Exchange

/-! The rows behind every kind of credential, and the writes that requests make to them. -/

set_option autoImplicit false

namespace IdigestHub.Auth

open Foundation Sessions

/-- A row of the password resets, under its `token_hash`. -/
structure PasswordResetToken where
  userId : Nat
  expiresAt : Int
  usedAt : Option Int
  createdAt : Int

/-- A row of the MFA challenges, under its `token_hash`. -/
structure MfaChallenge where
  userId : Nat
  expiresAt : Int

structure RecoveryCode where
  userId : Nat
  codeHash : String
  usedAt : Option Int
  deriving DecidableEq

/-- A row of the Telegram link codes, under the user's id. -/
structure TelegramLinkChallenge where
  codeHash : String
  expiresAt : Int
  deriving DecidableEq

structure Vault extends Db where
  resetTokens : Table String PasswordResetToken
  mfaChallenges : Table String MfaChallenge
  recoveryCodes : Table Nat RecoveryCode
  clients : Table String OAuth.OAuthClient
  codes : Table String OAuth.AuthorizationCode
  refreshTokens : Table String OAuth.RefreshToken
  linkChallenges : Table Nat TelegramLinkChallenge

/-- One statement that a request sends, or one object that it flushes. -/
inductive Write where
  | insertUser (id : Nat) (user : User)
  | updateUser (id : Nat) (user : User)
  | insertMembership (userId : Nat) (membership : Membership)
  | insertSession (id userId : Nat) (tokenHash : String) (ttlSec now : Int)
  | deleteUserSessions (userId : Nat)
  | deleteSession (tokenHash : String)
  | setImpersonate (record : SessionRecord) (target : Option Nat)
  | insertApiToken (tokenHash : String) (userId : Nat)
  | revokeUserTokens (userId : Nat) (now : Int)
  | revokeApiToken (tokenHash : String) (now : Int)
  | insertCode (codeHash : String) (row : OAuth.AuthorizationCode)
  | useCode (codeHash : String) (now : Nat)
  | insertRefreshToken (row : OAuth.RefreshToken)
  | insertResetToken (tokenHash : String) (row : PasswordResetToken)
  | useResetToken (tokenHash : String) (now : Int)
  | deleteUserChallenges (userId : Nat)
  | insertChallenge (tokenHash : String) (row : MfaChallenge)
  | deleteChallenge (tokenHash : String)
  | deleteUserRecoveryCodes (userId : Nat)
  | insertRecoveryCode (id : Nat) (row : RecoveryCode)
  | useRecoveryCode (id : Nat) (now : Int)
  | replaceLinkChallenge (userId : Nat) (row : TelegramLinkChallenge)
  | deleteLink (userId : Nat)

namespace Vault

def write (vault : Vault) : Write → Vault
  | .insertUser id user | .updateUser id user => { vault with users := vault.users.put id user }
  | .insertMembership userId membership => { vault with memberships := vault.memberships.put userId membership }
  | .insertSession id userId tokenHash ttlSec now =>
    { vault with sessions := DbSessionStore.create vault.sessions id userId tokenHash ttlSec now }
  | .deleteUserSessions userId => { vault with sessions := DbSessionStore.deleteUserSessions vault.sessions userId }
  | .deleteSession tokenHash => { vault with sessions := DbSessionStore.deleteByRawToken vault.sessions tokenHash }
  | .setImpersonate record target =>
    { vault with sessions := (DbSessionStore.setImpersonate vault.sessions record target).1 }
  | .insertApiToken tokenHash userId => { vault with apiTokens := vault.apiTokens.put tokenHash ⟨userId, none⟩ }
  | .revokeUserTokens userId now =>
    { vault with apiTokens := vault.apiTokens.mapRows fun _ token =>
        if token.userId = userId ∧ token.revokedAt = none then { token with revokedAt := some now } else token }
  | .revokeApiToken tokenHash now =>
    { vault with apiTokens := vault.apiTokens.modify tokenHash fun token => { token with revokedAt := some now } }
  | .insertCode codeHash row => { vault with codes := vault.codes.put codeHash row }
  | .useCode codeHash now => { vault with codes := vault.codes.modify codeHash fun row => { row with usedAt := some now } }
  | .insertRefreshToken row => { vault with refreshTokens := vault.refreshTokens.put row.tokenHash row }
  | .insertResetToken tokenHash row => { vault with resetTokens := vault.resetTokens.put tokenHash row }
  | .useResetToken tokenHash now =>
    { vault with resetTokens := vault.resetTokens.modify tokenHash fun row => { row with usedAt := some now } }
  | .deleteUserChallenges userId =>
    { vault with mfaChallenges := vault.mfaChallenges.keep fun _ row => row.userId != userId }
  | .insertChallenge tokenHash row => { vault with mfaChallenges := vault.mfaChallenges.put tokenHash row }
  | .deleteChallenge tokenHash => { vault with mfaChallenges := vault.mfaChallenges.delete tokenHash }
  | .deleteUserRecoveryCodes userId =>
    { vault with recoveryCodes := vault.recoveryCodes.keep fun _ row => row.userId != userId }
  | .insertRecoveryCode id row => { vault with recoveryCodes := vault.recoveryCodes.put id row }
  | .useRecoveryCode id now =>
    { vault with recoveryCodes := vault.recoveryCodes.modify id fun row => { row with usedAt := some now } }
  | .replaceLinkChallenge userId row => { vault with linkChallenges := vault.linkChallenges.put userId row }
  | .deleteLink userId =>
    { vault with
      telegramLinks := vault.telegramLinks.delete userId
      linkChallenges := vault.linkChallenges.delete userId }

def writes (vault : Vault) (all : List Write) : Vault := all.foldl write vault

@[simp] theorem writes_nil (vault : Vault) : vault.writes [] = vault := rfl

@[simp] theorem writes_cons (vault : Vault) (first : Write) (rest : List Write) :
    vault.writes (first :: rest) = (vault.write first).writes rest := rfl

theorem writes_append (vault : Vault) (first second : List Write) :
    vault.writes (first ++ second) = (vault.writes first).writes second := List.foldl_append ..

def revokeUserAuth (now : Int) (userId : Nat) : List Write := [.deleteUserSessions userId, .revokeUserTokens userId now]

def disableTotp (userId : Nat) (user : User) : List Write :=
  [.updateUser userId { user with totpSecret := none, totpEnabledAt := none }, .deleteUserRecoveryCodes userId]

def userByEmail (vault : Vault) (email : String) : Option (Nat × User) := do
  let id ← (vault.users.select fun _ user => user.email == email).head?
  let user ← vault.users.find id
  some (id, user)

end Vault

/-- What the requests take from elsewhere besides `Env`: the text functions of the language, the digests
of passwords and codes, and the configuration. -/
structure Platform extends Env where
  lower : String → String
  upper : String → String
  isDigits : String → Bool
  verifyPassword : String → String → Bool
  hashPassword : String → String
  totpVerify : String → String → Bool
  /-- The address that the validation of a JSON body makes of an e-mail field. -/
  emailStr : String → Option String
  /-- The rate limits other than those of the logins let the request pass. -/
  passes : Bool
  smtpConfigured : Bool
  telegramConfigured : Bool
  /-- `validate_authorize_params` of a client, a redirection and a challenge: the scopes and the resource. -/
  authorizeParams : String → String → String → Option (List String × String)
  authCodeTtl : Nat
  accessTokenTtl : Nat
  refreshTokenTtl : Nat
  challengeOf : String → String

/-- The ids and the random texts that a request draws. -/
structure Fresh where
  userId : Nat
  sessionId : Nat
  token : String
  password : String
  recoveryCodes : Nat → Nat × String

/-- An `INSERT` under a key that is taken fails. -/
def unused {K R : Type} [DecidableEq K] (table : Table K R) (key : K) : Except Refusal Unit :=
  if (table.find key).isSome then .error (.fault "IntegrityError") else .ok ()

def createSession (env : Platform) (vault : Vault) (userId : Nat) (fresh : Fresh) : Except Refusal Write := do
  let ttlSec ← sessionTtlSec vault.settings
  unused vault.sessions fresh.sessionId
  .ok (.insertSession fresh.sessionId userId (env.hashSecret fresh.token) ttlSec env.now)

theorem unused_ok {K R : Type} [DecidableEq K] {table : Table K R} {key : K} :
    unused table key = .ok () ↔ table.find key = none := by
  rw [unused]
  cases found : table.find key with
  | none => simp
  | some row => simp

theorem createSession_ok {env : Platform} {vault : Vault} {userId : Nat} {fresh : Fresh} {session : Write}
    (created : createSession env vault userId fresh = .ok session) :
    vault.sessions.find fresh.sessionId = none ∧ ∃ ttlSec, sessionTtlSec vault.settings = .ok ttlSec ∧
      session = .insertSession fresh.sessionId userId (env.hashSecret fresh.token) ttlSec env.now := by
  simp only [createSession, Fallible.bind_ok] at created
  obtain ⟨ttlSec, ttl, _, free, rest⟩ := created
  exact ⟨unused_ok.mp free, ttlSec, ttl, (Except.ok.inj rest).symm⟩

/-- `email.strip().lower()`. -/
def normEmail (env : Platform) (email : String) : String := env.lower (Text.strip email)

/-! ## Sample values -/

def samplePlatform : Platform where
  toEnv := sampleEnv
  lower := id
  upper := id
  isDigits := fun text => text.toList.all Char.isDigit
  verifyPassword := fun password digest => password == digest
  hashPassword := id
  totpVerify := fun secret code => secret == code
  emailStr := some
  passes := true
  smtpConfigured := true
  telegramConfigured := true
  authorizeParams := fun _ _ _ => some ([], "https://hub/mcp")
  authCodeTtl := 600
  accessTokenTtl := 3600
  refreshTokenTtl := 86400
  challengeOf := id

def sampleFresh : Fresh := ⟨6, 7, "token", "password", fun i => (i, toString i)⟩

def sampleVault : Vault where
  users := ∅
  orgs := ∅
  memberships := ∅
  apiTokens := ∅
  sessions := ∅
  telegramLinks := ∅
  settings := ⟨some "https://hub", none, fun _ => ⟨none, none, none, 0⟩⟩
  resetTokens := ∅
  mfaChallenges := ∅
  recoveryCodes := ∅
  clients := ∅
  codes := ∅
  refreshTokens := ∅
  linkChallenges := ∅

end IdigestHub.Auth
