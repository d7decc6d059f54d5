import IdigestHub.Auth.Endpoints
import IdigestHub.Auth.Lockouts

/-! Requests as the endpoints receive them: those of signed-in users, which pass
`require_auth` first, and those that anyone may send. -/

set_option autoImplicit false

namespace IdigestHub.Auth

open Foundation Foundation.Fallible Sessions

structure Headers where
  authorization : String
  sessionCookie : Option String
  csrfCookie : Option String
  csrfHeader : Option String

/-- A request of a signed-in user. `look` stands for every endpoint that changes no credential. -/
inductive SignedCall where
  | look (method : Method) (path : List Char)
  | changePassword (current : Option String) (new : String)
  | createToken (totpCode : Option String)
  | revokeToken (tokenHash : String)
  | telegramLink
  | telegramUnlink
  | mfaSetupStart
  | mfaSetupConfirm (code : String)
  | mfaDisable (password code : String)
  | disableUser (userId : Nat)
  | enableUser (userId : Nat)
  | resetUserPassword (userId : Nat)
  | resetUserMfa (userId : Nat)
  | resetOrgAdminPassword (orgId userId : Nat)
  | resetOrgUserMfa (orgId userId : Nat)
  | impersonate (target : Nat)
  | stopImpersonate

namespace SignedCall

def orgUserPath (userId : Nat) (last : String) : List Char :=
  "/api/v1/org/users/".toList ++ (toString userId).toList ++ last.toList

def instanceUserPath (orgId userId : Nat) (last : String) : List Char :=
  "/api/v1/orgs/".toList ++ (toString orgId).toList ++ "/users/".toList ++ (toString userId).toList ++ last.toList

def endpoint : SignedCall → Method × List Char
  | look method path => (method, path)
  | changePassword .. => (.post, "/api/v1/auth/password/change".toList)
  | createToken _ => (.post, "/api/v1/auth/tokens".toList)
  | revokeToken tokenHash => (.delete, "/api/v1/auth/tokens/".toList ++ tokenHash.toList)
  | telegramLink => (.post, "/api/v1/me/telegram/link".toList)
  | telegramUnlink => (.delete, "/api/v1/me/telegram".toList)
  | mfaSetupStart => (.post, "/api/v1/auth/mfa/setup/start".toList)
  | mfaSetupConfirm _ => (.post, "/api/v1/auth/mfa/setup/confirm".toList)
  | mfaDisable .. => (.post, "/api/v1/auth/mfa/disable".toList)
  | disableUser userId => (.post, orgUserPath userId "/disable")
  | enableUser userId => (.post, orgUserPath userId "/enable")
  | resetUserPassword userId => (.post, orgUserPath userId "/reset-password")
  | resetUserMfa userId => (.post, orgUserPath userId "/reset-mfa")
  | resetOrgAdminPassword orgId userId => (.post, instanceUserPath orgId userId "/reset-password")
  | resetOrgUserMfa orgId userId => (.post, instanceUserPath orgId userId "/reset-mfa")
  | impersonate _ => (.post, "/api/v1/impersonate".toList)
  | stopImpersonate => (.delete, "/api/v1/impersonate".toList)

def request (call : SignedCall) (headers : Headers) : Request where
  method := call.endpoint.1
  path := call.endpoint.2
  authorization := headers.authorization
  sessionCookie := headers.sessionCookie
  csrfCookie := headers.csrfCookie
  csrfHeader := headers.csrfHeader

def handle (env : Platform) (vault : Vault) (ctx : AuthContext) (fresh : Fresh) : SignedCall → Except Refusal (List Write)
  | look .. => .ok []
  | changePassword current new => Auth.changePassword env vault ctx fresh current new
  | createToken totpCode => Auth.createToken env vault ctx fresh totpCode
  | revokeToken tokenHash => Auth.revokeToken env vault ctx tokenHash
  | telegramLink => Auth.telegramLink env ctx fresh
  | telegramUnlink => Auth.telegramUnlink ctx
  | mfaSetupStart => Auth.mfaSetupStart ctx fresh
  | mfaSetupConfirm code => Auth.mfaSetupConfirm env vault ctx fresh code
  | mfaDisable password code => Auth.mfaDisable env vault ctx password code
  | disableUser userId => Auth.disableUser env vault ctx userId
  | enableUser userId => Auth.enableUser vault ctx userId
  | resetUserPassword userId => Auth.resetUserPassword env vault ctx fresh userId
  | resetUserMfa userId => Auth.resetUserMfa env vault ctx userId
  | resetOrgAdminPassword orgId userId => Auth.resetOrgAdminPassword env vault ctx fresh orgId userId
  | resetOrgUserMfa orgId userId => Auth.resetOrgUserMfa env vault ctx orgId userId
  | impersonate target => Auth.impersonate vault ctx target
  | stopImpersonate => Auth.stopImpersonate vault ctx

end SignedCall

/-- What a signed-in request has come to: its context, the rows with its session touched, its writes. -/
structure Served where
  ctx : AuthContext
  vault : Vault
  all : List Write

def Served.after (served : Served) : Vault := served.vault.writes served.all

def serveSigned (env : Platform) (vault : Vault) (headers : Headers) (fresh : Fresh) (call : SignedCall) :
    Except Refusal Served := do
  let (ctx, db) ← requireAuth env.toEnv vault.toDb (call.request headers)
  let touched : Vault := { vault with toDb := db }
  let all ← call.handle env touched ctx fresh
  .ok ⟨ctx, touched, all⟩

/-- A request that needs no context of `require_auth`. -/
inductive OpenCall where
  | login (email password : String)
  | oauthLogin (email password : String)
  | mfaVerify (challengeId code : String)
  | mfaRecover (challengeId recoveryCode : String)
  | resetRequest (email : String)
  | resetConfirm (token password : String)
  | authorize (headers : Headers) (form : AuthorizeForm)
  | exchange (request : OAuth.CodeRequest)
  | refresh (request : RefreshRequest)
  | ssoCallback (codec : StateCodec) (provider : IdentityProvider) (orgId : Nat) (code state : Option String)
  | logout (headers : Headers)

/-- What such a request has come to: the context that it acted in, or the user whom its secret stands
for; the rows with the session touched; its writes. -/
structure Opened where
  ctx : Option AuthContext
  subject : Option Nat
  vault : Vault
  all : List Write

def Opened.after (opened : Opened) : Vault := opened.vault.writes opened.all

def Headers.request (headers : Headers) (method : Method) (path : String) : Request :=
  ⟨method, path.toList, headers.authorization, headers.sessionCookie, headers.csrfCookie, headers.csrfHeader⟩

def logout (env : Platform) (headers : Headers) : List Write :=
  match headers.sessionCookie.filter (· != "") with
  | none => []
  | some token => [.deleteSession (env.hashSecret token)]

def serveOpen (env : Platform) (vault : Vault) (fresh : Fresh) : OpenCall → Except Refusal Opened
  | .login email password =>
    match env.emailStr email with
    | none => .error (.error .validationError)
    | some address =>
      if !env.passes then .error (.error .rateLimited)
      else (login env vault (normEmail env address) password fresh).map fun done => ⟨none, none, vault, done.2⟩
  | .oauthLogin email password => (oauthLogin env vault email password fresh).map fun done => ⟨none, none, vault, done.2⟩
  | .mfaVerify challengeId code =>
    (mfaVerify env vault challengeId code fresh).map fun done => ⟨none, some done.1, vault, done.2⟩
  | .mfaRecover challengeId recoveryCode =>
    (mfaRecover env vault challengeId recoveryCode fresh).map fun done => ⟨none, some done.1, vault, done.2⟩
  | .resetRequest email => (resetRequest env vault email fresh).map fun all => ⟨none, none, vault, all⟩
  | .resetConfirm token password =>
    (resetConfirm env vault token password).map fun done => ⟨none, some done.1, vault, done.2⟩
  | .authorize headers form => do
    let (ctx, db) ← resolveAuth env.toEnv vault.toDb (headers.request .post "/oauth/authorize")
    let touched : Vault := { vault with toDb := db }
    let all ← authorizeConfirm env touched fresh ctx form
    .ok ⟨ctx, none, touched, all⟩
  | .exchange request => (exchange env vault fresh request).map fun done => ⟨none, some done.1, vault, done.2⟩
  | .refresh request => (refreshAccessToken env vault fresh request).map fun userId => ⟨none, some userId, vault, []⟩
  | .ssoCallback codec provider orgId code state =>
    (ssoCallback env codec provider vault orgId code state fresh).map fun done => ⟨none, none, vault, done.2⟩
  | .logout headers => do
    let (ctx, db) ← resolveAuth env.toEnv vault.toDb (headers.request .post "/api/v1/auth/logout")
    .ok ⟨ctx, none, { vault with toDb := db }, logout env headers⟩

/-- What the other requests change: organizations, memberships and settings, the documents that users
have accepted, and users that are new. -/
structure Elsewhere where
  orgs : Table Nat Organization
  memberships : Table Nat Membership
  settings : InstanceSettings
  acceptedVersion : Nat → LegalDocumentKey → Option Int
  registered : List (Nat × User)

/-- New users come under ids that are free. -/
def register (users : Table Nat User) (registered : List (Nat × User)) : Table Nat User :=
  registered.foldl (fun users entry => if (users.find entry.1).isSome then users else users.put entry.1 entry.2) users

def Vault.elsewhere (vault : Vault) (changes : Elsewhere) : Vault :=
  { vault with
    orgs := changes.orgs
    memberships := changes.memberships
    settings := changes.settings
    users := register (vault.users.mapRows fun id user => { user with acceptedVersion := changes.acceptedVersion id })
      changes.registered }

theorem find_register {users : Table Nat User} {userId : Nat} {user : User} (known : users.find userId = some user)
    (registered : List (Nat × User)) : (register users registered).find userId = some user := by
  unfold register
  induction registered generalizing users with
  | nil => exact known
  | cons entry rest ih =>
    apply ih
    dsimp only
    split
    · exact known
    · rename_i free
      by_cases same : userId = entry.1
      · subst same
        simp [known] at free
      · rw [Table.find_put, if_neg same, known]

theorem Vault.find_elsewhere {vault : Vault} {userId : Nat} {user : User} (known : vault.users.find userId = some user)
    (changes : Elsewhere) : (vault.elsewhere changes).users.find userId =
      some { user with acceptedVersion := changes.acceptedVersion userId } := by
  apply find_register
  rw [Table.find_mapRows, known]
  rfl

section Owners

def SameOwners (before after : DbSessionStore) : Prop :=
  ∀ id, (Table.find after id).map sessionOwner = (Table.find before id).map sessionOwner

theorem SameOwners.refl (rows : DbSessionStore) : SameOwners rows rows := fun _ => rfl

theorem SameOwners.exists {before after : DbSessionStore} (same : SameOwners before after) {id : Nat} {owner : Nat × String}
    (found : ∃ row, Table.find after id = some row ∧ sessionOwner row = owner) :
    ∃ row, Table.find before id = some row ∧ sessionOwner row = owner := by
  rw [← Option.map_eq_some_iff] at found ⊢
  exact (same id).symm.trans found

theorem SameOwners.trans {first second third : DbSessionStore} (one : SameOwners first second)
    (two : SameOwners second third) : SameOwners first third := fun id => (two id).trans (one id)

theorem SameOwners.modify {rows : DbSessionStore} {id : Nat} {f : AuthSession → AuthSession}
    (same : ∀ row, sessionOwner (f row) = sessionOwner row) : SameOwners rows (Table.modify rows id f) := by
  intro other
  rw [Table.find_modify]
  split
  · rename_i here
    subst here
    cases Table.find rows other with
    | none => rfl
    | some row => exact congrArg some (same row)
  · rfl

theorem SameOwners.touch (rows : DbSessionStore) (record : SessionRecord) (ttlSec now : Int) :
    SameOwners rows (DbSessionStore.touch rows record ttlSec now).1 := by
  unfold DbSessionStore.touch
  split
  · exact .modify fun _ => rfl
  · exact .refl rows

theorem SameOwners.setImpersonate (rows : DbSessionStore) (record : SessionRecord) (target : Option Nat) :
    SameOwners rows (DbSessionStore.setImpersonate rows record target).1 := by
  unfold DbSessionStore.setImpersonate
  split
  · exact .modify fun _ => rfl
  · exact .refl rows

theorem SameOwners.effectiveUser (db : Db) (record : SessionRecord) (login : User) :
    SameOwners db.sessions (effectiveUser db record login).2.2.2 := by
  unfold Auth.effectiveUser
  dsimp only
  split
  · exact .refl _
  · split
    · exact .setImpersonate _ _ _
    · exact .refl _

theorem cookieContext_owners {env : Env} {db after : Db} {request : Request} {found : Option AuthContext}
    (resolved : cookieContext env db request = .ok (found, after)) : SameOwners db.sessions after.sessions := by
  unfold cookieContext at resolved
  split at resolved
  · cases resolved; exact .refl _
  · split at resolved
    · cases resolved; exact .refl _
    · rename_i record _
      split at resolved
      · cases resolved; exact .refl _
      · rename_i login _
        dsimp only at resolved
        obtain ⟨ttl, _, same⟩ := map_ok.mp resolved
        cases same
        exact (SameOwners.effectiveUser db record login).trans (.touch _ _ _ _)

theorem resolveAuth_owners {env : Env} {db after : Db} {request : Request} {found : Option AuthContext}
    (resolved : resolveAuth env db request = .ok (found, after)) : SameOwners db.sessions after.sessions := by
  unfold resolveAuth at resolved
  split at resolved
  · obtain ⟨_, _, same⟩ := map_ok.mp resolved
    cases same
    exact .refl _
  · exact cookieContext_owners resolved

end Owners

section Authenticated

variable {env : Platform} {vault : Vault} {headers : Headers} {fresh : Fresh} {call : SignedCall} {served : Served}

theorem serveSigned_of {ctx : AuthContext} {db : Db} {all : List Write}
    (accepted : requireAuth env.toEnv vault.toDb (call.request headers) = .ok (ctx, db))
    (handled : call.handle env { vault with toDb := db } ctx fresh = .ok all) :
    serveSigned env vault headers fresh call = .ok ⟨ctx, { vault with toDb := db }, all⟩ := by
  simp only [serveSigned, bind_ok, Prod.exists]
  exact ⟨ctx, db, accepted, all, handled, rfl⟩

/-- A request that is served was authenticated by rows of the database, and touched sessions only. -/
theorem serveSigned_ok (goes : serveSigned env vault headers fresh call = .ok served) :
    requireAuth env.toEnv vault.toDb (call.request headers) = .ok (served.ctx, served.vault.toDb) ∧
      Resolved env.toEnv vault.toDb served.ctx ∧ (∃ sessions, served.vault = { vault with sessions }) ∧
      call.handle env served.vault served.ctx fresh = .ok served.all := by
  simp only [serveSigned, bind_ok, Prod.exists] at goes
  obtain ⟨ctx, db, accepted, all, handled, same⟩ := goes
  cases same
  obtain ⟨proper, sessions, rfl⟩ := resolveAuth_ok (requireAuth_ok accepted)
  exact ⟨accepted, proper, ⟨sessions, rfl⟩, handled⟩

theorem Served.reflects (goes : serveSigned env vault headers fresh call = .ok served) :
    Reflects served.vault.toDb served.ctx := by
  obtain ⟨_, proper, ⟨sessions, same⟩, _⟩ := serveSigned_ok goes
  rw [same]
  exact ⟨proper.reflects.row, proper.reflects.org, proper.reflects.membership⟩

end Authenticated

end IdigestHub.Auth
