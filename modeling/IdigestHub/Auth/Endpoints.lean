import IdigestHub.Auth.SingleSignOn

/-! The endpoints that sign users in, and those that issue, change and revoke credentials:
what each checks, and what it writes. -/

set_option autoImplicit false

namespace IdigestHub.Auth

open Foundation Foundation.Fallible Sessions

/-- How a sign-in ends: in a session, or in an MFA challenge. -/
inductive Entry where
  | session (userId : Nat)
  | challenge (userId : Nat)
  deriving DecidableEq

section Codes

/-- `(code or "").strip().replace(" ", "")`. -/
def withoutSpaces (code : String) : String := .ofList ((Text.strip code).toList.filter (· != ' '))

def verifyCode (env : Platform) (secret code : String) : Bool :=
  let normalized := withoutSpaces code
  env.isDigits normalized && normalized.length == 6 && env.totpVerify secret normalized

def verifyUserTotp (env : Platform) (user : User) (code : String) : Bool :=
  (user.totpSecret.filter (· != "")).any fun secret => verifyCode env secret code

def consumeRecoveryCode (env : Platform) (vault : Vault) (userId : Nat) (code : String) : Option Nat :=
  let normalized := env.upper (withoutSpaces code)
  if normalized = "" then none
  else (vault.recoveryCodes.select fun _ row =>
    row.userId == userId && row.codeHash == env.hashSecret normalized && row.usedAt.isNone).head?

def mfaRecoveryCodeCount : Nat := 8

/-- The rows of `confirm_totp_setup`. -/
def newRecoveryCodes (env : Platform) (userId : Nat) (fresh : Fresh) : List (Nat × RecoveryCode) :=
  (List.range mfaRecoveryCodeCount).map fun i =>
    ((fresh.recoveryCodes i).1, ⟨userId, env.hashSecret (fresh.recoveryCodes i).2, none⟩)

end Codes

section Entrances

/-- The user with a password to check, after the checks that both logins share. -/
def loginUser (vault : Vault) (email : String) : Option (Nat × User) :=
  (vault.userByEmail email).filter fun found => found.2.enabled && found.2.hasPassword

def passwordAllowed (vault : Vault) (userId : Nat) (user : User) : Bool :=
  passwordLoginAllowed (vault.loadOrgBundle userId).2 (vault.loadOrgBundle userId).1 user.isInstanceAdmin

def verifyUserPassword (env : Platform) (user : User) (password : String) : Bool :=
  env.verifyPassword password (user.passwordHash.getD "")

def challenged (vault : Vault) (userId : Nat) (user : User) : Bool :=
  shouldChallengeAtLogin user (vault.loadOrgBundle userId).1 (vault.loadOrgBundle userId).2

def mfaChallengeTtl : Int := 300 * second

def createMfaChallenge (env : Platform) (vault : Vault) (userId : Nat) (fresh : Fresh) : Except Refusal (List Write) := do
  unused (vault.write (.deleteUserChallenges userId)).mfaChallenges (env.hashSecret fresh.token)
  .ok [.deleteUserChallenges userId,
    .insertChallenge (env.hashSecret fresh.token) ⟨userId, env.now + mfaChallengeTtl⟩]

/-- `POST /auth/login` after its rate limit, with the normal form of the address. -/
def login (env : Platform) (vault : Vault) (email password : String) (fresh : Fresh) :
    Except Refusal (Entry × List Write) :=
  match loginUser vault email with
  | none => .error (.error .invalidCredentials)
  | some (userId, user) =>
    if !passwordAllowed vault userId user then .error (.error .ssoLoginRequired)
    else if !verifyUserPassword env user password then .error (.error .invalidCredentials)
    else if challenged vault userId user then
      (createMfaChallenge env vault userId fresh).map fun all => (.challenge userId, all)
    else (createSession env vault userId fresh).map fun session => (.session userId, [session])

def providerReady (env : Platform) (vault : Vault) : Bool :=
  env.oauthProviderEnabled && (publicBaseUrl vault.settings).isSome && (mcpResourceUrl env.toEnv vault.settings).isSome

def authenticateLoginForOauth (env : Platform) (vault : Vault) (email password : String) : Option (Nat × User) :=
  (loginUser vault (normEmail env email)).filter fun found =>
    passwordAllowed vault found.1 found.2 && verifyUserPassword env found.2 password

/-- `POST /oauth/login`. -/
def oauthLogin (env : Platform) (vault : Vault) (email password : String) (fresh : Fresh) :
    Except Refusal (Entry × List Write) :=
  if !providerReady env vault then .error (.fault "oauth_provider_unconfigured")
  else
    match authenticateLoginForOauth env vault email password with
    | none => .error (.error .invalidCredentials)
    | some (userId, _) => (createSession env vault userId fresh).map fun session => (.session userId, [session])

/-- `resolve_mfa_challenge`, and the user of the challenge. -/
def challengeUser (env : Platform) (vault : Vault) (challengeId : String) : Option (Nat × User) := do
  let row ← (vault.mfaChallenges.find (env.hashSecret (Text.strip challengeId))).filter fun row => env.now < row.expiresAt
  let user ← (vault.users.find row.userId).filter User.enabled
  some (row.userId, user)

/-- What `mfa_verify` and `mfa_recover` share; `proof` is what a right code lets them write. -/
def mfaEnter (env : Platform) (vault : Vault) (challengeId : String) (proof : Nat → User → Option (List Write))
    (fresh : Fresh) : Except Refusal (Nat × List Write) :=
  match challengeUser env vault challengeId with
  | none => .error (.error .mfaChallengeInvalid)
  | some (userId, user) =>
    if !env.passes then .error (.error .rateLimited)
    else
      match proof userId user with
      | none => .error (.error .invalidTotp)
      | some used => (createSession env vault userId fresh).map fun session =>
          (userId, used ++ [.deleteChallenge (env.hashSecret (Text.strip challengeId)), session])

def mfaVerify (env : Platform) (vault : Vault) (challengeId code : String) (fresh : Fresh) :
    Except Refusal (Nat × List Write) :=
  mfaEnter env vault challengeId (fun _ user => if verifyUserTotp env user code then some [] else none) fresh

def mfaRecover (env : Platform) (vault : Vault) (challengeId recoveryCode : String) (fresh : Fresh) :
    Except Refusal (Nat × List Write) :=
  mfaEnter env vault challengeId
    (fun userId _ => (consumeRecoveryCode env vault userId recoveryCode).map fun id => [.useRecoveryCode id env.now]) fresh

end Entrances

section Resets

def passwordResetTtl : Int := 3600 * second

def passwordResetCooldown : Int := 900 * second

/-- A reset of the user that was asked for within the cooldown and is still open. -/
def resetPending (env : Platform) (vault : Vault) (userId : Nat) : Bool :=
  0 < vault.resetTokens.count fun _ row => row.userId == userId && row.usedAt.isNone && env.now < row.expiresAt &&
    env.now - passwordResetCooldown < row.createdAt

/-- `reset_request`, which answers alike whether it writes or not. -/
def resetRequest (env : Platform) (vault : Vault) (email : String) (fresh : Fresh) : Except Refusal (List Write) :=
  if !env.smtpConfigured then .error (.error .recoveryDisabled)
  else if !env.passes then .error (.error .rateLimited)
  else
    match (vault.userByEmail (normEmail env email)).filter fun found => found.2.enabled with
    | none => .ok []
    | some (userId, user) =>
      if !passwordAllowed vault userId user || resetPending env vault userId then .ok []
      else do
        unused vault.resetTokens (env.hashSecret fresh.token)
        .ok [.insertResetToken (env.hashSecret fresh.token) ⟨userId, env.now + passwordResetTtl, none, env.now⟩]

/-- The password that a change sets, with the date and the mark that go with it. -/
def User.withPassword (env : Platform) (user : User) (password : String) (mustChange : Bool) : User :=
  { user with
    passwordHash := some (env.hashPassword password)
    passwordChangedAt := some env.now
    mustChangePassword := mustChange }

def resetConfirm (env : Platform) (vault : Vault) (token password : String) : Except Refusal (Nat × List Write) :=
  if !env.passes then .error (.error .rateLimited)
  else
    let tokenHash := env.hashSecret token
    match (vault.resetTokens.find tokenHash).filter fun row => row.usedAt.isNone && env.now < row.expiresAt with
    | none => .error (.error .notFound)
    | some row =>
      match (vault.users.find row.userId).filter User.enabled with
      | none => .error (.error .notFound)
      | some user =>
        .ok (row.userId, [.updateUser row.userId (user.withPassword env password false),
          .useResetToken tokenHash env.now] ++ Vault.revokeUserAuth env.now row.userId)

end Resets

section Own

variable (env : Platform) (vault : Vault) (ctx : AuthContext) (fresh : Fresh)

def changePassword (current : Option String) (new : String) : Except Refusal (List Write) :=
  if ctx.impersonating || !ctx.user.hasPassword then .error (.error .forbidden)
  else if !ctx.user.mustChangePassword &&
      !(current.any fun text => text != "" && verifyUserPassword env ctx.user text) then
    .error (.error .invalidCredentials)
  else do
    let session ← createSession env vault ctx.userId fresh
    .ok ([.updateUser ctx.userId (ctx.user.withPassword env new false)] ++
      Vault.revokeUserAuth env.now ctx.userId ++ [session])

def createToken (totpCode : Option String) : Except Refusal (List Write) :=
  if ctx.viaApiToken || ctx.impersonating then .error (.error .forbidden)
  else if ctx.user.mustChangePassword then .error (.error .mustChangePassword)
  else if mfaEnrollmentRequired ctx.user ctx.org ctx.membership then .error (.error .mfaEnrollmentRequired)
  else if userAgreementRequired ctx.user ctx.org ctx.membership vault.settings then .error (.error .userAgreementRequired)
  else if !orgApiEnabled ctx.org then .error (.error .apiDisabled)
  else if totpEnabled ctx.user && (totpCode.filter (· != "")).isNone then .error (.error .mfaStepUpRequired)
  else if totpEnabled ctx.user && !verifyUserTotp env ctx.user (totpCode.getD "") then .error (.error .invalidTotp)
  else do
    unused vault.apiTokens (env.hashSecret fresh.token)
    .ok [.insertApiToken (env.hashSecret fresh.token) ctx.userId]

/-- `revoke_token`; the token's hash stands for its id. -/
def revokeToken (tokenHash : String) : Except Refusal (List Write) :=
  match (vault.apiTokens.find tokenHash).filter fun token => token.userId == ctx.userId with
  | none => .error (.error .notFound)
  | some _ => .ok [.revokeApiToken tokenHash env.now]

def requireOrg : Except Refusal (Organization × Membership) :=
  match ctx.org, ctx.membership with
  | some org, some membership => .ok (org, membership)
  | _, _ => .error (.error .forbidden)

def linkCodeTtl : Int := 900 * second

/-- `me_telegram_link`. -/
def telegramLink : Except Refusal (List Write) := do
  let _ ← requireOrg ctx
  if !env.telegramConfigured then .error (.error .validationError)
  else .ok [.replaceLinkChallenge ctx.userId ⟨env.hashSecret ("telegram-link:" ++ fresh.token), env.now + linkCodeTtl⟩]

def telegramUnlink : Except Refusal (List Write) := .ok [.deleteLink ctx.userId]

/-- What the three MFA endpoints ask for first. -/
def mfaForbidden : Bool := ctx.impersonating || !hubLocalAuthApplies ctx.user ctx.org ctx.membership

def mfaSetupStart : Except Refusal (List Write) :=
  if mfaForbidden ctx then .error (.error .forbidden)
  else .ok [.updateUser ctx.userId { ctx.user with totpSecret := some fresh.token, totpEnabledAt := none }]

def mfaSetupConfirm (code : String) : Except Refusal (List Write) :=
  if mfaForbidden ctx then .error (.error .forbidden)
  else if !verifyUserTotp env ctx.user code then .error (.error .invalidTotp)
  else
    let rows := newRecoveryCodes env ctx.userId fresh
    if rows.any fun entry => (vault.recoveryCodes.find entry.1).isSome then .error (.fault "IntegrityError")
    else .ok ([.updateUser ctx.userId { ctx.user with totpEnabledAt := some env.now },
      .deleteUserRecoveryCodes ctx.userId] ++ rows.map fun entry => .insertRecoveryCode entry.1 entry.2)

/-- The proof that `mfa_disable` takes: a TOTP code, or a recovery code that it marks as used. -/
def secondFactor (code : String) : Option (List Write) :=
  if verifyUserTotp env ctx.user code then some []
  else (consumeRecoveryCode env vault ctx.userId code).map fun id => [.useRecoveryCode id env.now]

def mfaDisable (password code : String) : Except Refusal (List Write) :=
  if mfaForbidden ctx then .error (.error .forbidden)
  else if !totpEnabled ctx.user then .error (.error .validationError)
  else if orgMfaRequired ctx.user ctx.org ctx.membership then .error (.error .forbidden)
  else if !ctx.user.hasPassword || !verifyUserPassword env ctx.user password then .error (.error .invalidCredentials)
  else
    match secondFactor env vault ctx code with
    | none => .error (.error .invalidTotp)
    | some used => .ok (used ++ Vault.disableTotp ctx.userId ctx.user ++ Vault.revokeUserAuth env.now ctx.userId)

end Own

section Administration

variable (env : Platform) (vault : Vault) (ctx : AuthContext) (fresh : Fresh)

def requireOrgAdmin : Except Refusal (Organization × Membership) := do
  let (org, membership) ← requireOrg ctx
  if membership.role != .orgAdmin then .error (.error .forbidden) else .ok (org, membership)

def orgUser (orgId userId : Nat) : Except Refusal (User × Membership) :=
  match (vault.memberships.find userId).filter (fun membership => membership.orgId == orgId), vault.users.find userId with
  | some membership, some user => .ok (user, membership)
  | _, _ => .error (.error .notFound)

/-- `count_active_org_admins`. -/
def activeOrgAdmins (orgId excluded : Nat) : Nat :=
  vault.memberships.count fun userId membership => membership.orgId == orgId && membership.role == .orgAdmin &&
    (vault.users.find userId).any User.enabled && userId != excluded

def disableUser (userId : Nat) : Except Refusal (List Write) := do
  let (_, own) ← requireOrgAdmin ctx
  let (user, membership) ← orgUser vault own.orgId userId
  if membership.role == .orgAdmin && activeOrgAdmins vault own.orgId userId < 1 then .error (.error .lastOrgAdmin)
  else .ok ([.updateUser userId { user with disabledAt := some env.now }] ++ Vault.revokeUserAuth env.now userId)

def enableUser (userId : Nat) : Except Refusal (List Write) := do
  let (_, own) ← requireOrgAdmin ctx
  let (user, _) ← orgUser vault own.orgId userId
  .ok [.updateUser userId { user with disabledAt := none }]

def adminPassword (userId : Nat) (user : User) : List Write :=
  [.updateUser userId (user.withPassword env fresh.password true)] ++ Vault.revokeUserAuth env.now userId

def resetUserPassword (userId : Nat) : Except Refusal (List Write) := do
  let (_, own) ← requireOrgAdmin ctx
  let (user, _) ← orgUser vault own.orgId userId
  .ok (adminPassword env fresh userId user)

def adminMfaReset (orgId userId : Nat) (user : User) (membership : Membership) : Except Refusal (List Write) :=
  if !hubLocalAuthApplies user (vault.orgs.find orgId) (some membership) then .error (.error .forbidden)
  else if !totpConfigured user then .error (.error .validationError)
  else .ok (Vault.disableTotp userId user ++ Vault.revokeUserAuth env.now userId)

def resetUserMfa (userId : Nat) : Except Refusal (List Write) := do
  let (_, own) ← requireOrgAdmin ctx
  let (user, membership) ← orgUser vault own.orgId userId
  adminMfaReset env vault own.orgId userId user membership

def requireInstanceAdmin : Except Refusal Unit := if ctx.isInstanceAdmin then .ok () else .error (.error .forbidden)

def instanceOrgUser (orgId userId : Nat) : Except Refusal (User × Membership) := do
  requireInstanceAdmin ctx
  if (vault.orgs.find orgId).isNone then .error (.error .notFound)
  let (user, membership) ← orgUser vault orgId userId
  if user.isInstanceAdmin || !user.enabled then .error (.error .forbidden) else .ok (user, membership)

def resetOrgAdminPassword (orgId userId : Nat) : Except Refusal (List Write) := do
  let (user, membership) ← instanceOrgUser vault ctx orgId userId
  if membership.role != .orgAdmin then .error (.error .forbidden) else .ok (adminPassword env fresh userId user)

def resetOrgUserMfa (orgId userId : Nat) : Except Refusal (List Write) := do
  let (user, membership) ← instanceOrgUser vault ctx orgId userId
  adminMfaReset env vault orgId userId user membership

/-- The users whom the context may impersonate: anyone, or the members of an organization. -/
def impersonationScope : Except Refusal (Option Nat) :=
  if ctx.isInstanceAdmin then .ok none
  else
    match ctx.org, ctx.membership with
    | some _, some membership => if membership.role == .orgAdmin then .ok (some membership.orgId) else .error (.error .forbidden)
    | _, _ => .error (.error .forbidden)

def impersonate (target : Nat) : Except Refusal (List Write) :=
  match ctx.session.filter fun _ => !ctx.impersonating with
  | none => .error (.error .forbidden)
  | some record => do
    let scope ← impersonationScope ctx
    match (vault.users.find target).filter fun user => !user.isInstanceAdmin && user.enabled with
    | none => .error (.error .notFound)
    | some _ =>
      match scope with
      | none => .ok [.setImpersonate record (some target)]
      | some orgId =>
        if target = ctx.actorId then .error (.error .forbidden)
        else do
          let _ ← orgUser vault orgId target
          .ok [.setImpersonate record (some target)]

def stopImpersonate : Except Refusal (List Write) :=
  match ctx.session with
  | none => .error (.error .forbidden)
  | some record =>
    let acting := vault.loadOrgBundle ctx.actorId
    if !ctx.actor.isInstanceAdmin &&
        !(acting.1.isSome && acting.2.any fun membership => membership.role == .orgAdmin) then
      .error (.error .forbidden)
    else .ok [.setImpersonate record none]

end Administration

section OAuth

variable (env : Platform) (vault : Vault) (fresh : Fresh)

def Blocked.text : Blocked → String
  | .accountDisabled => "account_disabled"
  | .oauthOrgMembershipRequired => "oauth_org_membership_required"
  | .forbidden => "forbidden"
  | .mustChangePassword => "must_change_password"
  | .mfaEnrollmentRequired => "mfa_enrollment_required"
  | .userAgreementRequired => "user_agreement_required"
  | .apiDisabled => "api_disabled"

structure AuthorizeForm where
  confirm : Bool
  clientId : String
  redirectUri : String
  codeChallenge : String
  codeChallengeMethod : String

/-- The row of `issue_authorization_code`. -/
def authorizationCode (form : AuthorizeForm) (userId : Nat) (scopes : List String) (resource : String) :
    OAuth.AuthorizationCode where
  clientId := form.clientId
  userId := userId
  redirectUri := form.redirectUri
  scope := OAuth.scopesToString scopes
  resource := resource
  codeChallenge := form.codeChallenge
  codeChallengeMethod := form.codeChallengeMethod
  expiresAt := env.now.toNat + env.authCodeTtl
  usedAt := none

/-- `oauth_authorize_confirm`, with what `resolve_auth` has made of the request. -/
def authorizeConfirm (ctx : Option AuthContext) (form : AuthorizeForm) : Except Refusal (List Write) :=
  if !providerReady env vault || !form.confirm then .error (.fault "oauth_invalid_request")
  else
    match env.authorizeParams form.clientId form.redirectUri form.codeChallenge with
    | none => .error (.fault "oauth_invalid_request")
    | some (scopes, resource) =>
      match ctx.filter fun ctx => ctx.session.isSome && !ctx.impersonating with
      | none => .error (.error .unauthorized)
      | some ctx =>
        if (userOauthBlocked env.now vault.toDb ctx.userId ctx.user).isSome then .error (.error .forbidden)
        else do
          unused vault.codes (env.hashSecret fresh.token)
          .ok [.insertCode (env.hashSecret fresh.token) (authorizationCode env form ctx.userId scopes resource)]

def oauthProvider : OAuth.Provider where
  hashSecret := env.hashSecret
  challengeOf := env.challengeOf
  publicBaseUrl := publicBaseUrl vault.settings
  accessTokenTtl := env.accessTokenTtl
  refreshTokenTtl := env.refreshTokenTtl
  userExists userId := (vault.users.find userId).isSome
  userOauthBlocked userId :=
    (vault.users.find userId).bind fun user => (userOauthBlocked env.now vault.toDb userId user).map Blocked.text
  now := env.now.toNat
  newToken := fresh.token

def grantText : OAuth.Refusal → String
  | .value text | .other text => text

def exchange (request : OAuth.CodeRequest) : Except Refusal (Nat × List Write) := do
  let exchanged ← (OAuth.exchangeAuthorizationCode (oauthProvider env vault fresh) ⟨vault.clients, vault.codes, []⟩
    request).mapError fun refusal => .fault (grantText refusal)
  unused vault.refreshTokens exchanged.refresh.tokenHash
  .ok (exchanged.refresh.userId, [.useCode exchanged.codeHash exchanged.usedAt, .insertRefreshToken exchanged.refresh])

/-- The form of `grant_type=refresh_token`. -/
structure RefreshRequest where
  refreshToken : String
  clientId : String
  clientSecret : Option String
  resource : Option String

/-- `refresh_access_token`: the user for whom an access token is minted. No code sets the
`revoked_at` of a refresh token, so the rows have none. -/
def refreshAccessToken (request : RefreshRequest) : Except Refusal Nat :=
  let secret : OAuth.CodeRequest := ⟨"", request.clientId, "", "", request.clientSecret⟩
  match vault.clients.find request.clientId with
  | none => .error (.fault "invalid_client")
  | some client =>
    if !OAuth.authenticates (oauthProvider env vault fresh) client secret then .error (.fault "invalid_client")
    else
      match (vault.refreshTokens.find (env.hashSecret request.refreshToken)).filter fun row =>
          env.now.toNat < row.expiresAt && row.clientId == request.clientId with
      | none => .error (.fault "invalid_grant")
      | some row =>
        let expected := mcpResourceUrl env.toEnv vault.settings
        if (request.resource.filter (· != "")).any fun resource =>
            expected.any fun expected => (String.ofList (rstripSlash resource.toList)) != expected then
          .error (.fault "invalid_target")
        else
          match vault.users.find row.userId with
          | none => .error (.fault "invalid_grant")
          | some user =>
            if (userOauthBlocked env.now vault.toDb row.userId user).isSome then .error (.fault "invalid_grant")
            else if (publicBaseUrl vault.settings).isNone then .error (.fault "oauth_misconfigured")
            else .ok row.userId

end OAuth

/-! ## What each endpoint writes when it goes through -/

section Specs

variable {env : Platform} {vault : Vault} {ctx : AuthContext} {fresh : Fresh} {all : List Write} {userId orgId : Nat}

theorem login_ok {email password : String} {entry : Entry} (goes : login env vault email password fresh = .ok (entry, all)) :
    (∃ userId session, createSession env vault userId fresh = .ok session ∧ all = [session]) ∨
    ∃ userId, all = [.deleteUserChallenges userId,
      .insertChallenge (env.hashSecret fresh.token) ⟨userId, env.now + mfaChallengeTtl⟩] := by
  unfold login at goes
  split at goes
  · contradiction
  · rename_i userId user _
    rw [guard_ok, guard_ok] at goes
    obtain ⟨_, _, goes⟩ := goes
    split at goes
    · obtain ⟨writes, created, same⟩ := map_ok.mp goes
      simp only [createMfaChallenge, bind_ok] at created
      obtain ⟨_, _, rest⟩ := created
      cases same
      exact .inr ⟨userId, (Except.ok.inj rest).symm⟩
    · obtain ⟨session, created, same⟩ := map_ok.mp goes
      cases same
      exact .inl ⟨userId, session, created, rfl⟩

theorem oauthLogin_ok {email password : String} {entry : Entry}
    (goes : oauthLogin env vault email password fresh = .ok (entry, all)) :
    ∃ userId session, createSession env vault userId fresh = .ok session ∧ all = [session] := by
  unfold oauthLogin at goes
  rw [guard_ok] at goes
  obtain ⟨_, goes⟩ := goes
  split at goes
  · contradiction
  · rename_i userId user _
    obtain ⟨session, created, same⟩ := map_ok.mp goes
    cases same
    exact ⟨userId, session, created, rfl⟩

theorem challengeUser_some {challengeId : String} {user : User}
    (found : challengeUser env vault challengeId = some (userId, user)) :
    ∃ row, vault.mfaChallenges.find (env.hashSecret (Text.strip challengeId)) = some row ∧ env.now < row.expiresAt ∧
      row.userId = userId ∧ vault.users.find userId = some user := by
  simp only [challengeUser, Option.bind_eq_bind, Option.bind_eq_some_iff, Option.filter_eq_some_iff,
    decide_eq_true_eq] at found
  obtain ⟨row, ⟨stored, live⟩, user', ⟨known, _⟩, same⟩ := found
  cases same
  exact ⟨row, stored, live, rfl, known⟩

theorem mfaEnter_ok {challengeId : String} {proof : Nat → User → Option (List Write)}
    (goes : mfaEnter env vault challengeId proof fresh = .ok (userId, all)) :
    (∃ row, vault.mfaChallenges.find (env.hashSecret (Text.strip challengeId)) = some row ∧ env.now < row.expiresAt ∧
      row.userId = userId) ∧
    ∃ user used session, vault.users.find userId = some user ∧ proof userId user = some used ∧
      createSession env vault userId fresh = .ok session ∧
      all = used ++ [.deleteChallenge (env.hashSecret (Text.strip challengeId)), session] := by
  unfold mfaEnter at goes
  split at goes
  · contradiction
  · rename_i id user found
    rw [guard_ok] at goes
    obtain ⟨_, goes⟩ := goes
    split at goes
    · contradiction
    · rename_i used proven
      obtain ⟨session, created, same⟩ := map_ok.mp goes
      cases same
      obtain ⟨row, stored, live, owner, known⟩ := challengeUser_some found
      exact ⟨⟨row, stored, live, owner⟩, user, used, session, known, proven, created, rfl⟩

theorem resetRequest_ok {email : String} (goes : resetRequest env vault email fresh = .ok all) :
    all = [] ∨ ∃ userId, all =
      [.insertResetToken (env.hashSecret fresh.token) ⟨userId, env.now + passwordResetTtl, none, env.now⟩] := by
  unfold resetRequest at goes
  rw [guard_ok, guard_ok] at goes
  obtain ⟨_, _, goes⟩ := goes
  split at goes
  · exact .inl (Except.ok.inj goes).symm
  · rename_i userId user _
    split at goes
    · exact .inl (Except.ok.inj goes).symm
    · obtain ⟨_, _, rest⟩ := bind_ok.mp goes
      exact .inr ⟨userId, (Except.ok.inj rest).symm⟩

theorem resetConfirm_ok {token password : String} (goes : resetConfirm env vault token password = .ok (userId, all)) :
    ∃ row user, vault.resetTokens.find (env.hashSecret token) = some row ∧ row.usedAt = none ∧ env.now < row.expiresAt ∧
      row.userId = userId ∧ vault.users.find userId = some user ∧
      all = [.updateUser userId (user.withPassword env password false),
        .useResetToken (env.hashSecret token) env.now] ++ Vault.revokeUserAuth env.now userId := by
  unfold resetConfirm at goes
  rw [guard_ok] at goes
  obtain ⟨_, goes⟩ := goes
  dsimp only at goes
  split at goes
  · contradiction
  · rename_i row found
    split at goes
    · contradiction
    · rename_i user known
      obtain ⟨stored, live⟩ := Option.filter_eq_some_iff.mp found
      simp only [Bool.and_eq_true, Option.isNone_iff_eq_none, decide_eq_true_eq] at live
      cases goes
      exact ⟨row, user, stored, live.1, live.2, rfl, (Option.filter_eq_some_iff.mp known).1, rfl⟩

theorem changePassword_ok {current : Option String} {new : String}
    (goes : changePassword env vault ctx fresh current new = .ok all) :
    ctx.impersonating = false ∧
      (ctx.user.mustChangePassword = true ∨ ∃ text, current = some text ∧ verifyUserPassword env ctx.user text = true) ∧
      ∃ session, createSession env vault ctx.userId fresh = .ok session ∧
        all = [.updateUser ctx.userId (ctx.user.withPassword env new false)] ++
          Vault.revokeUserAuth env.now ctx.userId ++ [session] := by
  unfold changePassword at goes
  rw [guard_ok, guard_ok] at goes
  obtain ⟨allowed, proven, goes⟩ := goes
  obtain ⟨session, created, rest⟩ := bind_ok.mp goes
  simp only [Bool.or_eq_false_iff] at allowed
  refine ⟨allowed.1, ?_, session, created, (Except.ok.inj rest).symm⟩
  cases forced : ctx.user.mustChangePassword with
  | true => exact .inl rfl
  | false =>
    simp only [forced, Bool.not_false, Bool.true_and, Bool.not_eq_false', Option.any_eq_true, Bool.and_eq_true] at proven
    obtain ⟨text, given, _, right⟩ := proven
    exact .inr ⟨text, given, right⟩

theorem createToken_ok {totpCode : Option String} (goes : createToken env vault ctx fresh totpCode = .ok all) :
    ctx.viaApiToken = false ∧ ctx.impersonating = false ∧
      (totpEnabled ctx.user = true → verifyUserTotp env ctx.user (totpCode.getD "") = true) ∧
      vault.apiTokens.find (env.hashSecret fresh.token) = none ∧
        all = [.insertApiToken (env.hashSecret fresh.token) ctx.userId] := by
  unfold createToken at goes
  iterate 7 rw [guard_ok] at goes
  obtain ⟨own, _, _, _, _, _, proven, goes⟩ := goes
  obtain ⟨_, free, rest⟩ := bind_ok.mp goes
  simp only [Bool.or_eq_false_iff] at own
  refine ⟨own.1, own.2, fun enabled => ?_, unused_ok.mp free, (Except.ok.inj rest).symm⟩
  simpa [enabled] using proven

theorem revokeToken_ok {tokenHash : String} (goes : revokeToken env vault ctx tokenHash = .ok all) :
    all = [.revokeApiToken tokenHash env.now] := by
  unfold revokeToken at goes
  split at goes
  · contradiction
  · exact (Except.ok.inj goes).symm

theorem telegramLink_ok : telegramLink env ctx fresh = .ok all ↔
    ctx.org.isSome = true ∧ ctx.membership.isSome = true ∧ env.telegramConfigured = true ∧
      all = [.replaceLinkChallenge ctx.userId
        ⟨env.hashSecret ("telegram-link:" ++ fresh.token), env.now + linkCodeTtl⟩] := by
  unfold telegramLink requireOrg
  cases ctx.org <;> cases ctx.membership <;> cases env.telegramConfigured <;>
    simp [bind, Except.bind, eq_comm]

theorem mfaSetupStart_ok : mfaSetupStart ctx fresh = .ok all ↔ mfaForbidden ctx = false ∧
    all = [.updateUser ctx.userId { ctx.user with totpSecret := some fresh.token, totpEnabledAt := none }] := by
  unfold mfaSetupStart
  rw [guard_ok, Except.ok.injEq, eq_comm (a := all)]

theorem mfaSetupConfirm_ok {code : String} : mfaSetupConfirm env vault ctx fresh code = .ok all ↔
    mfaForbidden ctx = false ∧ verifyUserTotp env ctx.user code = true ∧
      (∀ entry ∈ newRecoveryCodes env ctx.userId fresh, vault.recoveryCodes.find entry.1 = none) ∧
      all = [.updateUser ctx.userId { ctx.user with totpEnabledAt := some env.now },
        .deleteUserRecoveryCodes ctx.userId] ++
        (newRecoveryCodes env ctx.userId fresh).map fun entry => .insertRecoveryCode entry.1 entry.2 := by
  unfold mfaSetupConfirm
  rw [guard_ok, guard_ok, guard_ok, Except.ok.injEq, Bool.not_eq_false', List.any_eq_false, eq_comm (b := all)]
  simp only [Bool.not_eq_true, Option.isSome_eq_false_iff, Option.isNone_iff_eq_none]

theorem mfaDisable_ok {password code : String} (goes : mfaDisable env vault ctx password code = .ok all) :
    verifyUserPassword env ctx.user password = true ∧ ∃ used, secondFactor env vault ctx code = some used ∧
      all = used ++ Vault.disableTotp ctx.userId ctx.user ++ Vault.revokeUserAuth env.now ctx.userId := by
  unfold mfaDisable at goes
  iterate 4 rw [guard_ok] at goes
  obtain ⟨_, _, _, right, goes⟩ := goes
  split at goes
  · contradiction
  · rename_i used proven
    simp only [Bool.or_eq_false_iff, Bool.not_eq_false'] at right
    exact ⟨right.2, used, proven, (Except.ok.inj goes).symm⟩

theorem orgUser_ok {user : User} {membership : Membership} (found : orgUser vault orgId userId = .ok (user, membership)) :
    vault.users.find userId = some user ∧ vault.memberships.find userId = some membership ∧ membership.orgId = orgId := by
  unfold orgUser at found
  split at found
  · rename_i member known
    cases found
    obtain ⟨stored, same⟩ := Option.filter_eq_some_iff.mp member
    exact ⟨known, stored, by simpa using same⟩
  · contradiction

theorem requireOrgAdmin_ok {org : Organization} {membership : Membership}
    (allowed : requireOrgAdmin ctx = .ok (org, membership)) :
    ctx.org = some org ∧ ctx.membership = some membership ∧ membership.role = .orgAdmin := by
  unfold requireOrgAdmin requireOrg at allowed
  cases in_org : ctx.org with
  | none => simp [in_org, bind, Except.bind] at allowed
  | some org' =>
    cases member : ctx.membership with
    | none => simp [in_org, member, bind, Except.bind] at allowed
    | some membership' =>
      simp only [in_org, member, bind_ok, Prod.exists] at allowed
      obtain ⟨_, _, same, allowed⟩ := allowed
      cases same
      rw [guard_ok] at allowed
      cases allowed.2
      exact ⟨rfl, rfl, by simpa using allowed.1⟩

theorem disableUser_ok (goes : disableUser env vault ctx userId = .ok all) :
    ∃ user, vault.users.find userId = some user ∧
      all = [.updateUser userId { user with disabledAt := some env.now }] ++ Vault.revokeUserAuth env.now userId := by
  simp only [disableUser, bind_ok, Prod.exists, guard_ok] at goes
  obtain ⟨_, own, _, user, membership, found, _, rest⟩ := goes
  exact ⟨user, (orgUser_ok found).1, (Except.ok.inj rest).symm⟩

theorem enableUser_ok (goes : enableUser vault ctx userId = .ok all) :
    ∃ user, vault.users.find userId = some user ∧ all = [.updateUser userId { user with disabledAt := none }] := by
  simp only [enableUser, bind_ok, Prod.exists] at goes
  obtain ⟨_, own, _, user, membership, found, rest⟩ := goes
  exact ⟨user, (orgUser_ok found).1, (Except.ok.inj rest).symm⟩

theorem resetUserPassword_ok (goes : resetUserPassword env vault ctx fresh userId = .ok all) :
    (∃ org membership, ctx.org = some org ∧ ctx.membership = some membership ∧ membership.role = .orgAdmin) ∧
    ∃ user, vault.users.find userId = some user ∧ all = adminPassword env fresh userId user := by
  simp only [resetUserPassword, bind_ok, Prod.exists] at goes
  obtain ⟨org, own, admin, user, membership, found, rest⟩ := goes
  exact ⟨⟨org, own, requireOrgAdmin_ok admin⟩, user, (orgUser_ok found).1, (Except.ok.inj rest).symm⟩

theorem adminMfaReset_ok {user : User} {membership : Membership}
    (goes : adminMfaReset env vault orgId userId user membership = .ok all) :
    all = Vault.disableTotp userId user ++ Vault.revokeUserAuth env.now userId := by
  unfold adminMfaReset at goes
  rw [guard_ok, guard_ok] at goes
  exact (Except.ok.inj goes.2.2).symm

theorem resetUserMfa_ok (goes : resetUserMfa env vault ctx userId = .ok all) :
    ∃ user, vault.users.find userId = some user ∧
      all = Vault.disableTotp userId user ++ Vault.revokeUserAuth env.now userId := by
  simp only [resetUserMfa, bind_ok, Prod.exists] at goes
  obtain ⟨_, own, _, user, membership, found, rest⟩ := goes
  exact ⟨user, (orgUser_ok found).1, adminMfaReset_ok rest⟩

theorem instanceOrgUser_ok {user : User} {membership : Membership}
    (found : instanceOrgUser vault ctx orgId userId = .ok (user, membership)) :
    ctx.isInstanceAdmin = true ∧ vault.users.find userId = some user ∧ user.isInstanceAdmin = false := by
  unfold instanceOrgUser requireInstanceAdmin at found
  obtain ⟨_, admin, found⟩ := bind_ok.mp found
  split at admin
  · rename_i is_admin
    split at found
    · contradiction
    · simp only [bind_ok, Prod.exists, guard_ok, Bool.or_eq_false_iff] at found
      obtain ⟨user', membership', at_org, ⟨no_admin, _⟩, same⟩ := found
      cases same
      exact ⟨is_admin, (orgUser_ok at_org).1, no_admin⟩
  · contradiction

theorem resetOrgAdminPassword_ok (goes : resetOrgAdminPassword env vault ctx fresh orgId userId = .ok all) :
    ctx.isInstanceAdmin = true ∧ ∃ user, vault.users.find userId = some user ∧ user.isInstanceAdmin = false ∧
      all = adminPassword env fresh userId user := by
  simp only [resetOrgAdminPassword, bind_ok, Prod.exists, guard_ok] at goes
  obtain ⟨user, membership, found, _, rest⟩ := goes
  obtain ⟨admin, known, no_admin⟩ := instanceOrgUser_ok found
  exact ⟨admin, user, known, no_admin, (Except.ok.inj rest).symm⟩

theorem resetOrgUserMfa_ok (goes : resetOrgUserMfa env vault ctx orgId userId = .ok all) :
    ∃ user, vault.users.find userId = some user ∧
      all = Vault.disableTotp userId user ++ Vault.revokeUserAuth env.now userId := by
  simp only [resetOrgUserMfa, bind_ok, Prod.exists] at goes
  obtain ⟨user, membership, found, rest⟩ := goes
  exact ⟨user, (instanceOrgUser_ok found).2.1, adminMfaReset_ok rest⟩

theorem impersonate_ok {target : Nat} (goes : impersonate vault ctx target = .ok all) :
    ∃ record, ctx.session = some record ∧ all = [.setImpersonate record (some target)] := by
  unfold impersonate at goes
  split at goes
  · contradiction
  · rename_i record own
    obtain ⟨scope, _, goes⟩ := bind_ok.mp goes
    refine ⟨record, (Option.filter_eq_some_iff.mp own).1, ?_⟩
    split at goes
    · contradiction
    · split at goes
      · exact (Except.ok.inj goes).symm
      · rw [apply_ite (· = Except.ok all)] at goes
        split at goes
        · contradiction
        · obtain ⟨_, _, rest⟩ := bind_ok.mp goes
          exact (Except.ok.inj rest).symm

theorem stopImpersonate_ok (goes : stopImpersonate vault ctx = .ok all) :
    ∃ record, ctx.session = some record ∧ all = [.setImpersonate record none] := by
  unfold stopImpersonate at goes
  split at goes
  · contradiction
  · rename_i record own
    dsimp only at goes
    rw [guard_ok] at goes
    exact ⟨record, own, (Except.ok.inj goes.2).symm⟩

theorem authorizeConfirm_ok {ctx : Option AuthContext} {form : AuthorizeForm}
    (goes : authorizeConfirm env vault fresh ctx form = .ok all) :
    ∃ own scopes resource, ctx = some own ∧ own.session.isSome = true ∧ own.impersonating = false ∧
      all = [.insertCode (env.hashSecret fresh.token) (authorizationCode env form own.userId scopes resource)] := by
  unfold authorizeConfirm at goes
  rw [guard_ok] at goes
  obtain ⟨_, goes⟩ := goes
  split at goes
  · contradiction
  · rename_i scopes resource _
    split at goes
    · contradiction
    · rename_i own present
      rw [guard_ok] at goes
      obtain ⟨_, _, rest⟩ := bind_ok.mp goes.2
      obtain ⟨same, direct⟩ := Option.filter_eq_some_iff.mp present
      simp only [Bool.and_eq_true, Bool.not_eq_true'] at direct
      exact ⟨own, scopes, resource, same, direct.1, direct.2, (Except.ok.inj rest).symm⟩

theorem exchange_ok {request : OAuth.CodeRequest} (goes : exchange env vault fresh request = .ok (userId, all)) :
    ∃ row refresh, vault.codes.find (env.hashSecret request.code) = some row ∧ row.usedAt = none ∧
      env.now.toNat < row.expiresAt ∧ row.userId = userId ∧ refresh.userId = userId ∧
      all = [.useCode (env.hashSecret request.code) env.now.toNat, .insertRefreshToken refresh] := by
  simp only [exchange, bind_ok, mapError_ok] at goes
  obtain ⟨exchanged, redeemed, _, _, rest⟩ := goes
  obtain ⟨presented, row, found, redeems, used, minted⟩ := OAuth.exchange_redeems redeemed
  simp only [OAuth.redeemable, Bool.and_eq_true, Option.isNone_iff_eq_none, decide_eq_true_eq] at redeems
  rw [used, presented, Except.ok.injEq, Prod.mk.injEq] at rest
  have owner : exchanged.refresh.userId = row.userId := by rw [minted]; rfl
  rw [presented] at found
  exact ⟨row, exchanged.refresh, found, redeems.1.1.1, redeems.1.1.2, owner ▸ rest.1, rest.1, rest.2.symm⟩

theorem refreshAccessToken_ok {request : RefreshRequest} (goes : refreshAccessToken env vault fresh request = .ok userId) :
    ∃ row, vault.refreshTokens.find (env.hashSecret request.refreshToken) = some row ∧
      env.now.toNat < row.expiresAt ∧ row.userId = userId := by
  unfold refreshAccessToken at goes
  dsimp only at goes
  split at goes
  · contradiction
  · rw [guard_ok] at goes
    obtain ⟨_, goes⟩ := goes
    split at goes
    · contradiction
    · rename_i row found
      rw [guard_ok] at goes
      obtain ⟨_, goes⟩ := goes
      split at goes
      · contradiction
      · rw [guard_ok, guard_ok] at goes
        obtain ⟨stored, live⟩ := Option.filter_eq_some_iff.mp found
        simp only [Bool.and_eq_true, decide_eq_true_eq] at live
        exact ⟨row, stored, live.1, Except.ok.inj goes.2.2⟩

end Specs

end IdigestHub.Auth
