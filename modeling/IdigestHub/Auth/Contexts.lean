import IdigestHub.Auth.Accounts

/-! How a request becomes an authenticated context, at each of the four front ends: cookie
and bearer requests of the REST API, tool calls of MCP, messages of the Telegram bot. -/

set_option autoImplicit false

namespace IdigestHub.Auth

open Foundation Sessions

inductive Method where
  | get
  | head
  | options
  | post
  | put
  | patch
  | delete
  deriving DecidableEq

structure Request where
  method : Method
  /-- `request.url.path`. -/
  path : List Char
  /-- The header, empty when there is none. -/
  authorization : String
  sessionCookie : Option String
  csrfCookie : Option String
  csrfHeader : Option String

inductive ErrorCode where
  | unauthorized
  | forbidden
  | notFound
  | validationError
  | rateLimited
  | invalidCredentials
  | mustChangePassword
  | mfaEnrollmentRequired
  | mfaChallengeInvalid
  | mfaStepUpRequired
  | invalidTotp
  | userAgreementRequired
  | apiDisabled
  | recoveryDisabled
  | ssoLoginRequired
  | ssoDisabled
  | ssoMisconfigured
  | ssoStateInvalid
  | ssoEmailMissing
  | ssoUserWrongOrg
  | accountDisabled
  | lastOrgAdmin
  deriving DecidableEq

/-- `ApiError`, or another exception with its text. -/
inductive Refusal where
  | error (code : ErrorCode)
  | fault (text : String)
  deriving DecidableEq

/-- The claims of an access token that contexts take. -/
structure AccessClaims where
  sub : Nat
  scope : String

/-- What authentication takes from elsewhere: the clock, the digest, the decoding of signed
tokens, the configuration and the rate limit of bearer requests. -/
structure Env where
  now : Int
  hashSecret : String → String
  /-- `jwt.decode` of a token, with the issuer and the audience that it requires. -/
  jwtDecode : String → String → String → Option AccessClaims
  oauthProviderEnabled : Bool
  oauthMcpResourceUrl : String
  /-- `enforce_bearer_api` lets the user's request pass. -/
  bearerAllowed : Nat → Bool

structure AuthContext where
  userId : Nat
  user : User
  actorId : Nat
  actor : User
  org : Option Organization
  membership : Option Membership
  session : Option SessionRecord
  viaApiToken : Bool
  impersonating : Bool
  viaOauthToken : Bool
  oauthScopes : List String

def AuthContext.isInstanceAdmin (ctx : AuthContext) : Bool := ctx.actor.isInstanceAdmin && !ctx.impersonating

def AuthContext.own (db : Db) (userId : Nat) (user : User) : AuthContext where
  userId := userId
  user := user
  actorId := userId
  actor := user
  org := (db.loadOrgBundle userId).1
  membership := (db.loadOrgBundle userId).2
  session := none
  viaApiToken := false
  impersonating := false
  viaOauthToken := false
  oauthScopes := []

section Text

def rstripSlash (text : List Char) : List Char := (text.reverse.dropWhile (· == '/')).reverse

/-- `request.url.path.rstrip("/") or "/"`. -/
def normalPath (path : List Char) : List Char := if rstripSlash path = [] then ['/'] else rstripSlash path

/-- `authorization.lower().startswith("bearer ")`. -/
def isBearer (authorization : String) : Bool := "bearer ".toList.isPrefixOf (authorization.toList.map Char.toLower)

/-- `authorization.split(" ", 1)[1].strip()`. -/
def bearerToken (authorization : String) : String :=
  .ofList (Text.trimBoth Text.isSpace ((authorization.toList.dropWhile (· != ' ')).drop 1))

def looksLikeJwt (raw : String) : Bool :=
  let parts := Text.split '.' raw
  parts.length == 3 && parts.all (· != "")

def publicBaseUrl (settings : InstanceSettings) : Option String :=
  let value := String.ofList (rstripSlash (Text.strip (settings.publicBaseUrl.getD "")).toList)
  if value = "" then none else some value

def mcpResourceUrl (env : Env) (settings : InstanceSettings) : Option String :=
  let value := String.ofList (rstripSlash (Text.strip env.oauthMcpResourceUrl).toList)
  if value != "" then some value else (publicBaseUrl settings).map (· ++ "/mcp")

def normalizeScopes (raw : String) : List String :=
  ((raw.toList.splitOnP fun c => Text.isSpace c || c == ',').filter fun part => !part.isEmpty).map String.ofList

end Text

/-- `session_ttl_sec`, which raises when the hours are out of range. -/
def sessionTtlSec (settings : InstanceSettings) : Except Refusal Int :=
  let hours := settings.sessionTtlHours.getD 24
  if hours < 1 || 336 < hours then .error (.fault "session_ttl_hours out of range") else .ok (hours * 3600)

def verifyAccessToken (env : Env) (db : Db) (raw : String) : Option AccessClaims :=
  if !env.oauthProviderEnabled then none
  else
    match publicBaseUrl db.settings with
    | none => none
    | some base => env.jwtDecode raw base (base ++ "/api/v1")

/-- The part of `resolve_auth` for an access token. -/
def jwtContext (env : Env) (db : Db) (raw : String) : Except Refusal AuthContext :=
  match verifyAccessToken env db raw with
  | none => .error (.error .unauthorized)
  | some claims =>
    match db.users.find claims.sub with
    | none => .error (.error .unauthorized)
    | some user =>
      if !user.enabled then .error (.error .unauthorized)
      else if (userOauthBlocked env.now db claims.sub user).isSome then .error (.error .unauthorized)
      else if !orgApiEnabled (db.loadOrgBundle claims.sub).1 then .error (.error .apiDisabled)
      else if !env.bearerAllowed claims.sub then .error (.error .rateLimited)
      else .ok { AuthContext.own db claims.sub user with
        viaOauthToken := true
        oauthScopes := normalizeScopes claims.scope }

/-- The part of `resolve_auth` for a personal token. -/
def apiTokenContext (env : Env) (db : Db) (raw : String) : Except Refusal AuthContext :=
  match (db.apiTokens.find (env.hashSecret raw)).filter fun row => row.revokedAt.isNone with
  | none => .error (.error .unauthorized)
  | some token =>
    match db.users.find token.userId with
    | none => .error (.error .unauthorized)
    | some user =>
      let bundle := db.loadOrgBundle token.userId
      if !user.enabled then .error (.error .unauthorized)
      else if user.mustChangePassword || passwordExpired env.now user bundle.1 then .error (.error .mustChangePassword)
      else if userAgreementRequired user bundle.1 bundle.2 db.settings then .error (.error .userAgreementRequired)
      else if !orgApiEnabled bundle.1 then .error (.error .apiDisabled)
      else if !env.bearerAllowed token.userId then .error (.error .rateLimited)
      else .ok { AuthContext.own db token.userId user with viaApiToken := true }

/-- `_effective_user`: a session that impersonates nobody enabled stops impersonating. -/
def effectiveUser (db : Db) (record : SessionRecord) (login : User) :
    Nat × User × SessionRecord × DbSessionStore :=
  let itself := (DbSessionStore.setImpersonate db.sessions record none)
  match record.impersonateUserId with
  | none => (record.userId, login, record, db.sessions)
  | some target =>
    match (db.users.find target).filter User.enabled with
    | none => (record.userId, login, itself.2, itself.1)
    | some user => (target, user, record, db.sessions)

/-- The part of `resolve_auth` for a session cookie, with the session touched. -/
def cookieContext (env : Env) (db : Db) (request : Request) : Except Refusal (Option AuthContext × Db) :=
  match request.sessionCookie.filter (· != "") with
  | none => .ok (none, db)
  | some token =>
    match db.sessions.lookup (env.hashSecret token) env.now with
    | none => .ok (none, db)
    | some row =>
      match (db.users.find row.userId).filter User.enabled with
      | none => .ok (none, db)
      | some login =>
        let (userId, user, record, sessions) := effectiveUser db row login
        (sessionTtlSec db.settings).map fun ttl =>
          let (sessions, record) := DbSessionStore.touch sessions record ttl env.now
          (some { AuthContext.own db userId user with
              actorId := row.userId
              actor := login
              session := some record
              impersonating := record.impersonateUserId.isSome },
            { db with sessions })

/-- The bearer token that `resolve_auth` looks at: an empty one leaves the request to the cookie. -/
def bearerOf (request : Request) : Option String :=
  if isBearer request.authorization && bearerToken request.authorization != "" then
    some (bearerToken request.authorization)
  else none

def resolveAuth (env : Env) (db : Db) (request : Request) : Except Refusal (Option AuthContext × Db) :=
  match bearerOf request with
  | some raw =>
    (if looksLikeJwt raw then jwtContext env db raw else apiTokenContext env db raw).map fun ctx => (some ctx, db)
  | none => cookieContext env db request

def allowedWhenMustChange : List (Method × String) := [
  (.post, "/api/v1/auth/password/change"),
  (.post, "/api/v1/auth/logout"),
  (.delete, "/api/v1/impersonate"),
  (.get, "/api/v1/me"),
  (.patch, "/api/v1/me"),
  (.get, "/api/v1/me/account-delete"),
  (.post, "/api/v1/me/account-delete")]

def allowedWhenMfaEnrollment : List (Method × String) := [
  (.post, "/api/v1/auth/password/change"),
  (.post, "/api/v1/auth/mfa/setup/start"),
  (.post, "/api/v1/auth/mfa/setup/confirm"),
  (.post, "/api/v1/auth/logout"),
  (.delete, "/api/v1/impersonate"),
  (.get, "/api/v1/me"),
  (.patch, "/api/v1/me"),
  (.get, "/api/v1/me/account-delete"),
  (.post, "/api/v1/me/account-delete")]

def allowedWhenAgreementPending : List (Method × String) := [
  (.post, "/api/v1/auth/agreement/accept"),
  (.post, "/api/v1/auth/logout"),
  (.delete, "/api/v1/impersonate"),
  (.get, "/api/v1/me"),
  (.patch, "/api/v1/me"),
  (.get, "/api/v1/me/account-delete"),
  (.post, "/api/v1/me/account-delete")]

def letThrough (allowed : List (Method × String)) (prefixes : List String) (request : Request) : Bool :=
  let path := normalPath request.path
  allowed.any (fun entry => entry.1 == request.method && entry.2.toList == path) ||
    prefixes.any (fun text => text.toList.isPrefixOf path) || "/api/v1/me".toList == path

def requireAuth (env : Env) (db : Db) (request : Request) : Except Refusal (AuthContext × Db) :=
  match resolveAuth env db request with
  | .error refusal => .error refusal
  | .ok (none, _) => .error (.error .unauthorized)
  | .ok (some ctx, db) =>
    if ctx.viaOauthToken then
      if (userOauthBlocked env.now db ctx.userId ctx.user).isSome then .error (.error .unauthorized) else .ok (ctx, db)
    else
      let mustChange := ctx.user.mustChangePassword || passwordExpired env.now ctx.user ctx.org
      let mfaRequired := mfaEnrollmentRequired ctx.user ctx.org ctx.membership
      let deferAgreement := mustChange && !ctx.isInstanceAdmin || mfaRequired
      if mustChange && !ctx.isInstanceAdmin && !letThrough allowedWhenMustChange ["/api/v1/auth/password"] request then
        .error (.error .mustChangePassword)
      else if mfaRequired && !letThrough allowedWhenMfaEnrollment ["/api/v1/auth/mfa"] request then
        .error (.error .mfaEnrollmentRequired)
      else if !deferAgreement && userAgreementRequired ctx.user ctx.org ctx.membership db.settings &&
          !letThrough allowedWhenAgreementPending [] request then
        .error (.error .userAgreementRequired)
      else .ok (ctx, db)

/-- The context of an MCP tool call: `verify_token`, then `_auth_context_from_token`. -/
def mcpContext (env : Env) (db : Db) (token : String) : Option AuthContext := do
  let claims ← verifyAccessToken env db token
  let _ ← mcpResourceUrl env db.settings
  let user ← (db.users.find claims.sub).filter User.enabled
  some { AuthContext.own db claims.sub user with
    viaOauthToken := true
    oauthScopes := normalizeScopes claims.scope }

/-- `link_for_telegram_user`: the user linked to a Telegram account. -/
def Db.linkedUser (db : Db) (telegramUserId : String) : Option Nat :=
  (db.telegramLinks.select fun _ link => link.telegramUserId == telegramUserId).head?

/-- The context of a message to the bot: the link, then `auth_context_for_user`. -/
def telegramContext (db : Db) (telegramUserId : String) : Option AuthContext := do
  let userId ← db.linkedUser telegramUserId
  let user ← (db.users.find userId).filter User.enabled
  some (AuthContext.own db userId user)

/-! ## Sample values -/

def sampleEnv : Env where
  now := 0
  hashSecret := id
  jwtDecode := fun raw _ _ => if raw = "a.b.c" then some ⟨2, "library:read"⟩ else none
  oauthProviderEnabled := true
  oauthMcpResourceUrl := ""
  bearerAllowed := fun _ => true

def sampleUser : User where
  email := "user@example.org"
  passwordHash := some "hash"
  authProvider := .localPassword
  ssoSub := none
  disabledAt := none
  passwordChangedAt := none
  mustChangePassword := false
  totpSecret := none
  totpEnabledAt := none
  acceptedVersion := fun _ => none
  isInstanceAdmin := false

end IdigestHub.Auth
