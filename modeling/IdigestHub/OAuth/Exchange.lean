import IdigestHub.Foundation.Table
import IdigestHub.Foundation.Text

/-! The authorization code grant: what one exchange checks, and what it would write. -/

set_option autoImplicit false

namespace IdigestHub.OAuth

open Foundation

structure OAuthClient where
  clientSecretHash : Option String
  tokenEndpointAuthMethod : String

/-- A row of the authorization codes, under its `code_hash`. -/
structure AuthorizationCode where
  clientId : String
  userId : Nat
  redirectUri : String
  scope : String
  resource : String
  codeChallenge : String
  codeChallengeMethod : String
  expiresAt : Nat
  usedAt : Option Nat

structure RefreshToken where
  tokenHash : String
  clientId : String
  userId : Nat
  scope : String
  resource : String
  expiresAt : Nat
  createdAt : Nat

structure AccessToken where
  iss : String
  sub : Nat
  aud : List String
  exp : Nat
  iat : Nat
  scope : String
  clientId : String

structure Db where
  clients : Table String OAuthClient
  codes : Table String AuthorizationCode
  refreshTokens : List RefreshToken

/-- What the exchange takes from elsewhere: digests, settings and the user's account. -/
structure Provider where
  hashSecret : String → String
  /-- SHA-256 of ASCII text, in URL-safe Base64 without padding. -/
  challengeOf : String → String
  publicBaseUrl : Option String
  accessTokenTtl : Nat
  refreshTokenTtl : Nat
  userExists : Nat → Bool
  userOauthBlocked : Nat → Option String
  now : Nat
  newToken : String

/-- The form of `grant_type=authorization_code`. -/
structure CodeRequest where
  code : String
  clientId : String
  redirectUri : String
  codeVerifier : String
  clientSecret : Option String

/-- `ValueError`, whose text the endpoint returns, or another exception. -/
inductive Refusal where
  | value (text : String)
  | other (text : String)
  deriving DecidableEq

def invalidGrant : Refusal := .value "invalid_grant"

def isAscii (text : String) : Bool := text.toList.all fun c => c.toNat < 128

def pkceValid (provider : Provider) (codeVerifier challenge method : String) : Except Refusal Bool :=
  if method != "S256" then .ok false
  else if !isAscii codeVerifier then .error (.value "'ascii' codec can't encode characters")
  else if !isAscii challenge then .error (.other "comparing strings with non-ASCII characters is not supported")
  else .ok (provider.challengeOf codeVerifier == challenge)

def scopeOrder : List String := [
  "audio:read", "audio:write", "transcripts:read", "transcripts:write", "summaries:read",
  "summaries:write", "skills:read", "skills:write", "tasks:write"]

def normalizeScopes (raw : String) : List String :=
  ((raw.toList.splitOnP fun c => Text.isSpace c || c == ',').filter fun part => !part.isEmpty).map String.ofList

def scopesToString (scopes : List String) : String := " ".intercalate (scopeOrder.filter scopes.contains)

def audiences (base resource : String) : List String :=
  let trimmed := String.ofList (resource.toList.reverse.dropWhile (· == '/')).reverse
  let api := base ++ "/api/v1"
  if [trimmed].contains api then [trimmed] else [trimmed, api]

/-- `mint_access_token`, signed elsewhere. -/
def mintAccessToken (provider : Provider) (clientId : String) (row : AuthorizationCode) :
    Except Refusal AccessToken :=
  match provider.publicBaseUrl with
  | none => .error (.value "oauth_misconfigured")
  | some base => .ok {
      iss := base
      sub := row.userId
      aud := audiences base row.resource
      exp := provider.now + provider.accessTokenTtl
      iat := provider.now
      scope := scopesToString (normalizeScopes row.scope)
      clientId }

def mintRefreshToken (provider : Provider) (clientId : String) (row : AuthorizationCode) : RefreshToken where
  tokenHash := provider.hashSecret provider.newToken
  clientId := clientId
  userId := row.userId
  scope := scopesToString (normalizeScopes row.scope)
  resource := row.resource
  expiresAt := provider.now + provider.refreshTokenTtl
  createdAt := provider.now

/-- What an exchange that does not raise returns and writes. -/
structure Exchanged where
  codeHash : String
  usedAt : Nat
  access : AccessToken
  refresh : RefreshToken

def authenticates (provider : Provider) (client : OAuthClient) (request : CodeRequest) : Bool :=
  client.tokenEndpointAuthMethod != "client_secret_post" ||
    request.clientSecret.any fun secret =>
      secret != "" && some (provider.hashSecret secret) == client.clientSecretHash

/-- The row can be exchanged: unused, not expired, issued to this client and redirection. -/
def redeemable (provider : Provider) (request : CodeRequest) (row : AuthorizationCode) : Bool :=
  row.usedAt.isNone && provider.now < row.expiresAt &&
    row.clientId == request.clientId && row.redirectUri == request.redirectUri

/-- The part of `exchange_authorization_code` that follows the read of the code's row. -/
def exchangeRow (provider : Provider) (request : CodeRequest) (codeHash : String) (row : AuthorizationCode) :
    Except Refusal Exchanged :=
  if !redeemable provider request row then .error invalidGrant
  else
    (pkceValid provider request.codeVerifier row.codeChallenge row.codeChallengeMethod).bind fun valid =>
      if !valid || !provider.userExists row.userId || ((provider.userOauthBlocked row.userId).getD "") != "" then
        .error invalidGrant
      else
        (mintAccessToken provider request.clientId row).map fun access =>
          ⟨codeHash, provider.now, access, mintRefreshToken provider request.clientId row⟩

def exchangeAuthorizationCode (provider : Provider) (db : Db) (request : CodeRequest) : Except Refusal Exchanged :=
  match db.clients.find request.clientId with
  | none => .error (.value "invalid_client")
  | some client =>
    if !authenticates provider client request then .error (.value "invalid_client")
    else
      let codeHash := provider.hashSecret request.code
      match db.codes.find codeHash with
      | none => .error invalidGrant
      | some row => exchangeRow provider request codeHash row

/-- The writes of an exchange: the code is marked, the refresh token added. -/
def Db.redeem (db : Db) (exchanged : Exchanged) : Db :=
  { db with
    codes := db.codes.modify exchanged.codeHash fun row => { row with usedAt := some exchanged.usedAt }
    refreshTokens := db.refreshTokens ++ [exchanged.refresh] }

/-- The request is right for the code: the client is known and authenticates, the issuer is
configured, and the redirection and the verifier are those of the authorization. -/
structure Fits (provider : Provider) (db : Db) (request : CodeRequest) : Prop where
  client : ∃ client, db.clients.find request.clientId = some client ∧ authenticates provider client request = true
  issuer : provider.publicBaseUrl.isSome
  code : ∀ row, db.codes.find (provider.hashSecret request.code) = some row →
    row.clientId = request.clientId ∧ row.redirectUri = request.redirectUri ∧
    pkceValid provider request.codeVerifier row.codeChallenge row.codeChallengeMethod = .ok true

section Exchanges

variable {provider : Provider} {db : Db} {request : CodeRequest}

theorem exchangeRow_ok {codeHash : String} {row : AuthorizationCode} {exchanged : Exchanged}
    (goes : exchangeRow provider request codeHash row = .ok exchanged) :
    exchanged.codeHash = codeHash ∧ redeemable provider request row = true ∧ exchanged.usedAt = provider.now ∧
      exchanged.refresh = mintRefreshToken provider request.clientId row := by
  unfold exchangeRow at goes
  split at goes
  · contradiction
  · rename_i redeems
    cases pkce : pkceValid provider request.codeVerifier row.codeChallenge row.codeChallengeMethod with
    | error refusal => simp [pkce, Except.bind] at goes
    | ok valid =>
      simp only [pkce, Except.bind] at goes
      split at goes
      · contradiction
      · cases minted : mintAccessToken provider request.clientId row with
        | error refusal => simp [minted, Except.map] at goes
        | ok access =>
          simp only [minted, Except.map, Except.ok.injEq] at goes
          subst goes
          exact ⟨rfl, by simpa using redeems, rfl, rfl⟩

theorem exchange_redeems {exchanged : Exchanged}
    (goes : exchangeAuthorizationCode provider db request = .ok exchanged) :
    exchanged.codeHash = provider.hashSecret request.code ∧
      ∃ row, db.codes.find exchanged.codeHash = some row ∧ redeemable provider request row = true ∧
        exchanged.usedAt = provider.now ∧ exchanged.refresh = mintRefreshToken provider request.clientId row := by
  unfold exchangeAuthorizationCode at goes
  split at goes
  · contradiction
  · split at goes
    · contradiction
    · dsimp only at goes
      split at goes
      · contradiction
      · rename_i row found
        obtain ⟨same, redeems⟩ := exchangeRow_ok goes
        exact ⟨same, row, same ▸ found, redeems⟩

theorem exchange_unused {exchanged : Exchanged}
    (goes : exchangeAuthorizationCode provider db request = .ok exchanged) :
    ∃ row, db.codes.find exchanged.codeHash = some row ∧ row.usedAt = none := by
  obtain ⟨_, row, found, redeems, _⟩ := exchange_redeems goes
  simp only [redeemable, Bool.and_eq_true, Option.isNone_iff_eq_none] at redeems
  exact ⟨row, found, redeems.1.1.1⟩

/-- A request that fits is refused with `invalid_grant` only. -/
theorem exchange_refusal {refusal : Refusal} (fits : Fits provider db request)
    (refused : exchangeAuthorizationCode provider db request = .error refusal) : refusal = invalidGrant := by
  obtain ⟨client, known, authenticated⟩ := fits.client
  obtain ⟨base, configured⟩ := Option.isSome_iff_exists.mp fits.issuer
  simp only [exchangeAuthorizationCode, known, authenticated, Bool.not_true, Bool.false_eq_true, if_false] at refused
  split at refused
  · exact (Except.error.inj refused).symm
  · rename_i row found
    obtain ⟨_, _, pkce⟩ := fits.code row found
    simp only [exchangeRow, pkce, Except.bind, mintAccessToken, configured, Except.map] at refused
    split at refused
    · exact (Except.error.inj refused).symm
    · split at refused
      · exact (Except.error.inj refused).symm
      · contradiction

end Exchanges

end IdigestHub.OAuth
