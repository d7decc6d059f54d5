import IdigestHub.OAuth.Exchange

/-! Clients register themselves, a user consents to one of them, and a refresh token renews the grant. -/

set_option autoImplicit false

namespace IdigestHub.OAuth

open Foundation

/-- A provider with the settings that the authorization endpoint reads. -/
structure Site extends Provider where
  oauthProviderEnabled : Bool
  oauthMcpResourceUrl : String
  authCodeTtl : Nat

/-- What the row of a client keeps of its metadata, under its `client_id`. An entry that is
not a text is `none`. -/
structure Registration where
  redirectUris : List String
  responseTypes : List (Option String)

/-- The body of a registration. A value that is missing or false is `none`. -/
structure ClientMetadata where
  redirectUris : Option (List (Option String))
  responseTypes : Option (List (Option String))
  tokenEndpointAuthMethod : Option String

structure AuthorizeForm where
  clientId : String
  redirectUri : String
  responseType : String
  scope : Option String
  codeChallenge : String
  codeChallengeMethod : String
  resource : Option String
  confirm : Bool

/-- What `resolve_auth` has made of the request. -/
structure Caller where
  userId : Nat
  session : Bool
  impersonating : Bool

def rstripSlash (text : String) : String := .ofList (text.toList.reverse.dropWhile (· == '/')).reverse

def mcpResourceUrl (site : Site) : Option String :=
  let value := rstripSlash (Text.strip site.oauthMcpResourceUrl)
  if value != "" then some value else site.publicBaseUrl.map (· ++ "/mcp")

def providerReady (site : Site) : Bool :=
  site.oauthProviderEnabled && site.publicBaseUrl.isSome && (mcpResourceUrl site).isSome

/-- `uri.startswith("http")`. -/
def startsHttp (uri : String) : Bool := "http".toList.isPrefixOf uri.toList

/-- `register_client`, behind the check of its endpoint. `secret` is the fresh secret. -/
def registerClient (site : Site) (secret : String) (metadata : ClientMetadata) :
    Except String (OAuthClient × Registration) :=
  let uris := metadata.redirectUris.getD []
  let registration : Registration := ⟨uris.filterMap id, metadata.responseTypes.getD [some "code"]⟩
  let method := (metadata.tokenEndpointAuthMethod.filter (· != "")).getD "none"
  if !providerReady site then .error "oauth_misconfigured"
  else if uris.isEmpty then .error "redirect_uris required"
  else if !uris.all fun uri => uri.any startsHttp then .error "invalid redirect_uri"
  -- only a confidential client gets a secret
  else if method == "none" then .ok (⟨none, method⟩, registration)
  else if method == "client_secret_post" then .ok (⟨some (site.hashSecret secret), method⟩, registration)
  else .error "unsupported token_endpoint_auth_method"

/-- The first text in code point order, as `sorted` puts it. -/
def firstSorted (first : String) (rest : List String) : String :=
  rest.foldl (fun least text => if text < least then text else least) first

def validateRequestedScopes (requested : List String) : Except String (List String) :=
  match requested.filter fun scope => !scopeOrder.contains scope with
  | first :: rest => .error ("unsupported scope: " ++ firstSorted first rest)
  | [] => .ok (if requested.isEmpty then scopeOrder else requested)

/-- `validate_authorize_params`: the client's registration, the scopes and the resource. -/
def validateAuthorizeParams (site : Site) (registrations : Table String Registration) (form : AuthorizeForm) :
    Except String (Registration × List String × String) :=
  if !providerReady site then .error "oauth_disabled"
  else
    match registrations.find form.clientId with
    | none => .error "invalid_client"
    | some registration =>
      if form.responseType != "code" then .error "unsupported_response_type"
      else if !registration.responseTypes.contains (some "code") then .error "unsupported_response_type"
      -- `_redirect_allowed`: the same text, and not a longer path under it
      else if !registration.redirectUris.contains form.redirectUri then .error "invalid_redirect_uri"
      else if form.codeChallengeMethod != "S256" then .error "invalid_code_challenge_method"
      else if form.codeChallenge == "" then .error "invalid_code_challenge"
      else
        match mcpResourceUrl site with
        | none => .error "oauth_misconfigured"
        | some expected =>
          if rstripSlash (Text.strip (form.resource.getD "")) != expected then .error "invalid_resource"
          else
            (validateRequestedScopes (normalizeScopes (form.scope.getD ""))).map fun scopes =>
              (registration, scopes, expected)

structure Consent where
  site : Site
  caller : Caller
  form : AuthorizeForm
  registration : Registration
  scopes : List String
  resource : String
  codeHash : String

/-- The row that `issue_authorization_code` adds. -/
def Consent.row (consent : Consent) : AuthorizationCode where
  clientId := consent.form.clientId
  userId := consent.caller.userId
  redirectUri := consent.form.redirectUri
  scope := scopesToString consent.scopes
  resource := consent.resource
  codeChallenge := consent.form.codeChallenge
  codeChallengeMethod := consent.form.codeChallengeMethod
  expiresAt := consent.site.now + consent.site.authCodeTtl
  usedAt := none

/-- `oauth_authorize_confirm`, up to its write. `code` is the fresh code. -/
def authorizeConfirm (site : Site) (registrations : Table String Registration) (caller : Option Caller)
    (form : AuthorizeForm) (code : String) : Except String Consent :=
  if !providerReady site || !form.confirm then .error "oauth_invalid_request"
  else
    match validateAuthorizeParams site registrations form with
    | .error text => .error text
    | .ok (registration, scopes, resource) =>
      match caller.filter fun caller => caller.session && !caller.impersonating with
      | none => .error "oauth_sign_in_required"
      | some caller =>
        let blocked := (site.userOauthBlocked caller.userId).getD ""
        if blocked != "" then .error blocked
        else .ok ⟨site, caller, form, registration, scopes, resource, site.hashSecret code⟩

/-- The form of `grant_type=refresh_token`. -/
structure RefreshRequest where
  refreshToken : String
  clientId : String
  clientSecret : Option String
  resource : Option String

/-- `mint_access_token` for a row of the refresh tokens. -/
def renewAccessToken (site : Site) (clientId : String) (row : RefreshToken) : Except Refusal AccessToken :=
  match site.publicBaseUrl with
  | none => .error (.value "oauth_misconfigured")
  | some base => .ok {
      iss := base
      sub := row.userId
      aud := audiences base row.resource
      exp := site.now + site.accessTokenTtl
      iat := site.now
      scope := scopesToString (normalizeScopes row.scope)
      clientId }

/-- `resource and expected_resource and resource.rstrip("/") != expected_resource`. -/
def otherTarget (site : Site) (request : RefreshRequest) : Bool :=
  (request.resource.filter (· != "")).any fun resource =>
    (mcpResourceUrl site).any fun expected => rstripSlash resource != expected

/-- `refresh_access_token`. No code sets the `revoked_at` of a row, so the rows have none. -/
def refreshAccessToken (site : Site) (db : Db) (request : RefreshRequest) : Except Refusal AccessToken :=
  match db.clients.find request.clientId with
  | none => .error (.value "invalid_client")
  | some client =>
    if !authenticates site.toProvider client ⟨"", request.clientId, "", "", request.clientSecret⟩ then
      .error (.value "invalid_client")
    else
      match db.refreshTokens.find? fun row => row.tokenHash == site.hashSecret request.refreshToken with
      | none => .error invalidGrant
      | some row =>
        if !(site.now < row.expiresAt && row.clientId == request.clientId) then .error invalidGrant
        else if otherTarget site request then .error (.value "invalid_target")
        else if !site.userExists row.userId || ((site.userOauthBlocked row.userId).getD "") != "" then .error invalidGrant
        else renewAccessToken site request.clientId row

/-! ## Scopes survive their column -/

section Scopes

def separates (c : Char) : Bool := Text.isSpace c || c == ','

/-- A scope's text: some characters, and no separator among them. -/
def Plain (word : List Char) : Prop := word ≠ [] ∧ ∀ c ∈ word, separates c = false

theorem splitOnP_intercalate {first : List Char} {rest : List (List Char)} (plain : ∀ word ∈ first :: rest, Plain word) :
    (List.intercalate [' '] (first :: rest)).splitOnP separates = first :: rest := by
  induction rest generalizing first with
  | nil => simpa using List.splitOnP_eq_singleton (plain first List.mem_cons_self).2
  | cons second rest ih =>
    have here := (plain first List.mem_cons_self).2
    have later := ih fun word member => plain word (List.mem_cons_of_mem _ member)
    rw [List.intercalate_cons_cons, List.append_assoc, List.singleton_append]
    rw [List.splitOnP_append_cons_of_forall_mem here ' ' (by decide), later]

theorem plain_scopes : ∀ scope ∈ scopeOrder, Plain scope.toList := by
  intro scope member
  have all : scopeOrder.all (fun scope => !scope.toList.isEmpty && scope.toList.all fun c => !separates c) = true := by decide
  have here := List.all_eq_true.mp all scope member
  simp only [Bool.and_eq_true, Bool.not_eq_true', List.isEmpty_eq_false_iff, List.all_eq_true] at here
  exact here

theorem normalizeScopes_intercalate {words : List String} (plain : ∀ word ∈ words, Plain word.toList) :
    normalizeScopes (" ".intercalate words) = words := by
  have texts : (words.map String.toList).map String.ofList = words := by simp [Function.comp_def]
  cases words with
  | nil => rfl
  | cons first rest =>
    have parts := @splitOnP_intercalate first.toList (rest.map String.toList) (by simpa [List.forall_mem_cons] using plain)
    unfold normalizeScopes
    rw [String.toList_intercalate]
    change ((List.splitOnP separates (List.intercalate [' '] (first.toList :: rest.map String.toList))).filter _).map _ = _
    -- no scope is empty, so none is dropped
    rw [parts, List.filter_eq_self.mpr, ← List.map_cons, texts]
    rintro word member
    obtain ⟨text, there, rfl⟩ := List.mem_map.mp (List.map_cons ▸ member)
    simpa using (plain text there).1

theorem normalizeScopes_toString (scopes : List String) :
    normalizeScopes (scopesToString scopes) = scopeOrder.filter scopes.contains :=
  normalizeScopes_intercalate fun word member => plain_scopes word (List.mem_filter.mp member).1

/-- Reading the column back and writing it again keeps its text. -/
theorem scopesToString_normalize (scopes : List String) :
    scopesToString (normalizeScopes (scopesToString scopes)) = scopesToString scopes := by
  rw [normalizeScopes_toString, scopesToString, scopesToString]
  congr 1
  refine List.filter_congr fun scope member => ?_
  simp [member]

end Scopes

end IdigestHub.OAuth
