import IdigestHub.OAuth.Authorize
import IdigestHub.OAuth.Redemption

/-! What the requests of the authorization server grant: a consent, its tokens, and their renewal. -/

set_option autoImplicit false

namespace IdigestHub.OAuth

open Foundation

structure Consent.Valid (consent : Consent) : Prop where
  confirmed : consent.form.confirm = true
  signedIn : consent.caller.session = true ∧ consent.caller.impersonating = false
  unblocked : (consent.site.userOauthBlocked consent.caller.userId).getD "" = ""
  redirect : consent.form.redirectUri ∈ consent.registration.redirectUris
  resource : mcpResourceUrl consent.site = some consent.resource
  challenge : consent.form.codeChallengeMethod = "S256" ∧ consent.form.codeChallenge ≠ ""
  known : ∀ scope ∈ consent.scopes, scope ∈ scopeOrder
  asked : consent.scopes = normalizeScopes (consent.form.scope.getD "") ∨
    normalizeScopes (consent.form.scope.getD "") = [] ∧ consent.scopes = scopeOrder

structure Granted (consent : Consent) (provider : Provider) (request : CodeRequest) (exchanged : Exchanged) : Prop where
  code : exchanged.codeHash = consent.codeHash ∧ provider.hashSecret request.code = consent.codeHash
  client : request.clientId = consent.form.clientId ∧ request.redirectUri = consent.form.redirectUri
  verifier : pkceValid provider request.codeVerifier consent.form.codeChallenge "S256" = .ok true
  inTime : provider.now < consent.site.now + consent.site.authCodeTtl
  unblocked : provider.userExists consent.caller.userId = true ∧
    (provider.userOauthBlocked consent.caller.userId).getD "" = ""
  owner : exchanged.access.sub = consent.caller.userId ∧ exchanged.access.clientId = consent.form.clientId
  audience : ∃ base, provider.publicBaseUrl = some base ∧ exchanged.access.aud = audiences base consent.resource
  scope : exchanged.access.scope = scopesToString consent.scopes
  words : ∀ word, word ∈ normalizeScopes exchanged.access.scope ↔ word ∈ consent.scopes
  refresh : exchanged.refresh = ⟨provider.hashSecret provider.newToken, consent.form.clientId, consent.caller.userId,
    scopesToString consent.scopes, consent.resource, provider.now + provider.refreshTokenTtl, provider.now⟩

structure Renews (site : Site) (request : RefreshRequest) (access : AccessToken) (exchanged : Exchanged) : Prop where
  token : exchanged.refresh.tokenHash = site.hashSecret request.refreshToken
  client : request.clientId = exchanged.refresh.clientId
  inTime : site.now < exchanged.refresh.expiresAt
  unblocked : site.userExists exchanged.refresh.userId = true ∧
    (site.userOauthBlocked exchanged.refresh.userId).getD "" = ""
  owner : access.sub = exchanged.refresh.userId ∧ access.clientId = exchanged.refresh.clientId
  audience : ∃ base, site.publicBaseUrl = some base ∧ access.aud = audiences base exchanged.refresh.resource
  scope : access.scope = scopesToString (normalizeScopes exchanged.refresh.scope)

structure Presents (db : Db) (consent : Consent) (provider : Provider) (request : CodeRequest) : Prop where
  client : request.clientId = consent.form.clientId ∧ request.redirectUri = consent.form.redirectUri
  authentic : ∃ client, db.clients.find request.clientId = some client ∧ authenticates provider client request = true
  verifier : pkceValid provider request.codeVerifier consent.form.codeChallenge "S256" = .ok true
  inTime : provider.now < consent.site.now + consent.site.authCodeTtl
  unused : ∃ row, db.codes.find consent.codeHash = some row ∧ row.usedAt = none
  unblocked : provider.userExists consent.caller.userId = true ∧
    (provider.userOauthBlocked consent.caller.userId).getD "" = ""
  issuer : provider.publicBaseUrl.isSome

/-! ## What each request does when it goes through -/

section Specs

theorem registerClient_http {site : Site} {secret : String} {metadata : ClientMetadata} {client : OAuthClient}
    {registration : Registration} (goes : registerClient site secret metadata = .ok (client, registration)) :
    ∀ uri ∈ registration.redirectUris, startsHttp uri = true := by
  unfold registerClient at goes
  dsimp only at goes
  split at goes
  · cases goes
  split at goes
  · cases goes
  split at goes
  · cases goes
  rename_i http
  have kept : registration.redirectUris = (metadata.redirectUris.getD []).filterMap id := by
    split at goes
    · cases goes; rfl
    split at goes
    · cases goes; rfl
    · cases goes
  simp only [Bool.not_eq_true, Bool.not_eq_false', List.all_eq_true] at http
  intro uri member
  rw [kept] at member
  obtain ⟨entry, there, same⟩ := List.mem_filterMap.mp member
  have text : entry = some uri := same
  simpa [text] using http entry there

theorem validateRequestedScopes_ok {requested scopes : List String} (goes : validateRequestedScopes requested = .ok scopes) :
    (∀ scope ∈ scopes, scope ∈ scopeOrder) ∧ (scopes = requested ∨ requested = [] ∧ scopes = scopeOrder) := by
  unfold validateRequestedScopes at goes
  split at goes
  · contradiction
  · rename_i supported
    obtain rfl := Except.ok.inj goes
    split
    · rename_i blank
      exact ⟨fun _ member => member, .inr ⟨List.isEmpty_iff.mp blank, rfl⟩⟩
    · refine ⟨fun scope member => ?_, .inl rfl⟩
      by_contra foreign
      have left : scope ∈ requested.filter fun scope => !scopeOrder.contains scope :=
        List.mem_filter.mpr ⟨member, by simpa using foreign⟩
      rw [supported] at left
      contradiction

theorem validateAuthorizeParams_ok {site : Site} {registrations : Table String Registration} {form : AuthorizeForm}
    {registration : Registration} {scopes : List String} {resource : String}
    (goes : validateAuthorizeParams site registrations form = .ok (registration, scopes, resource)) :
    registrations.find form.clientId = some registration ∧ form.redirectUri ∈ registration.redirectUris ∧
      (form.codeChallengeMethod = "S256" ∧ form.codeChallenge ≠ "") ∧ mcpResourceUrl site = some resource ∧
      validateRequestedScopes (normalizeScopes (form.scope.getD "")) = .ok scopes := by
  unfold validateAuthorizeParams at goes
  split at goes
  · cases goes
  cases known : registrations.find form.clientId with
  | none => simp [known] at goes
  | some found =>
    simp only [known] at goes
    split at goes
    · cases goes
    split at goes
    · cases goes
    split at goes
    · cases goes
    rename_i redirect
    split at goes
    · cases goes
    rename_i method
    split at goes
    · cases goes
    rename_i challenge
    cases configured : mcpResourceUrl site with
    | none => simp [configured] at goes
    | some expected =>
      simp only [configured] at goes
      split at goes
      · cases goes
      cases granted : validateRequestedScopes (normalizeScopes (form.scope.getD "")) with
      | error text => simp [granted, Except.map] at goes
      | ok wanted =>
        rw [granted] at goes
        obtain ⟨rfl, rfl, rfl⟩ : found = registration ∧ wanted = scopes ∧ expected = resource := by
          simpa [Except.map] using goes
        exact ⟨rfl, by simpa using redirect, ⟨by simpa using method, by simpa using challenge⟩, rfl, rfl⟩

theorem authorizeConfirm_ok {site : Site} {registrations : Table String Registration} {caller : Option Caller}
    {form : AuthorizeForm} {code : String} {consent : Consent}
    (goes : authorizeConfirm site registrations caller form code = .ok consent) :
    consent.Valid ∧ registrations.find consent.form.clientId = some consent.registration := by
  unfold authorizeConfirm at goes
  split at goes
  · cases goes
  rename_i ready
  split at goes
  · cases goes
  rename_i registration granted resource validated
  obtain ⟨known, redirect, challenge, configured, checked⟩ := validateAuthorizeParams_ok validated
  obtain ⟨supported, asked⟩ := validateRequestedScopes_ok checked
  split at goes
  · cases goes
  rename_i present found
  dsimp only at goes
  split at goes
  · cases goes
  rename_i unblocked
  obtain rfl := Except.ok.inj goes
  have signedIn := (Option.filter_eq_some_iff.mp found).2
  refine ⟨⟨?_, ?_, ?_, redirect, configured, challenge, supported, asked⟩, known⟩
  · simp only [Bool.not_eq_true, Bool.or_eq_false_iff, Bool.not_eq_false'] at ready
    exact ready.2
  · simpa using signedIn
  · simpa using unblocked

theorem exchangeRow_checks {provider : Provider} {request : CodeRequest} {codeHash : String} {row : AuthorizationCode}
    {exchanged : Exchanged} (goes : exchangeRow provider request codeHash row = .ok exchanged) :
    pkceValid provider request.codeVerifier row.codeChallenge row.codeChallengeMethod = .ok true ∧
      (provider.userExists row.userId = true ∧ (provider.userOauthBlocked row.userId).getD "" = "") ∧
      mintAccessToken provider request.clientId row = .ok exchanged.access := by
  unfold exchangeRow at goes
  split at goes
  · cases goes
  cases pkce : pkceValid provider request.codeVerifier row.codeChallenge row.codeChallengeMethod with
  | error refusal => simp [pkce, Except.bind] at goes
  | ok valid =>
    simp only [pkce, Except.bind] at goes
    split at goes
    · cases goes
    -- the three refusals that share one branch
    rename_i checked
    simp only [Bool.or_eq_true, Bool.not_eq_true', not_or, Bool.not_eq_false, bne_iff_ne, ne_eq, not_not] at checked
    cases minted : mintAccessToken provider request.clientId row with
    | error refusal => simp [minted, Except.map] at goes
    | ok access =>
      simp only [minted, Except.map, Except.ok.injEq] at goes
      subst goes
      exact ⟨by rw [checked.1.1], ⟨checked.1.2, checked.2⟩, rfl⟩

theorem exchange_checks {provider : Provider} {db : Db} {request : CodeRequest} {exchanged : Exchanged}
    (goes : exchangeAuthorizationCode provider db request = .ok exchanged) :
    (∃ client, db.clients.find request.clientId = some client ∧ authenticates provider client request = true) ∧
      ∃ row, db.codes.find exchanged.codeHash = some row ∧
        exchangeRow provider request exchanged.codeHash row = .ok exchanged := by
  have same := (exchange_redeems goes).1
  unfold exchangeAuthorizationCode at goes
  split at goes
  · cases goes
  rename_i client known
  split at goes
  · cases goes
  rename_i authentic
  dsimp only at goes
  rw [← same] at goes
  split at goes
  · cases goes
  rename_i row found
  exact ⟨⟨client, known, by simpa using authentic⟩, row, found, goes⟩

theorem mem_granted {scopes : List String} (known : ∀ scope ∈ scopes, scope ∈ scopeOrder) (word : String) :
    word ∈ normalizeScopes (scopesToString scopes) ↔ word ∈ scopes := by
  rw [normalizeScopes_toString, List.mem_filter, List.contains_iff_mem]
  exact ⟨And.right, fun member => ⟨known word member, member⟩⟩

theorem exchange_granted {consent : Consent} {provider : Provider} {request : CodeRequest} {row : AuthorizationCode}
    {exchanged : Exchanged} (valid : consent.Valid) (issued : row.unmarked = consent.row)
    (hash : exchanged.codeHash = consent.codeHash) (code : exchanged.codeHash = provider.hashSecret request.code)
    (goes : exchangeRow provider request exchanged.codeHash row = .ok exchanged) :
    Granted consent provider request exchanged := by
  obtain ⟨_, redeems, _, refresh⟩ := exchangeRow_ok goes
  obtain ⟨verifier, unblocked, minted⟩ := exchangeRow_checks goes
  have client : row.clientId = consent.form.clientId := congrArg AuthorizationCode.clientId issued
  have redirect : row.redirectUri = consent.form.redirectUri := congrArg AuthorizationCode.redirectUri issued
  have user : row.userId = consent.caller.userId := congrArg AuthorizationCode.userId issued
  have scope : row.scope = scopesToString consent.scopes := congrArg AuthorizationCode.scope issued
  have resource : row.resource = consent.resource := congrArg AuthorizationCode.resource issued
  have challenge : row.codeChallenge = consent.form.codeChallenge := congrArg AuthorizationCode.codeChallenge issued
  have method : row.codeChallengeMethod = "S256" :=
    (congrArg AuthorizationCode.codeChallengeMethod issued).trans valid.challenge.1
  have expires : row.expiresAt = consent.site.now + consent.site.authCodeTtl := congrArg AuthorizationCode.expiresAt issued
  simp only [redeemable, Bool.and_eq_true, decide_eq_true_eq, beq_iff_eq] at redeems
  obtain ⟨⟨⟨_, inTime⟩, sameClient⟩, sameRedirect⟩ := redeems
  have asked : request.clientId = consent.form.clientId := sameClient.symm.trans client
  unfold mintAccessToken at minted
  split at minted
  · cases minted
  rename_i base configured
  have access := (Except.ok.inj minted).symm
  -- the scope has been written, read and written again
  have text : exchanged.access.scope = scopesToString consent.scopes := by
    rw [access, scope, scopesToString_normalize]
  exact {
    code := ⟨hash, code.symm.trans hash⟩
    client := ⟨asked, sameRedirect.symm.trans redirect⟩
    verifier := by rw [← challenge, ← method]; exact verifier
    inTime := expires ▸ inTime
    unblocked := user ▸ unblocked
    owner := by rw [access]; exact ⟨user, asked⟩
    audience := ⟨base, configured, by rw [access, resource]⟩
    scope := text
    words := fun word => by rw [text, mem_granted valid.known]
    refresh := by rw [refresh, mintRefreshToken, scope, scopesToString_normalize, asked, user, resource] }

theorem exchange_goes_iff {consent : Consent} {provider : Provider} {db : Db} {request : CodeRequest} {row : AuthorizationCode}
    (valid : consent.Valid) (found : db.codes.find consent.codeHash = some row) (issued : row.unmarked = consent.row)
    (code : provider.hashSecret request.code = consent.codeHash) :
    (∃ exchanged, exchangeAuthorizationCode provider db request = .ok exchanged) ↔
      Presents db consent provider request := by
  constructor
  · rintro ⟨exchanged, goes⟩
    have ofCode := (exchange_redeems goes).1
    obtain ⟨authentic, row', found', passes⟩ := exchange_checks goes
    obtain rfl : row = row' := by
      rw [ofCode, code, found] at found'
      exact Option.some.inj found'
    have granted := exchange_granted valid issued (ofCode.trans code) ofCode passes
    obtain ⟨unusedRow, here, unused⟩ := exchange_unused goes
    obtain ⟨base, configured, _⟩ := granted.audience
    exact ⟨granted.client, authentic, granted.verifier, granted.inTime, ⟨unusedRow, code ▸ ofCode ▸ here, unused⟩,
      granted.unblocked, by rw [configured]; rfl⟩
  · intro presents
    obtain ⟨client, known, authentic⟩ := presents.authentic
    obtain ⟨row', found', unused⟩ := presents.unused
    obtain rfl : row = row' := Option.some.inj (found.symm.trans found')
    have ofClient : row.clientId = request.clientId :=
      (congrArg AuthorizationCode.clientId issued).trans presents.client.1.symm
    have ofRedirect : row.redirectUri = request.redirectUri :=
      (congrArg AuthorizationCode.redirectUri issued).trans presents.client.2.symm
    have user : row.userId = consent.caller.userId := congrArg AuthorizationCode.userId issued
    have challenge : row.codeChallenge = consent.form.codeChallenge := congrArg AuthorizationCode.codeChallenge issued
    have method : row.codeChallengeMethod = "S256" :=
      (congrArg AuthorizationCode.codeChallengeMethod issued).trans valid.challenge.1
    have expires : row.expiresAt = consent.site.now + consent.site.authCodeTtl := congrArg AuthorizationCode.expiresAt issued
    -- every check of the exchange, in the order of the source
    have redeems : redeemable provider request row = true := by
      simp [redeemable, unused, expires, presents.inTime, ofClient, ofRedirect]
    have unblocked : (false || !provider.userExists row.userId ||
        (provider.userOauthBlocked row.userId).getD "" != "") = false := by
      rw [user, presents.unblocked.1, presents.unblocked.2]
      rfl
    obtain ⟨access, minted⟩ : ∃ access, mintAccessToken provider request.clientId row = .ok access := by
      obtain ⟨base, configured⟩ := Option.isSome_iff_exists.mp presents.issuer
      rw [mintAccessToken, configured]
      exact ⟨_, rfl⟩
    refine ⟨⟨consent.codeHash, provider.now, access, mintRefreshToken provider request.clientId row⟩, ?_⟩
    simp only [exchangeAuthorizationCode, known, authentic, code, found, exchangeRow, redeems, challenge, method,
      presents.verifier, Except.bind, unblocked, minted, Except.map, Bool.not_true, Bool.false_eq_true, if_false]

theorem refresh_renews {site : Site} {db : Db} {request : RefreshRequest} {access : AccessToken}
    (goes : refreshAccessToken site db request = .ok access) :
    ∃ row ∈ db.refreshTokens, ∀ exchanged : Exchanged, exchanged.refresh = row →
      Renews site request access exchanged := by
  unfold refreshAccessToken at goes
  split at goes
  · cases goes
  split at goes
  · cases goes
  split at goes
  · cases goes
  rename_i row found
  split at goes
  · cases goes
  rename_i live
  split at goes
  · cases goes
  split at goes
  · cases goes
  rename_i unblocked
  unfold renewAccessToken at goes
  split at goes
  · cases goes
  rename_i base configured
  have same := (Except.ok.inj goes).symm
  simp only [Bool.not_eq_true', Bool.not_eq_false, Bool.and_eq_true, decide_eq_true_eq, beq_iff_eq] at live
  simp only [Bool.or_eq_true, Bool.not_eq_true', not_or, Bool.not_eq_false, bne_iff_ne, ne_eq, not_not] at unblocked
  refine ⟨row, List.mem_of_find?_eq_some found, ?_⟩
  rintro exchanged rfl
  exact {
    token := by simpa using List.find?_some found
    client := live.2.symm
    inTime := live.1
    unblocked := unblocked
    owner := by rw [same]; exact ⟨rfl, live.2.symm⟩
    audience := ⟨base, configured, by rw [same]⟩
    scope := by rw [same] }

theorem Renews.scope_eq {site : Site} {request : RefreshRequest} {access : AccessToken} {exchanged : Exchanged}
    (renews : Renews site request access exchanged) {consent : Consent} {provider : Provider} {codeRequest : CodeRequest}
    (granted : Granted consent provider codeRequest exchanged) : access.scope = exchanged.access.scope := by
  have column : exchanged.refresh.scope = scopesToString consent.scopes := congrArg RefreshToken.scope granted.refresh
  rw [renews.scope, column, scopesToString_normalize, granted.scope]

end Specs

end IdigestHub.OAuth
