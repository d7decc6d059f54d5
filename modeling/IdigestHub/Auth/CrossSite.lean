import IdigestHub.Auth.Calls
import IdigestHub.Auth.Csrf

/-! Requests that another site makes the browser of a signed-in user send: what the check of
the CSRF token lets through, and what then acts with the session. -/

set_option autoImplicit false

namespace IdigestHub.Auth

open Foundation Foundation.Fallible Sessions

/-- The routes of `require_auth` with a method that may change something whose handlers only look:
a preview, the impact of a change, and tests of a connection. -/
def readingRoutes : List Route := [
  ⟨.post, "/api/v1/instance/settings/agreement/preview", .signedIn⟩,
  ⟨.post, "/api/v1/instance/telegram/test-connection", .signedIn⟩,
  ⟨.post, "/api/v1/instance/smtp/test-connection", .signedIn⟩,
  ⟨.post, "/api/v1/workers/probe", .signedIn⟩,
  ⟨.post, "/api/v1/workers/{worker_id}/change-impact", .signedIn⟩]

/-- The handler of the route goes about a change on the authority of the session cookie: it has the
context of the session, or issues a code for its user; a logout deletes the session of the cookie,
whoever the context is of. -/
def Route.Acts (route : Route) (env : Platform) (vault : Vault) (fresh : Fresh) (form : AuthorizeForm)
    (request : Request) : Prop :=
  match route.guard with
  | .signedIn => route ∉ readingRoutes ∧
      ∃ ctx db, requireAuth env.toEnv vault.toDb request = .ok (ctx, db) ∧ ctx.session.isSome = true
  | .optional => ∃ found db, resolveAuth env.toEnv vault.toDb request = .ok (found, db)
  | .consent => ∃ found db all, resolveAuth env.toEnv vault.toDb request = .ok (found, db) ∧
      authorizeConfirm env { vault with toDb := db } fresh found form = .ok all
  | .anyone => False

structure CrossSite (request : Request) : Prop where
  method : request.method ∈ unsafeMethods
  cookie : ∃ token, request.sessionCookie = some token ∧ token ≠ ""
  unproven : ∀ token, token ≠ "" → ¬ (request.csrfCookie = some token ∧ request.csrfHeader = some token)

def SessionValid (env : Platform) (vault : Vault) (request : Request) : Prop :=
  ∃ token record, request.sessionCookie = some token ∧
    DbSessionStore.lookup vault.sessions (env.hashSecret token) env.now = some record

/-- In no state and configuration does a handler act with the session, whatever the body says. -/
def NoCrossSiteChange (request : Request) : Prop :=
  ∀ env vault fresh form, SessionValid env vault request → enforceCsrf request = true →
    ∀ route ∈ routes, route.serves request.method request.path = true → ¬ route.Acts env vault fresh form request

/-- A header that starts as one of a bearer token, with nothing but white space after it. -/
def blankBearer (request : Request) : Bool :=
  isBearer request.authorization && bearerToken request.authorization == ""

/-- No such header comes to a handler that changes something, no header of a bearer token to the
logout, and the consent page is posted to with a bearer token only. -/
def SafeRequest (request : Request) : Prop :=
  ∀ route ∈ routes, route.serves request.method request.path = true →
    match route.guard with
    | .signedIn => route ∈ readingRoutes ∨ blankBearer request = false
    | .optional => isBearer request.authorization = false
    | .consent => (bearerOf request).isSome = true
    | .anyone => True

section Covered

theorem segmentsMatch_static {templates segments statics : List (List Char)}
    (matched : segmentsMatch templates segments = true) (starts : templates.take statics.length = statics)
    (fixed : ∀ part ∈ statics, part.head? ≠ some '{') : segments.take statics.length = statics := by
  induction statics generalizing templates segments with
  | nil => rfl
  | cons part statics ih =>
    cases templates with
    | nil => contradiction
    | cons template templates =>
      rw [List.length_cons, List.take_succ_cons, List.cons.injEq] at starts
      cases segments with
      | nil => contradiction
      | cons segment segments =>
        rw [segmentsMatch, Bool.and_eq_true] at matched
        have same : template = segment := by
          have no_parameter := fixed part List.mem_cons_self
          rw [← starts.1] at no_parameter
          simpa [segmentMatches, no_parameter] using matched.1
        rw [List.length_cons, List.take_succ_cons, ← same, starts.1,
          ih matched.2 starts.2 fun other inside => fixed other (List.mem_cons_of_mem _ inside)]

theorem prefix_intercalate (sep : List Char) (first rest : List (List Char)) :
    List.intercalate sep first <+: List.intercalate sep (first ++ rest) := by
  induction first with
  | nil => exact List.nil_prefix
  | cons part first ih =>
    cases first with
    | cons next first =>
      rw [List.cons_append, List.cons_append, List.intercalate_cons_cons, List.intercalate_cons_cons,
        List.append_assoc, List.append_assoc, List.prefix_append_right_inj, List.prefix_append_right_inj]
      exact ih
    | nil =>
      cases rest with
      | nil => exact List.prefix_rfl
      | cons next rest =>
        rw [List.singleton_append, List.intercalate_cons_cons, List.intercalate_singleton, List.append_assoc]
        exact List.prefix_append ..

theorem prefix_of_segments {path start : List Char}
    (starts : (segments path).take (segments start).length = segments start) : start <+: path := by
  have joined (text : List Char) : List.intercalate ['/'] (segments text) = text := List.intercalate_splitOn '/'
  have split := List.take_append_drop (segments start).length (segments path)
  rw [starts] at split
  have below := prefix_intercalate ['/'] (segments start) ((segments path).drop (segments start).length)
  rwa [split, joined, joined] at below

variable {route : Route} {request : Request}

theorem Route.covered_path (covered : route.covered = true) : route.path.toList = Text.asciiChars route.path := by
  simp only [Route.covered, Bool.and_eq_true] at covered
  exact Text.toList_of_ascii covered.1.1.1.1

theorem Route.covered_normal (covered : route.covered = true)
    (serves : route.serves request.method request.path = true) : normalPath request.path = request.path := by
  apply Route.serves_normal _ serves
  rw [Route.covered_path covered]
  simp only [Route.covered, Bool.and_eq_true] at covered
  exact covered.1.1.1.2

theorem Route.covered_below (covered : route.covered = true)
    (serves : route.serves request.method request.path = true) : "/api/v1".toList.isPrefixOf request.path = true := by
  rw [List.isPrefixOf_iff_prefix, Text.toList_of_ascii (by decide)]
  apply prefix_of_segments
  simp only [Route.serves, Bool.and_eq_true, Route.covered_path covered] at serves
  simp only [Route.covered, Bool.and_eq_true, beq_iff_eq] at covered
  have three : (segments (Text.asciiChars "/api/v1")).length = 3 := by decide
  rw [← three] at covered
  exact segmentsMatch_static serves.2 covered.1.1.2 (by decide)

theorem Route.covered_exempt (covered : route.covered = true)
    (serves : route.serves request.method request.path = true) :
    csrfExemptPaths.any (fun text => text.toList == request.path) = false := by
  rw [List.any_eq_false]
  intro text inside same
  simp only [Route.serves, Bool.and_eq_true, Route.covered_path covered] at serves
  simp only [Route.covered, Bool.and_eq_true, List.all_eq_true, Bool.not_eq_true'] at covered
  obtain ⟨ascii, apart⟩ := covered.1.2 text inside
  rw [← beq_iff_eq.mp same, Text.toList_of_ascii ascii, apart] at serves
  exact Bool.false_ne_true serves.2

theorem Route.covered_prefix (covered : route.covered = true)
    (serves : route.serves request.method request.path = true) :
    csrfExemptPrefixes.any (fun text => text.toList.isPrefixOf request.path) = false := by
  simp only [csrfExemptPrefixes, List.any_cons, List.any_nil, Bool.or_false]
  rw [Bool.eq_false_iff]
  intro under
  obtain ⟨rest, split⟩ := List.isPrefixOf_iff_prefix.mp under
  have spelled : "/api/v1/public/summary/".toList = Text.asciiChars "/api/v1/public/summary" ++ ['/'] := by
    rw [Text.toList_of_ascii (by decide)]
    decide
  rw [spelled, List.append_assoc, List.singleton_append] at split
  rw [← split] at serves
  have matched := Route.serves_prefix serves
  have five : (segments (Text.asciiChars "/api/v1/public/summary")).length = 5 := by decide
  rw [Route.covered_path covered, five] at matched
  simp only [Route.covered, Bool.and_eq_true, Bool.not_eq_true'] at covered
  rw [covered.2] at matched
  exact Bool.false_ne_true matched

/-- The token is asked for on the routes that authenticate by the session, but for a bearer header. -/
theorem Route.covered_csrfRequired (covered : route.covered = true)
    (serves : route.serves request.method request.path = true) (cross : CrossSite request)
    (cookie_only : isBearer request.authorization = false) : csrfRequired request = true := by
  obtain ⟨token, carried, nonempty⟩ := cross.cookie
  have method : unsafeMethods.contains request.method = true := by simpa using cross.method
  unfold csrfRequired
  rw [Route.covered_normal covered serves]
  dsimp only
  rw [method, Route.covered_below covered serves, cookie_only, Route.covered_exempt covered serves,
    Route.covered_prefix covered serves, carried]
  simpa using nonempty

theorem CrossSite.enforced (cross : CrossSite request) (required : csrfRequired request = true) :
    enforceCsrf request = false := by
  unfold enforceCsrf
  rw [required]
  rw [Bool.eq_false_iff]
  intro passes
  simp only [Bool.not_true, Bool.false_eq_true, if_false, Bool.and_eq_true, bne_iff_ne, ne_eq, beq_iff_eq] at passes
  obtain ⟨⟨nonempty, _⟩, same⟩ := passes
  cases cookie : request.csrfCookie with
  | none => simp [cookie] at nonempty
  | some token =>
    cases header : request.csrfHeader with
    | none => simp [cookie, header] at nonempty same
              exact nonempty same
    | some other =>
      simp only [cookie, header, Option.getD_some] at nonempty same
      exact cross.unproven token nonempty ⟨cookie, same ▸ header⟩

/-- The consent page is the one route that calls `resolve_auth` itself. -/
theorem consent_route : ∀ route ∈ routes, route.guard = .consent → route = ⟨.post, "/oauth/authorize", .consent⟩ := by
  decide +kernel

theorem enforceCsrf_of_consent (known : route ∈ routes) (guarded : route.guard = .consent)
    (serves : route.serves request.method request.path = true) : enforceCsrf request = true := by
  obtain rfl := consent_route route known guarded
  have ascii : "/oauth/authorize".toList = Text.asciiChars "/oauth/authorize" := Text.toList_of_ascii (by decide)
  have normal : normalPath request.path = request.path := by
    apply Route.serves_normal _ serves
    rw [ascii]
    decide
  simp only [Route.serves, Bool.and_eq_true, ascii] at serves
  have two : (segments (Text.asciiChars "/oauth")).length = 2 := by decide
  have under : Text.asciiChars "/oauth" <+: request.path :=
    prefix_of_segments (segmentsMatch_static serves.2 (by rw [two]; decide) (by decide))
  have elsewhere : "/api/v1".toList.isPrefixOf request.path = false := by
    rw [Bool.eq_false_iff]
    intro below
    rw [List.isPrefixOf_iff_prefix, Text.toList_of_ascii (by decide)] at below
    have same := List.prefix_of_prefix_length_le under below (by decide)
    exact absurd same (by decide)
  have free : csrfRequired request = false := by
    unfold csrfRequired
    rw [normal]
    dsimp only
    rw [elsewhere]
    split <;> rfl
  rw [enforceCsrf, free]
  rfl

theorem enforceCsrf_of_bearer (bearer : isBearer request.authorization = true) : enforceCsrf request = true := by
  have free : csrfRequired request = false := by
    unfold csrfRequired
    dsimp only
    rw [bearer]
    split
    · rfl
    · split <;> rfl
  rw [enforceCsrf, free]
  rfl

end Covered

section Deciding

variable {env : Platform} {vault : Vault} {fresh : Fresh} {form : AuthorizeForm} {request : Request} {route : Route}

theorem SafeRequest.keeps_out (safe : SafeRequest request) (cross : CrossSite request)
    (passes : enforceCsrf request = true) (known : route ∈ routes)
    (serves : route.serves request.method request.path = true) : ¬ route.Acts env vault fresh form request := by
  intro acts
  have safe_here := safe route known serves
  -- Without a bearer header, the token is asked for.
  have refused (own : route.guard = .signedIn ∨ route.guard = .optional) (cookie_only : isBearer request.authorization = false) :
      False := by
    have required := Route.covered_csrfRequired (routes_covered route known own) serves cross cookie_only
    rw [cross.enforced required] at passes
    contradiction
  unfold Route.Acts at acts
  cases guarded : route.guard with
  | anyone =>
    simp only [guarded] at acts
  | optional =>
    simp only [guarded] at safe_here
    exact refused (.inr guarded) safe_here
  | signedIn =>
    simp only [guarded] at acts safe_here
    obtain ⟨changing, ctx, db, accepted, session⟩ := acts
    have not_blank := safe_here.resolve_left changing
    cases bearer : isBearer request.authorization with
    | false => exact refused (.inl guarded) bearer
    | true =>
      have token : (bearerOf request).isSome = true := by
        simp only [blankBearer, bearer, Bool.true_and] at not_blank
        simp [bearerOf, bearer, bne, not_blank]
      rw [(resolveAuth_bearer (requireAuth_ok accepted) token).1] at session
      contradiction
  | consent =>
    simp only [guarded] at acts safe_here
    obtain ⟨found, db, all, resolved, confirmed⟩ := acts
    obtain ⟨own, _, _, rfl, session, _⟩ := authorizeConfirm_ok confirmed
    rw [(resolveAuth_bearer resolved safe_here).1] at session
    contradiction

end Deciding

section Exact

def memberPlatform : Platform := { samplePlatform with jwtDecode := fun _ _ _ => some ⟨3, ""⟩ }

def memberVault (raw token : String) : Vault :=
  { sampleVault with
    users := Table.put ∅ 3 sampleUser
    orgs := Table.put ∅ 1 ⟨0, false, false, none, none, true⟩
    memberships := Table.put ∅ 3 ⟨1, .orgMember⟩
    apiTokens := Table.put ∅ raw ⟨3, none⟩
    sessions := DbSessionStore.create ∅ 10 3 token 3600 0 }

def confirmForm : AuthorizeForm := ⟨true, "client", "https://client", "challenge", "S256"⟩

variable {request : Request} {raw token : String} {route : Route}

def memberRecord (token : String) : SessionRecord := .new 10 3 token 3600 0

theorem memberVault_lookup : DbSessionStore.lookup (memberVault raw token).sessions token 0 = some (memberRecord token) := by
  have selected : Table.select (memberVault raw token).sessions
      (fun _ row => row.tokenHash == token && decide (0 < row.expiresAt)) = [10] := by
    show ([(⟨10, _⟩ : Sigma fun _ : Nat => AuthSession)].filter _).map Sigma.fst = [10]
    simp [second]
  rw [DbSessionStore.lookup, selected]
  rfl

def memberDb (raw token : String) : Db :=
  { (memberVault raw token).toDb with
    sessions := (DbSessionStore.touch (memberVault raw token).sessions (memberRecord token) 86400 0).1 }

def memberContext (raw token : String) : AuthContext :=
  { AuthContext.own (memberVault raw token).toDb 3 sampleUser with
    session := some (DbSessionStore.touch (memberVault raw token).sessions (memberRecord token) 86400 0).2 }

theorem memberVault_resolveAuth (carried : request.sessionCookie = some token) (nonempty : token ≠ "")
    (no_bearer : bearerOf request = none) :
    resolveAuth memberPlatform.toEnv (memberVault raw token).toDb request =
      .ok (some (memberContext raw token), memberDb raw token) := by
  have present : request.sessionCookie.filter (· != "") = some token := by
    rw [carried, Option.filter_some, if_pos (by simpa using nonempty)]
  have found : (memberVault raw token).toDb.sessions.lookup (memberPlatform.hashSecret token) memberPlatform.now =
      some (memberRecord token) := memberVault_lookup
  simp only [resolveAuth, no_bearer, cookieContext, present, found]
  rfl

theorem memberVault_requireAuth (carried : request.sessionCookie = some token) (nonempty : token ≠ "")
    (no_bearer : bearerOf request = none) :
    requireAuth memberPlatform.toEnv (memberVault raw token).toDb request =
      .ok (memberContext raw token, memberDb raw token) := by
  unfold requireAuth
  rw [memberVault_resolveAuth carried nonempty no_bearer]
  rfl

theorem member_base : publicBaseUrl sampleVault.settings = some "https://hub" := by decide

theorem member_resource : mcpResourceUrl sampleEnv sampleVault.settings = some "https://hub/mcp" := by decide

theorem memberVault_bearer (bearer : bearerOf request = some raw) :
    ∃ found db, resolveAuth memberPlatform.toEnv (memberVault raw token).toDb request = .ok (found, db) := by
  simp only [resolveAuth, bearer]
  split
  · have base : publicBaseUrl (memberVault raw token).toDb.settings = some "https://hub" := member_base
    have decoded : verifyAccessToken memberPlatform.toEnv (memberVault raw token).toDb raw = some ⟨3, ""⟩ := by
      rw [verifyAccessToken, base]
      rfl
    have known : (memberVault raw token).toDb.users.find 3 = some sampleUser := rfl
    have free : userOauthBlocked memberPlatform.now (memberVault raw token).toDb 3 sampleUser = none := rfl
    have in_tariff : orgApiEnabled ((memberVault raw token).toDb.loadOrgBundle 3).1 = true := rfl
    simp only [jwtContext, decoded, known, free, in_tariff]
    exact ⟨_, _, rfl⟩
  · have issued : (memberVault raw token).toDb.apiTokens.find (memberPlatform.hashSecret raw) = some ⟨3, none⟩ :=
      Table.find_put_self ..
    simp only [apiTokenContext, issued]
    exact ⟨_, _, rfl⟩

theorem memberVault_resolves (carried : request.sessionCookie = some token) (nonempty : token ≠ "") :
    ∃ raw found db, resolveAuth memberPlatform.toEnv (memberVault raw token).toDb request = .ok (found, db) := by
  cases bearer : bearerOf request with
  | none => exact ⟨"", _, _, memberVault_resolveAuth carried nonempty bearer⟩
  | some raw => exact ⟨raw, memberVault_bearer bearer⟩

theorem memberVault_confirm :
    authorizeConfirm memberPlatform { memberVault raw token with toDb := memberDb raw token } sampleFresh
      (some (memberContext raw token)) confirmForm =
    .ok [.insertCode "token" (authorizationCode memberPlatform confirmForm 3 [] "https://hub/mcp")] := by
  have ready : providerReady memberPlatform { memberVault raw token with toDb := memberDb raw token } = true := by
    have base : publicBaseUrl (memberDb raw token).settings = some "https://hub" := member_base
    have resource : mcpResourceUrl memberPlatform.toEnv (memberDb raw token).settings = some "https://hub/mcp" :=
      member_resource
    rw [providerReady, base, resource]
    rfl
  simp only [authorizeConfirm, ready]
  rfl

theorem SafeRequest.of_no_change (cross : CrossSite request) (quiet : NoCrossSiteChange request) : SafeRequest request := by
  intro route known serves
  obtain ⟨token, carried, nonempty⟩ := cross.cookie
  have valid (raw : String) : SessionValid memberPlatform (memberVault raw token) request :=
    ⟨token, memberRecord token, carried, memberVault_lookup⟩
  split
  · rename_i guarded
    by_contra acting
    simp only [not_or, Bool.not_eq_false, blankBearer, Bool.and_eq_true, beq_iff_eq] at acting
    obtain ⟨changing, bearer, blank⟩ := acting
    have no_bearer : bearerOf request = none := by simp [bearerOf, blank]
    apply quiet _ _ sampleFresh confirmForm (valid "") (enforceCsrf_of_bearer bearer) route known serves
    simp only [Route.Acts, guarded]
    exact ⟨changing, _, _, memberVault_requireAuth carried nonempty no_bearer, rfl⟩
  · rename_i guarded
    by_contra bearer
    rw [Bool.not_eq_false] at bearer
    obtain ⟨raw, found, db, resolved⟩ := memberVault_resolves carried nonempty
    apply quiet _ _ sampleFresh confirmForm (valid raw) (enforceCsrf_of_bearer bearer) route known serves
    simp only [Route.Acts, guarded]
    exact ⟨found, db, resolved⟩
  · rename_i guarded
    by_contra absent
    rw [Bool.not_eq_true, Option.isSome_eq_false_iff, Option.isNone_iff_eq_none] at absent
    apply quiet _ _ sampleFresh confirmForm (valid "") (enforceCsrf_of_consent known guarded serves) route known serves
    simp only [Route.Acts, guarded]
    exact ⟨_, _, _, memberVault_resolveAuth carried nonempty absent, memberVault_confirm⟩
  · trivial

/-- A cross-site request makes no change on the authority of its session, whatever the state, exactly
when it is safe. -/
theorem no_cross_site_change_iff {request : Request} (cross : CrossSite request) :
    NoCrossSiteChange request ↔ SafeRequest request := by
  constructor
  · exact SafeRequest.of_no_change cross
  · intro safe env vault fresh form _ passes route known serves
    exact safe.keeps_out cross passes known serves

/-- What a form on another site posts, with the cookie that the browser adds. -/
def crossPost (path : String) : Request := ⟨.post, path.toList, "", some "cookie", some "csrf", none⟩

theorem crossPost_crossSite (path : String) : CrossSite (crossPost path) where
  method := List.mem_cons_self
  cookie := ⟨"cookie", rfl, by decide⟩
  unproven token _ proven := nomatch proven.2

theorem no_cross_site_change_tokens :
    CrossSite (crossPost "/api/v1/auth/tokens") ∧ NoCrossSiteChange (crossPost "/api/v1/auth/tokens") := by
  refine ⟨crossPost_crossSite _, (no_cross_site_change_iff (crossPost_crossSite _)).mpr ?_⟩
  intro route known serves
  have no_header : isBearer "" = false := by decide +kernel
  split
  · exact .inr (by rw [blankBearer, crossPost, no_header, Bool.false_and])
  · exact no_header
  · rename_i guarded
    obtain rfl := consent_route route known guarded
    exact absurd serves (by decide +kernel)
  · trivial

/-- A form on another site has the hub issue an authorization code for the user of the session. -/
theorem cross_site_consent :
    CrossSite (crossPost "/oauth/authorize") ∧ ¬ NoCrossSiteChange (crossPost "/oauth/authorize") := by
  refine ⟨crossPost_crossSite _, fun quiet => ?_⟩
  have served : (⟨.post, "/oauth/authorize", .consent⟩ : Route).serves .post "/oauth/authorize".toList = true := by
    decide +kernel
  have no_bearer : bearerOf (crossPost "/oauth/authorize") = none := by decide +kernel
  have known : ⟨.post, "/oauth/authorize", .consent⟩ ∈ routes := by decide +kernel
  exact quiet memberPlatform (memberVault "" "cookie") sampleFresh confirmForm
    ⟨"cookie", memberRecord "cookie", rfl, memberVault_lookup⟩ (by decide +kernel) _ known served
    ⟨_, _, _, memberVault_resolveAuth rfl (by decide) no_bearer, memberVault_confirm⟩

end Exact

end IdigestHub.Auth
