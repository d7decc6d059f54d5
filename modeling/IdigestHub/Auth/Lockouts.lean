import IdigestHub.Auth.Routes
import IdigestHub.Foundation.Fallible

/-! Which requests reach the library and the tasks, and what the lockouts of the user say
about them. -/

set_option autoImplicit false

namespace IdigestHub.Auth

open Foundation Foundation.Fallible Sessions

structure Reflects (db : Db) (ctx : AuthContext) : Prop where
  row : db.users.find ctx.userId = some ctx.user
  org : ctx.org = (db.loadOrgBundle ctx.userId).1
  membership : ctx.membership = (db.loadOrgBundle ctx.userId).2

section Resolving

variable {env : Env} {db after : Db} {request : Request} {ctx : AuthContext} {raw : String}

theorem jwtContext_ok (resolved : jwtContext env db raw = .ok ctx) :
    Reflects db ctx ∧ ctx.viaOauthToken = true ∧ ctx.viaApiToken = false ∧
      userOauthBlocked env.now db ctx.userId ctx.user = none := by
  unfold jwtContext at resolved
  split at resolved
  · contradiction
  · rename_i claims _
    split at resolved
    · contradiction
    · rename_i user found
      repeat' (split at resolved <;> try contradiction)
      rename_i _ free _ _
      obtain rfl := Except.ok.inj resolved
      have unblocked : userOauthBlocked env.now db claims.sub user = none := by simpa using free
      exact ⟨⟨found, rfl, rfl⟩, rfl, rfl, unblocked⟩

theorem apiTokenContext_ok (resolved : apiTokenContext env db raw = .ok ctx) :
    Reflects db ctx ∧ ctx.viaOauthToken = false ∧ ctx.viaApiToken = true ∧
      (ctx.user.mustChangePassword || passwordExpired env.now ctx.user ctx.org) = false := by
  unfold apiTokenContext at resolved
  split at resolved
  · contradiction
  · rename_i token _
    split at resolved
    · contradiction
    · rename_i user found
      dsimp only at resolved
      repeat' (split at resolved <;> try contradiction)
      rename_i _ password _ _ _
      obtain rfl := Except.ok.inj resolved
      have valid : (user.mustChangePassword || passwordExpired env.now user (db.loadOrgBundle token.userId).1) =
          false := by
        simpa using password
      exact ⟨⟨found, rfl, rfl⟩, rfl, rfl, valid⟩

theorem effectiveUser_row {record : SessionRecord} {login : User} (found : db.users.find record.userId = some login) :
    db.users.find (effectiveUser db record login).1 = some (effectiveUser db record login).2.1 := by
  unfold effectiveUser
  dsimp only
  split
  · exact found
  · split
    · exact found
    · rename_i user target
      exact (Option.filter_eq_some_iff.mp target).1

theorem cookieContext_ok (resolved : cookieContext env db request = .ok (some ctx, after)) :
    Reflects db ctx ∧ (∃ sessions, after = { db with sessions }) ∧ ctx.viaOauthToken = false ∧
      ctx.viaApiToken = false ∧ ctx.session.isSome = true := by
  unfold cookieContext at resolved
  split at resolved
  · simp at resolved
  · split at resolved
    · simp at resolved
    · rename_i record _
      split at resolved
      · simp at resolved
      · rename_i login found
        have row := effectiveUser_row (Option.filter_eq_some_iff.mp found).1
        dsimp only at resolved
        cases ttl : sessionTtlSec db.settings with
        | error refusal => simp [ttl, Except.map] at resolved
        | ok seconds =>
          simp only [ttl, Except.map, Except.ok.injEq, Prod.mk.injEq, Option.some.injEq] at resolved
          obtain ⟨rfl, rfl⟩ := resolved
          exact ⟨⟨row, rfl, rfl⟩, ⟨_, rfl⟩, rfl, rfl, rfl⟩

theorem apiTokenContext_row (resolved : apiTokenContext env db raw = .ok ctx) :
    ∃ token, db.apiTokens.find (env.hashSecret raw) = some token ∧ token.revokedAt = none ∧ token.userId = ctx.userId := by
  unfold apiTokenContext at resolved
  split at resolved
  · contradiction
  · rename_i token found
    split at resolved
    · contradiction
    · simp only [guard_ok] at resolved
      cases resolved.2.2.2.2.2
      obtain ⟨stored, live⟩ := Option.filter_eq_some_iff.mp found
      exact ⟨token, stored, Option.isNone_iff_eq_none.mp live, rfl⟩

theorem effectiveUser_own {record : SessionRecord} {login : User} {ttlSec now : Int}
    (direct : (DbSessionStore.touch (effectiveUser db record login).2.2.2 (effectiveUser db record login).2.2.1
      ttlSec now).2.impersonateUserId = none) : (effectiveUser db record login).1 = record.userId := by
  unfold effectiveUser at direct ⊢
  dsimp only at direct ⊢
  split
  · rfl
  · rename_i target impersonates
    split
    · rfl
    · rename_i user found
      simp only [impersonates, found] at direct
      unfold DbSessionStore.touch at direct
      split at direct
      · simp [SessionRecord.touched, impersonates] at direct
      · rw [impersonates] at direct
        contradiction

def sessionOwner (row : AuthSession) : Nat × String := (row.userId, row.tokenHash)

theorem lookup_some {rows : DbSessionStore} {tokenHash : String} {now : Int} {record : SessionRecord}
    (found : DbSessionStore.lookup rows tokenHash now = some record) :
    ∃ row, Table.find rows record.id = some row ∧ sessionOwner row = (record.userId, tokenHash) ∧ now < row.expiresAt := by
  simp only [DbSessionStore.lookup, Option.bind_eq_bind, Option.bind_eq_some_iff] at found
  obtain ⟨id, first, row, stored, same⟩ := found
  cases same
  obtain ⟨row', stored', right⟩ := (Table.mem_select _ _ _).mp (List.mem_of_mem_head? first)
  rw [stored] at stored'
  cases stored'
  simp only [Bool.and_eq_true, beq_iff_eq, decide_eq_true_eq] at right
  exact ⟨row, stored, by rw [sessionOwner, right.1]; rfl, right.2⟩

theorem effectiveUser_id (record : SessionRecord) (login : User) (ttlSec now : Int) :
    (DbSessionStore.touch (effectiveUser db record login).2.2.2 (effectiveUser db record login).2.2.1
      ttlSec now).2.id = record.id := by
  have kept : (effectiveUser db record login).2.2.1.id = record.id := by
    unfold effectiveUser DbSessionStore.setImpersonate
    dsimp only
    split
    · rfl
    · split
      · split <;> rfl
      · rfl
  rw [← kept]
  unfold DbSessionStore.touch
  split <;> rfl

/-- A session of the cookie is a row that has not expired; its user acts, as oneself unless impersonating. -/
theorem cookieContext_row (resolved : cookieContext env db request = .ok (some ctx, after)) :
    ∃ token record, request.sessionCookie = some token ∧
      DbSessionStore.lookup db.sessions (env.hashSecret token) env.now = some record ∧
      ctx.session.map SessionRecord.id = some record.id ∧ (ctx.impersonating = false → ctx.userId = record.userId) := by
  unfold cookieContext at resolved
  split at resolved
  · simp at resolved
  · rename_i token carried
    split at resolved
    · simp at resolved
    · rename_i record found
      split at resolved
      · simp at resolved
      · dsimp only at resolved
        obtain ⟨ttl, _, same⟩ := map_ok.mp resolved
        cases same
        refine ⟨token, record, (Option.filter_eq_some_iff.mp carried).1, found,
          congrArg some (effectiveUser_id record _ ttl env.now), fun direct => ?_⟩
        exact effectiveUser_own (Option.isSome_eq_false_iff.mp direct |> Option.isNone_iff_eq_none.mp)

/-- What a context of `resolve_auth` comes with. -/
structure Resolved (env : Env) (db : Db) (ctx : AuthContext) : Prop where
  reflects : Reflects db ctx
  oauth : ctx.viaOauthToken = true → userOauthBlocked env.now db ctx.userId ctx.user = none
  apiToken : ctx.viaApiToken = true →
    (ctx.user.mustChangePassword || passwordExpired env.now ctx.user ctx.org) = false
  cookie : ctx.viaOauthToken = false → ctx.viaApiToken = false → ctx.session.isSome = true

theorem resolveAuth_ok (resolved : resolveAuth env db request = .ok (some ctx, after)) :
    Resolved env db ctx ∧ ∃ sessions, after = { db with sessions } := by
  unfold resolveAuth at resolved
  split at resolved
  · rename_i raw _
    split at resolved
    · cases context : jwtContext env db raw with
      | error refusal => simp [context, Except.map] at resolved
      | ok found =>
        simp only [context, Except.map, Except.ok.injEq, Prod.mk.injEq, Option.some.injEq] at resolved
        obtain ⟨rfl, rfl⟩ := resolved
        obtain ⟨reflects, oauth, personal, free⟩ := jwtContext_ok context
        exact ⟨⟨reflects, fun _ => free, by simp [personal], by simp [oauth]⟩, _, rfl⟩
    · cases context : apiTokenContext env db raw with
      | error refusal => simp [context, Except.map] at resolved
      | ok found =>
        simp only [context, Except.map, Except.ok.injEq, Prod.mk.injEq, Option.some.injEq] at resolved
        obtain ⟨rfl, rfl⟩ := resolved
        obtain ⟨reflects, oauth, personal, free⟩ := apiTokenContext_ok context
        exact ⟨⟨reflects, by simp [oauth], fun _ => free, by simp [personal]⟩, _, rfl⟩
  · obtain ⟨reflects, sessions, oauth, personal, session⟩ := cookieContext_ok resolved
    exact ⟨⟨reflects, by simp [oauth], by simp [personal], fun _ _ => session⟩, sessions⟩

def AuthContext.Sessionless (ctx : AuthContext) : Prop := ctx.session = none ∧ ctx.actor = ctx.user

theorem jwtContext_sessionless (resolved : jwtContext env db raw = .ok ctx) : ctx.Sessionless := by
  unfold jwtContext at resolved
  split at resolved
  · contradiction
  · split at resolved
    · contradiction
    · simp only [guard_ok] at resolved
      cases resolved.2.2.2.2
      exact ⟨rfl, rfl⟩

theorem apiTokenContext_sessionless (resolved : apiTokenContext env db raw = .ok ctx) : ctx.Sessionless := by
  unfold apiTokenContext at resolved
  split at resolved
  · contradiction
  · split at resolved
    · contradiction
    · simp only [guard_ok] at resolved
      cases resolved.2.2.2.2.2
      exact ⟨rfl, rfl⟩

theorem resolveAuth_bearer (resolved : resolveAuth env db request = .ok (some ctx, after))
    (bearer : (bearerOf request).isSome = true) : ctx.Sessionless := by
  obtain ⟨raw, found⟩ := Option.isSome_iff_exists.mp bearer
  simp only [resolveAuth, found] at resolved
  obtain ⟨own, context, same⟩ := map_ok.mp resolved
  cases same
  split at context
  · exact jwtContext_sessionless context
  · exact apiTokenContext_sessionless context

theorem resolveAuth_token (resolved : resolveAuth env db request = .ok (some ctx, after))
    (token : (ctx.viaApiToken || ctx.viaOauthToken) = true) : ctx.Sessionless := by
  cases bearer : bearerOf request with
  | some raw => exact resolveAuth_bearer resolved (by rw [bearer]; rfl)
  | none =>
    simp only [resolveAuth, bearer] at resolved
    obtain ⟨_, _, oauth, personal, _⟩ := cookieContext_ok resolved
    rw [oauth, personal] at token
    contradiction

theorem cookieContext_none (resolved : cookieContext env db request = .ok (none, after)) : after = db := by
  unfold cookieContext at resolved
  split at resolved
  · cases resolved; rfl
  · split at resolved
    · cases resolved; rfl
    · split at resolved
      · cases resolved; rfl
      · dsimp only at resolved
        cases ttl : sessionTtlSec db.settings with
        | error refusal => simp [ttl, Except.map] at resolved
        | ok seconds => simp [ttl, Except.map] at resolved

theorem resolveAuth_sessions {found : Option AuthContext} (resolved : resolveAuth env db request = .ok (found, after)) :
    ∃ sessions, after = { db with sessions } := by
  cases found with
  | some ctx => exact (resolveAuth_ok resolved).2
  | none =>
    unfold resolveAuth at resolved
    split at resolved
    · split at resolved
      · cases context : jwtContext env db ‹String› with
        | error refusal => simp [context, Except.map] at resolved
        | ok ctx => simp [context, Except.map] at resolved
      · cases context : apiTokenContext env db ‹String› with
        | error refusal => simp [context, Except.map] at resolved
        | ok ctx => simp [context, Except.map] at resolved
    · exact ⟨db.sessions, cookieContext_none resolved⟩

end Resolving

section Paths

/-- The requests that the lockouts let through by name. -/
def exemptRequests : List (Method × String) :=
  allowedWhenMustChange ++ allowedWhenMfaEnrollment ++ allowedWhenAgreementPending

def Route.locked (route : Route) : Bool :=
  let parts := segments (Text.asciiChars route.path)
  Text.isAscii route.path && parts.getLast?.all (fun last => !last.isEmpty) &&
    !segmentsMatch (parts.take 4) (segments (Text.asciiChars "/api/v1/auth")) &&
    !segmentsMatch parts (segments (Text.asciiChars "/api/v1/me")) &&
    exemptRequests.all fun entry =>
      entry.1 != route.method || !segmentsMatch parts (segments (Text.asciiChars entry.2))

theorem exemptRequests_ascii : ∀ entry ∈ exemptRequests, Text.isAscii entry.2 = true := by decide +kernel

theorem libraryRoutes_locked : ∀ route ∈ libraryRoutes, route.locked = true := by decide +kernel

section Locked

variable {route : Route} {request : Request}

theorem Route.locked_path (locked : route.locked = true) : route.path.toList = Text.asciiChars route.path := by
  simp only [Route.locked, Bool.and_eq_true] at locked
  exact Text.toList_of_ascii locked.1.1.1.1

theorem Route.locked_normal (locked : route.locked = true)
    (serves : route.serves request.method request.path = true) : normalPath request.path = request.path := by
  refine Route.serves_normal ?_ serves
  rw [Route.locked_path locked]
  simp only [Route.locked, Bool.and_eq_true] at locked
  exact locked.1.1.1.2

theorem Route.locked_prefix {rest : List Char} (locked : route.locked = true)
    (serves : route.serves request.method request.path = true) : "/api/v1/auth".toList ++ '/' :: rest ≠ request.path := by
  intro under
  rw [← under] at serves
  have matched := Route.serves_prefix serves
  rw [Route.locked_path locked, Text.toList_of_ascii (show Text.isAscii "/api/v1/auth" = true by decide)] at matched
  simp only [Route.locked, Bool.and_eq_true, Bool.not_eq_true'] at locked
  exact absurd matched (by rw [Bool.not_eq_true]; exact locked.1.1.2)

theorem Route.locked_me (locked : route.locked = true)
    (serves : route.serves request.method request.path = true) : "/api/v1/me".toList ≠ request.path := by
  intro same
  simp only [Route.serves, Bool.and_eq_true] at serves
  rw [← same, Route.locked_path locked, Text.toList_of_ascii (show Text.isAscii "/api/v1/me" = true by decide)] at serves
  simp only [Route.locked, Bool.and_eq_true, Bool.not_eq_true'] at locked
  rw [locked.1.2] at serves
  exact Bool.false_ne_true serves.2

theorem Route.locked_exempt {entry : Method × String} (locked : route.locked = true)
    (serves : route.serves request.method request.path = true) (exempt : entry ∈ exemptRequests)
    (same_method : entry.1 = request.method) : entry.2.toList ≠ request.path := by
  intro same
  simp only [Route.serves, Bool.and_eq_true, beq_iff_eq] at serves
  rw [← same, Route.locked_path locked, Text.toList_of_ascii (exemptRequests_ascii entry exempt)] at serves
  simp only [Route.locked, Bool.and_eq_true, List.all_eq_true] at locked
  have apart := locked.2 entry exempt
  rw [same_method, serves.1, serves.2] at apart
  simp at apart

theorem Route.locked_letThrough {allowed : List (Method × String)} {prefixes : List String} (locked : route.locked = true)
    (serves : route.serves request.method request.path = true) (listed : allowed ⊆ exemptRequests)
    (below : ∀ text ∈ prefixes, ∃ rest, text.toList = "/api/v1/auth".toList ++ '/' :: rest) :
    letThrough allowed prefixes request = false := by
  have not_listed : allowed.any (fun entry => entry.1 == request.method && entry.2.toList == request.path) = false := by
    rw [List.any_eq_false]
    intro entry inside same
    simp only [Bool.and_eq_true, beq_iff_eq] at same
    exact Route.locked_exempt locked serves (listed inside) same.1 same.2
  have not_below : prefixes.any (fun text => text.toList.isPrefixOf request.path) = false := by
    rw [List.any_eq_false]
    intro text inside under
    obtain ⟨rest, spelled⟩ := below text inside
    obtain ⟨further, split⟩ := List.isPrefixOf_iff_prefix.mp under
    rw [spelled, List.append_assoc, List.cons_append] at split
    exact Route.locked_prefix locked serves split
  have not_me : ("/api/v1/me".toList == request.path) = false := beq_eq_false_iff_ne.mpr (Route.locked_me locked serves)
  simp only [letThrough, Route.locked_normal locked serves, not_listed, not_below, not_me, Bool.or_self]

theorem Route.locked_refuses (locked : route.locked = true)
    (serves : route.serves request.method request.path = true) :
    letThrough allowedWhenMustChange ["/api/v1/auth/password"] request = false ∧
      letThrough allowedWhenMfaEnrollment ["/api/v1/auth/mfa"] request = false ∧
      letThrough allowedWhenAgreementPending [] request = false := by
  refine ⟨locked_letThrough locked serves ?_ ?_, locked_letThrough locked serves ?_ ?_,
    locked_letThrough locked serves ?_ ?_⟩
  · exact fun entry inside => List.mem_append_left _ (List.mem_append_left _ inside)
  · simp only [List.mem_singleton, forall_eq]
    exact ⟨"password".toList, by simp⟩
  · exact fun entry inside => List.mem_append_left _ (List.mem_append_right _ inside)
  · simp only [List.mem_singleton, forall_eq]
    exact ⟨"mfa".toList, by simp⟩
  · exact fun entry inside => List.mem_append_right _ inside
  · exact fun text absent => absurd absent List.not_mem_nil

end Locked

end Paths

/-- A front end that reads the library and creates, stops or cancels tasks. -/
inductive FrontEnd where
  | rest (request : Request)
  | mcp (token : String)
  | telegram (telegramUserId : String)

def libraryContext (env : Env) (db : Db) : FrontEnd → Option AuthContext
  | .rest request =>
    if libraryRoutes.any fun route => route.serves request.method request.path then
      match requireAuth env db request with
      | .ok (ctx, _) => some ctx
      | .error _ => none
    else none
  | .mcp token => mcpContext env db token
  | .telegram telegramUserId => telegramContext db telegramUserId

def AuthContext.adminSession (ctx : AuthContext) : Bool :=
  ctx.isInstanceAdmin && ctx.session.isSome && !ctx.viaApiToken && !ctx.viaOauthToken

section Serving

variable {env : Env} {db after : Db} {request : Request} {ctx : AuthContext} {lockout : Lockout}

theorem requireAuth_ok (accepted : requireAuth env db request = .ok (ctx, after)) :
    resolveAuth env db request = .ok (some ctx, after) := by
  unfold requireAuth at accepted
  split at accepted
  · contradiction
  · contradiction
  · rename_i resolved
    dsimp only at accepted
    repeat' (split at accepted <;> try contradiction)
    all_goals cases accepted; exact resolved

theorem requireAuth_resolved (accepted : requireAuth env db request = .ok (ctx, after)) : Resolved env db ctx :=
  (resolveAuth_ok (requireAuth_ok accepted)).1

/-- A request that `require_auth` accepts though no lockout lets it through is under none, but for
the password of an instance admin in a session of one's own. -/
theorem requireAuth_locked (accepted : requireAuth env db request = .ok (ctx, after))
    (not_password : letThrough allowedWhenMustChange ["/api/v1/auth/password"] request = false)
    (not_mfa : letThrough allowedWhenMfaEnrollment ["/api/v1/auth/mfa"] request = false)
    (not_agreement : letThrough allowedWhenAgreementPending [] request = false)
    (locked : db.locked env.now ctx.userId ctx.user lockout = true) :
    lockout.isPassword = true ∧ ctx.adminSession = true := by
  unfold requireAuth at accepted
  split at accepted
  · contradiction
  · contradiction
  · rename_i found later resolved
    obtain ⟨proper, sessions, rfl⟩ := resolveAuth_ok resolved
    dsimp only at accepted
    split at accepted
    · rename_i oauth
      split at accepted <;> cases accepted
      have free := locked_of_userOauthBlocked (proper.oauth oauth)
      rw [free.2.1 lockout] at locked
      contradiction
    · rename_i no_oauth
      rw [not_password, not_mfa, not_agreement] at accepted
      simp only [Bool.not_false, Bool.and_true] at accepted
      repeat' (split at accepted <;> try contradiction)
      rename_i password enrollment agreement
      cases accepted
      have exempt : (ctx.user.mustChangePassword || passwordExpired env.now ctx.user ctx.org) = true →
          ctx.adminSession = true := by
        intro changes
        have admin : ctx.isInstanceAdmin = true := by simpa [changes] using password
        have no_token : ctx.viaApiToken = false := by
          cases token : ctx.viaApiToken with
          | false => rfl
          | true => rw [proper.apiToken token] at changes; contradiction
        simp only [Bool.not_eq_true] at no_oauth
        simp [AuthContext.adminSession, admin, no_token, no_oauth, proper.cookie no_oauth no_token]
      cases lockout with
      | mustChangePassword =>
        refine ⟨rfl, exempt ?_⟩
        rw [Db.locked] at locked
        rw [locked, Bool.true_or]
      | passwordExpired =>
        refine ⟨rfl, exempt ?_⟩
        rw [Db.locked, ← proper.reflects.org] at locked
        rw [locked, Bool.or_true]
      | mfaEnrollment =>
        rw [Db.locked, ← proper.reflects.org, ← proper.reflects.membership] at locked
        exact absurd locked enrollment
      | agreementPending =>
        -- The check is deferred only by a lockout that refuses the request already.
        rw [Db.locked, ← proper.reflects.org, ← proper.reflects.membership] at locked
        have deferred : ((ctx.user.mustChangePassword || passwordExpired env.now ctx.user ctx.org) &&
            !ctx.isInstanceAdmin) = false := by
          simpa only [Bool.not_eq_true] using password
        simp only [Bool.not_eq_true] at enrollment
        rw [deferred, enrollment, Bool.or_self, Bool.not_false, Bool.true_and] at agreement
        exact absurd locked agreement

/-- The library and the tasks of the REST API refuse a user under a lockout, but for the password of an
instance admin in a session of one's own, and refuse an access token without the API in the tariff. -/
theorem rest_refuses_locked_users (served : libraryContext env db (.rest request) = some ctx) :
    db.users.find ctx.userId = some ctx.user ∧
      (∀ lockout, db.locked env.now ctx.userId ctx.user lockout = true →
        lockout.isPassword = true ∧ ctx.adminSession = true) ∧
      (ctx.viaOauthToken = true → orgApiEnabled (db.loadOrgBundle ctx.userId).1 = true) := by
  simp only [libraryContext] at served
  split at served
  · rename_i served_by
    obtain ⟨route, listed, serves⟩ := List.any_eq_true.mp served_by
    have refused := Route.locked_refuses (libraryRoutes_locked route listed) serves
    split at served
    · rename_i found after accepted
      cases served
      have proper := requireAuth_resolved accepted
      refine ⟨proper.reflects.row, fun lockout => ?_, fun oauth => ?_⟩
      · exact requireAuth_locked accepted refused.1 refused.2.1 refused.2.2
      · exact (locked_of_userOauthBlocked (proper.oauth oauth)).2.2
    · contradiction
  · contradiction

end Serving

section Samples

/-- Users 1 and 2 must change the password, the first one administers the instance; user 3 need not. -/
def sampleDb : Db where
  users := Table.put (Table.put (Table.put ∅ 1 { sampleUser with mustChangePassword := true, isInstanceAdmin := true })
    2 { sampleUser with mustChangePassword := true }) 3 sampleUser
  orgs := ∅
  memberships := ∅
  apiTokens := Table.put ∅ "personal" ⟨3, none⟩
  sessions := DbSessionStore.create ∅ 10 1 "cookie" 3600 0
  telegramLinks := Table.put ∅ 2 ⟨"77", "77", none⟩
  settings := ⟨some "https://hub", none, fun _ => ⟨none, none, none, 0⟩⟩

def sampleRequest (authorization : String) (sessionCookie : Option String) : Request :=
  ⟨.get, "/api/v1/audios".toList, authorization, sessionCookie, none, none⟩

def sampleContext : AuthContext := { AuthContext.own sampleDb 3 sampleUser with viaApiToken := true }

theorem rest_refuses_locked_users_personal :
    libraryContext sampleEnv sampleDb (.rest (sampleRequest "Bearer personal" none)) = some sampleContext ∧
      sampleDb.users.find 3 = some sampleUser ∧
      ∀ lockout, sampleDb.locked 0 3 sampleUser lockout = true →
        lockout.isPassword = true ∧ sampleContext.adminSession = true := by
  have served : libraryContext sampleEnv sampleDb (.rest (sampleRequest "Bearer personal" none)) =
      some sampleContext := by
    rfl
  have refused := rest_refuses_locked_users served
  exact ⟨served, refused.1, refused.2.1⟩

/-- An instance admin in a browser session, an access token at MCP and a linked Telegram account
are served though the user must change the password. -/
theorem locked_users_served :
    [(1, FrontEnd.rest (sampleRequest "" (some "cookie"))), (2, .mcp "a.b.c"), (2, .telegram "77")].all
      (fun case =>
        (sampleDb.users.find case.1).any (fun user => sampleDb.locked sampleEnv.now case.1 user .mustChangePassword) &&
          (libraryContext sampleEnv sampleDb case.2).any fun ctx => ctx.userId == case.1) = true := by
  decide +kernel

end Samples

end IdigestHub.Auth
