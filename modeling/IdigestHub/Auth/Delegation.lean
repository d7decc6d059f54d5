import IdigestHub.Auth.Calls
import IdigestHub.Foundation.Runs

/-! Acting for a user through an impersonation, a personal token or an access token: what such
requests leave behind by which one could act as the user afterwards. -/

set_option autoImplicit false

namespace IdigestHub.Auth

open Foundation Foundation.Fallible Foundation.Runs Sessions

inductive Lasting where
  | apiToken (tokenHash : String)
  | code (codeHash : String)
  | refreshToken (tokenHash : String)
  | session (id : Nat) (tokenHash : String)
  | totpSecret (secret : String)
  | password (passwordHash : String)
  | telegramLink (link : TelegramLink)
  | linkCode (row : TelegramLinkChallenge)

def Vault.Has (vault : Vault) (userId : Nat) : Lasting → Prop
  | .apiToken tokenHash => ∃ row, vault.apiTokens.find tokenHash = some row ∧ row.userId = userId
  | .code codeHash => ∃ row, vault.codes.find codeHash = some row ∧ row.userId = userId
  | .refreshToken tokenHash => ∃ row, vault.refreshTokens.find tokenHash = some row ∧ row.userId = userId
  | .session id tokenHash => ∃ row, Table.find vault.sessions id = some row ∧ sessionOwner row = (userId, tokenHash)
  | .totpSecret secret => ∃ user, vault.users.find userId = some user ∧ user.totpSecret = some secret
  | .password passwordHash => ∃ user, vault.users.find userId = some user ∧ user.passwordHash = some passwordHash
  | .telegramLink link => vault.telegramLinks.find userId = some link
  | .linkCode row => vault.linkChallenges.find userId = some row

def AuthContext.delegated (ctx : AuthContext) (userId : Nat) : Bool :=
  ctx.userId == userId && (ctx.impersonating || ctx.viaApiToken || ctx.viaOauthToken)

inductive Deed where
  | signed (env : Platform) (headers : Headers) (fresh : Fresh) (call : SignedCall)
  | authorize (env : Platform) (headers : Headers) (fresh : Fresh) (form : AuthorizeForm)
  /-- Whatever else happens to the rows. -/
  | others (vault : Vault)

/-- The rows, and what delegated requests have created or replaced. -/
structure Trace where
  vault : Vault
  made : Lasting → Prop

def Trace.after (userId : Nat) (trace : Trace) (ctx : Option AuthContext) (vault : Vault) : Trace where
  vault := vault
  made item := trace.made item ∨
    (ctx.any fun ctx => ctx.delegated userId) = true ∧ vault.Has userId item ∧ ¬ trace.vault.Has userId item

def Trace.step (userId : Nat) (trace : Trace) : Deed → Trace
  | .signed env headers fresh call =>
    match serveSigned env trace.vault headers fresh call with
    | .error _ => trace
    | .ok served => trace.after userId (some served.ctx) served.after
  | .authorize env headers fresh form =>
    match serveOpen env trace.vault fresh (.authorize headers form) with
    | .error _ => trace
    | .ok opened => trace.after userId opened.ctx opened.after
  | .others vault => { trace with vault }

/-- The request tells neither the password nor a code of the second factor. -/
def Blind (env : Platform) (ctx : AuthContext) : SignedCall → Prop
  | .changePassword (some current) _ => verifyUserPassword env ctx.user current = false
  | .createToken totpCode => verifyUserTotp env ctx.user (totpCode.getD "") = false
  | .mfaSetupConfirm code => verifyUserTotp env ctx.user code = false
  | .mfaDisable password _ => verifyUserPassword env ctx.user password = false
  | _ => True

/-- The request is none of those that go through and leave something behind: a token made with an
access token of a user without a second factor, a link code, the start of a setup outside an
impersonation, the reset of one's own password as an admin of the organization. -/
def LeavesNothing (userId : Nat) (env : Platform) (vault : Vault) (ctx : AuthContext) (fresh : Fresh) : SignedCall → Prop
  | .createToken _ => ctx.viaOauthToken = true →
      totpEnabled ctx.user = true ∨ (vault.apiTokens.find (env.hashSecret fresh.token)).isSome = true
  | .telegramLink => ctx.org = none ∨ ctx.membership = none ∨ env.telegramConfigured = false
  | .mfaSetupStart => mfaForbidden ctx = true
  | .resetUserPassword target => target = userId →
      ctx.org = none ∨ ∀ membership, ctx.membership = some membership → membership.role ≠ .orgAdmin
  | _ => True

def Delegations (userId : Nat)
    (condition : Platform → Vault → AuthContext → Fresh → SignedCall → Prop) (trace : Trace) : Deed → Prop
  | .signed env headers fresh call => ∀ ctx db,
    requireAuth env.toEnv trace.vault.toDb (call.request headers) = .ok (ctx, db) →
      ctx.delegated userId = true → condition env { trace.vault with toDb := db } ctx fresh call
  | _ => True

section Writes

variable {userId : Nat} {owned : Lasting → Prop} {vault : Vault}

def Frugal (userId : Nat) (owned : Lasting → Prop) : Write → Prop
  | .updateUser id row | .insertUser id row => id = userId →
      (∀ secret, row.totpSecret = some secret → owned (.totpSecret secret)) ∧
        ∀ passwordHash, row.passwordHash = some passwordHash → owned (.password passwordHash)
  | .insertSession _ id _ _ _ | .insertApiToken _ id | .replaceLinkChallenge id _ => id ≠ userId
  | .insertCode _ row => row.userId ≠ userId
  | .insertRefreshToken row => row.userId ≠ userId
  | _ => True

section Tables

variable (before : ∀ item, vault.Has userId item → owned item) {item : Lasting}

include before

/-- A user row carries two items: the secret of the second factor and the password. -/
theorem owned_of_user {id : Nat} {row : User} (own : id = userId →
      (∀ secret, row.totpSecret = some secret → owned (.totpSecret secret)) ∧
        ∀ passwordHash, row.passwordHash = some passwordHash → owned (.password passwordHash))
    (has : ({ vault with users := vault.users.put id row } : Vault).Has userId item) : owned item := by
  by_cases here : userId = id
  · subst here
    cases item with
    | totpSecret secret =>
      obtain ⟨user, known, same⟩ := has
      rw [Table.find_put_self] at known
      cases known
      exact (own rfl).1 secret same
    | password passwordHash =>
      obtain ⟨user, known, same⟩ := has
      rw [Table.find_put_self] at known
      cases known
      exact (own rfl).2 passwordHash same
    | _ => exact before _ has
  · have kept : (vault.users.put id row).find userId = vault.users.find userId :=
      (Table.find_put ..).trans (if_neg here)
    apply before item
    cases item with
    | totpSecret secret => simpa only [Vault.Has, kept] using has
    | password passwordHash => simpa only [Vault.Has, kept] using has
    | _ => exact has

theorem owned_of_sessions {sessions : DbSessionStore}
    (kept : ∀ id tokenHash, (∃ row, Table.find sessions id = some row ∧ sessionOwner row = (userId, tokenHash)) →
      vault.Has userId (.session id tokenHash))
    (has : ({ vault with sessions } : Vault).Has userId item) : owned item := by
  cases item with
  | session id tokenHash => exact before _ (kept id tokenHash has)
  | _ => exact before _ has

theorem owned_of_apiTokens {apiTokens : Table String ApiToken}
    (kept : ∀ tokenHash, (∃ row, apiTokens.find tokenHash = some row ∧ row.userId = userId) →
      vault.Has userId (.apiToken tokenHash))
    (has : ({ vault with apiTokens } : Vault).Has userId item) : owned item := by
  cases item with
  | apiToken tokenHash => exact before _ (kept tokenHash has)
  | _ => exact before _ has

theorem owned_of_codes {codes : Table String OAuth.AuthorizationCode}
    (kept : ∀ codeHash, (∃ row, codes.find codeHash = some row ∧ row.userId = userId) → vault.Has userId (.code codeHash))
    (has : ({ vault with codes } : Vault).Has userId item) : owned item := by
  cases item with
  | code codeHash => exact before _ (kept codeHash has)
  | _ => exact before _ has

theorem owned_of_links {telegramLinks : Table Nat TelegramLink} {linkChallenges : Table Nat TelegramLinkChallenge}
    (links : ∀ link, telegramLinks.find userId = some link → vault.telegramLinks.find userId = some link)
    (challenges : ∀ row, linkChallenges.find userId = some row → vault.linkChallenges.find userId = some row)
    (has : ({ vault with telegramLinks, linkChallenges } : Vault).Has userId item) : owned item := by
  cases item with
  | telegramLink link => exact before (.telegramLink link) (links link has)
  | linkCode row => exact before (.linkCode row) (challenges row has)
  | _ => exact before _ has

end Tables

theorem find_of_delete {R : Type} {table : Table Nat R} {owner : Nat} {row : R}
    (found : (table.delete owner).find userId = some row) : table.find userId = some row := by
  rw [Table.find_delete] at found
  split at found
  · contradiction
  · exact found

/-- What the write gives the user was the user's before, or is owned: a write changes rows of one table, or of two. -/
theorem Frugal.write {write : Write} (frugal : Frugal userId owned write)
    (before : ∀ item, vault.Has userId item → owned item) (item : Lasting)
    (has : (vault.write write).Has userId item) : owned item := by
  cases write with
  | insertUser id row => exact owned_of_user before frugal has
  | updateUser id row => exact owned_of_user before frugal has
  | insertSession id owner tokenHash ttlSec now =>
    refine owned_of_sessions before (fun id' tokenHash' found => ?_) has
    exact Table.exists_put (fun same => frugal (Prod.mk.inj same).1) found
  | deleteUserSessions owner => exact owned_of_sessions before (fun _ _ found => Table.exists_keep found) has
  | deleteSession tokenHash => exact owned_of_sessions before (fun _ _ found => Table.exists_keep found) has
  | setImpersonate record target =>
    exact owned_of_sessions before (fun _ _ found => (SameOwners.setImpersonate _ _ _).exists found) has
  | insertApiToken tokenHash owner =>
    exact owned_of_apiTokens before (fun _ found => Table.exists_put (by exact frugal) found) has
  | revokeUserTokens owner now =>
    refine owned_of_apiTokens before (fun _ found => Table.exists_mapRows (fun _ row same => ?_) found) has
    split at same <;> exact same
  | revokeApiToken tokenHash now =>
    exact owned_of_apiTokens before (fun _ found =>
      Table.exists_modify (f := fun token => { token with revokedAt := some now }) (fun _ same => same) found) has
  | insertCode codeHash row => exact owned_of_codes before (fun _ found => Table.exists_put frugal found) has
  | useCode codeHash now =>
    exact owned_of_codes before (fun _ found =>
      Table.exists_modify (f := fun row => { row with usedAt := some now }) (fun _ same => same) found) has
  | insertRefreshToken row =>
    cases item with
    | refreshToken other => exact before (.refreshToken other) (Table.exists_put frugal has)
    | _ => exact before _ has
  | replaceLinkChallenge owner row =>
    refine owned_of_links before (fun _ found => found) (fun other found => ?_) has
    rwa [Table.find_put, if_neg (Ne.symm frugal)] at found
  | deleteLink owner => exact owned_of_links before (fun _ => find_of_delete) (fun _ => find_of_delete) has
  | _ => cases item <;> exact before _ has

theorem Frugal.writes {all : List Write} (frugal : ∀ write ∈ all, Frugal userId owned write)
    (before : ∀ item, vault.Has userId item → owned item) : ∀ item, (vault.writes all).Has userId item → owned item := by
  induction all generalizing vault with
  | nil => exact before
  | cons write rest ih =>
    exact ih (fun other inside => frugal other (List.mem_cons_of_mem _ inside))
      ((frugal write List.mem_cons_self).write before)

end Writes

section Requests

variable {userId : Nat} {owned : Lasting → Prop} {user : User} {vault : Vault} {env : Platform} {ctx : AuthContext}
  {fresh : Fresh} {all : List Write}

theorem revokeUserAuth_frugal {now : Int} {id : Nat} : ∀ write ∈ Vault.revokeUserAuth now id, Frugal userId owned write := by
  simp [Vault.revokeUserAuth, Frugal]

theorem update_frugal {id : Nat} {stored row : User} (before : ∀ item, vault.Has userId item → owned item)
    (known : vault.users.find id = some stored) (password : row.passwordHash = stored.passwordHash)
    (secret : row.totpSecret = stored.totpSecret ∨ row.totpSecret = none) : Frugal userId owned (.updateUser id row) := by
  rintro rfl
  constructor
  · intro text same
    rcases secret with kept | gone
    · exact before (.totpSecret text) ⟨stored, known, kept ▸ same⟩
    · rw [gone] at same
      contradiction
  · exact fun text same => before (.password text) ⟨stored, known, password ▸ same⟩

theorem disableTotp_frugal {id : Nat} (before : ∀ item, vault.Has userId item → owned item)
    (known : vault.users.find id = some user) : ∀ write ∈ Vault.disableTotp id user, Frugal userId owned write := by
  simp only [Vault.disableTotp, List.forall_mem_cons, List.not_mem_nil, false_implies, implies_true, and_true]
  exact ⟨update_frugal before known rfl (.inr rfl), trivial⟩

theorem adminPassword_frugal {id : Nat} (other : id ≠ userId) :
    ∀ write ∈ adminPassword env fresh id user, Frugal userId owned write := by
  simp only [adminPassword, List.forall_mem_append, List.forall_mem_singleton]
  exact ⟨fun same => absurd same other, revokeUserAuth_frugal⟩

structure Delegate (userId : Nat) (vault : Vault) (ctx : AuthContext) : Prop where
  own : ctx.userId = userId
  via : (ctx.impersonating || ctx.viaApiToken || ctx.viaOauthToken) = true
  row : vault.users.find userId = some ctx.user
  direct : ctx.impersonating = false → ctx.user.mustChangePassword = false ∧ ctx.Sessionless

theorem handle_frugal {call : SignedCall} (handled : call.handle env vault ctx fresh = .ok all)
    (delegate : Delegate userId vault ctx) (blind : Blind env ctx call) (leaves : LeavesNothing userId env vault ctx fresh call)
    (before : ∀ item, vault.Has userId item → owned item) : ∀ write ∈ all, Frugal userId owned write := by
  obtain ⟨rfl, via, row, direct⟩ := delegate
  cases call with
  | look => cases handled; simp
  | changePassword current new =>
    obtain ⟨own, proven, _⟩ := changePassword_ok handled
    rcases proven with forced | ⟨text, rfl, right⟩
    · rw [(direct own).1] at forced
      contradiction
    · rw [blind] at right
      contradiction
  | createToken totpCode =>
    obtain ⟨no_token, own, proven, free, _⟩ := createToken_ok handled
    rw [own, no_token, Bool.false_or, Bool.false_or] at via
    rcases leaves via with enabled | taken
    · rw [blind] at proven
      exact absurd (proven enabled) Bool.false_ne_true
    · rw [free] at taken
      contradiction
  | revokeToken tokenHash =>
    obtain rfl := revokeToken_ok handled
    simp [Frugal]
  | telegramLink =>
    obtain ⟨org, membership, configured, _⟩ := telegramLink_ok.mp handled
    rcases leaves with none_there | none_there | off
    · simp [none_there] at org
    · simp [none_there] at membership
    · rw [off] at configured
      contradiction
  | telegramUnlink => cases handled; simp [Frugal]
  | mfaSetupStart =>
    have allowed := (mfaSetupStart_ok.mp handled).1
    rw [leaves] at allowed
    contradiction
  | mfaSetupConfirm code =>
    have right := (mfaSetupConfirm_ok.mp handled).2.1
    rw [blind] at right
    contradiction
  | mfaDisable password code =>
    have right := (mfaDisable_ok handled).1
    rw [blind] at right
    contradiction
  | disableUser id =>
    obtain ⟨stored, known, rfl⟩ := disableUser_ok handled
    simp only [List.forall_mem_append, List.forall_mem_singleton]
    exact ⟨update_frugal before known rfl (.inl rfl), revokeUserAuth_frugal⟩
  | enableUser id =>
    obtain ⟨stored, known, rfl⟩ := enableUser_ok handled
    simp only [List.forall_mem_singleton]
    exact update_frugal before known rfl (.inl rfl)
  | resetUserPassword id =>
    obtain ⟨⟨org, membership, in_org, as_member, admin⟩, stored, known, rfl⟩ := resetUserPassword_ok handled
    apply adminPassword_frugal
    intro own
    rcases leaves own with no_org | no_admin
    · rw [in_org] at no_org
      contradiction
    · exact no_admin membership as_member admin
  | resetUserMfa id =>
    obtain ⟨stored, known, rfl⟩ := resetUserMfa_ok handled
    simp only [List.forall_mem_append]
    exact ⟨disableTotp_frugal before known, revokeUserAuth_frugal⟩
  | resetOrgAdminPassword orgId id =>
    obtain ⟨admin, stored, known, no_admin, rfl⟩ := resetOrgAdminPassword_ok handled
    apply adminPassword_frugal
    rintro rfl
    -- An instance admin acts for oneself here, and is not one whose password the endpoint resets.
    simp only [AuthContext.isInstanceAdmin, Bool.and_eq_true, Bool.not_eq_true'] at admin
    rw [row] at known
    cases known
    rw [(direct admin.2).2.2, no_admin] at admin
    exact Bool.false_ne_true admin.1
  | resetOrgUserMfa orgId id =>
    obtain ⟨stored, known, rfl⟩ := resetOrgUserMfa_ok handled
    simp only [List.forall_mem_append]
    exact ⟨disableTotp_frugal before known, revokeUserAuth_frugal⟩
  | impersonate target =>
    obtain ⟨_, _, rfl⟩ := impersonate_ok handled
    simp [Frugal]
  | stopImpersonate =>
    obtain ⟨_, _, rfl⟩ := stopImpersonate_ok handled
    simp [Frugal]

end Requests

section Doors

variable {env : Env} {vault : Vault} {db : Db} {request : Request} {ctx : AuthContext}

def Presents (env : Env) (request : Request) : Lasting → Prop
  | .apiToken tokenHash => ∃ raw, bearerOf request = some raw ∧ env.hashSecret raw = tokenHash
  | .session _ tokenHash => ∃ token, request.sessionCookie = some token ∧ env.hashSecret token = tokenHash
  | _ => False

/-- A request that acts as oneself, and not by an access token, presents a token or a session of the user. -/
theorem resolveAuth_presents {after : Db} (resolved : resolveAuth env vault.toDb request = .ok (some ctx, after))
    (no_oauth : ctx.viaOauthToken = false) (direct : ctx.impersonating = false) :
    ∃ item, Presents env request item ∧ vault.Has ctx.userId item := by
  cases bearer : bearerOf request with
  | some raw =>
    simp only [resolveAuth, bearer] at resolved
    obtain ⟨own, context, same⟩ := map_ok.mp resolved
    cases same
    split at context
    · rw [(jwtContext_ok context).2.1] at no_oauth
      contradiction
    · obtain ⟨token, stored, _, owner⟩ := apiTokenContext_row context
      exact ⟨.apiToken (env.hashSecret raw), ⟨raw, bearer, rfl⟩, token, stored, owner⟩
  | none =>
    simp only [resolveAuth, bearer] at resolved
    obtain ⟨token, record, carried, found, _, own⟩ := cookieContext_row resolved
    obtain ⟨row, stored, owner, _⟩ := lookup_some found
    exact ⟨.session record.id (env.hashSecret token), ⟨token, carried, rfl⟩, row, stored, own direct ▸ owner⟩

end Doors

section Runs

variable {userId : Nat} {trace : Trace}

/-- Delegated requests have made nothing of the user's, and whoever acts as the user, but for an access
token or an impersonation, does it by something that they have not made. -/
structure Trace.Clean (userId : Nat) (trace : Trace) : Prop where
  nothing : ∀ item, ¬ trace.made item
  requests : ∀ (env : Platform) request ctx db, resolveAuth env.toEnv trace.vault.toDb request = .ok (some ctx, db) →
    ctx.userId = userId → ctx.viaOauthToken = false → ctx.impersonating = false →
      ∃ item, Presents env.toEnv request item ∧ trace.vault.Has userId item ∧ ¬ trace.made item
  messages : ∀ account ctx, telegramContext trace.vault.toDb account = some ctx → ctx.userId = userId →
    ∃ link, link.telegramUserId = account ∧ trace.vault.Has userId (.telegramLink link) ∧ ¬ trace.made (.telegramLink link)

theorem Trace.Clean.of_nothing (nothing : ∀ item, ¬ trace.made item) : trace.Clean userId where
  nothing := nothing
  requests env request ctx db resolved own no_oauth direct := by
    obtain ⟨item, presented, has⟩ := resolveAuth_presents resolved no_oauth direct
    exact ⟨item, presented, own ▸ has, nothing item⟩
  messages account ctx served own := by
    simp only [telegramContext, Option.bind_eq_bind, Option.bind_eq_some_iff, Db.linkedUser] at served
    obtain ⟨id, linked, user, _, same⟩ := served
    cases same
    obtain ⟨link, stored, right⟩ := (Table.mem_select _ _ _).mp (List.mem_of_mem_head? linked)
    have own : id = userId := own
    subst own
    exact ⟨link, beq_iff_eq.mp right, stored, nothing _⟩

theorem Delegate.of_served {env : Platform} {vault : Vault} {headers : Headers} {fresh : Fresh} {call : SignedCall}
    {served : Served} (goes : serveSigned env vault headers fresh call = .ok served)
    (delegated : served.ctx.delegated userId = true) : Delegate userId served.vault served.ctx := by
  obtain ⟨accepted, proper, _, _⟩ := serveSigned_ok goes
  simp only [AuthContext.delegated, Bool.and_eq_true, beq_iff_eq] at delegated
  refine ⟨delegated.1, delegated.2, delegated.1 ▸ (Served.reflects goes).row, fun direct => ?_⟩
  have token : (served.ctx.viaApiToken || served.ctx.viaOauthToken) = true := by
    have via := delegated.2
    rwa [direct, Bool.false_or] at via
  refine ⟨?_, resolveAuth_token (requireAuth_ok accepted) token⟩
  cases oauth : served.ctx.viaOauthToken with
  | true => exact (locked_of_userOauthBlocked (proper.oauth oauth)).2.1 .mustChangePassword
  | false =>
    rw [oauth, Bool.or_false] at token
    exact (Bool.or_eq_false_iff.mp (proper.apiToken token)).1

theorem Vault.has_touched {env : Platform} {vault : Vault} {headers : Headers} {fresh : Fresh} {call : SignedCall}
    {served : Served} (goes : serveSigned env vault headers fresh call = .ok served) {item : Lasting}
    (has : served.vault.Has userId item) : vault.Has userId item := by
  obtain ⟨accepted, _, ⟨sessions, same⟩, _⟩ := serveSigned_ok goes
  have owners := resolveAuth_owners (requireAuth_ok accepted)
  rw [same] at has owners
  cases item with
  | session id tokenHash => exact owners.exists has
  | _ => exact has

theorem Trace.step_nothing {deed : Deed} (nothing : ∀ item, ¬ trace.made item)
    (blind : Delegations userId (fun env _ ctx _ call => Blind env ctx call) trace deed)
    (leaves : Delegations userId (LeavesNothing userId) trace deed) (item : Lasting) :
    ¬ (trace.step userId deed).made item := by
  cases deed with
  | signed env headers fresh call =>
    simp only [Trace.step]
    split
    · exact nothing item
    · rename_i served goes
      obtain ⟨accepted, _, ⟨sessions, same⟩, handled⟩ := serveSigned_ok goes
      rintro (made | ⟨delegated, has, had_not⟩)
      · exact nothing item made
      · have delegate := Delegate.of_served goes delegated
        have vault_same : served.vault = { trace.vault with toDb := served.vault.toDb } := by rw [same]
        have blind := blind served.ctx served.vault.toDb accepted delegated
        have leaves := leaves served.ctx served.vault.toDb accepted delegated
        rw [← vault_same] at leaves
        have frugal := handle_frugal handled delegate blind leaves fun item => Vault.has_touched goes
        exact had_not (Frugal.writes frugal (fun item => Vault.has_touched goes) item has)
  | authorize env headers fresh form =>
    simp only [Trace.step]
    split
    · exact nothing item
    · rename_i opened goes
      simp only [serveOpen, bind_ok, Prod.exists] at goes
      obtain ⟨found, db, resolved, all, confirmed, same⟩ := goes
      cases same
      obtain ⟨own, _, _, rfl, session, direct, _⟩ := authorizeConfirm_ok confirmed
      rintro (made | ⟨delegated, _⟩)
      · exact nothing item made
      · -- Whoever gives consent has a session, and does not impersonate.
        simp only [Option.any_some, AuthContext.delegated, direct, Bool.false_or, Bool.and_eq_true] at delegated
        rw [(resolveAuth_token resolved delegated.2).1] at session
        contradiction
  | others vault => exact nothing item

/-- In every run in which delegated requests tell no secret of the user, they leave nothing behind as long
as each is one that leaves nothing. -/
theorem delegations_leave_nothing (vault : Vault) (deeds : List Deed) :
    Along (Trace.step userId) (fun trace deed =>
        Delegations userId (fun env _ ctx _ call => Blind env ctx call) trace deed ∧
          Delegations userId (LeavesNothing userId) trace deed) ⟨vault, fun _ => False⟩ deeds →
      Always (Trace.step userId) (Trace.Clean userId) ⟨vault, fun _ => False⟩ deeds := by
  intro along done rest same
  have nothing := always_of_along (I := fun trace => ∀ item, ¬ trace.made item)
    (fun _ _ nothing good => Trace.step_nothing nothing good.1 good.2) (fun _ made => made) along
  exact .of_nothing (nothing done rest same)

end Runs

section Samples

def tokenVault : Vault :=
  { sampleVault with
    users := Table.put ∅ 3 sampleUser
    apiTokens := Table.put ∅ "personal" ⟨3, none⟩ }

def memberTokenVault : Vault :=
  { tokenVault with
    orgs := Table.put ∅ 1 ⟨0, false, false, none, none, true⟩
    memberships := Table.put ∅ 3 ⟨1, .orgMember⟩ }

def linkByToken : Deed := .signed samplePlatform ⟨"Bearer personal", none, none, none⟩ sampleFresh .telegramLink

def tokenHolder : AuthContext := { AuthContext.own tokenVault.toDb 3 sampleUser with viaApiToken := true }

theorem delegations_leave_nothing_link :
    Always (Trace.step 3) (Trace.Clean 3) ⟨tokenVault, fun _ => False⟩ [linkByToken] := by
  have accepted : requireAuth samplePlatform.toEnv tokenVault.toDb
      (SignedCall.telegramLink.request ⟨"Bearer personal", none, none, none⟩) = .ok (tokenHolder, tokenVault.toDb) := by
    rfl
  apply delegations_leave_nothing
  refine ⟨⟨fun _ _ _ _ => trivial, fun ctx db resolved _ => ?_⟩, trivial⟩
  rw [accepted] at resolved
  cases resolved
  exact .inl rfl

/-- The holder of a personal token gets a code that links a Telegram account to the user. -/
theorem delegation_leaves_link_code :
    Along (Trace.step 3) (Delegations 3 fun env _ ctx _ call => Blind env ctx call)
        ⟨memberTokenVault, fun _ => False⟩ [linkByToken] ∧
      ¬ Always (Trace.step 3) (Trace.Clean 3) ⟨memberTokenVault, fun _ => False⟩ [linkByToken] := by
  refine ⟨⟨fun _ _ _ _ => trivial, trivial⟩, fun always => ?_⟩
  have clean := always [linkByToken] [] rfl
  exact clean.nothing (.linkCode ⟨samplePlatform.hashSecret ("telegram-link:" ++ "token"), linkCodeTtl⟩)
    (.inr ⟨rfl, rfl, nofun⟩)

end Samples

end IdigestHub.Auth
