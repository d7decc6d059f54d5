import IdigestHub.Auth.Calls
import IdigestHub.Foundation.Runs

/-! Credentials issued before a change of the user's: what becomes of them. -/

set_option autoImplicit false

namespace IdigestHub.Auth

open Foundation Foundation.Fallible Foundation.Runs Sessions

inductive Credential where
  | session (id : Nat)
  | apiToken (tokenHash : String)
  | code (codeHash : String)
  | refreshToken (tokenHash : String)
  | resetToken (tokenHash : String)
  | challenge (tokenHash : String)
  deriving DecidableEq

/-- What the row of a credential says: whose it is, whether it is used or revoked, and until when it
is good. The date of a session is left out, for it slides. -/
structure Standing where
  owner : Nat
  spent : Bool
  expiresAt : Option Int

def Standing.live (now : Int) (standing : Standing) : Bool := !standing.spent && standing.expiresAt.all (now < ·)

def Vault.standing (vault : Vault) : Credential → Option Standing
  | .session id => (Table.find vault.sessions id).map fun row => ⟨row.userId, false, none⟩
  | .apiToken tokenHash => (vault.apiTokens.find tokenHash).map fun row => ⟨row.userId, row.revokedAt.isSome, none⟩
  | .code codeHash => (vault.codes.find codeHash).map fun row => ⟨row.userId, row.usedAt.isSome, some row.expiresAt⟩
  | .refreshToken tokenHash => (vault.refreshTokens.find tokenHash).map fun row => ⟨row.userId, false, some row.expiresAt⟩
  | .resetToken tokenHash =>
    (vault.resetTokens.find tokenHash).map fun row => ⟨row.userId, row.usedAt.isSome, some row.expiresAt⟩
  | .challenge tokenHash => (vault.mfaChallenges.find tokenHash).map fun row => ⟨row.userId, false, some row.expiresAt⟩

def Write.issues : Write → Option Credential
  | .insertSession id .. => some (.session id)
  | .insertApiToken tokenHash _ => some (.apiToken tokenHash)
  | .insertCode codeHash _ => some (.code codeHash)
  | .insertRefreshToken row => some (.refreshToken row.tokenHash)
  | .insertResetToken tokenHash _ => some (.resetToken tokenHash)
  | .insertChallenge tokenHash _ => some (.challenge tokenHash)
  | _ => none

section Subsiding

/-- A credential may go, or be spent, and otherwise stays as it is. -/
def Subsides (before after : Option Standing) : Prop :=
  ∀ standing', after = some standing' → ∃ standing, before = some standing ∧ standing'.owner = standing.owner ∧
    standing'.expiresAt = standing.expiresAt ∧ (standing.spent = true → standing'.spent = true)

theorem Subsides.refl (standing : Option Standing) : Subsides standing standing :=
  fun standing' same => ⟨standing', same, rfl, rfl, id⟩

theorem Subsides.trans {first second third : Option Standing} (one : Subsides first second)
    (two : Subsides second third) : Subsides first third := by
  intro standing'' same
  obtain ⟨standing', same', owner', until', spent'⟩ := two standing'' same
  obtain ⟨standing, same, owner, until_, spent⟩ := one standing' same'
  exact ⟨standing, same, owner'.trans owner, until'.trans until_, spent' ∘ spent⟩

theorem Subsides.dead {before after : Option Standing} (subsides : Subsides before after) {now later : Int}
    (passed : now ≤ later) (dead : ∀ standing, before = some standing → standing.live now = false) :
    ∀ standing, after = some standing → standing.live later = false := by
  intro standing' same
  obtain ⟨standing, same, _, until_, spent⟩ := subsides standing' same
  have dead := dead standing same
  rw [Bool.eq_false_iff] at dead ⊢
  intro live
  apply dead
  simp only [Standing.live, Bool.and_eq_true, Bool.not_eq_true', until_] at live ⊢
  constructor
  · rw [Bool.eq_false_iff] at live ⊢
    exact live.1 ∘ spent
  · cases deadline : standing.expiresAt with
    | none => rfl
    | some deadline' =>
      have live := live.2
      simp only [deadline, Option.all_some, decide_eq_true_eq] at live ⊢
      omega

section Rows

variable {K R : Type} [DecidableEq K] {rows : Table K R} {key other : K} {view : R → Standing}

theorem Subsides.some {before after : Standing} (owner : after.owner = before.owner)
    (expiresAt : after.expiresAt = before.expiresAt) (spent : before.spent = true → after.spent = true) :
    Subsides (some before) (some after) := by
  intro standing' same
  cases same
  exact ⟨before, rfl, owner, expiresAt, spent⟩

theorem Subsides.gone (before : Option Standing) : Subsides before none := nofun

theorem Subsides.put {row : R} (apart : key ≠ other) :
    Subsides ((rows.find other).map view) (((rows.put key row).find other).map view) := by
  rw [Table.find_put, if_neg (Ne.symm apart)]
  exact .refl _

theorem Subsides.mapRows {f : K → R → R} (each : ∀ row, Subsides (Option.some (view row)) (Option.some (view (f other row)))) :
    Subsides ((rows.find other).map view) (((rows.mapRows f).find other).map view) := by
  rw [Table.find_mapRows]
  cases rows.find other with
  | none => exact .refl _
  | some row => exact each row

theorem Subsides.modify {f : R → R} (each : ∀ row, Subsides (Option.some (view row)) (Option.some (view (f row)))) :
    Subsides ((rows.find other).map view) (((rows.modify key f).find other).map view) := by
  apply Subsides.mapRows
  intro row
  split
  · exact each row
  · exact .refl _

theorem Subsides.keep {condition : K → R → Bool} :
    Subsides ((rows.find other).map view) (((rows.keep condition).find other).map view) := by
  rw [Table.find_keep]
  cases rows.find other with
  | none => exact .refl _
  | some row =>
    rw [Option.filter_some]
    split
    · exact .refl _
    · exact .gone _

theorem Subsides.delete : Subsides ((rows.find other).map view) (((rows.delete key).find other).map view) := by
  rw [Table.find_delete]
  split
  · exact .gone _
  · exact .refl _

end Rows

end Subsiding

section Writes

variable {vault : Vault} {credential : Credential}

theorem write_subsides {write : Write} (other : write.issues ≠ some credential) :
    Subsides (vault.standing credential) ((vault.write write).standing credential) := by
  -- a write touches one table, and issues in it only what `other` excludes
  cases write with
  | insertSession id userId tokenHash ttlSec now =>
    cases credential with
    | session id' => exact .put fun same => other (same ▸ rfl)
    | _ => exact .refl _
  | deleteUserSessions userId =>
    cases credential with
    | session id => exact .keep
    | _ => exact .refl _
  | deleteSession tokenHash =>
    cases credential with
    | session id => exact .keep
    | _ => exact .refl _
  | setImpersonate record target =>
    cases credential with
    | session id =>
      simp only [Vault.standing, Vault.write, DbSessionStore.setImpersonate]
      split
      · exact .modify fun _ => .refl _
      · exact .refl _
    | _ => exact .refl _
  | insertApiToken tokenHash userId =>
    cases credential with
    | apiToken tokenHash' => exact .put fun same => other (same ▸ rfl)
    | _ => exact .refl _
  | revokeUserTokens userId now =>
    cases credential with
    | apiToken tokenHash =>
      refine .mapRows fun row => ?_
      split
      · exact .some rfl rfl fun _ => rfl
      · exact .refl _
    | _ => exact .refl _
  | revokeApiToken tokenHash now =>
    cases credential with
    | apiToken tokenHash' => exact .modify fun _ => .some rfl rfl fun _ => rfl
    | _ => exact .refl _
  | insertCode codeHash row =>
    cases credential with
    | code codeHash' => exact .put fun same => other (same ▸ rfl)
    | _ => exact .refl _
  | useCode codeHash now =>
    cases credential with
    | code codeHash' => exact .modify fun _ => .some rfl rfl fun _ => rfl
    | _ => exact .refl _
  | insertRefreshToken row =>
    cases credential with
    | refreshToken tokenHash => exact .put fun same => other (same ▸ rfl)
    | _ => exact .refl _
  | insertResetToken tokenHash row =>
    cases credential with
    | resetToken tokenHash' => exact .put fun same => other (same ▸ rfl)
    | _ => exact .refl _
  | useResetToken tokenHash now =>
    cases credential with
    | resetToken tokenHash' => exact .modify fun _ => .some rfl rfl fun _ => rfl
    | _ => exact .refl _
  | deleteUserChallenges userId =>
    cases credential with
    | challenge tokenHash => exact .keep
    | _ => exact .refl _
  | insertChallenge tokenHash row =>
    cases credential with
    | challenge tokenHash' => exact .put fun same => other (same ▸ rfl)
    | _ => exact .refl _
  | deleteChallenge tokenHash =>
    cases credential with
    | challenge tokenHash' => exact .delete
    | _ => exact .refl _
  | _ => cases credential <;> exact .refl _

theorem writes_subside {all : List Write} (others : ∀ write ∈ all, write.issues ≠ some credential) :
    Subsides (vault.standing credential) ((vault.writes all).standing credential) := by
  induction all generalizing vault with
  | nil => exact .refl _
  | cons write rest ih =>
    exact (write_subsides (others write List.mem_cons_self)).trans
      (ih fun next inside => others next (List.mem_cons_of_mem _ inside))

def Write.Kills (userId : Nat) : Write → Credential → Prop
  | .deleteUserSessions id, .session _ => id = userId
  | .revokeUserTokens id _, .apiToken _ => id = userId
  | .useResetToken used _, .resetToken tokenHash => used = tokenHash
  | _, _ => False

variable {userId : Nat} {now : Int}

theorem kills_dead {write : Write} (kills : write.Kills userId credential)
    (own : ∀ standing, vault.standing credential = some standing → standing.owner = userId) :
    ∀ standing, (vault.write write).standing credential = some standing → standing.live now = false := by
  intro standing' same
  unfold Write.Kills at kills
  split at kills
  · rename_i id session
    obtain ⟨row, found, rfl⟩ := Option.map_eq_some_iff.mp same
    have found : Table.find (Table.keep vault.sessions fun _ row => row.userId != id) session = some row := found
    rw [Table.find_keep, Option.filter_eq_some_iff] at found
    have owner : row.userId = userId := own ⟨row.userId, false, none⟩ (Option.map_eq_some_iff.mpr ⟨row, found.1, rfl⟩)
    simp [owner, kills] at found
  · rename_i id at_ tokenHash
    obtain ⟨row', found, rfl⟩ := Option.map_eq_some_iff.mp same
    have found : (vault.apiTokens.mapRows fun _ token =>
      if token.userId = id ∧ token.revokedAt = none then { token with revokedAt := some at_ } else token).find tokenHash =
        some row' := found
    rw [Table.find_mapRows] at found
    obtain ⟨row, stored, rfl⟩ := Option.map_eq_some_iff.mp found
    have owner : row.userId = userId :=
      own ⟨row.userId, row.revokedAt.isSome, none⟩ (Option.map_eq_some_iff.mpr ⟨row, stored, rfl⟩)
    cases revoked : row.revokedAt with
    | none => simp [Standing.live, owner, kills]
    | some before => simp [Standing.live, revoked]
  · rename_i used at_ tokenHash
    obtain ⟨row', found, rfl⟩ := Option.map_eq_some_iff.mp same
    have found : (vault.resetTokens.modify used fun row => { row with usedAt := some at_ }).find tokenHash =
      some row' := found
    rw [Table.find_modify, if_pos kills.symm] at found
    obtain ⟨row, _, rfl⟩ := Option.map_eq_some_iff.mp found
    rfl
  · contradiction

theorem writes_kill {all : List Write} (kills : ∃ write ∈ all, write.Kills userId credential)
    (others : ∀ write ∈ all, write.issues ≠ some credential)
    (own : ∀ standing, vault.standing credential = some standing → standing.owner = userId) :
    ∀ standing, (vault.writes all).standing credential = some standing → standing.live now = false := by
  induction all generalizing vault with
  | nil =>
    obtain ⟨_, inside, _⟩ := kills
    contradiction
  | cons write rest ih =>
    have rest_others : ∀ next ∈ rest, next.issues ≠ some credential :=
      fun next inside => others next (List.mem_cons_of_mem _ inside)
    obtain ⟨killer, inside, kills⟩ := kills
    rcases List.mem_cons.mp inside with rfl | later
    · exact (writes_subside rest_others).dead le_rfl (kills_dead kills own)
    · apply ih ⟨killer, later, kills⟩ rest_others
      intro standing' same
      obtain ⟨standing, before, owner, _⟩ := write_subsides (others write List.mem_cons_self) standing' same
      exact owner.trans (own standing before)

end Writes

/-! ## Requests -/

/-- The credential by which the context acts. An access token is none of those that are rows. -/
def AuthContext.credential (env : Env) (request : Request) (ctx : AuthContext) : Option Credential :=
  if ctx.viaApiToken then (bearerOf request).map fun raw => .apiToken (env.hashSecret raw)
  else ctx.session.map fun record => .session record.id

def OpenCall.presented (env : Platform) : OpenCall → Option Credential
  | .mfaVerify challengeId _ | .mfaRecover challengeId _ => some (.challenge (env.hashSecret (Text.strip challengeId)))
  | .resetConfirm token _ => some (.resetToken (env.hashSecret token))
  | .exchange request => some (.code (env.hashSecret request.code))
  | .refresh request => some (.refreshToken (env.hashSecret request.refreshToken))
  | _ => none

def SignedCall.changes (ctx : AuthContext) : SignedCall → Option Nat
  | .changePassword .. => some ctx.userId
  | .disableUser userId | .resetUserPassword userId | .resetOrgAdminPassword _ userId => some userId
  | _ => none

def OpenCall.changes (subject : Option Nat) : OpenCall → Option Nat
  | .resetConfirm .. => subject
  | _ => none

inductive Demand where
  | signed (headers : Headers) (fresh : Fresh) (call : SignedCall)
  | open_ (fresh : Fresh) (call : OpenCall)
  | elsewhere (changes : Elsewhere)

def Authenticates (env : Platform) (vault : Vault) (request : Request) (credential : Credential) : Prop :=
  ∃ ctx db, resolveAuth env.toEnv vault.toDb request = .ok (some ctx, db) ∧ ctx.credential env.toEnv request = some credential

def Uses (env : Platform) (vault : Vault) : Demand → Credential → Prop
  | .signed headers _ call, credential => Authenticates env vault (call.request headers) credential
  | .open_ _ (.authorize headers _), credential =>
    Authenticates env vault (headers.request .post "/oauth/authorize") credential
  | .open_ _ (.logout headers), credential =>
    Authenticates env vault (headers.request .post "/api/v1/auth/logout") credential
  | .open_ fresh call, credential =>
    (∃ opened, serveOpen env vault fresh call = .ok opened) ∧ call.presented env = some credential
  | .elsewhere _, _ => False

section Requests

variable {env : Platform} {vault : Vault} {headers : Headers} {fresh : Fresh} {credential : Credential}

theorem authenticates_live {request : Request} (authenticates : Authenticates env vault request credential) :
    ∃ standing, vault.standing credential = some standing ∧ standing.live env.now = true := by
  obtain ⟨ctx, db, resolved, by_it⟩ := authenticates
  unfold AuthContext.credential at by_it
  cases bearer : bearerOf request with
  | some raw =>
    have sessionless := resolveAuth_bearer resolved (by rw [bearer]; rfl)
    rw [bearer, sessionless.1] at by_it
    split at by_it
    · rename_i personal
      cases by_it
      simp only [resolveAuth, bearer] at resolved
      obtain ⟨own, context, same⟩ := map_ok.mp resolved
      cases same
      split at context
      · rw [(jwtContext_ok context).2.2.1] at personal
        contradiction
      · obtain ⟨token, stored, live, _⟩ := apiTokenContext_row context
        exact ⟨_, Option.map_eq_some_iff.mpr ⟨token, stored, rfl⟩, by simp [Standing.live, live]⟩
    · contradiction
  | none =>
    simp only [resolveAuth, bearer] at resolved
    obtain ⟨_, _, _, personal, _⟩ := cookieContext_ok resolved
    obtain ⟨token, record, _, found, same, _⟩ := cookieContext_row resolved
    obtain ⟨row, stored, _⟩ := lookup_some found
    obtain ⟨touched, session, same_id⟩ := Option.map_eq_some_iff.mp same
    rw [personal, if_neg Bool.false_ne_true, session, Option.map_some, same_id] at by_it
    cases by_it
    exact ⟨_, Option.map_eq_some_iff.mpr ⟨row, stored, rfl⟩, rfl⟩

theorem uses_live {demand : Demand} (uses : Uses env vault demand credential) :
    ∃ standing, vault.standing credential = some standing ∧ standing.live env.now = true := by
  have redeemed {R : Type} {rows : Table String R} {key : String} {view : R → Standing} {row : R}
      (stored : rows.find key = some row) (live : (view row).live env.now = true) :
      ∃ standing, (rows.find key).map view = some standing ∧ standing.live env.now = true :=
    ⟨view row, by rw [stored]; rfl, live⟩
  cases demand with
  | signed headers fresh call => exact authenticates_live uses
  | elsewhere changes => exact uses.elim
  | open_ fresh call =>
    cases call with
    | authorize headers form => exact authenticates_live uses
    | logout headers => exact authenticates_live uses
    | mfaVerify challengeId code =>
      obtain ⟨⟨opened, goes⟩, same⟩ := uses
      cases same
      obtain ⟨⟨id, all⟩, done, _⟩ := map_ok.mp goes
      obtain ⟨⟨row, stored, live, _⟩, _⟩ := mfaEnter_ok done
      exact redeemed stored (by simpa [Standing.live] using live)
    | mfaRecover challengeId recoveryCode =>
      obtain ⟨⟨opened, goes⟩, same⟩ := uses
      cases same
      obtain ⟨⟨id, all⟩, done, _⟩ := map_ok.mp goes
      obtain ⟨⟨row, stored, live, _⟩, _⟩ := mfaEnter_ok done
      exact redeemed stored (by simpa [Standing.live] using live)
    | resetConfirm token password =>
      obtain ⟨⟨opened, goes⟩, same⟩ := uses
      cases same
      obtain ⟨⟨id, all⟩, done, _⟩ := map_ok.mp goes
      obtain ⟨row, user, stored, unused, live, _⟩ := resetConfirm_ok done
      exact redeemed stored (by simpa [Standing.live, unused] using live)
    | exchange request =>
      obtain ⟨⟨opened, goes⟩, same⟩ := uses
      cases same
      obtain ⟨⟨id, all⟩, done, _⟩ := map_ok.mp goes
      obtain ⟨row, _, stored, unused, live, _⟩ := exchange_ok done
      refine redeemed stored ?_
      simp only [Standing.live, unused, Option.isSome_none, Bool.not_false, Bool.true_and, Option.all_some, decide_eq_true_eq]
      omega
    | refresh request =>
      obtain ⟨⟨opened, goes⟩, same⟩ := uses
      cases same
      obtain ⟨id, done, _⟩ := map_ok.mp goes
      obtain ⟨row, stored, live, _⟩ := refreshAccessToken_ok done
      refine redeemed stored ?_
      simp only [Standing.live, Bool.not_false, Bool.true_and, Option.all_some, decide_eq_true_eq]
      omega
    | _ => cases uses.2

theorem touched_standing {db : Db} {request : Request} {found : Option AuthContext}
    (resolved : resolveAuth env.toEnv vault.toDb request = .ok (found, db)) (credential : Credential) :
    ({ vault with toDb := db } : Vault).standing credential = vault.standing credential := by
  have owners := resolveAuth_owners resolved
  obtain ⟨sessions, rfl⟩ := resolveAuth_sessions resolved
  cases credential with
  | session id =>
    have same := congrArg (Option.map fun owner : Nat × String => (⟨owner.1, false, none⟩ : Standing)) (owners id)
    rw [Option.map_map, Option.map_map] at same
    exact same
  | _ => rfl

theorem serveSigned_standing {call : SignedCall} {served : Served}
    (goes : serveSigned env vault headers fresh call = .ok served) (credential : Credential) :
    served.vault.standing credential = vault.standing credential := by
  obtain ⟨accepted, _, ⟨sessions, same⟩, _⟩ := serveSigned_ok goes
  rw [← touched_standing (requireAuth_ok accepted) credential, same]

theorem serveOpen_standing {call : OpenCall} {opened : Opened} (goes : serveOpen env vault fresh call = .ok opened)
    (credential : Credential) : opened.vault.standing credential = vault.standing credential := by
  cases call with
  | authorize headers form =>
    simp only [serveOpen, bind_ok, Prod.exists] at goes
    obtain ⟨ctx, db, resolved, all, _, same⟩ := goes
    cases same
    exact touched_standing resolved credential
  | logout headers =>
    simp only [serveOpen, bind_ok, Prod.exists] at goes
    obtain ⟨ctx, db, resolved, same⟩ := goes
    cases same
    exact touched_standing resolved credential
  | login email password =>
    simp only [serveOpen] at goes
    split at goes
    · contradiction
    · rw [guard_ok] at goes
      obtain ⟨_, _, rfl⟩ := map_ok.mp goes.2
      rfl
  | _ =>
    obtain ⟨_, _, rfl⟩ := map_ok.mp goes
    rfl

theorem handle_revokes {ctx : AuthContext} {call : SignedCall} {all : List Write} {userId : Nat}
    (handled : call.handle env vault ctx fresh = .ok all) (changes : call.changes ctx = some userId) :
    ∀ write ∈ Vault.revokeUserAuth env.now userId, write ∈ all := by
  intro write inside
  cases call with
  | changePassword current new =>
    cases changes
    obtain ⟨_, _, session, _, rfl⟩ := changePassword_ok handled
    exact List.mem_append_left _ (List.mem_append_right _ inside)
  | disableUser id =>
    cases changes
    obtain ⟨_, _, rfl⟩ := disableUser_ok handled
    exact List.mem_append_right _ inside
  | resetUserPassword id =>
    cases changes
    obtain ⟨_, _, _, rfl⟩ := resetUserPassword_ok handled
    exact List.mem_append_right _ inside
  | resetOrgAdminPassword orgId id =>
    cases changes
    obtain ⟨_, _, _, _, rfl⟩ := resetOrgAdminPassword_ok handled
    exact List.mem_append_right _ inside
  | _ => cases changes

end Requests

/-! ## Runs -/

structure Moment where
  elapsed : Nat
  env : Platform
  demand : Demand

def Moment.envAt (moment : Moment) (clock : Int) : Platform := { moment.env with now := clock + moment.elapsed }

/-- The rows, the time, and the credentials that were issued to a user before a change of the user's. -/
structure History where
  vault : Vault
  clock : Int
  stale : Credential → Prop

/-- After the writes of a request. A change makes stale what the user had; what is issued is not. -/
def History.after (userId : Nat) (history : History) (now : Int) (vault : Vault) (all : List Write)
    (changed : Option Nat) : History where
  vault := vault.writes all
  clock := now
  stale credential := (history.stale credential ∨ changed = some userId ∧
      ∃ standing, history.vault.standing credential = some standing ∧ standing.owner = userId) ∧
    ∀ write ∈ all, write.issues ≠ some credential

def History.step (userId : Nat) (history : History) (moment : Moment) : History :=
  let env := moment.envAt history.clock
  match moment.demand with
  | .signed headers fresh call =>
    match serveSigned env history.vault headers fresh call with
    | .error _ => { history with clock := env.now }
    | .ok served => history.after userId env.now served.vault served.all (call.changes served.ctx)
  | .open_ fresh call =>
    match serveOpen env history.vault fresh call with
    | .error _ => { history with clock := env.now }
    | .ok opened => history.after userId env.now opened.vault opened.all (call.changes opened.subject)
  | .elsewhere changes => { history with vault := history.vault.elsewhere changes, clock := env.now }

def History.Respects (history : History) (moment : Moment) : Prop :=
  ∀ credential, Uses (moment.envAt history.clock) history.vault moment.demand credential → ¬ history.stale credential

def OnlyRevocable (userId : Nat) (vault : Vault) (now : Int) (presented : Option Credential) : Prop :=
  ∀ credential standing, vault.standing credential = some standing → standing.owner = userId → standing.live now = true →
    match credential with
    | .session _ | .apiToken _ => True
    | _ => presented = some credential

/-- Where the request changes the user's password or disables the user, no other kind of credential is out. -/
def History.ChangesSafely (userId : Nat) (history : History) (moment : Moment) : Prop :=
  let env := moment.envAt history.clock
  match moment.demand with
  | .signed headers fresh call => ∀ served, serveSigned env history.vault headers fresh call = .ok served →
      call.changes served.ctx = some userId → OnlyRevocable userId history.vault env.now none
  | .open_ fresh call => ∀ opened, serveOpen env history.vault fresh call = .ok opened →
      call.changes opened.subject = some userId → OnlyRevocable userId history.vault env.now (call.presented env)
  | .elsewhere _ => True

section Runs

variable {userId : Nat} {history : History}

def History.Buried (history : History) : Prop :=
  ∀ credential, history.stale credential →
    ∀ standing, history.vault.standing credential = some standing → standing.live history.clock = false

/-- A request whose writes kill what the user holds, or what is dead anyway, buries what becomes stale. -/
theorem History.Buried.after (buried : history.Buried) {now : Int} (passed : history.clock ≤ now) {vault : Vault}
    {all : List Write} {changed : Option Nat} {presented : Option Credential}
    (same : ∀ credential, vault.standing credential = history.vault.standing credential)
    (safe : changed = some userId → OnlyRevocable userId history.vault now presented ∧
      (∀ write ∈ Vault.revokeUserAuth now userId, write ∈ all) ∧
      ∀ credential, presented = some credential → ∃ write ∈ all, write.Kills userId credential) :
    (history.after userId now vault all changed).Buried := by
  rintro credential ⟨stale | ⟨change, standing, had, own⟩, others⟩
  · exact (writes_subside others).dead passed fun standing had => buried credential stale standing (same credential ▸ had)
  · obtain ⟨only, revoked, kills⟩ := safe change
    have killed (by_write : ∃ write ∈ all, write.Kills userId credential) :
        ∀ standing', (vault.writes all).standing credential = some standing' → standing'.live now = false := by
      apply writes_kill by_write others
      intro standing' had'
      rw [same, had] at had'
      cases had'
      exact own
    cases live : standing.live now with
    | false =>
      apply (writes_subside others).dead le_rfl
      intro standing' had'
      rw [same, had] at had'
      cases had'
      exact live
    | true =>
      have kind := only credential standing had own live
      cases credential with
      | session id => exact killed ⟨_, revoked (.deleteUserSessions userId) (by simp [Vault.revokeUserAuth]), rfl⟩
      | apiToken tokenHash => exact killed ⟨_, revoked (.revokeUserTokens userId now) (by simp [Vault.revokeUserAuth]), rfl⟩
      | _ => exact killed (kills _ kind)

theorem History.Buried.step {moment : Moment} (buried : history.Buried) (safe : history.ChangesSafely userId moment) :
    (history.step userId moment).Buried := by
  have passed : history.clock ≤ (moment.envAt history.clock).now := by
    show history.clock ≤ history.clock + moment.elapsed
    omega
  have waited : ({ history with clock := (moment.envAt history.clock).now } : History).Buried :=
    fun credential stale => (Subsides.refl _).dead passed (buried credential stale)
  unfold History.step
  unfold ChangesSafely at safe
  dsimp only at safe ⊢
  cases demanded : moment.demand with
  | elsewhere changes =>
    intro credential stale
    cases credential <;> exact waited _ stale
  | signed headers fresh call =>
    rw [demanded] at safe
    dsimp only at safe ⊢
    split
    · exact waited
    · rename_i served goes
      apply buried.after passed (serveSigned_standing goes)
      intro change
      exact ⟨safe served goes change, handle_revokes (serveSigned_ok goes).2.2.2 change, nofun⟩
  | open_ fresh call =>
    rw [demanded] at safe
    dsimp only at safe ⊢
    split
    · exact waited
    · rename_i opened goes
      apply buried.after passed (serveOpen_standing goes)
      intro change
      refine ⟨safe opened goes change, ?_⟩
      cases call with
      | resetConfirm token password =>
        obtain ⟨⟨id, all⟩, done, same⟩ := map_ok.mp goes
        obtain ⟨_, _, _, _, _, _, _, rfl⟩ := resetConfirm_ok done
        cases same
        cases change
        constructor
        · exact fun write inside => List.mem_append_right _ inside
        · intro credential presents
          cases presents
          exact ⟨_, List.mem_append_left _ (List.mem_cons_of_mem _ List.mem_cons_self), rfl⟩
      | _ => cases change

theorem History.Buried.respects {moment : Moment} (buried : history.Buried) : history.Respects moment := by
  intro credential uses stale
  obtain ⟨standing, had, live⟩ := uses_live uses
  have passed : history.clock ≤ (moment.envAt history.clock).now := by
    show history.clock ≤ history.clock + moment.elapsed
    omega
  have dead := (Subsides.refl _).dead passed (buried credential stale) standing had
  rw [live] at dead
  contradiction

/-- Where a user has no other credential out when the password changes or the user is disabled, nothing
that was issued to the user before is of any use afterwards. -/
theorem changes_revoke_credentials (userId : Nat) (vault : Vault) (clock : Int) (moments : List Moment) :
    Along (History.step userId) (History.ChangesSafely userId) ⟨vault, clock, fun _ => False⟩ moments →
      Along (History.step userId) History.Respects ⟨vault, clock, fun _ => False⟩ moments := by
  have start : (⟨vault, clock, fun _ => False⟩ : History).Buried := fun _ stale => False.elim stale
  exact along_of_invariant (I := History.Buried) (fun _ _ => History.Buried.step) (fun _ _ buried _ => buried.respects) start

end Runs

section Samples

def resetVault (tokens : List String) : Vault :=
  { sampleVault with
    users := Table.put ∅ 3 sampleUser
    resetTokens := tokens.foldl (fun rows token => rows.put token ⟨3, passwordResetTtl, none, 0⟩) ∅ }

def confirmReset (token : String) : Moment := ⟨1, samplePlatform, .open_ sampleFresh (.resetConfirm token "new")⟩

theorem changes_revoke_credentials_reset :
    Along (History.step 3) (History.ChangesSafely 3) ⟨resetVault ["a"], 0, fun _ => False⟩ [confirmReset "a"] ∧
      Along (History.step 3) History.Respects ⟨resetVault ["a"], 0, fun _ => False⟩ [confirmReset "a"] := by
  have safe : Along (History.step 3) (History.ChangesSafely 3) ⟨resetVault ["a"], 0, fun _ => False⟩
      [confirmReset "a"] := by
    refine ⟨fun _ _ _ credential standing had _ _ => ?_, trivial⟩
    cases credential with
    | resetToken tokenHash =>
      obtain ⟨row, found, _⟩ := Option.map_eq_some_iff.mp had
      have found : ((∅ : Table String PasswordResetToken).put "a" ⟨3, passwordResetTtl, none, 0⟩).find tokenHash =
        some row := found
      rw [Table.find_put] at found
      split at found
      · rename_i same
        exact congrArg (some ∘ Credential.resetToken) same.symm
      · contradiction
    | session id => trivial
    | apiToken tokenHash => trivial
    | _ => contradiction
  exact ⟨safe, changes_revoke_credentials 3 _ 0 _ safe⟩

/-- The second of two reset tokens changes the password again after the first has been used. -/
theorem reset_token_survives :
    ¬ Along (History.step 3) History.Respects ⟨resetVault ["a", "b"], 0, fun _ => False⟩
      [confirmReset "a", confirmReset "b"] := by
  rintro ⟨_, respects, _⟩
  apply respects (.resetToken "b") ⟨⟨_, rfl⟩, rfl⟩
  exact ⟨.inr ⟨rfl, _, rfl, rfl⟩, by decide⟩

end Samples

end IdigestHub.Auth
