import IdigestHub.Auth.Calls
import IdigestHub.Foundation.Runs

/-! The second factor of a user over the requests of a run: what may take it away. -/

set_option autoImplicit false

namespace IdigestHub.Auth

open Foundation Foundation.Fallible Foundation.Runs Sessions

/-- A request to the hub, with what it draws and the functions that it runs under. -/
inductive Event where
  | signed (env : Platform) (headers : Headers) (fresh : Fresh) (call : SignedCall)
  | open_ (env : Platform) (fresh : Fresh) (call : OpenCall)
  | elsewhere (changes : Elsewhere)

/-- The factor that a user has in the rows: the secret, the date, and the recovery codes. -/
structure Factor where
  secret : Option String
  enabledAt : Option Int

def User.factor (user : User) : Factor := ⟨user.totpSecret, user.totpEnabledAt⟩

def Vault.recoveryCode (vault : Vault) (userId id : Nat) : Option RecoveryCode :=
  (vault.recoveryCodes.find id).filter fun row => row.userId == userId

/-- The user has the second factor of the first rows, and the recovery codes but for their use. -/
structure Intact (userId : Nat) (first vault : Vault) : Prop where
  factor : ∃ user user', first.users.find userId = some user ∧ vault.users.find userId = some user' ∧
    user'.totpSecret = user.totpSecret ∧ totpEnabled user' = true ∧
    (∀ org membership, shouldChallengeAtLogin user' org membership = hubMfaApplies user' org membership) ∧
    ∀ org membership, mfaEnrollmentRequired user' org membership = false
  codes : ∀ id, (vault.recoveryCode userId id).map RecoveryCode.codeHash =
    (first.recoveryCode userId id).map RecoveryCode.codeHash
  used : ∀ id row, first.recoveryCode userId id = some row → row.usedAt.isSome = true →
    ∃ row', vault.recoveryCode userId id = some row' ∧ row'.usedAt.isSome = true

/-- The rows, and whether the factor has been given up with proof, or taken away by an admin. -/
structure Watch where
  vault : Vault
  released : Bool

/-- The request has presented both the password and a factor to `mfa_disable`, or is an admin's reset. -/
def releases (userId : Nat) (env : Platform) (served : Served) : SignedCall → Bool
  | .mfaDisable password code =>
    served.ctx.userId == userId && verifyUserPassword env served.ctx.user password &&
      (secondFactor env served.vault served.ctx code).isSome
  | .resetUserMfa target | .resetOrgUserMfa _ target => target == userId
  | _ => false

def Watch.step (userId : Nat) (watch : Watch) : Event → Watch
  | .signed env headers fresh call =>
    match serveSigned env watch.vault headers fresh call with
    | .error _ => watch
    | .ok served => ⟨served.after, watch.released || releases userId env served call⟩
  | .open_ env fresh call =>
    match serveOpen env watch.vault fresh call with
    | .error _ => watch
    | .ok opened => { watch with vault := opened.after }
  | .elsewhere changes => { watch with vault := watch.vault.elsewhere changes }

/-- The request enrolls nothing new: a setup that the user starts is forbidden, and a confirmation is
forbidden too or has no code of the secret (or draws an id that is taken). -/
def EnrollsNothing (userId : Nat) (vault : Vault) : Event → Prop
  | .signed env headers _ .mfaSetupStart => ∀ ctx db,
    requireAuth env.toEnv vault.toDb (SignedCall.mfaSetupStart.request headers) = .ok (ctx, db) →
      ctx.userId = userId → mfaForbidden ctx = true
  | .signed env headers fresh (.mfaSetupConfirm code) => ∀ ctx db,
    requireAuth env.toEnv vault.toDb ((SignedCall.mfaSetupConfirm code).request headers) = .ok (ctx, db) →
      ctx.userId = userId → mfaForbidden ctx = true ∨ verifyUserTotp env ctx.user code = false ∨
        ∃ entry ∈ newRecoveryCodes env ctx.userId fresh, (vault.recoveryCodes.find entry.1).isSome = true
  | _ => True

section Writes

variable {userId : Nat} {user : User} {first vault : Vault}

def Harmless (userId : Nat) (user : User) (vault : Vault) : Write → Prop
  | .updateUser id row => id = userId → row.factor = user.factor
  | .insertUser id _ => id ≠ userId
  | .deleteUserRecoveryCodes id => id ≠ userId
  | .insertRecoveryCode id row => row.userId ≠ userId ∧ vault.recoveryCode userId id = none
  | _ => True

structure SameFactor (userId : Nat) (user : User) (vault after : Vault) : Prop where
  factor : ∃ user', after.users.find userId = some user' ∧ user'.factor = user.factor
  codes : ∀ id, (after.recoveryCode userId id).map RecoveryCode.codeHash =
    (vault.recoveryCode userId id).map RecoveryCode.codeHash
  used : ∀ id row, vault.recoveryCode userId id = some row → row.usedAt.isSome = true →
    ∃ row', after.recoveryCode userId id = some row' ∧ row'.usedAt.isSome = true

theorem SameFactor.of_rows {after : Vault} (users : after.users = vault.users)
    (codes : after.recoveryCodes = vault.recoveryCodes) (known : vault.users.find userId = some user) :
    SameFactor userId user vault after where
  factor := ⟨user, users ▸ known, rfl⟩
  codes id := by simp only [Vault.recoveryCode, codes]
  used id row found marked := ⟨row, by simpa only [Vault.recoveryCode, codes] using found, marked⟩

theorem SameFactor.of_codes {after : Vault} (factor : ∃ user', after.users.find userId = some user' ∧ user'.factor = user.factor)
    (codes : ∀ id, after.recoveryCode userId id = vault.recoveryCode userId id) :
    SameFactor userId user vault after where
  factor := factor
  codes id := by rw [codes]
  used id row found marked := ⟨row, (codes id).trans found, marked⟩

theorem SameFactor.trans {user' : User} {middle after : Vault} (one : SameFactor userId user vault middle)
    (same : user'.factor = user.factor) (two : SameFactor userId user' middle after) :
    SameFactor userId user vault after where
  factor := by
    obtain ⟨user'', known, last⟩ := two.factor
    exact ⟨user'', known, last.trans same⟩
  codes id := (two.codes id).trans (one.codes id)
  used id row found marked := by
    obtain ⟨row', found', marked'⟩ := one.used id row found marked
    exact two.used id row' found' marked'

theorem Harmless.write {write : Write} (harmless : Harmless userId user vault write)
    (known : vault.users.find userId = some user) : SameFactor userId user vault (vault.write write) := by
  cases write with
  | updateUser id row =>
    refine .of_codes ?_ fun _ => rfl
    by_cases same : userId = id
    · subst same
      exact ⟨row, Table.find_put_self .., harmless rfl⟩
    · exact ⟨user, (Table.find_put ..).trans ((if_neg same).trans known), rfl⟩
  | insertUser id row => exact .of_codes ⟨user, (Table.find_put ..).trans ((if_neg harmless.symm).trans known), rfl⟩ fun _ => rfl
  -- Another user's codes go: `harmless` says that the owner is not this user.
  | deleteUserRecoveryCodes owner =>
    refine .of_codes ⟨user, known, rfl⟩ fun id => ?_
    simp only [Vault.recoveryCode, Vault.write, Table.find_keep, Option.filter_filter]
    congr 1
    funext row
    by_cases own : row.userId = userId
    · simp [own, Ne.symm harmless]
    · simp [own]
  | insertRecoveryCode id row =>
    refine .of_codes ⟨user, known, rfl⟩ fun other => ?_
    simp only [Vault.recoveryCode, Vault.write, Table.find_put]
    split
    · rename_i same
      subst same
      rw [← Vault.recoveryCode, harmless.2]
      simp [Option.filter_some, harmless.1]
    · rfl
  | useRecoveryCode id now =>
    refine ⟨⟨user, known, rfl⟩, fun other => ?_, fun other row found marked => ?_⟩
    · simp only [Vault.recoveryCode, Vault.write, Table.find_modify]
      split
      · rename_i same
        subst same
        cases vault.recoveryCodes.find other with
        | none => rfl
        | some row => by_cases own : row.userId = userId <;> simp [Option.filter_some, own]
      · rfl
    · obtain ⟨stored, own⟩ := Option.filter_eq_some_iff.mp found
      by_cases same : other = id
      · subst same
        refine ⟨{ row with usedAt := some now }, ?_, rfl⟩
        simp only [Vault.recoveryCode, Vault.write, Table.find_modify, if_true, stored, Option.map_some]
        simpa [Option.filter_some] using own
      · refine ⟨row, ?_, marked⟩
        simp only [Vault.recoveryCode, Vault.write, Table.find_modify, if_neg same]
        exact found
  | _ => exact .of_rows rfl rfl known

theorem SameFactor.harmless {user' : User} {after : Vault} (same : SameFactor userId user vault after)
    (factor : user'.factor = user.factor) {write : Write} (harmless : Harmless userId user vault write) :
    Harmless userId user' after write := by
  cases write with
  | updateUser id row => exact fun own => (harmless own).trans factor.symm
  | insertRecoveryCode id row =>
    refine ⟨harmless.1, ?_⟩
    have codes := same.codes id
    rw [harmless.2, Option.map_none, Option.map_eq_none_iff] at codes
    exact codes
  | insertUser id row => exact harmless
  | deleteUserRecoveryCodes owner => exact harmless
  | _ => trivial

theorem SameFactor.writes {all : List Write} (harmless : ∀ write ∈ all, Harmless userId user vault write)
    (known : vault.users.find userId = some user) : SameFactor userId user vault (vault.writes all) := by
  induction all generalizing vault user with
  | nil => exact .of_rows rfl rfl known
  | cons write rest ih =>
    have one := (harmless write List.mem_cons_self).write known
    obtain ⟨user', known', factor⟩ := one.factor
    exact one.trans factor (ih (fun other inside =>
      one.harmless factor (harmless other (List.mem_cons_of_mem _ inside))) known')

end Writes

section Requests

variable {userId : Nat} {user : User} {vault : Vault} {env : Platform} {headers : Headers} {fresh : Fresh}
  {all : List Write}

theorem revokeUserAuth_harmless {now : Int} {id : Nat} :
    ∀ write ∈ Vault.revokeUserAuth now id, Harmless userId user vault write := by
  simp [Vault.revokeUserAuth, Harmless]

theorem createSession_harmless {id : Nat} {session : Write} (created : createSession env vault id fresh = .ok session)
    {other : Vault} : Harmless userId user other session := by
  obtain ⟨_, ttlSec, _, rfl⟩ := createSession_ok created
  trivial

theorem update_harmless {id : Nat} {row row' : User} (known : vault.users.find userId = some user)
    (stored : vault.users.find id = some row) (factor : row'.factor = row.factor) :
    Harmless userId user vault (.updateUser id row') := by
  rintro rfl
  rw [known] at stored
  cases stored
  exact factor

theorem disableTotp_harmless {id : Nat} {row : User} (other : id ≠ userId) :
    ∀ write ∈ Vault.disableTotp id row, Harmless userId user vault write := by
  simp [Vault.disableTotp, Harmless, other]

theorem secondFactor_harmless {ctx : AuthContext} {code : String} {used : List Write}
    (proven : secondFactor env vault ctx code = some used) : ∀ write ∈ used, Harmless userId user vault write := by
  unfold secondFactor at proven
  split at proven
  · cases proven
    simp
  · obtain ⟨id, _, rfl⟩ := Option.map_eq_some_iff.mp proven
    simp [Harmless]

/-- A signed-in request that goes through leaves the factor alone, but for a release of it, a setup and
its confirmation. -/
theorem handle_harmless {ctx : AuthContext} {call : SignedCall} (handled : call.handle env vault ctx fresh = .ok all)
    (reflects : vault.users.find ctx.userId = some ctx.user) (known : vault.users.find userId = some user)
    (kept : releases userId env ⟨ctx, vault, all⟩ call = false)
    (no_setup : ctx.userId = userId → call ≠ .mfaSetupStart ∧ ∀ code, call ≠ .mfaSetupConfirm code) :
    ∀ write ∈ all, Harmless userId user vault write := by
  cases call with
  | look => cases handled; simp
  | changePassword current new =>
    obtain ⟨_, _, session, created, rfl⟩ := changePassword_ok handled
    simp only [List.forall_mem_append, List.forall_mem_singleton]
    exact ⟨⟨update_harmless known reflects rfl, revokeUserAuth_harmless⟩, createSession_harmless created⟩
  | createToken totpCode =>
    obtain ⟨_, _, _, _, rfl⟩ := createToken_ok handled
    simp [Harmless]
  | revokeToken tokenHash =>
    obtain rfl := revokeToken_ok handled
    simp [Harmless]
  | telegramLink =>
    obtain ⟨_, _, _, rfl⟩ := telegramLink_ok.mp handled
    simp [Harmless]
  | telegramUnlink => cases handled; simp [Harmless]
  | mfaSetupStart =>
    obtain ⟨_, rfl⟩ := mfaSetupStart_ok.mp handled
    simp only [List.forall_mem_singleton]
    exact fun own => absurd rfl (no_setup own).1
  | mfaSetupConfirm code =>
    -- only the user sets up a second factor of their own
    have other : ctx.userId ≠ userId := fun own => (no_setup own).2 code rfl
    obtain ⟨_, _, free, rfl⟩ := mfaSetupConfirm_ok.mp handled
    simp only [List.forall_mem_append, List.forall_mem_cons, List.forall_mem_map, List.not_mem_nil, false_implies,
      implies_true, and_true]
    refine ⟨⟨fun own => absurd own other, other⟩, fun entry inside => ⟨?_, ?_⟩⟩
    · obtain ⟨i, _, rfl⟩ := List.mem_map.mp inside
      exact other
    · rw [Vault.recoveryCode, free entry inside]
      rfl
  -- removing it takes the password and a code, which `releases` covers
  | mfaDisable password code =>
    obtain ⟨right, used, proven, rfl⟩ := mfaDisable_ok handled
    have other : ctx.userId ≠ userId := by
      intro own
      simp [releases, own, right, proven] at kept
    simp only [List.forall_mem_append]
    exact ⟨⟨secondFactor_harmless proven, disableTotp_harmless other⟩, revokeUserAuth_harmless⟩
  | disableUser id =>
    obtain ⟨row, stored, rfl⟩ := disableUser_ok handled
    simp only [List.forall_mem_append, List.forall_mem_singleton]
    exact ⟨update_harmless known stored rfl, revokeUserAuth_harmless⟩
  | enableUser id =>
    obtain ⟨row, stored, rfl⟩ := enableUser_ok handled
    simp only [List.forall_mem_singleton]
    exact update_harmless known stored rfl
  | resetUserPassword id =>
    obtain ⟨_, row, stored, rfl⟩ := resetUserPassword_ok handled
    simp only [adminPassword, List.forall_mem_append, List.forall_mem_singleton]
    exact ⟨update_harmless known stored rfl, revokeUserAuth_harmless⟩
  | resetUserMfa id =>
    obtain ⟨row, _, rfl⟩ := resetUserMfa_ok handled
    have other : id ≠ userId := by simpa [releases] using kept
    simp only [List.forall_mem_append]
    exact ⟨disableTotp_harmless other, revokeUserAuth_harmless⟩
  | resetOrgAdminPassword orgId id =>
    obtain ⟨_, row, stored, _, rfl⟩ := resetOrgAdminPassword_ok handled
    simp only [adminPassword, List.forall_mem_append, List.forall_mem_singleton]
    exact ⟨update_harmless known stored rfl, revokeUserAuth_harmless⟩
  | resetOrgUserMfa orgId id =>
    obtain ⟨row, _, rfl⟩ := resetOrgUserMfa_ok handled
    have other : id ≠ userId := by simpa [releases] using kept
    simp only [List.forall_mem_append]
    exact ⟨disableTotp_harmless other, revokeUserAuth_harmless⟩
  | impersonate target =>
    obtain ⟨_, _, rfl⟩ := impersonate_ok handled
    simp [Harmless]
  | stopImpersonate =>
    obtain ⟨_, _, rfl⟩ := stopImpersonate_ok handled
    simp [Harmless]

theorem login_harmless {email password : String} {entry : Entry}
    (goes : login env vault email password fresh = .ok (entry, all)) :
    ∀ write ∈ all, Harmless userId user vault write := by
  rcases login_ok goes with ⟨_, session, created, rfl⟩ | ⟨_, rfl⟩
  · simpa only [List.forall_mem_singleton] using createSession_harmless created
  · simp [Harmless]

theorem mfaEnter_harmless {challengeId : String} {proof : Nat → User → Option (List Write)} {id : Nat}
    (goes : mfaEnter env vault challengeId proof fresh = .ok (id, all))
    (proofs : ∀ id row used, proof id row = some used → ∀ write ∈ used, Harmless userId user vault write) :
    ∀ write ∈ all, Harmless userId user vault write := by
  obtain ⟨_, row, used, session, _, proven, created, rfl⟩ := mfaEnter_ok goes
  simp only [List.forall_mem_append, List.forall_mem_cons, List.not_mem_nil, false_implies, implies_true, and_true]
  exact ⟨proofs id row used proven, trivial, createSession_harmless created⟩

theorem ssoCallback_harmless {codec : StateCodec} {provider : IdentityProvider} {orgId id : Nat}
    {code state : Option String} (goes : ssoCallback env codec provider vault orgId code state fresh = .ok (id, all))
    (known : vault.users.find userId = some user) : ∀ write ∈ all, Harmless userId user vault write := by
  obtain ⟨_, _, _, found, _, resolved, session, created, rfl⟩ := (ssoCallback_ok goes).user
  simp only [List.forall_mem_append, List.forall_mem_singleton]
  refine ⟨?_, createSession_harmless created⟩
  rcases resolveOrProvisionUser_ok resolved with ⟨row, _, by_email, _, _, _, rfl⟩ | ⟨absent, row, _, _, rfl⟩
  · simp only [List.forall_mem_singleton]
    exact update_harmless known (userByEmail_some by_email).1 rfl
  · simp only [List.forall_mem_cons, List.not_mem_nil, false_implies, implies_true, and_true]
    refine ⟨?_, trivial⟩
    rintro rfl
    rw [known] at absent
    contradiction

/-- A request without a context of `require_auth` leaves the factor alone, but for the use of a code. -/
theorem serveOpen_same {call : OpenCall} {opened : Opened} (goes : serveOpen env vault fresh call = .ok opened)
    (known : vault.users.find userId = some user) : SameFactor userId user vault opened.after := by
  cases call with
  | login email password =>
    simp only [serveOpen] at goes
    split at goes
    · contradiction
    · rw [guard_ok] at goes
      obtain ⟨⟨entry, all⟩, done, rfl⟩ := map_ok.mp goes.2
      exact .writes (login_harmless done) known
  | oauthLogin email password =>
    obtain ⟨⟨entry, all⟩, done, rfl⟩ := map_ok.mp goes
    obtain ⟨_, session, created, rfl⟩ := oauthLogin_ok done
    refine .writes ?_ known
    simpa only [List.forall_mem_singleton] using createSession_harmless created
  | mfaVerify challengeId code =>
    obtain ⟨⟨id, all⟩, done, rfl⟩ := map_ok.mp goes
    refine .writes (mfaEnter_harmless done fun _ row used proven => ?_) known
    split at proven
    · cases proven
      simp
    · contradiction
  | mfaRecover challengeId recoveryCode =>
    obtain ⟨⟨id, all⟩, done, rfl⟩ := map_ok.mp goes
    refine .writes (mfaEnter_harmless done fun _ row used proven => ?_) known
    obtain ⟨_, _, rfl⟩ := Option.map_eq_some_iff.mp proven
    simp [Harmless]
  | resetRequest email =>
    obtain ⟨all, done, rfl⟩ := map_ok.mp goes
    refine .writes ?_ known
    rcases resetRequest_ok done with rfl | ⟨_, rfl⟩
    · simp
    · simp [Harmless]
  | resetConfirm token password =>
    obtain ⟨⟨id, all⟩, done, rfl⟩ := map_ok.mp goes
    obtain ⟨_, row, _, _, _, _, stored, rfl⟩ := resetConfirm_ok done
    refine .writes ?_ known
    simp only [List.forall_mem_append, List.forall_mem_cons, List.not_mem_nil, false_implies, implies_true, and_true]
    exact ⟨⟨update_harmless known stored rfl, trivial⟩, revokeUserAuth_harmless⟩
  -- here the session store may have been touched before the writes
  | authorize headers form =>
    simp only [serveOpen, bind_ok, Prod.exists] at goes
    obtain ⟨ctx, db, resolved, all, done, same⟩ := goes
    cases same
    obtain ⟨sessions, rfl⟩ := resolveAuth_sessions resolved
    obtain ⟨_, _, _, _, _, _, rfl⟩ := authorizeConfirm_ok done
    exact .of_rows rfl rfl known
  | exchange request =>
    obtain ⟨⟨id, all⟩, done, rfl⟩ := map_ok.mp goes
    obtain ⟨_, _, _, _, _, _, _, rfl⟩ := exchange_ok done
    refine .writes ?_ known
    simp [Harmless]
  | refresh request =>
    obtain ⟨id, _, rfl⟩ := map_ok.mp goes
    exact .writes (by simp) known
  | ssoCallback codec provider orgId code state =>
    obtain ⟨⟨id, all⟩, done, rfl⟩ := map_ok.mp goes
    exact .writes (ssoCallback_harmless done known) known
  | logout headers =>
    simp only [serveOpen, bind_ok, Prod.exists] at goes
    obtain ⟨ctx, db, resolved, same⟩ := goes
    cases same
    obtain ⟨sessions, rfl⟩ := resolveAuth_sessions resolved
    have quiet (other : Vault) : ∀ write ∈ logout env headers, Harmless userId user other write := by
      unfold logout
      split <;> simp [Harmless]
    have touched : SameFactor userId user vault { vault with sessions } := .of_rows rfl rfl known
    exact touched.trans rfl (.writes (quiet _) known)

end Requests

/-! ## Runs -/

section Runs

variable {userId : Nat} {first vault : Vault} {user : User}

theorem challenges_of_enabled (enabled : totpEnabled user = true) :
    (∀ org membership, shouldChallengeAtLogin user org membership = hubMfaApplies user org membership) ∧
      ∀ org membership, mfaEnrollmentRequired user org membership = false :=
  ⟨fun org membership => by simp [shouldChallengeAtLogin, enabled],
    fun org membership => by simp [mfaEnrollmentRequired, enabled]⟩

def Enrolled (userId : Nat) (first : Vault) : Prop := ∃ user, first.users.find userId = some user ∧ totpEnabled user = true

theorem Intact.refl (enrolled : Enrolled userId first) : Intact userId first first := by
  obtain ⟨user, known, enabled⟩ := enrolled
  exact ⟨⟨user, user, known, known, rfl, enabled, challenges_of_enabled enabled⟩, fun _ => rfl,
    fun _ row found marked => ⟨row, found, marked⟩⟩

theorem totpEnabled_factor {user' : User} (same : user'.factor = user.factor) : totpEnabled user' = totpEnabled user := by
  rw [totpEnabled, totpEnabled, (Factor.mk.inj same).2]

theorem Intact.known (intact : Intact userId first vault) : ∃ user, vault.users.find userId = some user := by
  obtain ⟨_, user, _, known, _⟩ := intact.factor
  exact ⟨user, known⟩

theorem Intact.same (intact : Intact userId first vault) (known : vault.users.find userId = some user) {after : Vault}
    (same : SameFactor userId user vault after) : Intact userId first after := by
  obtain ⟨original, current, at_first, now, secret, enabled, _⟩ := intact.factor
  rw [known] at now
  cases now
  obtain ⟨user', known', factor⟩ := same.factor
  have enabled' := (totpEnabled_factor factor).trans enabled
  refine ⟨⟨original, user', at_first, known', (Factor.mk.inj factor).1.trans secret, enabled',
    challenges_of_enabled enabled'⟩, fun id => (same.codes id).trans (intact.codes id), fun id row found marked => ?_⟩
  obtain ⟨row', found', marked'⟩ := intact.used id row found marked
  exact same.used id row' found' marked'

/-- The user has given the second factor up with proof, or an admin has reset it, or it is intact. -/
def Watch.Held (userId : Nat) (first : Vault) (watch : Watch) : Prop :=
  Enrolled userId first → watch.released = true ∨ Intact userId first watch.vault

/-- As long as the factor is held and not released, the request enrolls nothing new. -/
def Watch.Good (userId : Nat) (first : Vault) (watch : Watch) (event : Event) : Prop :=
  Enrolled userId first → watch.released = false → EnrollsNothing userId watch.vault event

variable {watch : Watch} {event : Event}

theorem Watch.step_released (released : watch.released = true) : (watch.step userId event).released = true := by
  cases event with
  | signed env headers fresh call =>
    simp only [Watch.step]
    split
    · exact released
    · simp [released]
  | open_ env fresh call =>
    simp only [Watch.step]
    split <;> exact released
  | elsewhere changes => exact released

/-- A signed-in request that enrolls nothing new is none of a setup that goes through. -/
theorem EnrollsNothing.no_setup {env : Platform} {headers : Headers} {fresh : Fresh} {call : SignedCall} {served : Served}
    (nothing : EnrollsNothing userId vault (.signed env headers fresh call))
    (goes : serveSigned env vault headers fresh call = .ok served) (own : served.ctx.userId = userId) :
    call ≠ .mfaSetupStart ∧ ∀ code, call ≠ .mfaSetupConfirm code := by
  obtain ⟨accepted, _, ⟨sessions, same⟩, handled⟩ := serveSigned_ok goes
  constructor
  · rintro rfl
    have allowed := (mfaSetupStart_ok.mp handled).1
    rw [nothing _ _ accepted own] at allowed
    contradiction
  · rintro code rfl
    obtain ⟨allowed, right, free, _⟩ := mfaSetupConfirm_ok.mp handled
    rcases nothing _ _ accepted own with forbidden | wrong | ⟨entry, inside, taken⟩
    · rw [forbidden] at allowed
      contradiction
    · rw [wrong] at right
      contradiction
    · have absent := free entry inside
      rw [same] at absent
      rw [absent] at taken
      contradiction

theorem Watch.step_intact (intact : Intact userId first watch.vault)
    (nothing : EnrollsNothing userId watch.vault event) :
    (watch.step userId event).released = true ∨ Intact userId first (watch.step userId event).vault := by
  obtain ⟨user, known⟩ := intact.known
  cases event with
  | signed env headers fresh call =>
    simp only [Watch.step]
    split
    · exact .inr intact
    · rename_i served goes
      cases kept : releases userId env served call with
      | true => exact .inl (by simp)
      | false =>
        obtain ⟨_, _, ⟨sessions, same⟩, handled⟩ := serveSigned_ok goes
        have still : served.vault.users.find userId = some user := by rw [same]; exact known
        have harmless := handle_harmless handled (Served.reflects goes).row still kept fun own => nothing.no_setup goes own
        refine .inr (intact.same known ?_)
        have touched : SameFactor userId user watch.vault served.vault := by
          rw [same]
          exact .of_rows rfl rfl known
        exact touched.trans rfl (.writes harmless still)
  | open_ env fresh call =>
    simp only [Watch.step]
    split
    · exact .inr intact
    · rename_i opened goes
      exact .inr (intact.same known (serveOpen_same goes known))
  | elsewhere changes =>
    exact .inr (intact.same known (.of_codes ⟨_, Vault.find_elsewhere known changes, rfl⟩ fun _ => rfl))

theorem inserted_codes {rows : List (Nat × RecoveryCode)} (own : ∀ entry ∈ rows, entry.2.userId = userId) {id : Nat}
    (there : (∃ entry ∈ rows, entry.1 = id) ∨ (vault.recoveryCode userId id).isSome = true) :
    ((vault.writes (rows.map fun entry => .insertRecoveryCode entry.1 entry.2)).recoveryCode userId id).isSome = true := by
  induction rows generalizing vault with
  | nil =>
    rcases there with ⟨entry, inside, _⟩ | there
    · contradiction
    · exact there
  | cons first rest ih =>
    apply ih (fun entry inside => own entry (List.mem_cons_of_mem _ inside))
    by_cases same : id = first.1
    · right
      simp only [Vault.recoveryCode, Vault.write, Table.find_put, if_pos same]
      simp [Option.filter_some, own first List.mem_cons_self]
    · rcases there with ⟨entry, inside, rfl⟩ | there
      · rcases List.mem_cons.mp inside with rfl | later
        · contradiction
        · exact .inl ⟨entry, later, rfl⟩
      · right
        simpa only [Vault.recoveryCode, Vault.write, Table.find_put, if_neg same] using there

theorem setup_start_loses {after : Vault} {row : User} (now : after.users.find userId = some row)
    (disabled : row.totpEnabledAt = none) : ¬ Intact userId first after := by
  intro intact
  obtain ⟨_, user, _, known, _, enabled, _⟩ := intact.factor
  rw [now] at known
  cases known
  simp [totpEnabled, disabled] at enabled

theorem setup_confirm_loses {env : Platform} {fresh : Fresh} {served : Vault} {row : User}
    (intact : Intact userId first vault)
    (free : ∀ entry ∈ newRecoveryCodes env userId fresh, vault.recoveryCodes.find entry.1 = none) :
    ¬ Intact userId first (served.writes ([.updateUser userId row, .deleteUserRecoveryCodes userId] ++
      (newRecoveryCodes env userId fresh).map fun entry => .insertRecoveryCode entry.1 entry.2)) := by
  intro still
  -- The first of the new codes has an id that no code of the user had.
  let id := (fresh.recoveryCodes 0).1
  have inside : (id, ⟨userId, env.hashSecret (fresh.recoveryCodes 0).2, none⟩) ∈ newRecoveryCodes env userId fresh :=
    List.mem_map.mpr ⟨0, by decide, rfl⟩
  have own : ∀ entry ∈ newRecoveryCodes env userId fresh, entry.2.userId = userId := by
    intro entry inside
    obtain ⟨i, _, rfl⟩ := List.mem_map.mp inside
    rfl
  have absent : vault.recoveryCode userId id = none := by
    rw [Vault.recoveryCode, free _ inside]
    rfl
  have never := intact.codes id
  rw [absent] at never
  have then_never := still.codes id
  rw [← never, Vault.writes_append] at then_never
  have there := @inserted_codes userId (served.writes [.updateUser userId row, .deleteUserRecoveryCodes userId]) _
    own id (.inl ⟨_, inside, rfl⟩)
  rw [Option.map_none, Option.map_eq_none_iff] at then_never
  rw [then_never] at there
  contradiction

/-- A request that keeps the factor enrolls nothing new. -/
theorem Watch.enrolls_nothing (unreleased : watch.released = false) (intact : Intact userId first watch.vault)
    (held : (watch.step userId event).released = true ∨ Intact userId first (watch.step userId event).vault) :
    EnrollsNothing userId watch.vault event := by
  unfold EnrollsNothing
  split
  · rename_i env headers fresh
    intro ctx db accepted own
    by_contra allowed
    have goes : serveSigned env watch.vault headers fresh .mfaSetupStart = .ok ⟨ctx, _, _⟩ :=
      serveSigned_of accepted (mfaSetupStart_ok.mpr ⟨by simpa using allowed, rfl⟩)
    simp only [Watch.step, goes, unreleased, releases, Bool.or_false, Bool.false_eq_true, false_or] at held
    rw [own] at held
    exact setup_start_loses (Table.find_put_self ..) rfl held
  · rename_i env headers fresh code
    intro ctx db accepted own
    by_contra goes_through
    simp only [not_or, Bool.not_eq_true, Bool.not_eq_false, not_exists, not_and, Option.isSome_eq_false_iff,
      Option.isNone_iff_eq_none] at goes_through
    obtain ⟨allowed, right, free⟩ := goes_through
    obtain ⟨sessions, rfl⟩ := resolveAuth_sessions (requireAuth_ok accepted)
    have goes : serveSigned env watch.vault headers fresh (.mfaSetupConfirm code) = .ok ⟨ctx, _, _⟩ :=
      serveSigned_of accepted (mfaSetupConfirm_ok.mpr ⟨allowed, right, free, rfl⟩)
    simp only [Watch.step, goes, unreleased, releases, Bool.or_false, Bool.false_eq_true, false_or] at held
    rw [own] at held free
    exact setup_confirm_loses intact free held
  · trivial

theorem Watch.step_exact (held : watch.Held userId first) :
    (watch.step userId event).Held userId first ↔ watch.Good userId first event := by
  constructor
  · intro next enrolled unreleased
    rcases held enrolled with released | intact
    · rw [unreleased] at released
      contradiction
    · exact enrolls_nothing unreleased intact (next enrolled)
  · intro good enrolled
    rcases held enrolled with released | intact
    · exact .inl (step_released released)
    · cases unreleased : watch.released with
      | true => exact .inl (step_released unreleased)
      | false => exact step_intact intact (good enrolled unreleased)

/-- An enabled factor is held in every state of a run exactly when no request of the run enrolls a new one. -/
theorem second_factor_held_iff (events : List Event) :
    Always (Watch.step userId) (Watch.Held userId first) ⟨first, false⟩ events ↔
      Along (Watch.step userId) (Watch.Good userId first) ⟨first, false⟩ events :=
  always_iff_along (fun _ _ => Watch.step_exact) fun enrolled => .inr (.refl enrolled)

end Runs

section Samples

def enrolledVault : Vault :=
  { sampleVault with
    users := Table.put ∅ 3 { sampleUser with totpSecret := some "123456", totpEnabledAt := some 0 }
    apiTokens := Table.put ∅ "personal" ⟨3, none⟩ }

def startByToken : Event := .signed samplePlatform ⟨"Bearer personal", none, none, none⟩ sampleFresh .mfaSetupStart

/-- One request with a personal token to start a setup turns the second factor off. -/
theorem second_factor_lost_by_setup :
    ¬ Always (Watch.step 3) (Watch.Held 3 enrolledVault) ⟨enrolledVault, false⟩ [startByToken] := by
  intro always
  have enrolled : Enrolled 3 enrolledVault := ⟨_, rfl, rfl⟩
  rcases always [startByToken] [] rfl enrolled with released | intact
  · contradiction
  · exact setup_start_loses rfl rfl intact

end Samples

end IdigestHub.Auth
