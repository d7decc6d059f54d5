import IdigestHub.Auth.Endpoints
import IdigestHub.Foundation.Ascii
import IdigestHub.RateLimiting.Cache
import IdigestHub.RateLimiting.Limiter

/-! The two logins that check a password, and the rate limit that counts the attempts of one
of them. -/

set_option autoImplicit false

namespace IdigestHub.Auth

open Foundation Foundation.Fallible Foundation.Runs

/-- The limits of the keys that no login hits, and which of them count by the hour. -/
structure OtherLimits where
  limit : String → Int
  hourly : String → Bool

def under (pre key : String) : Bool := pre.toList.isPrefixOf key.toList

/-- The limit and the window of every key, as `enforce_login` and the other checks pass them. -/
def loginLimits (rates : RateLimiting.RateLimits) (others : OtherLimits) : RateLimiting.Limits where
  limit key :=
    if under "login:email:" key then rates.loginEmail
    else if under "login:ip:" key then rates.loginIp
    else if key = "login:global" then rates.loginGlobal
    else others.limit key
  windowSec key := if under "login:" key || !others.hourly key then 60 else 3600

/-- An attempt to log in, with the address that it comes from and the clock at each check. -/
structure Attempt where
  env : Platform
  email : String
  password : String
  ip : String
  times : Nat → ℚ × ℚ
  fresh : Fresh

def loginChecks (email ip : String) (times : Nat → ℚ × ℚ) : List RateLimiting.Check := [
  ⟨"login:email:" ++ email, (times 0).1, (times 0).2⟩,
  ⟨"login:ip:" ++ ip, (times 1).1, (times 1).2⟩,
  ⟨"login:global", (times 2).1, (times 2).2⟩]

/-- The rows, the rate limiter, and every verification of a password with its time; the last is kept
for the statements only. -/
structure Front where
  vault : Vault
  limiter : RateLimiting.Limiter
  verified : List (String × ℚ)

inductive LoginEvent where
  | passwordLogin (attempt : Attempt)
  | oauthLogin (attempt : Attempt)
  /-- Other requests change the rows. -/
  | elsewhere (vault : Vault)
  /-- Another request hits a key. -/
  | hit (check : RateLimiting.Check)
  | purge (now : ℚ)

section Steps

variable (rates : RateLimiting.RateLimits) (others : OtherLimits)

def enforceLogin (limiter : RateLimiting.Limiter) (email ip : String) (times : Nat → ℚ × ℚ) :
    Bool × RateLimiting.Limiter :=
  if !rates.enabled then (true, limiter)
  else limiter.enforceChecks (loginLimits rates others) (loginChecks email ip times)

/-- What `POST /auth/login` answers, with the validation of its body. -/
def passwordOutcome (front : Front) (attempt : Attempt) : Except Refusal (Entry × List Write) :=
  match attempt.env.emailStr attempt.email with
  | none => .error (.error .validationError)
  | some address =>
    let email := normEmail attempt.env address
    if (enforceLogin rates others front.limiter email attempt.ip attempt.times).1 then
      login attempt.env front.vault email attempt.password attempt.fresh
    else .error (.error .rateLimited)

def verifies (vault : Vault) (email : String) : Bool :=
  (loginUser vault email).any fun found => passwordAllowed vault found.1 found.2

def Vault.after (vault : Vault) (outcome : Except Refusal (Entry × List Write)) : Vault :=
  match outcome with
  | .ok (_, all) => vault.writes all
  | .error _ => vault

def Attempt.time (attempt : Attempt) (front : Front) : ℚ := max front.limiter.clock (attempt.times 0).1

def Front.step (front : Front) : LoginEvent → Front
  | .passwordLogin attempt =>
    match attempt.env.emailStr attempt.email with
    | none => front
    | some address =>
      let email := normEmail attempt.env address
      let (passes, limiter) := enforceLogin rates others front.limiter email attempt.ip attempt.times
      { vault := front.vault.after (passwordOutcome rates others front attempt)
        limiter
        verified := if passes && verifies front.vault email then front.verified ++ [(email, attempt.time front)]
          else front.verified }
  | .oauthLogin attempt =>
    let email := normEmail attempt.env attempt.email
    { front with
      vault := front.vault.after (oauthLogin attempt.env front.vault attempt.email attempt.password attempt.fresh)
      verified := if providerReady attempt.env front.vault && verifies front.vault email then
          front.verified ++ [(email, attempt.time front)]
        else front.verified }
  | .elsewhere vault => { front with vault }
  | .hit check => { front with limiter := (front.limiter.hit (loginLimits rates others) check).2 }
  | .purge now => { front with limiter := front.limiter.purge now }

def NoWeaker (front : Front) : LoginEvent → Prop
  | .oauthLogin attempt =>
    let email := normEmail attempt.env attempt.email
    providerReady attempt.env front.vault = true →
      (∀ userId all, oauthLogin attempt.env front.vault attempt.email attempt.password attempt.fresh =
          .ok (.session userId, all) →
        ∃ all, passwordOutcome rates others front attempt = .ok (.session userId, all)) ∧
      (front.step rates others (.oauthLogin attempt)).limiter.hits =
        (enforceLogin rates others front.limiter email attempt.ip attempt.times).2.hits
  | _ => True

def Unlimited : Prop :=
  rates.enabled = false ∨ (rates.loginEmail ≤ 0 ∧ rates.loginIp ≤ 0 ∧ rates.loginGlobal ≤ 0)

/-- The OAuth login is out of service, or the logins are not limited and the account that it would
let in, if any, is one that the password login lets in without a challenge. -/
def SafeLogin (front : Front) : LoginEvent → Prop
  | .oauthLogin attempt =>
    providerReady attempt.env front.vault = true →
      Unlimited rates ∧ ∀ userId user,
        authenticateLoginForOauth attempt.env front.vault attempt.email attempt.password = some (userId, user) →
        (∃ session, createSession attempt.env front.vault userId attempt.fresh = .ok session) →
        (attempt.env.emailStr attempt.email).map (normEmail attempt.env) = some (normEmail attempt.env attempt.email) ∧
          challenged front.vault userId user = false
  | _ => True

def Roomy (front : Front) : LoginEvent → Prop
  | .passwordLogin attempt => rates.enabled = true → ∀ address, attempt.env.emailStr attempt.email = some address →
      front.limiter.Room (loginLimits rates others)
        (loginChecks (normEmail attempt.env address) attempt.ip attempt.times)
  | .hit check => front.limiter.Room (loginLimits rates others) [check]
  | _ => True

def verifiedIn (backend : RateLimiting.Backend) (verified : List (String × ℚ)) (email : String) (start : ℚ) : Nat :=
  verified.countP fun entry => entry.1 == email && decide (start ≤ entry.2) && backend.covers 60 start entry.2

/-- In a window of an address, the passwords are verified at most as often as the limit says. -/
def VerificationsBounded (front : Front) : Prop :=
  rates.enabled = true → 0 < rates.loginEmail → ∀ email, ∀ first ∈ front.limiter.hits,
    first.key = "login:email:" ++ email → first.opens = true →
      (verifiedIn front.limiter.store.backend front.verified email first.time : Int) ≤ rates.loginEmail

end Steps

section Limits

variable {rates : RateLimiting.RateLimits} {others : OtherLimits}

theorem under_append (pre key : String) : under pre (pre ++ key) = true := by
  rw [under, String.toList_append, List.isPrefixOf_iff_prefix]
  exact List.prefix_append ..

theorem under_longer {pre text : String} (its : under pre text = true) (key : String) : under pre (text ++ key) = true := by
  rw [under, String.toList_append, List.isPrefixOf_iff_prefix]
  exact (List.isPrefixOf_iff_prefix.mp its).trans (List.prefix_append ..)

/-- Two texts that differ go on differing. -/
theorem not_under {pre text : String} (apart : under pre text = false ∧ under text pre = false) (key : String) :
    under pre (text ++ key) = false := by
  rw [Bool.eq_false_iff, under, String.toList_append]
  intro its
  rcases List.prefix_or_prefix_of_prefix (List.isPrefixOf_iff_prefix.mp its) (List.prefix_append ..) with first | second
  · exact Bool.false_ne_true (apart.1.symm.trans (List.isPrefixOf_iff_prefix.mpr first))
  · exact Bool.false_ne_true (apart.2.symm.trans (List.isPrefixOf_iff_prefix.mpr second))

theorem limit_email (email : String) : (loginLimits rates others).limit ("login:email:" ++ email) = rates.loginEmail :=
  if_pos (under_append "login:email:" email)

theorem limit_ip (ip : String) : (loginLimits rates others).limit ("login:ip:" ++ ip) = rates.loginIp := by
  have not_email : under "login:email:" ("login:ip:" ++ ip) = false := not_under (by decide +kernel) ip
  rw [loginLimits]
  simp only [not_email, under_append, Bool.false_eq_true, if_false, if_true]

theorem limit_global : (loginLimits rates others).limit "login:global" = rates.loginGlobal := by
  have not_email : under "login:email:" "login:global" = false := by decide +kernel
  have not_ip : under "login:ip:" "login:global" = false := by decide +kernel
  simp only [loginLimits, not_email, not_ip, Bool.false_eq_true, if_false, if_true]

variable (rates others) in
theorem window_email (email : String) : (loginLimits rates others).windowSec ("login:email:" ++ email) = 60 := by
  have counted : under "login:" ("login:email:" ++ email) = true := under_longer (by decide +kernel) email
  simp only [loginLimits, counted, Bool.true_or, if_true]

theorem loginChecks_unlimited (email ip : String) (times : Nat → ℚ × ℚ) :
    (∀ check ∈ loginChecks email ip times, (loginLimits rates others).limit check.key ≤ 0) ↔
      rates.loginEmail ≤ 0 ∧ rates.loginIp ≤ 0 ∧ rates.loginGlobal ≤ 0 := by
  simp only [loginChecks, List.forall_mem_cons, limit_email, limit_ip, limit_global, List.not_mem_nil, false_implies,
    implies_true, and_true]

variable (rates others) in
/-- The checks of a login add no hit exactly when the logins are not limited. -/
theorem enforceLogin_hits (limiter : RateLimiting.Limiter) (email ip : String) (times : Nat → ℚ × ℚ) :
    (enforceLogin rates others limiter email ip times).2.hits = limiter.hits ↔ Unlimited rates := by
  unfold enforceLogin Unlimited
  cases on : rates.enabled with
  | false => simp
  | true =>
    obtain ⟨added, same, none_added⟩ := RateLimiting.Limiter.enforceChecks_hits (loginLimits rates others) limiter
      (loginChecks email ip times)
    rw [loginChecks_unlimited] at none_added
    simp [same, none_added]

theorem enforceLogin_unlimited (unlimited : Unlimited rates) (limiter : RateLimiting.Limiter) (email ip : String)
    (times : Nat → ℚ × ℚ) : (enforceLogin rates others limiter email ip times).1 = true := by
  unfold enforceLogin
  split
  · rfl
  · rename_i on
    rcases unlimited with off | free
    · simp [off] at on
    · exact RateLimiting.Limiter.enforceChecks_unlimited ((loginChecks_unlimited ..).mpr free)

end Limits

section Comparison

variable {rates : RateLimiting.RateLimits} {others : OtherLimits} {env : Platform} {vault : Vault} {email password : String}
  {fresh : Fresh} {userId : Nat} {all : List Write}

theorem loginUser_row {user : User} (found : loginUser vault email = some (userId, user)) :
    vault.users.find userId = some user ∧ user.email = email :=
  userByEmail_some (Option.filter_eq_some_iff.mp found).1

/-- The OAuth login lets in whom `authenticate_login_for_oauth` names. -/
theorem oauthLogin_session (ready : providerReady env vault = true) :
    (∃ all, oauthLogin env vault email password fresh = .ok (.session userId, all)) ↔
      (∃ user, authenticateLoginForOauth env vault email password = some (userId, user)) ∧
        ∃ session, createSession env vault userId fresh = .ok session := by
  unfold oauthLogin
  simp only [ready, Bool.not_true, Bool.false_eq_true, if_false]
  cases found : authenticateLoginForOauth env vault email password with
  | none => simp
  | some entry =>
    obtain ⟨id, user⟩ := entry
    simp only [map_ok, Prod.mk.injEq, Entry.session.injEq, Option.some.injEq]
    constructor
    · rintro ⟨all, session, created, rfl, _⟩
      exact ⟨⟨user, rfl, rfl⟩, session, created⟩
    · rintro ⟨⟨user', rfl, _⟩, session, created⟩
      exact ⟨_, session, created, rfl, rfl⟩

theorem login_session : (∃ all, login env vault email password fresh = .ok (.session userId, all)) ↔
    ∃ user, loginUser vault email = some (userId, user) ∧ passwordAllowed vault userId user = true ∧
      verifyUserPassword env user password = true ∧ challenged vault userId user = false ∧
      ∃ session, createSession env vault userId fresh = .ok session := by
  unfold login
  cases found : loginUser vault email with
  | none => simp
  | some entry =>
    obtain ⟨id, user⟩ := entry
    dsimp only
    constructor
    · rintro ⟨all, goes⟩
      rw [guard_ok, guard_ok] at goes
      obtain ⟨allowed, right, goes⟩ := goes
      split at goes
      · obtain ⟨_, _, same⟩ := map_ok.mp goes
        cases same
      · rename_i unchallenged
        obtain ⟨session, created, same⟩ := map_ok.mp goes
        cases same
        exact ⟨user, rfl, by simpa using allowed, by simpa using right, by simpa using unchallenged, session, created⟩
    · rintro ⟨user', same, allowed, right, unchallenged, session, created⟩
      cases same
      exact ⟨[session], by simp [allowed, right, unchallenged, created, Except.map]⟩

theorem authenticateLoginForOauth_some {user : User} :
    authenticateLoginForOauth env vault email password = some (userId, user) ↔
      loginUser vault (normEmail env email) = some (userId, user) ∧ passwordAllowed vault userId user = true ∧
        verifyUserPassword env user password = true := by
  simp [authenticateLoginForOauth, Option.filter_eq_some_iff]

/-- Without a limit, the password login is that of the address that the body gives. -/
theorem passwordOutcome_session {front : Front} {attempt : Attempt} (unlimited : Unlimited rates) :
    (∃ all, passwordOutcome rates others front attempt = .ok (.session userId, all)) ↔
      ∃ address, attempt.env.emailStr attempt.email = some address ∧
        ∃ all, login attempt.env front.vault (normEmail attempt.env address) attempt.password attempt.fresh =
          .ok (.session userId, all) := by
  unfold passwordOutcome
  cases valid : attempt.env.emailStr attempt.email with
  | none => simp
  | some address => simp [enforceLogin_unlimited unlimited]

theorem noWeaker_iff (front : Front) (event : LoginEvent) :
    NoWeaker rates others front event ↔ SafeLogin rates front event := by
  cases event with
  | oauthLogin attempt =>
    unfold NoWeaker SafeLogin
    refine imp_congr_right fun ready => ?_
    have counts : (front.step rates others (.oauthLogin attempt)).limiter.hits =
        (enforceLogin rates others front.limiter (normEmail attempt.env attempt.email) attempt.ip attempt.times).2.hits ↔
          Unlimited rates := by
      rw [← enforceLogin_hits rates others]
      exact eq_comm
    rw [counts, and_comm]
    refine and_congr_right fun unlimited => ?_
    constructor
    · intro let_in userId user authenticated created
      obtain ⟨all, goes⟩ := (oauthLogin_session ready).mpr ⟨⟨user, authenticated⟩, created⟩
      obtain ⟨address, valid, all, goes⟩ := (passwordOutcome_session unlimited).mp (let_in userId all goes)
      obtain ⟨user', found', _, _, unchallenged, _⟩ := login_session.mp ⟨all, goes⟩
      obtain ⟨found, _, _⟩ := authenticateLoginForOauth_some.mp authenticated
      obtain ⟨row, same⟩ := loginUser_row found
      obtain ⟨row', same'⟩ := loginUser_row found'
      rw [row] at row'
      cases row'
      exact ⟨by rw [valid, Option.map_some, ← same, ← same'], unchallenged⟩
    · intro safe userId all goes
      obtain ⟨⟨user, authenticated⟩, created⟩ := (oauthLogin_session ready).mp ⟨all, goes⟩
      obtain ⟨same, unchallenged⟩ := safe userId user authenticated created
      obtain ⟨address, valid, normal⟩ := Option.map_eq_some_iff.mp same
      obtain ⟨found, allowed, right⟩ := authenticateLoginForOauth_some.mp authenticated
      rw [← normal] at found
      obtain ⟨all, goes⟩ := login_session.mpr ⟨user, found, allowed, right, unchallenged, created⟩
      exact (passwordOutcome_session unlimited).mpr ⟨address, valid, all, goes⟩
  | _ => exact Iff.rfl

end Comparison

/-! ## Runs -/

structure Counted (rates : RateLimiting.RateLimits) (others : OtherLimits) (front : Front) : Prop where
  counting : front.limiter.Counting (loginLimits rates others)
  verified : rates.enabled = true → 0 < rates.loginEmail → ∀ email start,
    verifiedIn front.limiter.store.backend front.verified email start ≤
      FixedWindow.allowedIn ((loginLimits rates others).policy front.limiter.store.backend) front.limiter.hits
        ("login:email:" ++ email) start

section Runs

variable {rates : RateLimiting.RateLimits} {others : OtherLimits} {front : Front}

theorem verifiedIn_append (backend : RateLimiting.Backend) (verified : List (String × ℚ)) (entry : String × ℚ) (email : String)
    (start : ℚ) : verifiedIn backend (verified ++ [entry]) email start = verifiedIn backend verified email start +
      if entry.1 = email ∧ start ≤ entry.2 ∧ backend.covers 60 start entry.2 = true then 1 else 0 := by
  simp [verifiedIn, List.countP_append, List.countP_cons, and_assoc]

theorem enforceLogin_email (others : OtherLimits) (limiter : RateLimiting.Limiter) (email ip : String)
    (times : Nat → ℚ × ℚ)
    (on : rates.enabled = true) (limited : 0 < rates.loginEmail) :
    ∃ opens allowed rest, (enforceLogin rates others limiter email ip times).2.hits =
        limiter.hits ++ [⟨"login:email:" ++ email, max limiter.clock (times 0).1, opens, allowed⟩] ++ rest ∧
      ((enforceLogin rates others limiter email ip times).1 = true → allowed = true) := by
  have off : (!rates.enabled) = false := by rw [on]; rfl
  simp only [enforceLogin, off, Bool.false_eq_true, if_false, loginChecks]
  exact RateLimiting.Limiter.enforceChecks_first (by rw [limit_email]; exact limited) _

theorem enforceLogin_backend (others : OtherLimits) (limiter : RateLimiting.Limiter) (email ip : String)
    (times : Nat → ℚ × ℚ) : (enforceLogin rates others limiter email ip times).2.store.backend = limiter.store.backend := by
  unfold enforceLogin
  split
  · rfl
  · exact RateLimiting.Limiter.backend_enforceChecks ..

theorem allowedIn_email (backend : RateLimiting.Backend) (hits : List (FixedWindow.Hit String ℚ)) (email other : String)
    (time start : ℚ) (opens : Bool) :
    FixedWindow.allowedIn ((loginLimits rates others).policy backend)
        (hits ++ [⟨"login:email:" ++ email, time, opens, true⟩]) ("login:email:" ++ other) start =
      FixedWindow.allowedIn ((loginLimits rates others).policy backend) hits ("login:email:" ++ other) start +
        if email = other ∧ start ≤ time ∧ backend.covers 60 start time = true then 1 else 0 := by
  have same : "login:email:" ++ email = "login:email:" ++ other ↔ email = other := by
    constructor
    · intro keys
      have texts := congrArg String.toList keys
      rw [String.toList_append, String.toList_append, List.append_cancel_left_eq] at texts
      exact String.toList_inj.mp texts
    · rintro rfl
      rfl
  rw [FixedWindow.allowedIn_append]
  simp only [same, true_and, RateLimiting.Limits.policy, window_email]

theorem Counted.passwordLogin (counted : Counted rates others front) {attempt : Attempt}
    (room : Roomy rates others front (.passwordLogin attempt)) :
    Counted rates others (front.step rates others (.passwordLogin attempt)) := by
  simp only [Front.step]
  cases valid : attempt.env.emailStr attempt.email with
  | none => exact counted
  | some address =>
    dsimp only
    constructor
    · cases on : rates.enabled with
      | false => simpa [enforceLogin, on] using counted.counting
      | true => simpa [enforceLogin, on] using counted.counting.enforceChecks (room on address valid)
    · intro on limited other start
      obtain ⟨opens, allowed, rest, hits, passes⟩ := enforceLogin_email others front.limiter
        (normEmail attempt.env address) attempt.ip attempt.times on limited
      rw [hits, enforceLogin_backend]
      have before := counted.verified on limited other start
      split
      · rename_i verified
        rw [Bool.and_eq_true] at verified
        rw [passes verified.1]
        refine le_trans ?_ (RateLimiting.Limiter.allowedIn_mono _ _ rest _ start)
        rw [allowedIn_email, verifiedIn_append]
        exact Nat.add_le_add_right before _
      · rw [List.append_assoc]
        exact before.trans (RateLimiting.Limiter.allowedIn_mono _ _ _ _ start)

theorem Counted.step (counted : Counted rates others front) {event : LoginEvent} (safe : SafeLogin rates front event)
    (room : Roomy rates others front event) : Counted rates others (front.step rates others event) := by
  cases event with
  | passwordLogin attempt => exact counted.passwordLogin room
  | oauthLogin attempt =>
    refine ⟨counted.counting, fun on limited => ?_⟩
    -- A limit is on, so the login is out of service and verifies nothing.
    have out_of_service : providerReady attempt.env front.vault = false := by
      by_contra ready
      rcases (safe (by simpa using ready)).1 with off | free
      · simp [off] at on
      · omega
    simpa [Front.step, out_of_service] using counted.verified on limited
  | elsewhere vault => exact ⟨counted.counting, counted.verified⟩
  | hit check =>
    refine ⟨counted.counting.hit room.1, fun on limited email start => ?_⟩
    obtain ⟨added, same, _⟩ := RateLimiting.Limiter.hit_hits (loginLimits rates others) front.limiter check
    rw [Front.step, same, RateLimiting.Limiter.backend_hit]
    exact (counted.verified on limited email start).trans (RateLimiting.Limiter.allowedIn_mono _ _ _ _ start)
  | purge now =>
    refine ⟨counted.counting.purge now, ?_⟩
    simpa [Front.step, RateLimiting.Limiter.purge] using counted.verified

theorem Counted.bounded (counted : Counted rates others front) : VerificationsBounded rates front := by
  intro on limited email first inside same opens
  have allowed := counted.counting.kept.bounded first inside opens
  have at_most := counted.verified on limited email first.time
  rw [same] at allowed
  have limit : ((loginLimits rates others).policy front.limiter.store.backend).limit ("login:email:" ++ email) =
      rates.loginEmail.toNat := by
    show ((loginLimits rates others).limit ("login:email:" ++ email)).toNat = rates.loginEmail.toNat
    rw [limit_email]
  omega

end Runs

/-- A server whose limiter has seen no hit. -/
def Front.fresh (vault : Vault) (shared : Bool) : Front :=
  ⟨vault, .fresh (if shared then .valkey ∅ else .memory ⟨∅, 0⟩), []⟩

theorem Counted.fresh (rates : RateLimiting.RateLimits) (others : OtherLimits) (vault : Vault) (shared : Bool) :
    Counted rates others (.fresh vault shared) := by
  refine ⟨⟨?_, FixedWindow.kept_empty 0⟩, fun _ _ email start => Nat.zero_le _⟩
  cases shared with
  | false => exact (RateLimiting.InStep.fresh 0).memory
  | true => exact (RateLimiting.InStep.fresh 0).valkey

/-- The OAuth login is no weaker than the password login at exactly the attempts that are safe; where
all are, and the store has room, no address has more passwords verified in a window than its limit. -/
theorem oauth_login_no_weaker (rates : RateLimiting.RateLimits) (others : OtherLimits) (vault : Vault) (shared : Bool)
    (events : List LoginEvent) :
    (Along (Front.step rates others) (NoWeaker rates others) (.fresh vault shared) events ↔
      Along (Front.step rates others) (SafeLogin rates) (.fresh vault shared) events) ∧
    (Along (Front.step rates others) (fun front event => SafeLogin rates front event ∧ Roomy rates others front event)
        (.fresh vault shared) events →
      Always (Front.step rates others) (VerificationsBounded rates) (.fresh vault shared) events) := by
  constructor
  · exact along_congr (A := fun _ => True) (fun _ _ _ => trivial) (fun front event _ => noWeaker_iff front event) trivial
  · intro along done rest same
    have counted := always_of_along
      (fun front event counted (good : SafeLogin rates front event ∧ Roomy rates others front event) =>
        Counted.step counted good.1 good.2) (Counted.fresh rates others vault shared) along
    exact (counted done rest same).bounded

def totpVault : Vault :=
  { sampleVault with users := Table.put ∅ 3 { sampleUser with totpSecret := some "123456", totpEnabledAt := some 0 } }

def minuteRates : RateLimiting.RateLimits := RateLimiting.limitsFromRow (RateLimiting.turnOn RateLimiting.openRow)

def guess (password : String) : Attempt := ⟨samplePlatform, "user@example.org", password, "ip", fun _ => (0, 0), sampleFresh⟩

/-- The OAuth login lets the user in without the second factor, and verifies six more passwords
within the minute that a password login has opened. -/
theorem oauth_login_weaker :
    (∃ all, oauthLogin samplePlatform totpVault "user@example.org" "hash" sampleFresh = .ok (.session 3, all)) ∧
    ¬NoWeaker minuteRates ⟨fun _ => 0, fun _ => false⟩ (.fresh totpVault false) (.oauthLogin (guess "hash")) ∧
    ¬VerificationsBounded minuteRates (run (Front.step minuteRates ⟨fun _ => 0, fun _ => false⟩) (.fresh totpVault false)
      (.passwordLogin (guess "0") :: List.replicate 6 (.oauthLogin (guess "1")))) := by
  have let_in : ∃ all, oauthLogin samplePlatform totpVault "user@example.org" "hash" sampleFresh = .ok (.session 3, all) :=
    ⟨_, rfl⟩
  refine ⟨let_in, fun no_weaker => ?_, fun bounded => ?_⟩
  · obtain ⟨all, goes⟩ := let_in
    obtain ⟨all', same⟩ := (no_weaker (by decide +kernel)).1 3 all goes
    have challenges : (passwordOutcome minuteRates ⟨fun _ => 0, fun _ => false⟩ (.fresh totpVault false) (guess "hash")).map
        Prod.fst = .ok (.challenge 3) := by
      rfl
    rw [same] at challenges
    cases challenges
  · have opened : (⟨"login:email:user@example.org", 0, true, true⟩ : FixedWindow.Hit String ℚ) ∈
        (run (Front.step minuteRates ⟨fun _ => 0, fun _ => false⟩) (.fresh totpVault false)
          (.passwordLogin (guess "0") :: List.replicate 6 (.oauthLogin (guess "1")))).limiter.hits := by
      exact List.mem_cons_self
    have at_most := bounded rfl (by decide) "user@example.org" _ opened rfl rfl
    have seven : verifiedIn
        (run (Front.step minuteRates ⟨fun _ => 0, fun _ => false⟩) (.fresh totpVault false)
          (.passwordLogin (guess "0") :: List.replicate 6 (.oauthLogin (guess "1")))).limiter.store.backend
        (run (Front.step minuteRates ⟨fun _ => 0, fun _ => false⟩) (.fresh totpVault false)
          (.passwordLogin (guess "0") :: List.replicate 6 (.oauthLogin (guess "1")))).verified "user@example.org" 0 = 7 := by
      decide +kernel
    rw [seven] at at_most
    exact absurd at_most (by decide)

end IdigestHub.Auth
