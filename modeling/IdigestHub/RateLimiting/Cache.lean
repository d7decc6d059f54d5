import IdigestHub.Foundation.Runs
import Mathlib.Logic.Function.Basic

/-! The cache of the rate limits: one per process, validated by a stamp, filled by the
requests and invalidated by the settings endpoint. -/

set_option autoImplicit false

namespace IdigestHub.RateLimiting

open Foundation.Runs

structure InstanceSettings where
  rateLimitEnabled : Bool
  rateLimitLoginEmail : Int
  rateLimitLoginIp : Int
  rateLimitLoginGlobal : Int
  rateLimitSignupEmail : Int
  rateLimitSignupIp : Int
  rateLimitSignupGlobal : Int
  rateLimitResetEmail : Int
  rateLimitResetIp : Int
  rateLimitResetGlobal : Int
  rateLimitResetConfirmIp : Int
  rateLimitResetConfirmGlobal : Int
  rateLimitSetupIp : Int
  rateLimitSetupGlobal : Int
  rateLimitApiUser : Int
  rateLimitApiIp : Int
  rateLimitApiGlobal : Int
  rateLimitApiTasksUser : Int
  rateLimitApiTasksIp : Int
  rateLimitMcpPollUser : Int
  rateLimitOauthRegisterIp : Int
  rateLimitOauthRegisterGlobal : Int
  rateLimitOauthTokenIp : Int
  rateLimitOauthTokenGlobal : Int
  rateLimitPublicLinkIp : Int
  rateLimitPublicLinkGlobal : Int
  rateLimitPublicPinIp : Int
  deriving DecidableEq

structure RateLimits where
  enabled : Bool
  loginEmail : Int
  loginIp : Int
  loginGlobal : Int
  signupEmail : Int
  signupIp : Int
  signupGlobal : Int
  resetEmail : Int
  resetIp : Int
  resetGlobal : Int
  resetConfirmIp : Int
  resetConfirmGlobal : Int
  setupIp : Int
  setupGlobal : Int
  apiUser : Int
  apiIp : Int
  apiGlobal : Int
  apiTasksUser : Int
  apiTasksIp : Int
  mcpPollUser : Int
  oauthRegisterIp : Int
  oauthRegisterGlobal : Int
  oauthTokenIp : Int
  oauthTokenGlobal : Int
  publicLinkIp : Int
  publicLinkGlobal : Int
  publicPinIp : Int
  deriving DecidableEq

def limitsFromRow (row : InstanceSettings) : RateLimits where
  enabled := row.rateLimitEnabled
  loginEmail := row.rateLimitLoginEmail
  loginIp := row.rateLimitLoginIp
  loginGlobal := row.rateLimitLoginGlobal
  signupEmail := row.rateLimitSignupEmail
  signupIp := row.rateLimitSignupIp
  signupGlobal := row.rateLimitSignupGlobal
  resetEmail := row.rateLimitResetEmail
  resetIp := row.rateLimitResetIp
  resetGlobal := row.rateLimitResetGlobal
  resetConfirmIp := row.rateLimitResetConfirmIp
  resetConfirmGlobal := row.rateLimitResetConfirmGlobal
  setupIp := row.rateLimitSetupIp
  setupGlobal := row.rateLimitSetupGlobal
  apiUser := row.rateLimitApiUser
  apiIp := row.rateLimitApiIp
  apiGlobal := row.rateLimitApiGlobal
  apiTasksUser := row.rateLimitApiTasksUser
  apiTasksIp := row.rateLimitApiTasksIp
  mcpPollUser := row.rateLimitMcpPollUser
  oauthRegisterIp := row.rateLimitOauthRegisterIp
  oauthRegisterGlobal := row.rateLimitOauthRegisterGlobal
  oauthTokenIp := row.rateLimitOauthTokenIp
  oauthTokenGlobal := row.rateLimitOauthTokenGlobal
  publicLinkIp := row.rateLimitPublicLinkIp
  publicLinkGlobal := row.rateLimitPublicLinkGlobal
  publicPinIp := row.rateLimitPublicPinIp

/-- Where a `get_rate_limits` is. `since` is the number of settings that had been replaced when it started. -/
inductive Call where
  | idle
  | started (since : Nat)
  | hit (since : Nat)
  | missed (since : Nat)
  | read (since : Nat) (row : InstanceSettings)
  | stored (since : Nat)
  | stamped (since : Nat)

structure Server where
  row : InstanceSettings
  /-- The limits of the rows that were committed before this one, the first one first. -/
  past : List RateLimits
  stamp : Nat
  cacheStamp : Nat
  cachedLimits : Option RateLimits
  calls : Nat → Call
  /-- The settings row that the session of a request holds. -/
  sessions : Nat → Option InstanceSettings
  /-- What the settings transactions that have not ended will write. -/
  patches : Nat → Option (InstanceSettings → InstanceSettings)
  returned : List (Nat × RateLimits)

inductive Step where
  | load (request : Nat)
  | forget (request : Nat)
  | start (request : Nat)
  | check (request : Nat)
  | read (request : Nat)
  | store (request : Nat)
  | stamp (request : Nat)
  | ret (request : Nat)
  | bump (patch : Nat) (change : InstanceSettings → InstanceSettings)
  | commit (patch : Nat)
  | rollback (patch : Nat)

namespace Server

def fresh (row : InstanceSettings) : Server where
  row := row
  past := []
  stamp := 0
  cacheStamp := 0
  cachedLimits := none
  calls _ := .idle
  sessions _ := none
  patches _ := none
  returned := []

def limits (server : Server) : RateLimits := limitsFromRow server.row

/-- `_cached_limits is not None and _cache_stamp == _stamp`. -/
def cacheValid (server : Server) : Bool := server.cachedLimits.isSome && server.cacheStamp == server.stamp

def at_ (server : Server) (request : Nat) (call : Call) : Server :=
  { server with calls := Function.update server.calls request call }

/-- The session of a request reads the row once, as long as the row stays referenced. -/
def sessionRow (server : Server) (request : Nat) : InstanceSettings := (server.sessions request).getD server.row

def returns (server : Server) (request since : Nat) : Server :=
  match server.cachedLimits with
  | none => server.at_ request .idle
  | some limits => { server.at_ request .idle with returned := server.returned ++ [(since, limits)] }

def commits (server : Server) (patch : Nat) (change : InstanceSettings → InstanceSettings) : Server :=
  { server with
    row := change server.row
    past := server.past ++ [server.limits]
    patches := Function.update server.patches patch none }

/-- A statement of `get_rate_limits`, or one of `patch_settings` and what ends its transaction. -/
def step (server : Server) : Step → Server
  | .load request =>
    { server with sessions := Function.update server.sessions request (some (server.sessionRow request)) }
  | .forget request => { server with sessions := Function.update server.sessions request none }
  | .start request =>
    match server.calls request with
    | .idle => server.at_ request (.started server.past.length)
    | _ => server
  | .check request =>
    match server.calls request with
    | .started since => server.at_ request (if server.cacheValid then .hit since else .missed since)
    | _ => server
  | .read request =>
    match server.calls request with
    | .missed since => server.at_ request (.read since (server.sessionRow request))
    | _ => server
  | .store request =>
    match server.calls request with
    | .read since row => { server.at_ request (.stored since) with cachedLimits := some (limitsFromRow row) }
    | _ => server
  | .stamp request =>
    match server.calls request with
    | .stored since => { server.at_ request (.stamped since) with cacheStamp := server.stamp }
    | _ => server
  | .ret request =>
    match server.calls request with
    | .hit since | .stamped since => server.returns request since
    | _ => server
  | .bump patch change =>
    { server with
      stamp := server.stamp + 1
      patches := Function.update server.patches patch (some change) }
  | .commit patch =>
    match server.patches patch with
    | none => server
    | some change => server.commits patch change
  | .rollback patch => { server with patches := Function.update server.patches patch none }

/-- The limits of the row that was committed at that time, or of a later one. -/
def Current (server : Server) (since : Nat) (limits : RateLimits) : Prop :=
  limits ∈ (server.past ++ [server.limits]).drop since

/-- No call has returned limits that were replaced before it started. -/
def NoStale (server : Server) : Prop := ∀ since limits, (since, limits) ∈ server.returned → server.Current since limits

/-- The cache and the settings do not pass each other: a row is cached, and a cached one
is stamped, only while its limits are the committed ones; and a commit that changes the
limits does not find its bump already used up by a call. -/
def Settled (server : Server) : Step → Prop
  | .store request => ∀ since row, server.calls request = .read since row → limitsFromRow row = server.limits
  | .stamp request => ∀ since, server.calls request = .stored since → server.cachedLimits = some server.limits
  | .commit patch => ∀ change, server.patches patch = some change → server.cacheValid = true →
      server.cachedLimits = some (limitsFromRow (change server.row))
  | _ => True

end Server

def Call.Holds (server : Server) : Call → Prop
  | .idle => True
  | .started since | .missed since | .read since _ => since ≤ server.past.length
  | .hit since | .stored since | .stamped since =>
    since ≤ server.past.length ∧ ∃ limits, server.cachedLimits = some limits ∧ server.Current since limits

structure Sound (server : Server) : Prop where
  valid : server.cacheValid = true → server.cachedLimits = some server.limits
  stamps : server.cacheStamp ≤ server.stamp
  calls : ∀ request, (server.calls request).Holds server
  returned : server.NoStale

section Steps

variable {server : Server}

theorem current_of_le {since : Nat} (le : since ≤ server.past.length) : server.Current since server.limits := by
  rw [Server.Current, List.drop_append_of_le_length le]
  exact List.mem_append_right _ (List.mem_singleton.mpr rfl)

theorem Current.commits {since : Nat} {limits : RateLimits} (current : server.Current since limits) (patch : Nat)
    (change : InstanceSettings → InstanceSettings) : (server.commits patch change).Current since limits := by
  rw [Server.Current, Server.commits, List.drop_append]
  exact List.mem_append_left _ current

/-- A call that waits to return reads the cached limits again: they are still current. -/
theorem Call.Holds.cached {call : Call} (holds : call.Holds server) (after : Server)
    (past : after.past = server.past) (row : after.row = server.row)
    (cached : after.cachedLimits = server.cachedLimits ∨ after.cachedLimits = some server.limits) :
    call.Holds after := by
  have limits : after.limits = server.limits := congrArg limitsFromRow row
  have keeps {since : Nat} (le : since ≤ server.past.length) (waits : ∃ limits, server.cachedLimits = some limits ∧
      server.Current since limits) : since ≤ after.past.length ∧ ∃ limits, after.cachedLimits = some limits ∧
      after.Current since limits := by
    rw [past]
    refine ⟨le, ?_⟩
    simp only [Server.Current, past, limits]
    rcases cached with same | fresh
    · rw [same]
      exact waits
    · exact ⟨server.limits, fresh, current_of_le le⟩
  cases call with
  | idle => trivial
  | started since => simpa [Call.Holds, past] using holds
  | missed since => simpa [Call.Holds, past] using holds
  | read since row => simpa [Call.Holds, past] using holds
  | hit since => exact keeps holds.1 holds.2
  | stored since => exact keeps holds.1 holds.2
  | stamped since => exact keeps holds.1 holds.2

/-- A step that touches neither the cache nor the settings moves one call. -/
theorem Sound.moved (sound : Sound server) {request : Nat} {call : Call} (holds : call.Holds server) :
    Sound (server.at_ request call) where
  valid := sound.valid
  stamps := sound.stamps
  calls other := by
    by_cases same : other = request
    · subst same
      simp only [Server.at_, Function.update_self]
      exact holds.cached _ rfl rfl (.inl rfl)
    · simp only [Server.at_, Function.update_of_ne same]
      exact (sound.calls other).cached _ rfl rfl (.inl rfl)
  returned := sound.returned

theorem Sound.returns (sound : Sound server) {request since : Nat} {limits : RateLimits}
    (cached : server.cachedLimits = some limits) (current : server.Current since limits) :
    Sound (server.returns request since) := by
  have moved : Sound (server.at_ request .idle) := sound.moved trivial
  rw [Server.returns, cached]
  refine ⟨moved.valid, moved.stamps, moved.calls, fun since' limits' member => ?_⟩
  rcases List.mem_append.mp member with before | now
  · exact sound.returned since' limits' before
  · obtain ⟨rfl, rfl⟩ := Prod.mk.inj (List.mem_singleton.mp now)
    exact current

theorem Call.Holds.commits {call : Call} (holds : call.Holds server) (patch : Nat)
    (change : InstanceSettings → InstanceSettings) : call.Holds (server.commits patch change) := by
  have longer {since : Nat} (le : since ≤ server.past.length) : since ≤ (server.commits patch change).past.length := by
    simpa [Server.commits] using Nat.le_succ_of_le le
  have keeps {since : Nat} (waits : since ≤ server.past.length ∧ ∃ limits, server.cachedLimits = some limits ∧
      server.Current since limits) : since ≤ (server.commits patch change).past.length ∧
      ∃ limits, (server.commits patch change).cachedLimits = some limits ∧
        (server.commits patch change).Current since limits := by
    obtain ⟨le, limits, cached, current⟩ := waits
    exact ⟨longer le, limits, cached, Current.commits current patch change⟩
  cases call with
  | idle => trivial
  | started since => exact longer holds
  | missed since => exact longer holds
  | read since row => exact longer holds
  | hit since => exact keeps holds
  | stored since => exact keeps holds
  | stamped since => exact keeps holds

theorem Sound.check (sound : Sound server) {request since : Nat} (started : server.calls request = .started since) :
    Sound (server.at_ request (if server.cacheValid then .hit since else .missed since)) := by
  have le : since ≤ server.past.length := by simpa [started, Call.Holds] using sound.calls request
  refine sound.moved ?_
  split
  · rename_i valid
    exact ⟨le, server.limits, sound.valid valid, current_of_le le⟩
  · exact le

theorem Sound.store (sound : Sound server) {request since : Nat} {row : InstanceSettings}
    (read : server.calls request = .read since row) (fresh : limitsFromRow row = server.limits) :
    Sound { server.at_ request (.stored since) with cachedLimits := some (limitsFromRow row) } := by
  have le : since ≤ server.past.length := by simpa [read, Call.Holds] using sound.calls request
  rw [fresh]
  refine ⟨fun _ => rfl, sound.stamps, fun other => ?_, sound.returned⟩
  by_cases same : other = request
  · subst same
    simp only [Server.at_, Function.update_self]
    exact ⟨le, server.limits, rfl, current_of_le le⟩
  · simp only [Server.at_, Function.update_of_ne same]
    exact (sound.calls other).cached _ rfl rfl (.inr rfl)

theorem Sound.stamp (sound : Sound server) {request since : Nat} (stored : server.calls request = .stored since)
    (fresh : server.cachedLimits = some server.limits) :
    Sound { server.at_ request (.stamped since) with cacheStamp := server.stamp } := by
  have waits : Call.Holds server (.stamped since) := by simpa [stored, Call.Holds] using sound.calls request
  refine ⟨fun _ => fresh, (Nat.le_refl _), fun other => ?_, sound.returned⟩
  by_cases same : other = request
  · subst same
    simp only [Server.at_, Function.update_self]
    exact waits.cached _ rfl rfl (.inl rfl)
  · simp only [Server.at_, Function.update_of_ne same]
    exact (sound.calls other).cached _ rfl rfl (.inl rfl)

theorem Sound.bump (sound : Sound server) (patch : Nat) (change : InstanceSettings → InstanceSettings) :
    Sound (server.step (.bump patch change)) := by
  refine ⟨fun valid => ?_, Nat.le_succ_of_le sound.stamps, fun other => ?_, sound.returned⟩
  · have same : server.cacheStamp = server.stamp + 1 := by
      simpa [Server.cacheValid, Server.step] using (Bool.and_eq_true_iff.mp valid).2
    have := sound.stamps
    omega
  · exact (sound.calls other).cached _ rfl rfl (.inl rfl)

theorem Sound.commits (sound : Sound server) {patch : Nat} {change : InstanceSettings → InstanceSettings}
    (settled : server.cacheValid = true → server.cachedLimits = some (limitsFromRow (change server.row))) :
    Sound (server.commits patch change) :=
  ⟨settled, sound.stamps, fun other => (sound.calls other).commits patch change,
    fun since limits member => Current.commits (sound.returned since limits member) patch change⟩

theorem Sound.step (sound : Sound server) {step : Step} (settled : server.Settled step) : Sound (server.step step) := by
  cases step with
  | load request => exact ⟨sound.valid, sound.stamps, sound.calls, sound.returned⟩
  | forget request => exact ⟨sound.valid, sound.stamps, sound.calls, sound.returned⟩
  | start request =>
    rw [Server.step]
    split
    · exact sound.moved (Nat.le_refl _)
    · exact sound
  | check request =>
    rw [Server.step]
    split
    · exact sound.check ‹_›
    · exact sound
  | read request =>
    rw [Server.step]
    split
    · rename_i since missed
      refine sound.moved ?_
      simpa [missed, Call.Holds] using sound.calls request
    · exact sound
  -- a write of the cache is sound when what was read is still in force
  | store request =>
    rw [Server.step]
    split
    · rename_i since row read
      exact sound.store read (settled since row read)
    · exact sound
  | stamp request =>
    rw [Server.step]
    split
    · rename_i since stored
      exact sound.stamp stored (settled since stored)
    · exact sound
  | ret request =>
    have waits := sound.calls request
    rw [Server.step]
    split
    · rename_i since hit
      rw [hit] at waits
      obtain ⟨_, limits, cached, current⟩ := waits
      exact sound.returns cached current
    · rename_i since stamped
      rw [stamped] at waits
      obtain ⟨_, limits, cached, current⟩ := waits
      exact sound.returns cached current
    · exact sound
  | bump patch change => exact sound.bump patch change
  | commit patch =>
    rw [Server.step]
    split
    · exact sound
    · rename_i change patched
      exact sound.commits (settled change patched)
  -- nothing of a patch is seen before its commit
  | rollback patch => exact ⟨sound.valid, sound.stamps, sound.calls, sound.returned⟩

end Steps

/-- In a run in which the cache and the settings do not pass each other, no call returns
limits that were replaced before it started. -/
theorem no_stale_limits (row : InstanceSettings) {steps : List Step}
    (settled : Along Server.step Server.Settled (.fresh row) steps) :
    Always Server.step Server.NoStale (.fresh row) steps := by
  have start : Sound (.fresh row) :=
    ⟨by simp [Server.cacheValid, Server.fresh], (Nat.le_refl _), fun _ => trivial, by simp [Server.NoStale, Server.fresh]⟩
  have sound : Always Server.step Sound (.fresh row) steps :=
    always_of_along (fun _ _ now good => now.step good) start settled
  exact fun done rest same => (sound done rest same).returned

section Samples

def openRow : InstanceSettings :=
  ⟨false, 5, 20, 0, 5, 20, 0, 5, 20, 0, 20, 0, 20, 0, 60, 120, 0, 30, 60, 120, 20, 0, 60, 0, 60, 0, 10⟩

def turnOn (row : InstanceSettings) : InstanceSettings := { row with rateLimitEnabled := true }

def fullCall (request : Nat) : List Step :=
  [.start request, .check request, .read request, .store request, .stamp request, .ret request]

theorem no_stale_limits_after_patch :
    Always Server.step Server.NoStale (.fresh openRow)
      (fullCall 1 ++ [.bump 7 turnOn, .commit 7] ++ fullCall 2 ++ [.start 3, .check 3, .ret 3]) := by
  refine no_stale_limits openRow ⟨trivial, trivial, trivial, ?_, ?_, trivial, trivial, ?_, trivial, trivial,
    trivial, ?_, ?_, trivial, trivial, trivial, trivial, trivial⟩
  · intro since row read
    obtain ⟨-, rfl⟩ := Call.read.inj (show .read 0 openRow = Call.read since row from read)
    rfl
  · exact fun _ _ => rfl
  · intro change patched valid
    exact absurd valid (by decide)
  · intro since row read
    obtain ⟨-, rfl⟩ := Call.read.inj (show .read 1 (turnOn openRow) = Call.read since row from read)
    rfl
  · exact fun _ _ => rfl

/-- Between the bump and the commit another request caches the old row under the new
stamp: a call that starts after the commit returns the replaced limits. -/
theorem stale_limits_returned :
    let server := run Server.step (.fresh openRow)
      ([.bump 7 turnOn] ++ fullCall 1 ++ [.commit 7, .start 2, .check 2, .ret 2])
    server.limits.enabled = true ∧ server.returned.map (fun entry => (entry.1, entry.2.enabled)) = [(0, false), (1, false)] ∧
    ¬server.NoStale := by
  intro server
  refine ⟨by decide, by decide, fun fresh => ?_⟩
  have returned : (1, limitsFromRow openRow) ∈ server.returned := by decide
  have current : server.Current 1 (limitsFromRow openRow) := fresh 1 _ returned
  revert current
  unfold Server.Current
  decide

end Samples

end IdigestHub.RateLimiting
