import IdigestHub.Auth.Logins

/-! The rate limits of uploads and of task creation, over the REST endpoints and the MCP tools. -/

set_option autoImplicit false

namespace IdigestHub.RateLimiting

open Foundation Foundation.Runs
open Auth (OtherLimits under)

/-- An entry of the list that `enforce_checks` gets. -/
structure LimitCheck where
  key : String
  limit : Int
  window : ℚ

def windowMin : ℚ := 60

def mcpUploadTools : List String := ["create_audio_upload"]

def mcpTaskTools : List String := ["create_audio_import", "create_summary", "create_transcribe", "stop_capture_task"]

def mcpPollTools : List String := ["get_task"]

/-- The endpoints that ask `enforce_write_limits`, all with `POST`. -/
inductive Endpoint where
  | audios | transcribe | summarize | import_ | capture
  deriving DecidableEq

def Endpoint.path : Endpoint → String
  | .audios => "/api/v1/audios"
  | .transcribe => "/api/v1/tasks/transcribe"
  | .summarize => "/api/v1/tasks/summarize"
  | .import_ => "/api/v1/tasks/import"
  | .capture => "/api/v1/tasks/capture"

inductive WriteCall where
  | rest (endpoint : Endpoint)
  | tool (name : String)
  deriving DecidableEq

/-- A request with the address that it comes from, the clock at each check, and whether its handler completes once the limits let
it pass. -/
structure WriteRequest where
  userId : String
  call : WriteCall
  ip : String
  times : Nat → ℚ × ℚ
  completes : Bool

section Checks

variable (rates : RateLimits)

def uploadChecks (userId ip : String) : List LimitCheck :=
  [⟨"write:upload:user:" ++ userId, rates.apiTasksUser, windowMin⟩, ⟨"write:upload:ip:" ++ ip, rates.apiTasksIp, windowMin⟩]

def taskChecks (userId ip : String) : List LimitCheck :=
  [⟨"api:tasks:user:" ++ userId, rates.apiTasksUser, windowMin⟩, ⟨"api:tasks:ip:" ++ ip, rates.apiTasksIp, windowMin⟩]

/-- The checks of `enforce_mcp_tool`. -/
def mcpToolChecks (tool userId ip : String) : List LimitCheck :=
  if tool ∈ mcpPollTools then [⟨"mcp:poll:user:" ++ userId, rates.mcpPollUser, windowMin⟩]
  else if tool ∈ mcpUploadTools then uploadChecks rates userId ip
  else if tool ∈ mcpTaskTools then taskChecks rates userId ip
  else []

/-- The checks of `enforce_write_limits`. -/
def writeChecks (method : Auth.Method) (path userId ip : String) : List LimitCheck :=
  if method ≠ .post then []
  else
    let path := Auth.normalPath path.toList
    if "/audios".toList.isSuffixOf path then uploadChecks rates userId ip
    else if "/tasks/transcribe".toList.isSuffixOf path || "/tasks/summarize".toList.isSuffixOf path then
      taskChecks rates userId ip
    else []

def WriteRequest.checks (request : WriteRequest) : List LimitCheck :=
  if !rates.enabled then []
  else
    match request.call with
    | .rest endpoint => writeChecks rates .post endpoint.path request.userId request.ip
    | .tool name => mcpToolChecks rates name request.userId request.ip

def timed (checks : List LimitCheck) (times : Nat → ℚ × ℚ) : List Check :=
  checks.zipIdx.map fun (check, i) => ⟨check.key, (times i).1, (times i).2⟩

def writeLimits (others : OtherLimits) : Limits where
  limit key :=
    if under "api:tasks:user:" key || under "write:upload:user:" key then rates.apiTasksUser
    else if under "api:tasks:ip:" key || under "write:upload:ip:" key then rates.apiTasksIp
    else if under "mcp:poll:user:" key then rates.mcpPollUser
    else others.limit key
  windowSec key :=
    if under "api:tasks:" key || under "write:upload:" key || under "mcp:poll:" key || !others.hourly key then windowMin else 3600

end Checks

def WriteRequest.createsTask (request : WriteRequest) : Bool :=
  match request.call with
  | .rest endpoint => endpoint != .audios
  | .tool name => name ∈ ["create_transcribe", "create_summary", "create_audio_import"]

def WriteRequest.uploads (request : WriteRequest) : Bool :=
  match request.call with
  | .rest endpoint => endpoint == .audios
  | .tool name => name == "create_audio_upload"

/-- The limiter, and the accepted requests with their times; the latter are kept for the statements only. -/
structure Desk where
  limiter : Limiter
  accepted : List (WriteRequest × ℚ)

inductive WriteEvent where
  | arrives (request : WriteRequest)
  /-- Another request hits a key. -/
  | hit (check : Check)
  | purge (now : ℚ)

section Steps

variable (rates : RateLimits) (others : OtherLimits)

def Desk.enforce (desk : Desk) (request : WriteRequest) : Bool × Limiter :=
  desk.limiter.enforceChecks (writeLimits rates others) (timed (request.checks rates) request.times)

def Desk.timeOf (desk : Desk) (request : WriteRequest) : ℚ := max desk.limiter.clock (request.times 0).1

def Desk.step (desk : Desk) : WriteEvent → Desk
  | .arrives request =>
    let (passes, limiter) := desk.enforce rates others request
    let accepted := if passes && request.completes then desk.accepted ++ [(request, desk.timeOf request)] else desk.accepted
    { limiter, accepted }
  | .hit check => { desk with limiter := (desk.limiter.hit (writeLimits rates others) check).2 }
  | .purge now => { desk with limiter := desk.limiter.purge now }

def acceptedIn (backend : Backend) (accepted : List (WriteRequest × ℚ)) (condition : WriteRequest → Bool) (userId : String)
    (start : ℚ) : Nat :=
  accepted.countP fun entry => condition entry.1 && entry.1.userId == userId && decide (start ≤ entry.2) &&
    backend.covers windowMin start entry.2

/-- No window of a user's tasks or uploads, from the hit that has opened it, has more of them than the limit. -/
def WithinBudget (desk : Desk) : Prop :=
  ∀ userId, ∀ first ∈ desk.limiter.hits, first.opens = true →
    (first.key = "api:tasks:user:" ++ userId →
      acceptedIn desk.limiter.store.backend desk.accepted WriteRequest.createsTask userId first.time ≤ rates.apiTasksUser.toNat) ∧
    (first.key = "write:upload:user:" ++ userId →
      acceptedIn desk.limiter.store.backend desk.accepted WriteRequest.uploads userId first.time ≤ rates.apiTasksUser.toNat)

def Desk.Roomy (desk : Desk) : WriteEvent → Prop
  | .arrives request => desk.limiter.Room (writeLimits rates others) (timed (request.checks rates) request.times)
  | .hit check => desk.limiter.Room (writeLimits rates others) [check]
  | .purge _ => True

instance Desk.Roomy.decidable (desk : Desk) : ∀ event, Decidable (desk.Roomy rates others event)
  | .arrives _ => Limiter.Room.decidable ..
  | .hit _ => Limiter.Room.decidable ..
  | .purge _ => .isTrue trivial

def WriteEvent.Charged : WriteEvent → Prop
  | .arrives request => request.completes = true → request.call ≠ .rest .import_ ∧ request.call ≠ .rest .capture
  | _ => True

end Steps

section Keys

variable {rates : RateLimits} {others : OtherLimits}

theorem limit_tasks (userId : String) : (writeLimits rates others).limit ("api:tasks:user:" ++ userId) = rates.apiTasksUser := by
  simp [writeLimits, Auth.under_append]

theorem limit_uploads (userId : String) : (writeLimits rates others).limit ("write:upload:user:" ++ userId) =
    rates.apiTasksUser := by
  simp [writeLimits, Auth.under_append]

theorem window_tasks (userId : String) : (writeLimits rates others).windowSec ("api:tasks:user:" ++ userId) = windowMin := by
  have counted : under "api:tasks:" ("api:tasks:user:" ++ userId) = true := Auth.under_longer (by decide) userId
  simp [writeLimits, counted]

theorem window_uploads (userId : String) : (writeLimits rates others).windowSec ("write:upload:user:" ++ userId) = windowMin := by
  have counted : under "write:upload:" ("write:upload:user:" ++ userId) = true := Auth.under_longer (by decide) userId
  simp [writeLimits, counted]

def Agrees (rates : RateLimits) (others : OtherLimits) (check : LimitCheck) : Prop :=
  (writeLimits rates others).limit check.key = check.limit ∧ (writeLimits rates others).windowSec check.key = check.window

theorem uploadChecks_agree (userId ip : String) : ∀ check ∈ uploadChecks rates userId ip, Agrees rates others check := by
  have no_task : under "api:tasks:user:" ("write:upload:ip:" ++ ip) = false := Auth.not_under (by decide) ip
  have no_user : under "write:upload:user:" ("write:upload:ip:" ++ ip) = false := Auth.not_under (by decide) ip
  have counted : under "write:upload:" ("write:upload:ip:" ++ ip) = true := Auth.under_longer (by decide) ip
  rintro check (_ | ⟨_, _ | ⟨_, ⟨⟩⟩⟩)
  · exact ⟨limit_uploads userId, window_uploads userId⟩
  · simp [Agrees, writeLimits, Auth.under_append, no_task, no_user, counted]

theorem taskChecks_agree (userId ip : String) : ∀ check ∈ taskChecks rates userId ip, Agrees rates others check := by
  have no_user : under "api:tasks:user:" ("api:tasks:ip:" ++ ip) = false := Auth.not_under (by decide) ip
  have no_upload : under "write:upload:user:" ("api:tasks:ip:" ++ ip) = false := Auth.not_under (by decide) ip
  have counted : under "api:tasks:" ("api:tasks:ip:" ++ ip) = true := Auth.under_longer (by decide) ip
  rintro check (_ | ⟨_, _ | ⟨_, ⟨⟩⟩⟩)
  · exact ⟨limit_tasks userId, window_tasks userId⟩
  · simp [Agrees, writeLimits, Auth.under_append, no_user, no_upload, counted]

theorem pollCheck_agrees (userId : String) : Agrees rates others ⟨"mcp:poll:user:" ++ userId, rates.mcpPollUser, windowMin⟩ := by
  have no_task : under "api:tasks:user:" ("mcp:poll:user:" ++ userId) = false := Auth.not_under (by decide) userId
  have no_upload : under "write:upload:user:" ("mcp:poll:user:" ++ userId) = false := Auth.not_under (by decide) userId
  have no_task_ip : under "api:tasks:ip:" ("mcp:poll:user:" ++ userId) = false := Auth.not_under (by decide) userId
  have no_upload_ip : under "write:upload:ip:" ("mcp:poll:user:" ++ userId) = false := Auth.not_under (by decide) userId
  have counted : under "mcp:poll:" ("mcp:poll:user:" ++ userId) = true := Auth.under_longer (by decide) userId
  simp [Agrees, writeLimits, Auth.under_append, no_task, no_upload, no_task_ip, no_upload_ip, counted]

theorem writeChecks_post (path userId ip : String) : writeChecks rates .post path userId ip =
    if "/audios".toList.isSuffixOf (Auth.normalPath path.toList) then uploadChecks rates userId ip
    else if "/tasks/transcribe".toList.isSuffixOf (Auth.normalPath path.toList) ||
      "/tasks/summarize".toList.isSuffixOf (Auth.normalPath path.toList) then taskChecks rates userId ip
    else [] :=
  if_neg (not_not_intro rfl)

theorem endpoint_checks (endpoint : Endpoint) (userId ip : String) : writeChecks rates .post endpoint.path userId ip =
    match endpoint with
    | .audios => uploadChecks rates userId ip
    | .transcribe | .summarize => taskChecks rates userId ip
    | .import_ | .capture => [] := by
  rw [writeChecks_post]
  cases endpoint with
  | audios => exact if_pos (by decide)
  | transcribe => exact (if_neg (by decide)).trans (if_pos (by decide))
  | summarize => exact (if_neg (by decide)).trans (if_pos (by decide))
  | import_ => exact (if_neg (by decide)).trans (if_neg (by decide))
  | capture => exact (if_neg (by decide)).trans (if_neg (by decide))

theorem WriteRequest.checks_on (on : rates.enabled = true) (request : WriteRequest) : request.checks rates =
    match request.call with
    | .rest endpoint => writeChecks rates .post endpoint.path request.userId request.ip
    | .tool name => mcpToolChecks rates name request.userId request.ip := by
  rw [WriteRequest.checks, on]
  exact if_neg Bool.false_ne_true

theorem checks_upload (on : rates.enabled = true) {request : WriteRequest} (uploads : request.uploads = true) :
    request.checks rates = uploadChecks rates request.userId request.ip := by
  rw [WriteRequest.checks_on on]
  rw [WriteRequest.uploads] at uploads
  split at uploads
  · obtain rfl := eq_of_beq uploads
    exact endpoint_checks ..
  · obtain rfl := eq_of_beq uploads
    exact (if_neg (by decide)).trans (if_pos (by decide))

theorem checks_task (on : rates.enabled = true) {request : WriteRequest} (creates : request.createsTask = true)
    (charged : request.call ≠ .rest .import_ ∧ request.call ≠ .rest .capture) :
    request.checks rates = taskChecks rates request.userId request.ip := by
  rw [WriteRequest.checks_on on]
  rw [WriteRequest.createsTask] at creates
  split at creates
  · rename_i endpoint call
    rw [call] at charged
    refine (endpoint_checks ..).trans ?_
    cases endpoint with
    | audios => cases creates
    | transcribe => rfl
    | summarize => rfl
    | import_ => exact absurd rfl charged.1
    | capture => exact absurd rfl charged.2
  · have named := of_decide_eq_true creates
    simp only [List.mem_cons, List.not_mem_nil, or_false] at named
    rcases named with rfl | rfl | rfl
    all_goals exact (if_neg (by decide)).trans ((if_neg (by decide)).trans (if_pos (by decide)))

/-- The limiter holds every check of a request to the limit and the window that the check passes. -/
theorem checks_agree (request : WriteRequest) : ∀ check ∈ request.checks rates, Agrees rates others check := by
  cases on : rates.enabled with
  | false => simp [WriteRequest.checks, on]
  | true =>
    rw [WriteRequest.checks_on on]
    cases request.call with
    | rest endpoint =>
      simp only [endpoint_checks]
      cases endpoint with
      | audios => exact uploadChecks_agree _ _
      | transcribe => exact taskChecks_agree _ _
      | summarize => exact taskChecks_agree _ _
      | import_ => exact fun _ member => (List.not_mem_nil member).elim
      | capture => exact fun _ member => (List.not_mem_nil member).elim
    | tool name =>
      intro check member
      simp only [mcpToolChecks] at member
      split at member
      · obtain rfl := List.mem_singleton.mp member
        exact pollCheck_agrees _
      · split at member
        · exact uploadChecks_agree _ _ check member
        · split at member
          · exact taskChecks_agree _ _ check member
          · exact (List.not_mem_nil member).elim

end Keys

section Metering

variable {rates : RateLimits} {others : OtherLimits} {desk : Desk}

/-- Of the accepted requests of a kind, each is an allowed hit of its user's key. -/
def Metered (rates : RateLimits) (others : OtherLimits) (condition : WriteRequest → Bool) (pre : String) (desk : Desk) : Prop :=
  ∀ userId start, acceptedIn desk.limiter.store.backend desk.accepted condition userId start ≤
    FixedWindow.allowedIn ((writeLimits rates others).policy desk.limiter.store.backend) desk.limiter.hits (pre ++ userId) start

theorem acceptedIn_append (backend : Backend) (accepted : List (WriteRequest × ℚ)) (entry : WriteRequest × ℚ)
    (condition : WriteRequest → Bool) (userId : String) (start : ℚ) :
    acceptedIn backend (accepted ++ [entry]) condition userId start = acceptedIn backend accepted condition userId start +
      if condition entry.1 = true ∧ entry.1.userId = userId ∧ start ≤ entry.2 ∧ backend.covers windowMin start entry.2 = true
      then 1 else 0 := by
  simp [acceptedIn, List.countP_append, List.countP_cons, and_assoc]

variable {condition : WriteRequest → Bool} {pre : String}

/-- Hits that come to the others leave the accepted requests where they are. -/
theorem Metered.more (metered : Metered rates others condition pre desk) {limiter : Limiter}
    {added : List (FixedWindow.Hit String ℚ)}
    (same : limiter.hits = desk.limiter.hits ++ added) (kind : limiter.store.backend = desk.limiter.store.backend) :
    Metered rates others condition pre { desk with limiter } := by
  intro userId start
  rw [same, kind]
  exact (metered userId start).trans (Limiter.allowedIn_mono ..)

theorem Metered.arrives (metered : Metered rates others condition pre desk) {request : WriteRequest}
    (limited : ∀ userId, 0 < (writeLimits rates others).limit (pre ++ userId))
    (window : ∀ userId, (writeLimits rates others).windowSec (pre ++ userId) = windowMin)
    (checked : request.completes = true → condition request = true →
      ∃ limit length rest, request.checks rates = ⟨pre ++ request.userId, limit, length⟩ :: rest) :
    Metered rates others condition pre (desk.step rates others (.arrives request)) := by
  simp only [Desk.step]
  obtain ⟨added, grown, _⟩ := Limiter.enforceChecks_hits (writeLimits rates others) desk.limiter
    (timed (request.checks rates) request.times)
  by_cases accepted : ((desk.enforce rates others request).1 && request.completes) = true
  · rw [if_pos accepted]
    obtain ⟨passes, completes⟩ := Bool.and_eq_true_iff.mp accepted
    intro userId start
    have kind : (desk.enforce rates others request).2.store.backend = desk.limiter.store.backend :=
      Limiter.backend_enforceChecks ..
    rw [acceptedIn_append, kind]
    have before := metered userId start
    by_cases its : condition request = true
    · obtain ⟨limit, length, rest, listed⟩ := checked completes its
      let first : Check := ⟨pre ++ request.userId, (request.times 0).1, (request.times 0).2⟩
      have checks : timed (request.checks rates) request.times =
          first :: (rest.zipIdx 1).map fun (check, i) => ⟨check.key, (request.times i).1, (request.times i).2⟩ := by
        rw [listed]
        rfl
      rw [Desk.enforce, checks] at passes ⊢
      obtain ⟨opens, allowed, later, hits, allows⟩ := @Limiter.enforceChecks_first (writeLimits rates others) desk.limiter first
        (limited request.userId) ((rest.zipIdx 1).map fun (check, i) => ⟨check.key, (request.times i).1, (request.times i).2⟩)
      rw [hits, allows passes]
      refine le_trans ?_ (Limiter.allowedIn_mono ..)
      rw [FixedWindow.allowedIn_append]
      refine Nat.add_le_add before ?_
      -- The hit counts for the key of the user whose request it is.
      split
      · rename_i counts
        obtain ⟨_, rfl, since, until_⟩ := counts
        rw [if_pos]
        refine ⟨rfl, rfl, since, ?_⟩
        rw [← window request.userId] at until_
        exact until_
      · exact Nat.zero_le _
    · rw [if_neg fun counts => its counts.1, Nat.add_zero, Desk.enforce, grown]
      exact before.trans (Limiter.allowedIn_mono ..)
  · rw [if_neg accepted]
    exact metered.more grown (Limiter.backend_enforceChecks ..)

structure Charging (rates : RateLimits) (others : OtherLimits) (desk : Desk) : Prop where
  counting : desk.limiter.Counting (writeLimits rates others)
  tasks : Metered rates others WriteRequest.createsTask "api:tasks:user:" desk
  uploads : Metered rates others WriteRequest.uploads "write:upload:user:" desk

theorem Charging.step (charging : Charging rates others desk) (on : rates.enabled = true) (limited : 0 < rates.apiTasksUser)
    {event : WriteEvent} (charged : event.Charged) (room : desk.Roomy rates others event) :
    Charging rates others (desk.step rates others event) := by
  cases event with
  | arrives request =>
    constructor
    · exact charging.counting.enforceChecks room
    · refine charging.tasks.arrives (fun userId => ?_) window_tasks fun completes creates => ?_
      · rw [limit_tasks]
        exact limited
      · rw [checks_task on creates (charged completes)]
        exact ⟨_, _, _, rfl⟩
    · refine charging.uploads.arrives (fun userId => ?_) window_uploads fun _ uploads => ?_
      · rw [limit_uploads]
        exact limited
      · rw [checks_upload on uploads]
        exact ⟨_, _, _, rfl⟩
  | hit check =>
    obtain ⟨added, same, _⟩ := Limiter.hit_hits (writeLimits rates others) desk.limiter check
    have kind := Limiter.backend_hit (writeLimits rates others) desk.limiter check
    exact ⟨charging.counting.hit room.1, charging.tasks.more same kind, charging.uploads.more same kind⟩
  | purge now =>
    have kind := RateLimitStore.purge_backend desk.limiter.store (max desk.limiter.clock now)
    have same : (desk.limiter.purge now).hits = desk.limiter.hits ++ [] := (List.append_nil _).symm
    exact ⟨charging.counting.purge now, charging.tasks.more same kind, charging.uploads.more same kind⟩

theorem Charging.within (charging : Charging rates others desk) : WithinBudget rates desk := by
  intro userId first member opens
  have bounded := charging.counting.kept.bounded first member opens
  constructor
  · intro same
    rw [same] at bounded
    have limit : ((writeLimits rates others).policy desk.limiter.store.backend).limit ("api:tasks:user:" ++ userId) =
        rates.apiTasksUser.toNat :=
      congrArg Int.toNat (limit_tasks userId)
    rw [limit] at bounded
    exact (charging.tasks userId first.time).trans bounded
  · intro same
    rw [same] at bounded
    have limit : ((writeLimits rates others).policy desk.limiter.store.backend).limit ("write:upload:user:" ++ userId) =
        rates.apiTasksUser.toNat :=
      congrArg Int.toNat (limit_uploads userId)
    rw [limit] at bounded
    exact (charging.uploads userId first.time).trans bounded

/-- A server whose limiter has seen no hit. -/
def Desk.fresh (shared : Bool) : Desk := ⟨.fresh (if shared then .valkey ∅ else .memory ⟨∅, 0⟩), []⟩

theorem Charging.fresh (rates : RateLimits) (others : OtherLimits) (shared : Bool) : Charging rates others (.fresh shared) := by
  refine ⟨⟨?_, FixedWindow.kept_empty 0⟩, fun _ _ => Nat.zero_le _, fun _ _ => Nat.zero_le _⟩
  cases shared with
  | false => exact (InStep.fresh 0).memory
  | true => exact (InStep.fresh 0).valkey

end Metering

/-- The tasks and the uploads of every user stay within the limit, through all front ends, in every run in which no import and no
capture is created over the REST API. -/
theorem tasks_within_budget (rates : RateLimits) (others : OtherLimits) (on : rates.enabled = true)
    (limited : 0 < rates.apiTasksUser)
    (shared : Bool) {events : List WriteEvent}
    (good : Along (Desk.step rates others) (fun desk event => event.Charged ∧ desk.Roomy rates others event)
      (.fresh shared) events) :
    Always (Desk.step rates others) (WithinBudget rates) (.fresh shared) events := by
  have charging := always_of_along (I := Charging rates others) (fun _ _ charging its => charging.step on limited its.1 its.2)
    (.fresh rates others shared) good
  exact fun done rest same => (charging done rest same).within

section Samples

def oneTask : RateLimits := { limitsFromRow (turnOn openRow) with apiTasksUser := 1 }

def noOthers : OtherLimits := ⟨fun _ => 0, fun _ => false⟩

def posted (endpoint : Endpoint) : WriteEvent := .arrives ⟨"u", .rest endpoint, "ip", fun _ => (0, 0), true⟩

theorem tasks_within_budget_one : Always (Desk.step oneTask noOthers) (WithinBudget oneTask) (.fresh false)
    [posted .transcribe, posted .summarize, posted .audios] := by
  refine tasks_within_budget oneTask noOthers rfl (by decide) false ⟨⟨?_, ?_⟩, ⟨?_, ?_⟩, ⟨?_, ?_⟩, trivial⟩
  all_goals first
    | exact fun _ => ⟨by decide, by decide⟩
    | decide +kernel

theorem import_over_budget : ¬ Always (Desk.step oneTask noOthers) (WithinBudget oneTask) (.fresh false)
    [posted .transcribe, posted .import_] := by
  intro always
  have within := always [posted .transcribe, posted .import_] [] rfl
  have opened : (⟨"api:tasks:user:u", 0, true, true⟩ : FixedWindow.Hit String ℚ) ∈
      (run (Desk.step oneTask noOthers) (.fresh false) [posted .transcribe, posted .import_]).limiter.hits :=
    List.mem_cons_self
  have two : acceptedIn
      (run (Desk.step oneTask noOthers) (.fresh false) [posted .transcribe, posted .import_]).limiter.store.backend
      (run (Desk.step oneTask noOthers) (.fresh false) [posted .transcribe, posted .import_]).accepted
      WriteRequest.createsTask "u" 0 = 2 := by
    decide +kernel
  have at_most := (within "u" _ opened rfl).1 rfl
  rw [two] at at_most
  exact absurd at_most (by decide)

end Samples

end IdigestHub.RateLimiting
