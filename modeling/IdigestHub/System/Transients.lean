import IdigestHub.Capture.Tracing
import IdigestHub.System.Cancels

/-! A running capture whose worker cannot always be reached: what the requests for its status make of the task. -/

set_option autoImplicit false

namespace IdigestHub.System

open Foundation Foundation.Runs Foundation.UnitOfWork Dispatcher Ingest Capture

structure WorkerCapture extends RunningCapture where
  node : Nat
  onWorker : OnWorker node task
  known : (hub.nodes.find node).isSome
  process : Process
  solvent : ∀ org, hub.orgs.find task.orgId = some org → (outOfBalance org).isSome

/-- A request for the status of a job, and what comes of it: nothing but the worker fails, and the worker cannot be
reached, or has an internal error, or does not know the job, or answers with a status. -/
structure StatusRequest (id : Nat) where
  world : World
  detail : String
  quiet : world.raises = fun _ => false
  answers : world.getTask id ≠ .raises
  reported : ∀ code poll, world.getTask id = .answer code poll → code < 500 → code ≠ 404 →
    workerStatus world.python poll ≠ ""

inductive WatchEvent (id : Nat) where
  | poll (request : StatusRequest id)
  | finish (request : StatusRequest id)
  | recover (request : StatusRequest id)
  | resume (request : StatusRequest id)
  | restart
  | stop (python : Python)
  | cancel

/-- A hub, and whether the thread of the capture is polling. -/
structure Watched where
  hub : Hub
  process : Process
  polling : Bool

namespace Watched

/-- One round of the polling loop, with what follows a file that is ready, and with the handler for exceptions: whether
the loop goes on. -/
def round (world : World) (id node : Nat) (detail : String) : Program Bool := do
  match ← Tx.attempt (do
    match ← threadPoll world id node with
    | .artifact node poll => threadPersist world id node poll
    | next => pure next) with
  | .ok (.poll _) => pure true
  | .ok _ => pure false
  | .error _ => do
    threadFailed world id detail
    pure false

def after {A : Type} (s : Watched) (program : Program A) : Hub := (program.run (Session.start s.hub s.process)).2.committed

variable (capture : WorkerCapture)

def step (s : Watched) : WatchEvent capture.id → Watched
  | .poll request =>
    if s.polling then
      let (outcome, last) := (round request.world capture.id capture.node request.detail).run
        (Session.start s.hub s.process)
      match outcome with
      | .ok true => ⟨last.committed, last.memory, true⟩
      | _ => ⟨last.committed, threadFinished capture.id last.memory, false⟩
    else s
  | .finish request => { s with
    hub := s.after do
      tryFinishCaptureTask request.world capture.id
      commitAt request.world (.tick 3) }
  -- The recovery runs once, before any thread is started.
  | .recover request =>
    if s.polling then s
    else { s with
      hub := s.after do
        recoverCaptureTask request.world capture.id (s.hub.nodes.entries.map Sigma.fst)
        commitAt request.world (.tick 1) }
  -- A new thread finds the job of the old one, and begins to poll.
  | .resume request =>
    if s.polling then s
    else { s with
      hub := s.after (forwardEarlyStop request.world capture.id capture.node)
      polling := (s.hub.tasks.find capture.id).any stillRunning }
  | .restart => ⟨s.hub, Process.fresh, false⟩
  | .stop python => { s with
    hub := Tasks.stopTask python capture.id s.hub
    process := Tasks.stopSignal capture.id s.hub s.process }
  | .cancel => { s with
    hub := Tasks.cancelTask capture.id s.hub
    process := Tasks.cancelSignal capture.id s.hub s.process }

end Watched

def WorkerCapture.opened (capture : WorkerCapture) : Watched := ⟨capture.hub, capture.process, true⟩

section Claims

variable (capture : WorkerCapture)

def Kills (s after : Watched) : Prop :=
  (∃ task, s.hub.tasks.find capture.id = some task ∧ task.status ≠ .error) ∧
    ∃ task, after.hub.tasks.find capture.id = some task ∧ task.status = .error

def Warranted (s : Watched) : WatchEvent capture.id → Prop
  | .poll request =>
    let reply := request.world.getTask capture.id
    capture.id ∈ s.process.cancelled ∨ Reply.Ending request.world.python reply ∨
      Reply.Ready request.world.python reply ∨
      ∃ task, s.hub.tasks.find capture.id = some task ∧
        Reply.TimedOut request.world s.process capture.id task reply
  | .finish request => Reply.Ready request.world.python (request.world.getTask capture.id)
  | .recover request => Reply.Ending request.world.python (request.world.getTask capture.id)
  | .cancel => True
  | _ => False

/-- The worker could not be reached, or had an internal error and said nothing about the job. -/
def Reply.Transient (python : Python) : Reply → Prop
  | .unreachable => True
  | .answer code poll => 500 ≤ code ∧ workerStatus python poll = "" ∧ artifactReadyInPoll python poll = false
  | .raises => False

def WatchEvent.Transient {id : Nat} : WatchEvent id → Prop
  | .poll request | .finish request | .recover request =>
    Reply.Transient request.world.python (request.world.getTask id)
  | .resume _ | .restart => True
  | .stop _ | .cancel => False

def StatusRequest.Succeeds {id : Nat} (request : StatusRequest id) : Prop :=
  ∃ poll filename duration, request.world.getTask id = .answer 200 poll ∧
    workerStatus request.world.python poll = "success" ∧ artifactReadyInPoll request.world.python poll = true ∧
    request.world.artifact id = .stored filename ∧ pollDuration request.world.python poll = some duration

/-- The thread, or a tick, hears of a file that is ready. -/
def Delivers {id : Nat} (s : Watched) : WatchEvent id → Prop
  | .poll request => s.polling = true ∧ request.Succeeds
  | .finish request => request.Succeeds
  | _ => False

def Alive (s : Watched) : Prop :=
  capture.id ∉ s.process.cancelled ∧ ∃ task, s.hub.tasks.find capture.id = some task ∧ stillRunning task = true

/-- Transient errors do not kill the capture: every step that sets the task to error has a reason, and a ready file
that follows transient errors is always kept. -/
structure Survives (events : List (WatchEvent capture.id)) : Prop where
  warranted : Along (Watched.step capture) (fun s event => Kills capture s (s.step capture event) → Warranted capture s event)
    capture.opened events
  delivered : ∀ done failures last rest, events = done ++ failures ++ last :: rest →
    Alive capture (run (Watched.step capture) capture.opened done) → (∀ failure ∈ failures, WatchEvent.Transient failure) →
    Delivers (run (Watched.step capture) capture.opened (done ++ failures)) last →
    InLibrary capture.id (run (Watched.step capture) capture.opened (done ++ failures ++ [last])).hub

/-- The poll of the thread reaches the worker, unless the task has failed or was canceled. -/
def Reaches (s : Watched) : WatchEvent capture.id → Prop
  | .poll request => s.polling = true → capture.id ∉ s.process.cancelled →
    (∃ task, s.hub.tasks.find capture.id = some task ∧ task.status ≠ .error) →
    request.world.getTask capture.id ≠ .unreachable
  | _ => True

end Claims

section Rounds

variable {world : World} {id node : Nat} {task : Task} {s : Session Hub Process}

theorem stable_round {orgs : Table Nat Organization} {orgId on : Nat} (world : World) (node : Nat) (detail : String) :
    Stable orgs orgId on id (Watched.round world id node detail) := by
  have polls : Stable orgs orgId on id (do
      match ← threadPoll world id node with
      | .artifact node poll => threadPersist world id node poll
      | next => pure next) := by
    refine (preserves_threadPoll world attached_resilient node).bind fun next => ?_
    split
    · exact preserves_threadPersist world attached_resilient _ _
    · exact maintains_pure _
  refine polls.attempt.bind fun outcome => ?_
  split
  · exact maintains_pure _
  · exact maintains_pure _
  · exact (preserves_threadFailed world attached_resilient detail).bind fun _ => maintains_pure _

/-- The thread never polls again once it has had the file. -/
theorem threadPersist_returns (poll : Dict) :
    wp (threadPersist world id node poll) (fun next _ => next = .returned) (fun _ _ => True) s := by
  rw [threadPersist, wp_bind]
  refine wp_mono (wp_trivial _ s) (fun _ s _ => ?_) fun _ _ _ => trivial
  rw [wp_bind]
  refine wp_mono (wp_trivial _ s) (fun _ s _ => wp_cases (fun _ => ?_) fun _ => rfl) fun _ _ _ => trivial
  rw [wp_bind]
  exact wp_mono (wp_trivial _ s) (fun _ _ _ => rfl) fun _ _ _ => trivial

def EndsPoll (world : World) (id : Nat) (task : Task) (process : Process) : Prop :=
  id ∈ process.cancelled ∨ Reply.Ending world.python (world.getTask id) ∨
    Reply.Ready world.python (world.getTask id) ∨ Reply.TimedOut world process id task (world.getTask id)

def RoundEnds (world : World) (id : Nat) (task : Task) (process : Process) : Bool → Session Hub Process → Prop
  | true, after => after.memory = process ∧ Resembles id task after.committed ∧ world.getTask id ≠ .unreachable
  | false, after => EndsPoll world id task process ∨ world.getTask id = .unreachable ∧
      ∃ row, after.committed.tasks.find id = some row ∧ row.status = .error

theorem round_ends (node : Nat) (quiet : world.raises = fun _ => false) (answers : world.getTask id ≠ .raises) (detail : String)
    (shows : Shows id task s) :
    wp (Watched.round world id node detail) (RoundEnds world id task s.memory)
      (fun _ _ => EndsPoll world id task s.memory) s := by
  rw [Watched.round, wp_bind, wp_attempt, wp_bind]
  refine wp_mono (threadPoll_traced quiet node shows) ?_ ?_
  · rintro next after ⟨code, poll, replied, traced⟩
    cases next with
    | start => exact traced.elim
    | post on => exact traced.elim
    | poll on => exact ⟨traced.2.1, traced.2.2.committed, by simp [replied]⟩
    | returned =>
      rcases traced with canceled | ending | late
      · exact .inl (.inl canceled)
      · exact .inl (.inr (.inl ending))
      · exact .inl (.inr (.inr (.inr late)))
    | artifact on its =>
      have ready : EndsPoll world id task s.memory := .inr (.inr (.inl (by rw [replied]; exact traced.1)))
      refine wp_mono (threadPersist_returns its) ?_ ?_
      · rintro _ _ rfl
        exact .inl ready
      · intro _ last _
        rw [wp_bind]
        exact wp_mono (wp_trivial _ last) (fun _ _ _ => Or.inl ready) fun _ _ _ => ready
  · rintro fault after ⟨unanswered | raised, shows⟩
    · rw [wp_bind]
      refine wp_threadFailed quiet detail shows.committed fun last extra failed => ?_
      exact .inr ⟨unanswered, _, failed, rfl⟩
    · exact absurd raised answers

end Rounds

section Steps

variable {capture : WorkerCapture} {s : Watched}

/-- The row of the capture, and its worker, as far as every step keeps them. -/
abbrev WorkerCapture.Holds (capture : WorkerCapture) (hub : Hub) : Prop :=
  Attached capture.hub.orgs capture.task.orgId capture.node capture.id hub

theorem WorkerCapture.holds (capture : WorkerCapture) : capture.Holds capture.hub :=
  ⟨⟨capture.task, capture.stored, capture.capture, rfl, fun _ => capture.onWorker⟩, capture.numbered, capture.known, rfl⟩

theorem linked_stop {orgId node : Nat} {task : Task} (linked : Linked orgId node task) (python : Python) :
    Linked orgId node (Tasks.stopMarked python task) := by
  refine linked.fields ?_
  split
  · simp [Dict.get_set]
  · simp [Dict.get_set]

theorem holds_step (holds : capture.Holds s.hub) (event : WatchEvent capture.id) :
    capture.Holds (s.step capture event).hub := by
  have after {A : Type} {program : Program A} (stable : Preserves capture.Holds program) : capture.Holds (s.after program) :=
    stable.committed holds s.process
  cases event with
  | poll request =>
    rw [Watched.step]
    split
    · have left := after (stable_round request.world capture.node request.detail)
      simp only [Watched.after] at left
      generalize (Watched.round request.world capture.id capture.node request.detail).run _ = result at left ⊢
      obtain ⟨outcome, last⟩ := result
      cases outcome with
      | error fault => exact left
      | ok going => cases going <;> exact left
    · exact holds
  | finish request =>
    exact after ((preserves_tryFinish request.world attached_resilient).bind fun _ => maintains_commitAt request.world _)
  | recover request =>
    rw [Watched.step]
    split
    · exact holds
    · exact after ((stable_recover request.world _).bind fun _ => maintains_commitAt request.world _)
  | resume request =>
    rw [Watched.step]
    split
    · exact holds
    · exact after (preserves_forwardEarlyStop request.world attached_resilient _)
  | restart => exact holds
  | stop python =>
    simp only [Watched.step, Tasks.stopTask]
    split
    · exact holds.modify fun task linked => linked_stop linked python
    · exact holds
  | cancel =>
    simp only [Watched.step, Tasks.cancelTask]
    split
    · exact holds.modify fun task linked => linked.ended rfl rfl (fun running => by cases running)
    · exact holds

theorem known_listed {hub : Hub} {node : Nat} (known : (hub.nodes.find node).isSome) :
    node ∈ hub.nodes.entries.map Sigma.fst := by
  obtain ⟨row, found⟩ := Option.isSome_iff_exists.mp known
  exact List.mem_map.mpr ⟨⟨node, row⟩, (Table.mem_entries _ _ _).mpr found, rfl⟩

theorem resembles_after {A : Type} {program : Program A} {task : Task}
    (found : s.hub.tasks.find capture.id = some task) (idle : Preserves (Resembles capture.id task) program) :
    Resembles capture.id task (s.after program) :=
  idle.committed ⟨task.metaJson, found⟩ s.process

theorem poll_ends {task : Task} (found : s.hub.tasks.find capture.id = some task) (polling : s.polling = true)
    (request : StatusRequest capture.id) :
    EndsPoll request.world capture.id task s.process ∨
      (request.world.getTask capture.id = .unreachable ∧
        ∃ row, (s.step capture (.poll request)).hub.tasks.find capture.id = some row ∧ row.status = .error) ∨
      (request.world.getTask capture.id ≠ .unreachable ∧ (s.step capture (.poll request)).polling = true ∧
        (s.step capture (.poll request)).process = s.process ∧
        Resembles capture.id task (s.step capture (.poll request)).hub) := by
  have ends := round_ends capture.node request.quiet request.answers request.detail (shows_start found s.process)
  simp only [Watched.step, polling, if_true, Tx.run]
  rw [wp] at ends
  generalize Watched.round request.world capture.id capture.node request.detail (Session.start s.hub s.process) =
    result at ends ⊢
  obtain ⟨outcome, last⟩ := result
  cases outcome with
  | error fault => exact .inl ends
  | ok going =>
    cases going with
    | true => exact .inr (.inr ⟨ends.2.2, rfl, ends.1, ends.2.1⟩)
    | false => exact ends.imp_right .inl

theorem not_kills_of_resembles {after : Watched} {task : Task} (found : s.hub.tasks.find capture.id = some task)
    (resembles : Resembles capture.id task after.hub) : ¬Kills capture s after := by
  rintro ⟨⟨its, before, fine⟩, row, here, error⟩
  obtain rfl : task = its := Option.some.inj (found.symm.trans before)
  obtain ⟨metaJson, kept⟩ := resembles
  obtain rfl := Option.some.inj (kept.symm.trans here)
  exact fine error

/-- A step kills the capture without a reason exactly when a poll of its thread does not reach the worker. -/
theorem warranted_iff_reaches (holds : capture.Holds s.hub) (event : WatchEvent capture.id) :
    (Kills capture s (s.step capture event) → Warranted capture s event) ↔ Reaches capture s event := by
  obtain ⟨task, found, linked⟩ := holds.row
  cases event with
  | poll request =>
    constructor
    · intro warranted polling uncanceled fine unreachable
      -- an unreachable worker warrants nothing, and the poll fails the row all the same
      rcases poll_ends found polling request with ends | ⟨_, error⟩ | reached
      · rcases ends with canceled | ending | ready | late
        · exact uncanceled canceled
        · rw [unreachable] at ending
          exact ending
        · rw [unreachable] at ready
          exact ready
        · rw [unreachable] at late
          exact late
      · rcases warranted ⟨fine, error⟩ with canceled | ending | ready | ⟨_, _, late⟩
        · exact uncanceled canceled
        · rw [unreachable] at ending
          exact ending
        · rw [unreachable] at ready
          exact ready
        · rw [unreachable] at late
          exact late
      · exact reached.1 unreachable
    · intro reaches kills
      cases polling : s.polling with
      | false =>
        have same : s.step capture (.poll request) = s := by simp [Watched.step, polling]
        rw [same] at kills
        exact absurd kills (not_kills_of_resembles found ⟨task.metaJson, found⟩)
      | true =>
        rcases poll_ends found polling request with ends | ⟨unreachable, _⟩ | reached
        · rcases ends with canceled | ending | ready | late
          · exact .inl canceled
          · exact .inr (.inl ending)
          · exact .inr (.inr (.inl ready))
          · exact .inr (.inr (.inr ⟨task, found, late⟩))
        · by_cases canceled : capture.id ∈ s.process.cancelled
          · exact .inl canceled
          · exact absurd unreachable (reaches polling canceled kills.1)
        · exact absurd kills (not_kills_of_resembles found reached.2.2.2)
  -- the other events never kill without a warrant, so both sides hold
  | finish request =>
    refine iff_of_true (fun kills => ?_) trivial
    by_contra unready
    refine not_kills_of_resembles found ?_ kills
    exact resembles_after found ((tryFinish_idle unready).bind fun _ => maintains_commitAt request.world _)
  | recover request =>
    refine iff_of_true (fun kills => ?_) trivial
    by_contra going
    refine not_kills_of_resembles found ?_ kills
    rw [Watched.step]
    split
    · exact ⟨task.metaJson, found⟩
    · refine resembles_after found (Maintains.bind ?_ fun _ => maintains_commitAt request.world _)
      refine recover_idle linked.running (known_listed holds.known) going fun code poll replied early => ?_
      refine request.reported code poll replied early fun missing => going ?_
      show Reply.Ending request.world.python (request.world.getTask capture.id)
      rw [replied]
      exact .inl missing
  | resume request =>
    refine iff_of_true (fun kills => ?_) trivial
    refine not_kills_of_resembles found ?_ kills
    rw [Watched.step]
    split
    · exact ⟨task.metaJson, found⟩
    · exact resembles_after found (forwardEarlyStop_idle _)
  | restart => exact iff_of_true (fun kills => not_kills_of_resembles found ⟨task.metaJson, found⟩ kills) trivial
  | stop python =>
    refine iff_of_true (fun kills => ?_) trivial
    refine not_kills_of_resembles found ?_ kills
    simp only [Watched.step, Tasks.stopTask]
    split
    · exact ⟨_, find_modifyTask found _⟩
    · exact ⟨task.metaJson, found⟩
  | cancel => exact iff_of_true (fun _ => trivial) trivial

end Steps

section Deliveries

variable {world : World} {orgs : Table Nat Organization} {orgId node id : Nat}

structure Live (orgs : Table Nat Organization) (orgId node id : Nat) (hub : Hub) : Prop where
  row : ∃ task, hub.tasks.find id = some task ∧ task.orgId = orgId ∧ stillRunning task = true ∧ OnWorker node task
  numbered : id < hub.nextId
  orgs : hub.orgs = orgs

theorem live_of_attached {hub : Hub} {task : Task} (attached : Attached orgs orgId node id hub)
    (resembles : Resembles id task hub) (running : stillRunning task = true) : Live orgs orgId node id hub := by
  obtain ⟨row, found, linked⟩ := attached.row
  obtain ⟨metaJson, shown⟩ := resembles
  obtain rfl : row = { task with metaJson } := Option.some.inj (found.symm.trans shown)
  exact ⟨⟨_, found, linked.orgId, running, linked.running (by simpa using (Bool.and_eq_true_iff.mp running).2)⟩,
    attached.numbered, attached.orgs⟩

variable {A : Type} {s : Session Hub Process} {Q : A → Session Hub Process → Prop} {R : Fault → Session Hub Process → Prop}

theorem wp_refresh_live {next : Unit → Program A} (live : Everywhere (Live orgs orgId node id) s)
    (value : ∀ after, Everywhere (Live orgs orgId node id) after → wp (next ()) Q R after) :
    wp (refreshTask id >>= next) Q R s := by
  obtain ⟨task, found, org, running, on_worker⟩ := live.flushed.row
  obtain ⟨row, loaded, _⟩ := live.working.row
  rw [wp_bind, refreshTask, wp_bind, wp_query, found]
  refine value _ ⟨live.committed, live.flushed, ⟨task, ?_, org, running, on_worker⟩, live.working.numbered, live.working.orgs⟩
  exact find_modifyTask loaded _

theorem wp_loaded_live {next : Task → Program A} (live : Everywhere (Live orgs orgId node id) s)
    (value : ∀ task, s.working.tasks.find id = some task → task.orgId = orgId → stillRunning task = true →
      OnWorker node task → wp (next task) Q R s) : wp (loaded id >>= next) Q R s := by
  obtain ⟨task, found, org, running, on_worker⟩ := live.working.row
  rw [wp_bind]
  exact wp_loaded_of found (value task found org running on_worker)

variable (quiet : world.raises = fun _ => false)
include quiet

theorem enqueue_archived (solvent : ∀ org, orgs.find orgId = some org → (outOfBalance org).isSome) {task : Task}
    {file : Nat} (found : s.working.tasks.find id = some task) (org : task.orgId = orgId) (file_of : task.audioId = some file)
    (there : (s.working.audios.find file).isSome) (numbered : id < s.working.nextId) (same : s.working.orgs = orgs) :
    wp (enqueueTranscribeAfterIngest world id) (fun _ after => InLibrary id after.working) (fun _ _ => False) s := by
  have archived : InLibrary id s.working := ⟨task, file, found, file_of, there⟩
  rw [enqueueTranscribeAfterIngest, wp_bind]
  refine wp_loaded_of found ?_
  rw [wp_bind, wp_read]
  refine wp_cases (fun _ => archived) fun _ => wp_cases (fun _ => archived) fun _ => ?_
  rw [same, org]
  cases payer : orgs.find orgId with
  | none => exact archived
  | some payer_row =>
    obtain ⟨broke, balance⟩ := Option.isSome_iff_exists.mp (solvent payer_row payer)
    dsimp only
    rw [balance]
    cases broke with
    | true => exact archived
    | false =>
      rw [guardSite_quiet quiet]
      simp only [wp_bind, wp_pure, wp_update, wp_flush, wp_modifyTask]
      have own : id ≠ s.working.nextId := Nat.ne_of_lt numbered
      refine ⟨task.mergeMeta [("follow_up_task_id", idJson s.working.nextId)], file, ?_, file_of, there⟩
      simp [Hub.modifyTask, Hub.addTask, Table.find_modify, Table.find_put, own, found]

theorem download_archived (solvent : ∀ org, orgs.find orgId = some org → (outOfBalance org).isSome) (poll fields : Dict)
    {filename : String} (stored : world.artifact id = .stored filename) {duration : Option Decimal}
    (lasts : pollDuration world.python poll = some duration) (live : Everywhere (Live orgs orgId node id) s) :
    wp (do
      match ← persistDownloaded world id poll with
      | none => pure ()
      | some duration => persistSaved world id fields duration) (fun _ => Everywhere (InLibrary id)) (fun _ _ => False) s := by
  rw [persistDownloaded, guardSite_quiet quiet, stored, lasts]
  simp only [pure_bind, bind_assoc]
  refine wp_refresh_live live fun s live => wp_loaded_live live fun task _ _ running _ => ?_
  rw [running, commitAt_quiet quiet]
  simp only [Bool.not_true, Bool.false_eq_true, if_false, bind_assoc, pure_bind]
  rw [wp_bind, wp_commit, persistSaved, stored]
  refine wp_loaded_live live.commit fun task found org _ _ => ?_
  rw [guardSite_quiet quiet, guardSite_quiet quiet, commitAt_quiet quiet]
  simp only [wp_bind, wp_read, wp_update, wp_flush, wp_pure, wp_modifyTask]
  refine wp_mono (enqueue_archived quiet solvent (find_modifyTask found _) org rfl ?_ ?_ ?_) ?_ fun _ _ impossible => impossible
  · show ((Table.put _ _ _).find _).isSome = true
    rw [Table.find_put_self]
    rfl
  · exact Nat.lt_succ_of_lt live.working.numbered
  · exact live.working.orgs
  · intro _ after archived
    exact ⟨archived, archived, archived⟩

theorem persist_archived (solvent : ∀ org, orgs.find orgId = some org → (outOfBalance org).isSome) (poll : Dict)
    {filename : String} (stored : world.artifact id = .stored filename) {duration : Option Decimal}
    (lasts : pollDuration world.python poll = some duration) (live : Everywhere (Live orgs orgId node id) s) :
    wp (persistCaptureArtifact world id node poll) (fun _ => Everywhere (InLibrary id)) (fun _ _ => False) s := by
  have staged (hub : Hub) (live : Live orgs orgId node id hub) : Live orgs orgId node id
      (hub.modifyTask id (staged "downloading" [("worker_capture_status", .str "success")])) := by
    obtain ⟨task, found, org, running, unrecorded, job, on_node, url, named, nonblank⟩ := live.row
    refine ⟨⟨_, find_modifyTask found _, org, running, unrecorded, job, on_node, url, ?_, nonblank⟩, live.numbered, live.orgs⟩
    simpa [Ingest.staged, Task.metaDict, Dict.update, Dict.get_set] using named
  rw [persistCaptureArtifact, wp_bind, persistBegin]
  refine wp_refresh_live live fun s live => wp_loaded_live live fun task _ _ running on_worker => ?_
  rw [running]
  obtain ⟨url, named, nonblank⟩ := on_worker.url
  have meeting : meetingUrlOf world.python task ≠ "" := by
    have text : world.python.orEmpty (.str url) = url := by
      unfold Python.orEmpty Python.text
      split
      · rfl
      · rename_i blank
        have empty : url = "" := by simpa [Json.truthy] using blank
        exact empty.symm
    rwa [meetingUrlOf, named, text]
  simp only [Bool.not_true, Bool.false_eq_true, if_false, if_neg meeting, updateTaskMeta, commitAt_quiet quiet,
    wp_bind, wp_modifyTask, wp_flush, wp_commit, wp_pure, callWorker_quiet quiet]
  have changed := staged s.working live.working
  have rest (s : Session Hub Process) (live : Everywhere (Live orgs orgId node id) s) :=
    download_archived quiet solvent poll task.metaDict stored lasts live
  simp only [wp_bind] at rest
  exact rest _ ⟨changed, changed, changed⟩

end Deliveries

section Kept

variable {capture : WorkerCapture} {s : Watched} {request : StatusRequest capture.id} {task : Task}

theorem live_start (holds : capture.Holds s.hub) (found : s.hub.tasks.find capture.id = some task)
    (running : stillRunning task = true) :
    Everywhere (Live capture.hub.orgs capture.task.orgId capture.node capture.id) (Session.start s.hub s.process) :=
  everywhere_start (live_of_attached holds ⟨task.metaJson, found⟩ running) s.process

theorem round_archived (succeeds : request.Succeeds) (holds : capture.Holds s.hub)
    (uncanceled : capture.id ∉ s.process.cancelled) (found : s.hub.tasks.find capture.id = some task)
    (running : stillRunning task = true) :
    wp (Watched.round request.world capture.id capture.node request.detail)
      (fun _ after => InLibrary capture.id after.committed) (fun _ _ => False) (Session.start s.hub s.process) := by
  obtain ⟨poll, filename, duration, replied, success, ready, stored, lasts⟩ := succeeds
  rw [Watched.round, wp_bind, wp_attempt, wp_bind]
  refine wp_mono (wp_and (threadPoll_traced request.quiet capture.node (shows_start found s.process))
    (preserves_threadPoll request.world attached_resilient capture.node _ (everywhere_start holds s.process))) ?_ ?_
  · rintro next after ⟨⟨code, its, answered, traced⟩, attached⟩
    obtain ⟨rfl, rfl⟩ := Reply.answer.inj (replied.symm.trans answered)
    cases next with
    | start => exact traced.elim
    | post on => exact traced.elim
    | poll on => exact absurd (ready.symm.trans traced.1) (by decide)
    | returned =>
      exfalso
      rcases traced with canceled | ending | late
      · exact uncanceled canceled
      · rw [replied] at ending
        simp [Reply.Ending, success] at ending
      · rw [replied] at late
        simp [Reply.TimedOut, success, captureStopForwardStatuses] at late
    | artifact on its =>
      obtain ⟨_, rfl, rfl, resembles⟩ := traced
      have live : Everywhere (Live capture.hub.orgs capture.task.orgId capture.node capture.id) after :=
        ⟨live_of_attached attached.committed resembles.committed running,
          live_of_attached attached.flushed resembles.flushed running,
          live_of_attached attached.working resembles.working running⟩
      show wp (threadPersist request.world capture.id capture.node its) _ _ after
      refine wp_refresh_live live fun last live => wp_loaded_live live fun row _ _ still _ => ?_
      rw [still, if_pos rfl, wp_bind]
      refine wp_mono (persist_archived request.quiet capture.solvent its stored lasts live) ?_ fun _ _ impossible =>
        impossible.elim
      exact fun _ _ archived => archived.committed
  · rintro fault after ⟨⟨unreachable | raises, _⟩, _⟩
    · exact absurd (replied.symm.trans unreachable) (by simp)
    · exact absurd (replied.symm.trans raises) (by simp)

theorem finish_archived (succeeds : request.Succeeds) (holds : capture.Holds s.hub)
    (found : s.hub.tasks.find capture.id = some task) (running : stillRunning task = true) :
    wp (do
      tryFinishCaptureTask request.world capture.id
      commitAt request.world (.tick 3)) (fun _ after => InLibrary capture.id after.committed) (fun _ _ => False)
      (Session.start s.hub s.process) := by
  obtain ⟨poll, filename, duration, replied, success, ready, stored, lasts⟩ := succeeds
  have live := live_start holds found running
  obtain ⟨row, here, linked⟩ := holds.row
  obtain rfl : task = row := Option.some.inj (found.symm.trans here)
  have on_worker := linked.running (by simpa using (Bool.and_eq_true_iff.mp running).2)
  obtain ⟨job, has_job⟩ := Option.isSome_iff_exists.mp on_worker.job
  obtain ⟨worker, known⟩ := Option.isSome_iff_exists.mp holds.known
  rw [wp_bind, tryFinishCaptureTask, wp_bind]
  refine wp_loaded_of found ?_
  rw [linked.type, running, has_job, on_worker.node, if_neg (by decide)]
  dsimp only
  rw [wp_bind, wp_read, Session.start, known, Option.isNone_some, if_neg Bool.false_ne_true, wp_bind, pollWorker,
    callWorker_quiet request.quiet, wp_bind, wp_commit, replied]
  dsimp only
  show wp (if (200 : Nat) != 200 then pure () else _) _ _ _
  rw [if_neg (by decide), tryFinishCaptureTask.report]
  simp only [success, ready, decide_true, Bool.and_self, if_true]
  refine wp_mono (persist_archived request.quiet capture.solvent poll stored lasts live.commit) ?_ fun _ _ impossible =>
    impossible
  intro _ after archived
  rw [commitAt_quiet request.quiet, wp_commit]
  exact archived.working

theorem alive_step (holds : capture.Holds s.hub) (alive : Alive capture s) {event : WatchEvent capture.id}
    (transient : event.Transient) (reaches : Reaches capture s event) : Alive capture (s.step capture event) := by
  obtain ⟨uncanceled, task, found, running⟩ := alive
  have row {hub : Hub} (resembles : Resembles capture.id task hub) :
      ∃ row, hub.tasks.find capture.id = some row ∧ stillRunning row = true := by
    obtain ⟨metaJson, kept⟩ := resembles
    exact ⟨_, kept, running⟩
  -- a transient reply neither has an artifact nor ends the capture
  have unready {request : StatusRequest capture.id}
      (transient : Reply.Transient request.world.python (request.world.getTask capture.id)) :
      ¬Reply.Ready request.world.python (request.world.getTask capture.id) := by
    intro ready
    cases replied : request.world.getTask capture.id with
    | raises => rw [replied] at ready; exact ready
    | unreachable => rw [replied] at ready; exact ready
    | answer code poll =>
      rw [replied] at ready transient
      exact absurd (ready.symm.trans transient.2.2) (by decide)
  have going {request : StatusRequest capture.id}
      (transient : Reply.Transient request.world.python (request.world.getTask capture.id)) :
      ¬Reply.Ending request.world.python (request.world.getTask capture.id) := by
    intro ending
    cases replied : request.world.getTask capture.id with
    | raises => rw [replied] at ending; exact ending
    | unreachable => rw [replied] at ending; exact ending
    | answer code poll =>
      rw [replied] at ending transient
      rcases ending with missing | error | canceled
      · have := transient.1
        omega
      · simp [transient.2.1] at error
      · simp [transient.2.1] at canceled
  cases event with
  | poll request =>
    cases polling : s.polling with
    | false =>
      rw [Watched.step, polling]
      exact ⟨uncanceled, task, found, running⟩
    | true =>
      have fine : task.status ≠ .error := by
        intro error
        simp [stillRunning, error] at running
      rcases poll_ends found polling request with ends | ⟨unreachable, _⟩ | ⟨_, _, memory, resembles⟩
      · exfalso
        rcases ends with canceled | ending | ready | late
        · exact uncanceled canceled
        · exact going transient ending
        · exact unready transient ready
        · have quiet : Reply.Transient request.world.python (request.world.getTask capture.id) := transient
          cases replied : request.world.getTask capture.id with
          | raises => rw [replied] at late; exact late
          | unreachable => rw [replied] at late; exact late
          | answer code poll =>
            rw [replied] at late quiet
            simp [Reply.TimedOut, quiet.2.1, captureStopForwardStatuses] at late
      -- here the assumption on the worker is used: it is reached
      · exact absurd unreachable (reaches polling uncanceled ⟨task, found, fine⟩)
      · exact ⟨by rw [memory]; exact uncanceled, row resembles⟩
  | finish request =>
    refine ⟨uncanceled, row (resembles_after found ?_)⟩
    exact (tryFinish_idle (unready transient)).bind fun _ => maintains_commitAt request.world _
  | recover request =>
    obtain ⟨its, here, linked⟩ := holds.row
    obtain rfl : task = its := Option.some.inj (found.symm.trans here)
    rw [Watched.step]
    split
    · exact ⟨uncanceled, task, found, running⟩
    · refine ⟨uncanceled, row (resembles_after found (Maintains.bind ?_ fun _ => maintains_commitAt request.world _))⟩
      -- recovery fails a capture on a reply of 404 and on no other
      refine recover_idle linked.running (known_listed holds.known) (going transient) fun code poll replied early => ?_
      have late : Reply.Transient request.world.python (request.world.getTask capture.id) := transient
      rw [replied] at late
      have := late.1
      omega
  | resume request =>
    rw [Watched.step]
    split
    · exact ⟨uncanceled, task, found, running⟩
    · exact ⟨uncanceled, row (resembles_after found (forwardEarlyStop_idle _))⟩
  | restart => exact ⟨by simp [Watched.step, Process.fresh], task, found, running⟩
  | stop python => exact transient.elim
  | cancel => exact transient.elim

theorem delivers_archived (holds : capture.Holds s.hub) (alive : Alive capture s) {event : WatchEvent capture.id}
    (delivers : Delivers s event) : InLibrary capture.id (s.step capture event).hub := by
  obtain ⟨uncanceled, task, found, running⟩ := alive
  cases event with
  | poll request =>
    obtain ⟨polling, succeeds⟩ := delivers
    have archived := round_archived succeeds holds uncanceled found running
    simp only [Watched.step, polling, if_true, Tx.run]
    rw [wp] at archived
    generalize Watched.round request.world capture.id capture.node request.detail (Session.start s.hub s.process) =
      result at archived ⊢
    obtain ⟨outcome, last⟩ := result
    cases outcome with
    | error fault => exact archived.elim
    | ok going => cases going <;> exact archived
  | finish request =>
    have archived := finish_archived delivers holds found running
    simp only [Watched.step, Watched.after, Tx.run]
    rw [wp] at archived
    generalize (do
      tryFinishCaptureTask request.world capture.id
      commitAt request.world (.tick 3) : Program Unit) (Session.start s.hub s.process) = result at archived ⊢
    obtain ⟨outcome, last⟩ := result
    cases outcome with
    | error fault => exact archived.elim
    | ok _ => exact archived
  | recover request => exact delivers.elim
  | resume request => exact delivers.elim
  | restart => exact delivers.elim
  | stop python => exact delivers.elim
  | cancel => exact delivers.elim

end Kept

section Sequences

variable {capture : WorkerCapture} {s : Watched} {events : List (WatchEvent capture.id)}

theorem holds_run (holds : capture.Holds s.hub) : capture.Holds (run (Watched.step capture) s events).hub := by
  induction events generalizing s with
  | nil => exact holds
  | cons event rest ih => exact ih (holds_step holds event)

theorem alive_run (holds : capture.Holds s.hub) (alive : Alive capture s) (transient : ∀ event ∈ events, event.Transient)
    (reaches : Along (Watched.step capture) (Reaches capture) s events) :
    Alive capture (run (Watched.step capture) s events) := by
  induction events generalizing s with
  | nil => exact alive
  | cons event rest ih =>
    have now := alive_step holds alive (transient event (List.mem_cons_self ..)) reaches.1
    exact ih (holds_step holds event) now (fun other member => transient other (List.mem_cons_of_mem event member)) reaches.2

end Sequences

/-- A capture survives exactly the runs in which every poll of its thread reaches the worker. -/
theorem survives_iff_reaches (capture : WorkerCapture) (events : List (WatchEvent capture.id)) :
    Survives capture events ↔ Along (Watched.step capture) (Reaches capture) capture.opened events := by
  have start : capture.Holds capture.opened.hub := capture.holds
  have kept (s : Watched) (event : WatchEvent capture.id) (holds : capture.Holds s.hub) :
      capture.Holds (s.step capture event).hub := holds_step holds event
  have reasons : Along (Watched.step capture)
      (fun s event => Kills capture s (s.step capture event) → Warranted capture s event) capture.opened events ↔
      Along (Watched.step capture) (Reaches capture) capture.opened events :=
    along_congr (A := fun s : Watched => capture.Holds s.hub) kept
      (fun s event holds => warranted_iff_reaches holds event) start
  refine ⟨fun survives => reasons.mp survives.warranted, fun reaches => ⟨reasons.mpr reaches, ?_⟩⟩
  rintro done failures last rest rfl alive transient delivers
  obtain ⟨_, through⟩ := along_append.mp (along_append.mp reaches).1
  have still := alive_run (holds_run start) alive transient through
  rw [← run_append] at still
  have archived := delivers_archived (holds_run start) still delivers
  rwa [run_append]

section Samples

def recordedMeeting : WorkerCapture where
  toRunningCapture := meeting
  node := 1
  onWorker := ⟨rfl, rfl, rfl, "https://meet.example.com/room1", rfl, by decide⟩
  known := rfl
  process := spawned
  solvent := by
    intro org found
    have payer : (meeting.hub.orgs.find meeting.task.orgId).all (fun org => (outOfBalance org).isSome) = true := by
      decide +kernel
    rw [found] at payer
    exact payer

def timeout : StatusRequest recordedMeeting.id where
  world := silentWorld
  detail := "timeout"
  quiet := rfl
  answers := nofun
  reported := nofun

/-- One timeout of the thread's poll fails the task. -/
theorem one_timeout_kills : ¬Survives recordedMeeting [.poll timeout] := by
  intro survives
  have error : ((Watched.step recordedMeeting recordedMeeting.opened (.poll timeout)).hub.tasks.find 5).any
      (fun task => task.status == .error) = true := by decide +kernel
  simp only [Option.any_eq_true, beq_iff_eq] at error
  have kills : Kills recordedMeeting recordedMeeting.opened (recordedMeeting.opened.step recordedMeeting (.poll timeout)) :=
    ⟨⟨meeting.task, rfl, by decide⟩, error⟩
  rcases survives.warranted.1 kills with canceled | ending | ready | ⟨_, _, late⟩
  · exact absurd canceled (by decide)
  · exact ending
  · exact ready
  · exact late

end Samples

end IdigestHub.System
