import IdigestHub.Foundation.Runs
import IdigestHub.Ingest.Thread
import IdigestHub.System.Failures

/-! Runs of one import: its threads, the dispatcher, the requests to cancel and to retry it, and restarts. Requests and
the dispatcher share one event loop; threads run beside it. -/

set_option autoImplicit false

namespace IdigestHub.System

open Foundation Foundation.Runs Foundation.UnitOfWork Dispatcher Capture Ingest

structure StoredImport where
  hub : Hub
  process : Process
  id : Nat
  task : Task
  stored : hub.tasks.find id = some task
  type : task.type = .importUrl
  numbered : id < hub.nextId
  inactive : id ∉ process.importActive
  unthreaded : id ∉ process.importThreads
  uncanceled : id ∉ process.importCancelled

/-- Where the dispatcher is with the import: between two ticks, after the query of a tick, before the commit that follows
the import, or in the recovery. -/
inductive Ticking where
  | idle | loaded | ending | restarted | recovering
  deriving DecidableEq

/-- A hub with the threads of one import. `handling` is the row that a cancel request has loaded, and whether the request
has marked the process. `run` counts the retries; `canceled` lists the runs that cancels were made against, `starts` counts
the threads that the process has started for the current run, and `delivered` says that one of them has stored its file. -/
structure Retrying where
  hub : Hub
  process : Process
  threads : List ImportThread
  object : Held
  ticking : Ticking
  handling : Option (Task × Bool)
  run : Nat
  canceled : List Nat
  starts : Nat
  delivered : Bool

inductive RetryEvent where
  | thread (n : Nat) (world : World) (detail : String)
  | progress (n : Nat) (world : World) (progress : Progress)
  | tick (world : World)
  | cancel
  | mark
  | commit
  | retry (orgId now : Nat)
  | restart

namespace Retrying

def opened (start : StoredImport) : Retrying :=
  ⟨start.hub, start.process, [], ⟨start.task, start.task⟩, .idle, none, 0, [], 0, false⟩

/-- A section of the dispatcher: `maybe_start_import` starts a thread when it leaves one in the process. -/
def tick (id : Nat) (s : Retrying) (world : World) : Retrying :=
  match s.ticking with
  | .idle =>
    match s.hub.tasks.find id with
    | none => s
    | some task => if task.active then { s with object := ⟨task, task⟩, ticking := .loaded } else s
  | .loaded =>
    let (outcome, hub, process, object) := s.object.run id s.hub s.process (maybeStartImport world id)
    let ticking := if outcome.isOk then .ending else .idle
    if !s.process.importThreads.contains id && process.importThreads.contains id then
      { s with hub, process, object, ticking, threads := s.threads ++ [⟨object, .begins, s.run⟩], starts := s.starts + 1 }
    else { s with hub, process, object, ticking }
  | .ending =>
    let (_, hub, process, object) := s.object.run id s.hub s.process (commitAt world (.tick 3))
    { s with hub, process, object, ticking := .idle }
  | .restarted =>
    match s.hub.tasks.find id with
    | none => { s with ticking := .idle }
    | some task =>
      if task.status = .running then { s with object := ⟨task, task⟩, ticking := .recovering }
      else { s with ticking := .idle }
  | .recovering =>
    let (_, hub, process, object) := s.object.run id s.hub s.process (do
      modifyTask id requeued
      commitAt world (.tick 4))
    { s with hub, process, object, ticking := .idle }

def step (id : Nat) (s : Retrying) : RetryEvent → Retrying
  | .thread n world detail =>
    match s.threads[n]? with
    | none => s
    | some thread =>
      let (hub, process, after) := thread.step world id detail s.hub s.process
      { s with
        hub, process
        threads := if after.stage.hasEnded then s.threads.eraseIdx n else s.threads.set n after
        delivered := s.delivered ||
          (thread.run == s.run && thread.stage.isSaving && !after.stage.isWorking && isStored (world.artifact id)) }
  | .progress n world progress =>
    if (s.threads[n]?).any (fun thread => thread.stage.isDownloading) then
      { s with hub := ((onProgress world id progress).run (.start s.hub s.process)).2.committed }
    else s
  -- While a request is at work, the dispatcher and the other requests wait.
  | .tick world => if s.handling.isSome then s else s.tick id world
  | .cancel =>
    match s.handling, s.hub.tasks.find id with
    | none, some task => if Tasks.cancelable task then { s with handling := some (task, false) } else s
    | _, _ => s
  | .mark =>
    match s.handling with
    | some (task, false) => { s with
      process := { s.process with importCancelled := id :: s.process.importCancelled }
      handling := some (task, true)
      canceled := s.run :: s.canceled }
    | _ => s
  | .commit =>
    match s.handling with
    | some (task, true) => { s with
      hub := s.hub.modifyTask id (Task.merged task (Tasks.canceled .canceled task))
      handling := none }
    | _ => s
  | .retry orgId now =>
    if s.handling.isNone && (s.hub.tasks.find id).any (Tasks.retriable s.hub orgId) then { s with
      hub := Tasks.retryTask id orgId now s.hub
      run := s.run + 1
      starts := 0
      delivered := false }
    else s
  | .restart => { s with
    process := Process.fresh
    threads := []
    ticking := .restarted
    handling := none
    starts := 0 }

end Retrying

structure Afresh (id : Nat) (s : Retrying) : Prop where
  /-- At most one thread is there, and the run has been started once at most. -/
  single : s.threads.length ≤ 1 ∧ s.starts ≤ 1
  /-- Once the earlier thread is gone, the next tick that has the capacity starts a thread for a queued run. -/
  starts : ∀ row, s.hub.tasks.find id = some row → row.status = .queued → s.threads = [] → s.ticking = .idle → s.handling = none →
    ∀ world : World, world.raises = (fun _ => false) → s.process.importActive.length < world.importMaxConcurrent →
      ∃ thread, ((s.step id (.tick world)).step id (.tick world)).threads = [thread] ∧ thread.run = s.run
  /-- A thread that finds itself canceled is one whose run was canceled. -/
  canceled : ∀ thread ∈ s.threads, thread.stage.asks = true → id ∈ s.process.importCancelled → thread.run ∈ s.canceled
  /-- A run that nobody canceled is a success once its file is stored. -/
  delivers : s.delivered = true → s.run ∉ s.canceled → Delivered id s.hub

/-- A cancel request that marks the process after the thread has ended, and a tick that starts a thread: the request writes
`canceled` to the row, and the commit of the tick goes through. -/
def Retrying.Sound (id : Nat) (s : Retrying) : RetryEvent → Prop
  | .mark => (∀ thread ∈ s.threads, thread.stage.clears = false) →
    ∀ task, s.handling = some (task, false) → task.errorCode = some .canceled →
      (s.hub.tasks.find id).any (fun row => row.errorCode == some .canceled) = true
  | .tick world => s.handling = none → s.ticking = .loaded → s.object.base.status = .queued → world.raises (.spawn id) = false
  | _ => True

section Running

variable {id : Nat} {s : Retrying}

structure Fitting (id : Nat) (s : Retrying) (row : Task) : Prop where
  type : row.type = .importUrl
  /-- A thread at work is of the current run, and nobody else has settled the row. -/
  working : ∀ thread ∈ s.threads, thread.stage.isWorking = true → thread.run = s.run ∧
    (row.status = .running ∨ row.status = .error ∧ row.errorCode = some .canceled) ∧
    ∀ task marked, s.handling = some (task, marked) → row.errorCode = task.errorCode
  holding : ∀ thread ∈ s.threads, thread.stage.holds = true → thread.held.Fits row ∧ thread.held.base.status = .running
  /-- A mark is taken back by a thread, or belongs to a run that stays canceled. -/
  flagged : id ∈ s.process.importCancelled → (∃ thread ∈ s.threads, thread.stage.clears = true) ∨
    s.run ∈ s.canceled ∧ (row.errorCode = some .canceled ∨
      ∃ task, s.handling = some (task, true) ∧ task.errorCode ≠ some .canceled)
  queued : row.status = .queued → s.starts = 0

structure Unstarted (starts : Nat) (threads : List ImportThread) (undelivered : Prop) : Prop where
  starts : starts = 0
  threads : ∀ thread ∈ threads, thread.stage.isWorking = false
  undelivered : undelivered

abbrev Retrying.Open (s : Retrying) : Prop := Unstarted s.starts s.threads (s.delivered = true → s.run ∈ s.canceled)

/-- What holds all along a run of sound events. -/
structure Orderly (id : Nat) (s : Retrying) : Prop where
  below : id < s.hub.nextId
  fitting : ∃ row, s.hub.tasks.find id = some row ∧ Fitting id s row
  single : s.threads.length ≤ 1
  started : s.starts ≤ 1
  known : id ∈ s.process.importThreads ↔ s.threads ≠ []
  active : id ∈ s.process.importActive → ∃ thread ∈ s.threads, thread.stage.isActive = true
  alive : ∀ thread ∈ s.threads, thread.stage.hasEnded = false
  warned : id ∈ s.process.importCancelled → ∀ thread ∈ s.threads, thread.stage.isWorking = true → s.run ∈ s.canceled
  marked : ∀ task, s.handling = some (task, true) → s.run ∈ s.canceled
  handled : ∀ task marked, s.handling = some (task, marked) → task.active = true
  loaded : s.ticking = .loaded → s.object.own = s.object.base ∧ s.object.base.type = .importUrl ∧
    (s.object.base.status = .queued → s.Open)
  ending : s.ticking = .ending → ∃ metaJson, s.object.own = { s.object.base with metaJson }
  restarted : s.ticking = .restarted ∨ s.ticking = .recovering → s.threads = [] ∧ s.starts = 0
  recovering : s.ticking = .recovering → s.object.own = s.object.base ∧ s.object.base.status = .running ∧
    (s.delivered = true → s.run ∈ s.canceled)
  delivers : s.delivered = true → s.run ∉ s.canceled → Delivered id s.hub

theorem Orderly.opened (start : StoredImport) : Orderly start.id (.opened start) where
  below := start.numbered
  fitting := by
    refine ⟨start.task, start.stored, start.type, ?_, ?_, fun marked => absurd marked start.uncanceled, fun _ => rfl⟩
    · exact fun _ member => (List.not_mem_nil member).elim
    · exact fun _ member => (List.not_mem_nil member).elim
  single := Nat.zero_le 1
  started := Nat.zero_le 1
  known := ⟨fun known => absurd known start.unthreaded, fun some => absurd rfl some⟩
  active known := absurd known start.inactive
  alive _ member := (List.not_mem_nil member).elim
  warned _ _ member := (List.not_mem_nil member).elim
  marked _ handling := by simp [Retrying.opened] at handling
  handled _ _ handling := by simp [Retrying.opened] at handling
  loaded ticking := by simp [Retrying.opened] at ticking
  ending ticking := by simp [Retrying.opened] at ticking
  restarted ticking := by simp [Retrying.opened] at ticking
  recovering ticking := by simp [Retrying.opened] at ticking
  delivers delivered := by simp [Retrying.opened] at delivered

theorem Orderly.undelivered (orderly : Orderly id s) {thread : ImportThread} (member : thread ∈ s.threads)
    (works : thread.stage.isWorking = true) : s.delivered = true → s.run ∈ s.canceled := by
  intro delivered
  by_contra uncanceled
  obtain ⟨row, found, fitting⟩ := orderly.fitting
  obtain ⟨task, _, there, success, _⟩ := orderly.delivers delivered uncanceled
  obtain rfl : row = task := Option.some.inj (found.symm.trans there)
  rcases (fitting.working thread member works).2.1 with running | ⟨error, _⟩
  · rw [success] at running
    contradiction
  · rw [success] at error
    contradiction

theorem Orderly.only (orderly : Orderly id s) {n : Nat} {thread : ImportThread} (found : s.threads[n]? = some thread) :
    s.threads = [thread] ∧ n = 0 := by
  have single := orderly.single
  cases threads : s.threads with
  | nil =>
    rw [threads] at found
    simp at found
  | cons first rest =>
    rw [threads] at single found
    obtain rfl : rest = [] := by
      cases rest with
      | nil => rfl
      | cons second others => simp at single
    cases n with
    | zero => exact ⟨by simpa using found, rfl⟩
    | succ n => simp at found

theorem Orderly.open_of_queued (orderly : Orderly id s) {row : Task} (found : s.hub.tasks.find id = some row)
    (queued : row.status = .queued) : s.Open := by
  obtain ⟨its, there, fitting⟩ := orderly.fitting
  obtain rfl : its = row := Option.some.inj (there.symm.trans found)
  refine ⟨fitting.queued queued, fun thread member => ?_, fun delivered => ?_⟩
  · by_contra works
    rcases (fitting.working thread member (by simpa using works)).2.1 with running | ⟨error, _⟩
    · rw [queued] at running
      contradiction
    · rw [queued] at error
      contradiction
  · by_contra uncanceled
    obtain ⟨task, _, here, success, _⟩ := orderly.delivers delivered uncanceled
    obtain rfl : its = task := Option.some.inj (there.symm.trans here)
    rw [queued] at success
    contradiction

theorem Fitting.resembling {row : Task} (fitting : Fitting id s row) (metaJson : Option Dict) :
    Fitting id s { row with metaJson } where
  type := fitting.type
  working := fitting.working
  holding thread member holds :=
    have held := fitting.holding thread member holds
    ⟨⟨held.1.saved, held.1.type, held.1.status, held.1.file⟩, held.2⟩
  flagged := fitting.flagged
  queued := fitting.queued

theorem delivered_of_resembling {row : Task} {origin hub : Hub} (resembles : Resembling id row origin hub)
    (found : origin.tasks.find id = some row) (delivered : Delivered id origin) : Delivered id hub := by
  obtain ⟨metaJson, there⟩ := resembles.row
  obtain ⟨task, file, here, success, its, stored⟩ := delivered
  obtain rfl : row = task := Option.some.inj (found.symm.trans here)
  exact ⟨_, file, there, success, its, resembles.audios ▸ stored⟩

/-- The row has changed in its fields only, as far as the import is concerned. -/
theorem Orderly.resembling (orderly : Orderly id s) {row : Task} {hub : Hub} (found : s.hub.tasks.find id = some row)
    (resembles : Resembling id row s.hub hub) : Orderly id { s with hub } := by
  obtain ⟨its, there, fitting⟩ := orderly.fitting
  obtain rfl : its = row := Option.some.inj (there.symm.trans found)
  obtain ⟨metaJson, here⟩ := resembles.row
  have its_fitting := fitting.resembling metaJson
  exact { orderly with
    below := lt_of_lt_of_eq orderly.below resembles.nextId.symm
    fitting := ⟨_, here, its_fitting.type, its_fitting.working, its_fitting.holding, its_fitting.flagged, its_fitting.queued⟩
    delivers := fun delivered uncanceled => delivered_of_resembling resembles found (orderly.delivers delivered uncanceled) }

theorem Orderly.works (orderly : Orderly id s) {thread : ImportThread} (threads : s.threads = [thread])
    (works : thread.stage.isWorking = true) (world : World) (detail : String) :
    Orderly id (s.step id (.thread 0 world detail)) := by
  obtain ⟨row, found, fitting⟩ := orderly.fitting
  have member : thread ∈ s.threads := by simp [threads]
  obtain ⟨its_run, status, unread⟩ := fitting.working thread member works
  have undelivered := orderly.undelivered member works
  -- a thread works on a row only after it has left the queue
  have taken : Taken id s.hub := by
    refine ⟨orderly.below, row, found, fitting.type, fun queued => ?_⟩
    rcases status with running | ⟨error, _⟩
    · rw [queued] at running
      contradiction
    · rw [queued] at error
      contradiction
  have stepped := step_working world detail s.process works taken found (fitting.holding thread member)
  -- one step does not end the thread: it goes on, or falls into its last section
  have unended : (thread.step world id detail s.hub s.process).2.2.stage.hasEnded = false := by
    cases now : (thread.step world id detail s.hub s.process).2.2.stage.isWorking with
    | true => cases stage : (thread.step world id detail s.hub s.process).2.2.stage <;> simp_all [Stage.isWorking, Stage.hasEnded]
    | false => rw [stepped.ends now]; rfl
  have step : s.step id (.thread 0 world detail) =
      let result := thread.step world id detail s.hub s.process
      { s with
        hub := result.1
        process := result.2.1
        threads := [result.2.2]
        delivered := s.delivered ||
          (thread.run == s.run && thread.stage.isSaving && !result.2.2.stage.isWorking && isStored (world.artifact id)) } := by
    simp [Retrying.step, threads, unended]
  rw [step]
  generalize thread.step world id detail s.hub s.process = result at stepped unended ⊢
  obtain ⟨hub, process, after⟩ := result
  obtain rfl : process = s.process := stepped.memory
  have clears : after.stage.clears = true := by
    cases now : after.stage.isWorking with
    | true => cases stage : after.stage <;> simp_all [Stage.isWorking, Stage.clears]
    | false => rw [show after.stage = _ from stepped.ends now]; rfl
  have acts : after.stage.isActive = true := by
    cases now : after.stage.isWorking with
    | true => cases stage : after.stage <;> simp_all [Stage.isWorking, Stage.isActive]
    | false => rw [show after.stage = _ from stepped.ends now]; rfl
  have not_open (opened : s.Open) : False := by
    rw [opened.threads thread member] at works
    contradiction
  -- a restarted process has no threads, and this one has
  have none_restarted (ticking : s.ticking = .restarted ∨ s.ticking = .recovering) : False := by
    rw [(orderly.restarted ticking).1] at member
    exact List.not_mem_nil member
  obtain ⟨task, there, type, unqueued⟩ := stepped.taken.row
  refine {
    below := stepped.taken.below
    fitting := ⟨task, there, type, ?working, ?holding, fun _ => .inl ⟨after, List.mem_cons_self, clears⟩, fun queued =>
      absurd queued unqueued⟩
    single := Nat.le_refl 1
    started := orderly.started
    known := ?known
    active := fun _ => ⟨after, List.mem_cons_self, acts⟩
    alive := fun other its => List.mem_singleton.mp its ▸ unended
    warned := fun marked _ _ _ => orderly.warned marked thread member works
    marked := orderly.marked
    handled := orderly.handled
    loaded := fun ticking => ⟨(orderly.loaded ticking).1, (orderly.loaded ticking).2.1,
      fun queued => (not_open ((orderly.loaded ticking).2.2 queued)).elim⟩
    ending := orderly.ending
    restarted := fun ticking => (none_restarted ticking).elim
    recovering := fun ticking => (none_restarted (.inr ticking)).elim
    delivers := ?delivers }
  case working =>
    intro other its now
    obtain rfl := List.mem_singleton.mp its
    obtain rfl : task = row := Option.some.inj (there.symm.trans (stepped.kept now))
    exact ⟨stepped.run.trans its_run, status, unread⟩
  case holding =>
    intro other its holds
    obtain rfl := List.mem_singleton.mp its
    have now : other.stage.isWorking = true := by cases stage : other.stage <;> simp_all [Stage.isWorking, Stage.holds]
    obtain rfl : task = row := Option.some.inj (there.symm.trans (stepped.kept now))
    exact stepped.fits holds
  case known =>
    exact iff_of_true (orderly.known.mpr (by simp [threads])) (by simp)
  case delivers =>
    intro delivered uncanceled
    rcases Bool.or_eq_true_iff.mp delivered with before | now
    · exact absurd (undelivered before) uncanceled
    · simp only [Bool.and_eq_true, Bool.not_eq_true', beq_iff_eq] at now
      exact stepped.delivers now.1.2 now.1.1.2 now.2

/-- The threads have nothing left to do but to forget the task. -/
theorem Orderly.resting (orderly : Orderly id s) {process : Process} {threads : List ImportThread} (threaded : s.threads ≠ [])
    (resting : ∀ thread ∈ threads, thread.stage.isWorking = false ∧ thread.stage.hasEnded = false) (single : threads.length ≤ 1)
    (known : id ∈ process.importThreads ↔ threads ≠ []) (inactive : id ∉ process.importActive)
    (flagged : id ∈ process.importCancelled → id ∈ s.process.importCancelled ∧
      ((∃ thread ∈ s.threads, thread.stage.clears = true) → ∃ thread ∈ threads, thread.stage.clears = true)) :
    Orderly id { s with process, threads } := by
  obtain ⟨row, found, fitting⟩ := orderly.fitting
  have none_restarted (ticking : s.ticking = .restarted ∨ s.ticking = .recovering) : False :=
    threaded (orderly.restarted ticking).1
  have unworked {thread : ImportThread} (member : thread ∈ threads) (works : thread.stage.isWorking = true) : False := by
    rw [(resting thread member).1] at works
    contradiction
  refine { orderly with
    fitting := ⟨row, found, fitting.type, fun thread member works => (unworked member works).elim, fun thread member holds => ?_,
      fun marked => ?_, fitting.queued⟩
    single, known
    active := fun active => absurd active inactive
    alive := fun thread member => (resting thread member).2
    warned := fun _ thread member works => (unworked member works).elim
    loaded := fun ticking => ⟨(orderly.loaded ticking).1, (orderly.loaded ticking).2.1, fun queued =>
      ⟨((orderly.loaded ticking).2.2 queued).starts, fun thread member => (resting thread member).1,
        ((orderly.loaded ticking).2.2 queued).undelivered⟩⟩
    restarted := fun ticking => (none_restarted ticking).elim }
  · refine (unworked member ?_).elim
    cases stage : thread.stage <;> simp_all [Stage.holds, Stage.isWorking]
  · obtain ⟨before, clears⟩ := flagged marked
    exact (fitting.flagged before).imp_left clears

theorem not_mem_forget (ids : List Nat) : id ∉ ids.filter fun other => other != id := by simp

theorem Orderly.finally (orderly : Orderly id s) {thread : ImportThread} (threads : s.threads = [thread])
    (ends : thread.stage.isWorking = false) (world : World) (detail : String) :
    Orderly id (s.step id (.thread 0 world detail)) := by
  obtain ⟨row, found, _⟩ := orderly.fitting
  have member : thread ∈ s.threads := by simp [threads]
  have threaded : s.threads ≠ [] := List.ne_nil_of_mem member
  have alive := orderly.alive thread member
  obtain ⟨resembles, steps⟩ := step_finally world detail s.process ends alive found
  have known : id ∈ s.process.importThreads := orderly.known.mpr threaded
  have still := orderly.resembling found resembles
  have not_saving : thread.stage.isSaving = false := by cases stage : thread.stage <;> simp_all [Stage.isWorking, Stage.isSaving]
  have step : s.step id (.thread 0 world detail) =
      { s with
        hub := (thread.step world id detail s.hub s.process).1
        process := thread.stage.forgets id s.process
        threads := if thread.stage.next.hasEnded then [] else [{ thread with stage := thread.stage.next }] } := by
    simp [Retrying.step, threads, steps, not_saving]
  -- The stages run in this order, and each undoes one entry of the process for good.
  have passive (stage : thread.stage = .uncancels ∨ thread.stage = .leaves) : id ∉ s.process.importActive := by
    intro active
    obtain ⟨other, its, acts⟩ := orderly.active active
    rw [threads] at its
    obtain rfl := List.mem_singleton.mp its
    rcases stage with same | same <;> rw [same] at acts <;> contradiction
  rw [step]
  cases stage : thread.stage with
  | deactivates =>
    refine still.resting threaded ?_ ?_ ?_ ?_ ?_
    · exact fun other its => List.mem_singleton.mp its ▸ ⟨rfl, rfl⟩
    · exact Nat.le_refl 1
    · exact iff_of_true known (List.cons_ne_nil _ _)
    · exact not_mem_forget _
    · exact fun marked => ⟨marked, fun _ => ⟨_, List.mem_cons_self, rfl⟩⟩
  | uncancels =>
    refine still.resting threaded ?_ ?_ ?_ ?_ ?_
    · exact fun other its => List.mem_singleton.mp its ▸ ⟨rfl, rfl⟩
    · exact Nat.le_refl 1
    · exact iff_of_true known (List.cons_ne_nil _ _)
    · exact passive (.inl stage)
    · exact fun marked => absurd marked (not_mem_forget _)
  | leaves =>
    refine still.resting threaded ?_ ?_ ?_ ?_ ?_
    · exact fun other its => (List.not_mem_nil its).elim
    · exact Nat.zero_le 1
    · exact iff_of_false (not_mem_forget _) fun none => none rfl
    · exact passive (.inr stage)
    · refine fun marked => ⟨marked, ?_⟩
      rintro ⟨other, its, clears⟩
      have same : other = thread := by simpa [threads] using its
      rw [same, stage] at clears
      contradiction
  | _ => simp_all [Stage.isWorking, Stage.hasEnded]

theorem Orderly.progresses (orderly : Orderly id s) (n : Nat) (world : World) (progress : Progress) :
    Orderly id (s.step id (.progress n world progress)) := by
  obtain ⟨row, found, _⟩ := orderly.fitting
  rw [Retrying.step]
  split
  · exact orderly.resembling found (onProgress_resembles progress found s.process)
  · exact orderly

theorem Orderly.cancels (orderly : Orderly id s) : Orderly id (s.step id .cancel) := by
  obtain ⟨row, found, fitting⟩ := orderly.fitting
  rw [Retrying.step]
  split
  · rename_i task handling there
    obtain rfl : row = task := Option.some.inj (found.symm.trans there)
    split
    · rename_i cancelable
      have active : row.active = true := by simpa [Tasks.cancelable, Task.onWorker, fitting.type] using cancelable
      exact { orderly with
        fitting := ⟨row, found, fitting.type,
          fun thread member works => ⟨(fitting.working thread member works).1, (fitting.working thread member works).2.1,
            fun task marked same => by obtain ⟨rfl, _⟩ := Prod.mk.inj (Option.some.inj same); rfl⟩,
          fitting.holding, fun marked => (fitting.flagged marked).imp_right fun canceled =>
            ⟨canceled.1, canceled.2.imp_right (by rintro ⟨task, its, _⟩; rw [handling] at its; contradiction)⟩,
          fitting.queued⟩
        marked := fun task same => by cases same
        handled := fun task marked same => by obtain ⟨rfl, _⟩ := Prod.mk.inj (Option.some.inj same); exact active }
    · exact orderly
  · exact orderly

/-- The request marks the process; its run is canceled from now on. -/
theorem Orderly.marks (orderly : Orderly id s) (sound : s.Sound id .mark) : Orderly id (s.step id .mark) := by
  obtain ⟨row, found, fitting⟩ := orderly.fitting
  rw [Retrying.step]
  split
  · rename_i task handling
    exact { orderly with
      fitting := ⟨row, found, fitting.type,
        fun thread member works => ⟨(fitting.working thread member works).1, (fitting.working thread member works).2.1,
          fun other marked same => by
            obtain ⟨rfl, _⟩ := Prod.mk.inj (Option.some.inj same)
            exact (fitting.working thread member works).2.2 task false handling⟩,
        fitting.holding, fun _ => by
          by_cases clears : ∃ thread ∈ s.threads, thread.stage.clears = true
          · exact .inl clears
          · refine .inr ⟨List.mem_cons_self, ?_⟩
            by_cases canceled : task.errorCode = some .canceled
            · have known := sound (fun thread member => by simpa using fun its => clears ⟨thread, member, its⟩) task
                handling canceled
              rw [found] at known
              exact .inl (by simpa using known)
            · exact .inr ⟨task, rfl, canceled⟩,
        fitting.queued⟩
      known := orderly.known
      active := orderly.active
      warned := fun _ _ _ _ => List.mem_cons_self
      marked := fun _ _ => List.mem_cons_self
      handled := fun other marked same => by
        obtain ⟨rfl, _⟩ := Prod.mk.inj (Option.some.inj same)
        exact orderly.handled task false handling
      loaded := fun ticking => ⟨(orderly.loaded ticking).1, (orderly.loaded ticking).2.1, fun queued =>
        ⟨((orderly.loaded ticking).2.2 queued).starts, ((orderly.loaded ticking).2.2 queued).threads, fun _ =>
          List.mem_cons_self⟩⟩
      recovering := fun ticking => ⟨(orderly.recovering ticking).1, (orderly.recovering ticking).2.1, fun _ => List.mem_cons_self⟩
      delivers := fun _ uncanceled => absurd List.mem_cons_self uncanceled }
  · exact orderly

/-- What the request, which has loaded `task`, commits to a row. -/
structure Stamped (task row after : Task) : Prop where
  type : after.type = row.type
  file : after.audioId = row.audioId
  status : after.status = .error
  code : task.errorCode ≠ some .canceled ∨ row.errorCode = some .canceled → after.errorCode = some .canceled

theorem merged_canceled {task : Task} (active : task.active = true) (row : Task) :
    Stamped task row (Task.merged task (Tasks.canceled .canceled task) row) where
  type := column_unchanged task.type row.type
  file := column_unchanged task.audioId row.audioId
  status := by
    refine column_eq (fun same => ?_) fun _ => rfl
    rw [Task.active, ← show TaskStatus.error = task.status from same] at active
    contradiction
  code known := column_eq (fun same => known.resolve_left fun different => different (Eq.symm same)) fun _ => rfl

theorem Orderly.commits (orderly : Orderly id s) : Orderly id (s.step id .commit) := by
  obtain ⟨row, found, fitting⟩ := orderly.fitting
  rw [Retrying.step]
  split
  · rename_i task handling
    have stamped := merged_canceled (orderly.handled task true handling) row
    have there := find_modifyTask found (Task.merged task (Tasks.canceled .canceled task))
    have marked := orderly.marked task handling
    have below : id < (s.hub.modifyTask id (Task.merged task (Tasks.canceled .canceled task))).nextId := orderly.below
    generalize Task.merged task (Tasks.canceled .canceled task) row = after at stamped there
    generalize s.hub.modifyTask id (Task.merged task (Tasks.canceled .canceled task)) = hub at there below ⊢
    refine { orderly with
      below
      fitting := ⟨after, there, stamped.type.trans fitting.type, ?working, ?holding, ?flagged, ?queued⟩
      marked := fun _ same => by cases same
      handled := fun _ _ same => by cases same
      delivers := fun _ uncanceled => absurd marked uncanceled }
    case working =>
      intro thread member works
      obtain ⟨its_run, _, same⟩ := fitting.working thread member works
      refine ⟨its_run, .inr ⟨stamped.status, stamped.code ?_⟩, fun _ _ other => by cases other⟩
      rw [same task true handling]
      exact (em (task.errorCode = some .canceled)).symm
    case holding =>
      intro thread member holds
      obtain ⟨fits, running⟩ := fitting.holding thread member holds
      exact ⟨⟨fits.saved, fits.type, fits.status, fits.file.trans stamped.file.symm⟩, running⟩
    case flagged =>
      intro flagged
      refine (fitting.flagged flagged).imp_right fun ⟨canceled, known⟩ => ⟨canceled, .inl (stamped.code ?_)⟩
      rcases known with its | ⟨other, same, different⟩
      · exact .inr its
      · obtain rfl : task = other := (Prod.mk.inj (Option.some.inj (handling.symm.trans same))).1
        exact .inl different
    case queued =>
      intro queued
      rw [stamped.status] at queued
      contradiction
  · exact orderly

/-- A retry is refused while a thread works: it takes rows that have failed, and none that a cancel has failed. -/
theorem Orderly.retries (orderly : Orderly id s) (orgId now : Nat) : Orderly id (s.step id (.retry orgId now)) := by
  obtain ⟨row, found, fitting⟩ := orderly.fitting
  rw [Retrying.step]
  split
  · rename_i accepts
    simp only [Bool.and_eq_true, Option.isNone_iff_eq_none, found, Option.any_some] at accepts
    obtain ⟨unhandled, retriable⟩ := accepts
    have there : (Tasks.retryTask id orgId now s.hub).tasks.find id = some (Tasks.retried now row) := by
      simp only [Tasks.retryTask, found, Option.any_some, retriable, if_true]
      exact find_modifyTask found _
    have below : id < (Tasks.retryTask id orgId now s.hub).nextId := by
      simp only [Tasks.retryTask, found, Option.any_some, retriable, if_true]
      exact orderly.below
    simp only [Tasks.retriable, Bool.and_eq_true, beq_iff_eq, Bool.not_eq_true'] at retriable
    -- What may be retried has failed, and not by a cancel; so no thread works on it any more.
    have failed : row.status = .error := retriable.1.1.1.1
    have uncoded : row.errorCode ≠ some .canceled := by
      intro code
      have refused := retriable.1.1.2
      rw [code] at refused
      contradiction
    have unworked {thread : ImportThread} (member : thread ∈ s.threads) : thread.stage.isWorking = false := by
      by_contra works
      rcases (fitting.working thread member (by simpa using works)).2.1 with running | ⟨_, code⟩
      · rw [failed] at running
        contradiction
      · exact uncoded code
    have unheld {thread : ImportThread} (member : thread ∈ s.threads) : thread.stage.holds = false := by
      have rests := unworked member
      cases stage : thread.stage <;> simp_all [Stage.holds, Stage.isWorking]
    generalize Tasks.retryTask id orgId now s.hub = hub at there below ⊢
    exact { orderly with
      below
      fitting := ⟨_, there, fitting.type,
        fun thread member works => by rw [unworked member] at works; contradiction,
        fun thread member holds => by rw [unheld member] at holds; contradiction,
        fun marked => (fitting.flagged marked).imp_right (by
          rintro ⟨_, code | ⟨task, handling, _⟩⟩
          · exact absurd code uncoded
          · rw [unhandled] at handling
            contradiction),
        fun _ => rfl⟩
      started := Nat.zero_le 1
      warned := fun _ thread member works => by rw [unworked member] at works; contradiction
      marked := fun task handling => by rw [unhandled] at handling; contradiction
      loaded := fun ticking => ⟨(orderly.loaded ticking).1, (orderly.loaded ticking).2.1, fun _ =>
        ⟨rfl, fun thread member => unworked member, fun delivered => by cases delivered⟩⟩
      restarted := fun ticking => ⟨(orderly.restarted ticking).1, rfl⟩
      recovering := fun ticking => ⟨(orderly.recovering ticking).1, (orderly.recovering ticking).2.1,
        fun delivered => by cases delivered⟩
      delivers := fun delivered => by cases delivered }
  · exact orderly

theorem Orderly.restarts (orderly : Orderly id s) : Orderly id (s.step id .restart) := by
  obtain ⟨row, found, fitting⟩ := orderly.fitting
  rw [Retrying.step]
  exact { orderly with
    fitting := ⟨row, found, fitting.type, fun _ member => (List.not_mem_nil member).elim, fun _ member =>
      (List.not_mem_nil member).elim,
      fun marked => (List.not_mem_nil marked).elim, fun _ => rfl⟩
    single := Nat.zero_le 1
    started := Nat.zero_le 1
    known := ⟨fun known => (List.not_mem_nil known).elim, fun some => absurd rfl some⟩
    active := fun active => (List.not_mem_nil active).elim
    alive := fun _ member => (List.not_mem_nil member).elim
    warned := fun marked => (List.not_mem_nil marked).elim
    marked := fun _ handling => by cases handling
    handled := fun _ _ handling => by cases handling
    loaded := fun ticking => by cases ticking
    ending := fun ticking => by cases ticking
    restarted := fun _ => ⟨rfl, rfl⟩
    recovering := fun ticking => by cases ticking }

theorem Orderly.moved (orderly : Orderly id s) (object : Held) (ticking : Ticking) :
    ∃ row, s.hub.tasks.find id = some row ∧ Fitting id { s with object, ticking } row := by
  obtain ⟨row, found, fitting⟩ := orderly.fitting
  exact ⟨row, found, fitting.type, fitting.working, fitting.holding, fitting.flagged, fitting.queued⟩

theorem Orderly.looks (orderly : Orderly id s) (world : World) (looks : s.ticking = .idle ∨ s.ticking = .restarted) :
    Orderly id (s.tick id world) := by
  obtain ⟨row, found, fitting⟩ := orderly.fitting
  rw [Retrying.tick]
  rcases looks with ticking | ticking
  · simp only [ticking, found]
    split
    · exact { orderly with
        fitting := orderly.moved _ _
        loaded := fun _ => ⟨rfl, fitting.type, fun queued => orderly.open_of_queued found queued⟩
        ending := fun ticking => by cases ticking
        restarted := fun ticking => by rcases ticking with same | same <;> cases same
        recovering := fun ticking => by cases ticking }
    · exact orderly
  · simp only [ticking, found]
    have fresh := orderly.restarted (.inl ticking)
    split
    · rename_i running
      refine { orderly with
        fitting := orderly.moved _ _
        loaded := fun ticking => by cases ticking
        ending := fun ticking => by cases ticking
        restarted := fun _ => fresh
        recovering := fun _ => ⟨rfl, running, fun delivered => ?_⟩ }
      by_contra uncanceled
      obtain ⟨task, _, there, success, _⟩ := orderly.delivers delivered uncanceled
      obtain rfl : row = task := Option.some.inj (found.symm.trans there)
      rw [running] at success
      contradiction
    · exact { orderly with
        fitting := orderly.moved _ _
        loaded := fun ticking => by cases ticking
        ending := fun ticking => by cases ticking
        restarted := fun ticking => by rcases ticking with same | same <;> cases same
        recovering := fun ticking => by cases ticking }

theorem Orderly.rested (orderly : Orderly id s) (object : Held) : Orderly id { s with object, ticking := .idle } :=
  { orderly with
    fitting := orderly.moved _ _
    loaded := fun ticking => by cases ticking
    ending := fun ticking => by cases ticking
    restarted := fun ticking => by rcases ticking with same | same <;> cases same
    recovering := fun ticking => by cases ticking }

theorem wp_commitAt_views {world : World} {site : Site} {view : Session Hub Process} :
    wp (commitAt world site) (fun _ after => after.memory = view.memory ∧ after.committed = view.working)
      (fun _ after => after.memory = view.memory ∧ after.committed = view.committed) view :=
  wp_commitAt ⟨rfl, rfl⟩ ⟨rfl, rfl⟩

/-- A thread starts for an open run whose row is running from now on. -/
theorem Orderly.threaded (orderly : Orderly id s) (handling : s.handling = none) (unthreads : s.threads = []) (opened : s.Open)
    {hub : Hub} (below : id < hub.nextId) {row : Task} (found : hub.tasks.find id = some row) (running : row.status = .running)
    (type : row.type = .importUrl) {process : Process} (known : id ∈ process.importThreads)
    (marks : process.importCancelled = s.process.importCancelled) (task : Task) :
    Orderly id { s with
      hub, process
      object := ⟨task, task⟩
      ticking := .ending
      threads := [⟨⟨task, task⟩, .begins, s.run⟩]
      starts := 1 } := by
  -- no thread is there to take a mark back, so a mark belongs to a canceled run
  have warned (marked : id ∈ process.importCancelled) : s.run ∈ s.canceled := by
    obtain ⟨_, _, fitting⟩ := orderly.fitting
    rw [marks] at marked
    rcases fitting.flagged marked with ⟨thread, member, _⟩ | ⟨canceled, _⟩
    · rw [unthreads] at member
      exact (List.not_mem_nil member).elim
    · exact canceled
  refine { orderly with
    below
    fitting := ⟨row, found, type, ?_, ?_, fun _ => .inl ⟨_, List.mem_cons_self, rfl⟩, fun queued => ?_⟩
    single := Nat.le_refl 1
    started := Nat.le_refl 1
    known := iff_of_true known (List.cons_ne_nil _ _)
    active := fun _ => ⟨_, List.mem_cons_self, rfl⟩
    alive := fun thread member => by rw [List.mem_singleton.mp member]; rfl
    warned := fun marked _ _ _ => warned marked
    loaded := fun ticking => by cases ticking
    ending := fun _ => ⟨_, rfl⟩
    restarted := fun ticking => by rcases ticking with same | same <;> cases same
    recovering := fun ticking => by cases ticking
    delivers := fun delivered uncanceled => absurd (opened.undelivered delivered) uncanceled }
  · intro thread member _
    rw [List.mem_singleton.mp member]
    exact ⟨rfl, .inl running, fun task marked same => by rw [handling] at same; contradiction⟩
  · intro thread member holds
    rw [List.mem_singleton.mp member] at holds
    cases holds
  · rw [running] at queued
    contradiction

/-- `maybe_start_import` on a row that was loaded before. -/
theorem Orderly.starts (orderly : Orderly id s) {world : World} (ticking : s.ticking = .loaded) (handling : s.handling = none)
    (commits : s.object.base.status = .queued → world.raises (.spawn id) = false) : Orderly id (s.tick id world) := by
  obtain ⟨row, found, fitting⟩ := orderly.fitting
  obtain ⟨saved, type, opens⟩ := orderly.loaded ticking
  obtain ⟨outcome, after, holds, ran⟩ := @Held.run_of_wp id s.hub row s.object s.process _ (maybeStartImport world id)
    (fun outcome after => outcome.isOk = true ∧
      ((after.memory = s.process ∧ after.committed = s.hub.modifyTask id (fun _ => s.object.base) ∧
        ∃ metaJson, after.working.tasks.find id = some { s.object.own with metaJson }) ∨
      (s.object.own.status = .queued ∧ id ∉ s.process.importThreads ∧
        after.memory = { s.process with
          importActive := id :: s.process.importActive
          importThreads := id :: s.process.importThreads } ∧
        after.committed = (s.hub.modifyTask id fun _ => s.object.own).modifyTask id (Ingest.started "probing") ∧
        after.working = after.committed))) found
    (wp_mono (maybeStart_outcome (s.object.own_found found s.process) (saved ▸ commits)) (fun _ _ held => ⟨rfl, held⟩)
      fun _ _ => False.elim)
  obtain ⟨passed, ⟨memory, committed, metaJson, own⟩ | ⟨queued, unthreaded, memory, committed, working⟩⟩ := holds
  · -- Nothing starts: the object has changed in its fields, and nothing has been committed.
    have idle : s.tick id world = { s with
        hub := (s.hub.modifyTask id fun _ => s.object.base).modifyTask id fun task => Task.merged s.object.base task row
        object := ⟨s.object.base, { s.object.base with metaJson }⟩
        ticking := .ending } := by
      have base : (s.hub.modifyTask id fun _ => s.object.base).tasks.find id = some s.object.base := find_modifyTask found _
      simp only [Retrying.tick, ticking, ran, passed, memory, committed, base, own, saved, Option.getD_some, if_true,
        Bool.not_and_self, Bool.false_eq_true, if_false]
    rw [idle]
    have still := orderly.resembling found (Resembling.merged found s.object.base s.object.base.metaJson)
    exact { still with
      fitting := still.moved _ _
      loaded := fun ticking => by cases ticking
      ending := fun _ => ⟨metaJson, rfl⟩
      restarted := fun ticking => by rcases ticking with same | same <;> cases same
      recovering := fun ticking => by cases ticking }
  · -- A thread has started, and the row is committed as running.
    rw [saved] at queued committed
    have opened := opens queued
    have unthreads : s.threads = [] := by
      by_contra threaded
      exact unthreaded (orderly.known.mpr threaded)
    have at_base : after.committed.tasks.find id = some (Ingest.started "probing" s.object.base) := by
      rw [committed]
      exact find_modifyTask (find_modifyTask found _) _
    have merged := find_modifyTask at_base fun task => Task.merged s.object.base task row
    have below : id < (after.committed.modifyTask id fun task => Task.merged s.object.base task row).nextId := by
      rw [committed]
      exact orderly.below
    have running : (Task.merged s.object.base (Ingest.started "probing" s.object.base) row).status = .running :=
      column_eq (fun same => by rw [queued] at same; contradiction) fun _ => rfl
    have its_type : (Task.merged s.object.base (Ingest.started "probing" s.object.base) row).type = .importUrl :=
      (column_unchanged s.object.base.type row.type).trans fitting.type
    have known : id ∈ after.memory.importThreads := by
      rw [memory]
      exact List.mem_cons_self
    have starts : s.tick id world = { s with
        hub := after.committed.modifyTask id fun task => Task.merged s.object.base task row
        process := after.memory
        object := ⟨Ingest.started "probing" s.object.base, Ingest.started "probing" s.object.base⟩
        ticking := .ending
        threads := [⟨⟨Ingest.started "probing" s.object.base, Ingest.started "probing" s.object.base⟩, .begins, s.run⟩]
        starts := 1 } := by
      have starting : (!s.process.importThreads.contains id && after.memory.importThreads.contains id) = true := by
        simp [unthreaded, known]
      simp only [Retrying.tick, ticking, ran, passed, at_base, working, Option.getD_some, if_true, starting, unthreads,
        List.nil_append, opened.starts, Nat.zero_add]
    rw [starts]
    exact orderly.threaded handling unthreads opened below merged running its_type known (by rw [memory]) _

theorem Orderly.ends (orderly : Orderly id s) (world : World) (ticking : s.ticking = .ending) : Orderly id (s.tick id world) := by
  obtain ⟨row, found, _⟩ := orderly.fitting
  obtain ⟨metaJson, own⟩ := orderly.ending ticking
  obtain ⟨outcome, after, ⟨memory, committed⟩, ran⟩ :=
    @Held.run_of_wp id s.hub row s.object s.process _ (commitAt world (.tick 3))
    (fun _ after => after.memory = s.process ∧ ∃ metaJson, after.committed = s.hub.modifyTask id fun _ =>
      { s.object.base with metaJson })
    found (wp_mono wp_commitAt_views (fun _ _ held => ⟨held.1, metaJson, own ▸ held.2⟩)
      fun _ _ held => ⟨held.1, s.object.base.metaJson, held.2⟩)
  obtain ⟨metaJson, committed⟩ := committed
  simp only [Retrying.tick, ticking, ran, memory, committed]
  exact (orderly.resembling found (Resembling.merged found s.object.base metaJson)).rested _

theorem Orderly.recovers (orderly : Orderly id s) (world : World) (ticking : s.ticking = .recovering) :
    Orderly id (s.tick id world) := by
  obtain ⟨row, found, fitting⟩ := orderly.fitting
  obtain ⟨saved, running, undelivered⟩ := orderly.recovering ticking
  obtain ⟨unthreads, unstarted⟩ := orderly.restarted (.inr ticking)
  have requeues : wp (do
      modifyTask id requeued
      commitAt world (.tick 4) : Program Unit)
      (fun _ after => after.memory = s.process ∧ after.committed.nextId = s.hub.nextId ∧
        after.committed.tasks.find id = some (requeued s.object.base))
      (fun _ after => after.memory = s.process ∧ after.committed.nextId = s.hub.nextId ∧
        after.committed.tasks.find id = some s.object.base) (s.object.session id s.hub s.process) := by
    rw [wp_bind, wp_modifyTask]
    exact wp_commitAt ⟨rfl, rfl, saved ▸ find_modifyTask (s.object.own_found found s.process) _⟩
      ⟨rfl, rfl, find_modifyTask found _⟩
  obtain ⟨outcome, after, ⟨memory, nextId, object, at_object, one⟩, ran⟩ := Held.run_of_wp
    (Q := fun _ after => after.memory = s.process ∧ after.committed.nextId = s.hub.nextId ∧ ∃ object : Task,
      after.committed.tasks.find id = some object ∧ (object = s.object.base ∨ object = requeued s.object.base)) found
    (wp_mono requeues (fun _ _ held => ⟨held.1, held.2.1, _, held.2.2, .inr rfl⟩) fun _ _ held =>
      ⟨held.1, held.2.1, _, held.2.2, .inl rfl⟩)
  have merged := find_modifyTask at_object fun task => Task.merged s.object.base task row
  have below : id < (after.committed.modifyTask id fun task => Task.merged s.object.base task row).nextId :=
    lt_of_lt_of_eq orderly.below nextId.symm
  -- Whether or not the commit goes through, the row keeps its type and its error code.
  have kept : (Task.merged s.object.base object row).type = row.type ∧ (Task.merged s.object.base object row).errorCode =
    row.errorCode := by
    rcases one with rfl | rfl
    · exact ⟨column_unchanged _ _, column_unchanged _ _⟩
    · exact ⟨column_unchanged s.object.base.type row.type, column_unchanged s.object.base.errorCode row.errorCode⟩
  simp only [Retrying.tick, ticking, ran, memory]
  generalize after.committed.modifyTask id (fun task => Task.merged s.object.base task row) = hub at merged below ⊢
  generalize Task.merged s.object.base object row = now at merged kept
  have unworked {thread : ImportThread} (member : thread ∈ s.threads) : False := by
    rw [unthreads] at member
    exact List.not_mem_nil member
  refine Orderly.rested (s := { s with hub }) { orderly with
    below
    fitting := ⟨now, merged, kept.1.trans fitting.type, fun _ member => (unworked member).elim, fun _ member =>
      (unworked member).elim,
      fun marked => (fitting.flagged marked).imp_right fun ⟨canceled, known⟩ => ⟨canceled, kept.2 ▸ known⟩, fun _ => unstarted⟩
    delivers := fun delivered uncanceled => absurd (undelivered delivered) uncanceled } _

theorem Orderly.ticks (orderly : Orderly id s) {world : World} (handling : s.handling = none) (sound : s.Sound id (.tick world)) :
    Orderly id (s.tick id world) := by
  cases ticking : s.ticking with
  | idle => exact orderly.looks world (.inl ticking)
  | loaded => exact orderly.starts ticking handling (sound handling ticking)
  | ending => exact orderly.ends world ticking
  | restarted => exact orderly.looks world (.inr ticking)
  | recovering => exact orderly.recovers world ticking

theorem Orderly.step (orderly : Orderly id s) {event : RetryEvent} (sound : s.Sound id event) : Orderly id (s.step id event) := by
  cases event with
  | thread n world detail =>
    cases found : s.threads[n]? with
    | none => simpa [Retrying.step, found] using orderly
    | some thread =>
      obtain ⟨threads, rfl⟩ := orderly.only found
      cases works : thread.stage.isWorking with
      | true => exact orderly.works threads works world detail
      | false => exact orderly.finally threads works world detail
  | progress n world progress => exact orderly.progresses n world progress
  | tick world =>
    rw [Retrying.step]
    split
    · exact orderly
    · rename_i unhandled
      exact orderly.ticks (Option.not_isSome_iff_eq_none.mp unhandled) sound
  | cancel => exact orderly.cancels
  | mark => exact orderly.marks sound
  | commit => exact orderly.commits
  | retry orgId now => exact orderly.retries orgId now
  | restart => exact orderly.restarts

theorem Orderly.starts_queued (orderly : Orderly id s) {row : Task} (found : s.hub.tasks.find id = some row)
    (queued : row.status = .queued) (unthreads : s.threads = []) (ticking : s.ticking = .idle) (handling : s.handling = none)
    {world : World} (commits : world.raises (.spawn id) = false)
    (room : s.process.importActive.length < world.importMaxConcurrent) :
    ∃ thread, ((s.step id (.tick world)).step id (.tick world)).threads = [thread] ∧ thread.run = s.run := by
  obtain ⟨its, there, fitting⟩ := orderly.fitting
  obtain rfl : its = row := Option.some.inj (there.symm.trans found)
  have unthreaded : id ∉ s.process.importThreads := fun known => orderly.known.mp known unthreads
  have inactive : id ∉ s.process.importActive := by
    intro active
    obtain ⟨thread, member, _⟩ := orderly.active active
    rw [unthreads] at member
    exact List.not_mem_nil member
  have looked : s.step id (.tick world) = { s with object := ⟨its, its⟩, ticking := .loaded } := by
    simp [Retrying.step, Retrying.tick, handling, ticking, found, Task.active, queued]
  rw [looked]
  obtain ⟨outcome, after, known, ran⟩ := @Held.run_of_wp id s.hub its ⟨its, its⟩ s.process _ (maybeStartImport world id)
    (fun _ after => id ∈ after.memory.importThreads) found
    (wp_mono (maybeStart_starts (Held.own_found ⟨its, its⟩ found s.process) fitting.type queued inactive unthreaded room commits)
      (fun _ _ known => known) fun _ _ => False.elim)
  have starting : (!s.process.importThreads.contains id && after.memory.importThreads.contains id) = true := by
    simp [unthreaded, known]
  refine ⟨⟨⟨(after.committed.tasks.find id).getD its, (after.working.tasks.find id).getD its⟩, .begins, s.run⟩, ?_, rfl⟩
  simp only [Retrying.step, Retrying.tick, handling, Option.isSome_none, Bool.false_eq_true, if_false, ran, starting,
    if_true, unthreads, List.nil_append]

theorem Orderly.afresh (orderly : Orderly id s) : Afresh id s where
  single := ⟨orderly.single, orderly.started⟩
  starts _ found queued unthreads ticking handling world calm room :=
    orderly.starts_queued found queued unthreads ticking handling (congrFun calm _) room
  canceled thread member asks marked := by
    have works : thread.stage.isWorking = true := by
      cases stage : thread.stage <;> simp_all [Stage.asks, Stage.isWorking]
    obtain ⟨row, _, fitting⟩ := orderly.fitting
    rw [(fitting.working thread member works).1]
    exact orderly.warned marked thread member works
  delivers := orderly.delivers

end Running

/-- Each run of an import is its own, in every run of sound events. -/
theorem retried_afresh (start : StoredImport) {events : List RetryEvent}
    (sound : Along (Retrying.step start.id) (Retrying.Sound start.id) (.opened start) events) :
    Always (Retrying.step start.id) (Afresh start.id) (.opened start) events := by
  have orderly := always_of_along (I := Orderly start.id) (fun _ _ orderly its => orderly.step its) (.opened start) sound
  exact fun done rest same => (orderly done rest same).afresh

section Samples

def queuedImport : StoredImport where
  hub := { smallHub with tasks := Table.put ∅ 5 (Tasks.newTask .importUrl smallSubmission
    (some [("url", .str "https://v.example/1")])) }
  process := .fresh
  id := 5
  task := Tasks.newTask .importUrl smallSubmission (some [("url", .str "https://v.example/1")])
  stored := rfl
  type := rfl
  numbered := by decide
  inactive := List.not_mem_nil
  unthreaded := List.not_mem_nil
  uncanceled := List.not_mem_nil

def refusingWorld : World := { silentWorld with download := fun _ => .failed .downloadFailed [] }

def sections (n : Nat) : List RetryEvent := List.replicate n (.thread 0 refusingWorld "")

def ticks (n : Nat) : List RetryEvent := List.replicate n (.tick silentWorld)

def triedAgain : List RetryEvent := ticks 3 ++ sections 5 ++ [.retry 2 1] ++ ticks 3

theorem tried_again_afresh : Always (Retrying.step queuedImport.id) (Afresh queuedImport.id)
    (.opened queuedImport) triedAgain := by
  refine retried_afresh queuedImport ?_
  have ticks_sound (world : World) (calm : world = silentWorld) (s : Retrying) : s.Sound queuedImport.id (.tick world) := by
    subst calm
    exact fun _ _ _ => rfl
  exact ⟨ticks_sound _ rfl _, ticks_sound _ rfl _, ticks_sound _ rfl _, trivial, trivial, trivial, trivial, trivial, trivial,
    ticks_sound _ rfl _, ticks_sound _ rfl _, ticks_sound _ rfl _, trivial⟩

/-- A tick has loaded the row, and starts the import although a cancel has gone through. A second cancel loads that row,
and the download fails before the request goes on: the row keeps its failure, and the mark of the process stays. -/
def canceledTwice : List RetryEvent :=
  ticks 1 ++ [.cancel, .mark, .commit] ++ ticks 2 ++ sections 1 ++ [.cancel] ++ sections 4 ++
    [.mark, .commit, .retry 2 1] ++ ticks 2

theorem retry_sees_older_cancel :
    ¬ Always (Retrying.step queuedImport.id) (Afresh queuedImport.id) (.opened queuedImport) canceledTwice := by
  intro always
  have canceled := (always _ [] (List.append_nil _).symm).canceled
  have foreign : (run (Retrying.step queuedImport.id) (.opened queuedImport) canceledTwice).threads.any (fun thread =>
      thread.stage.asks &&
        !(run (Retrying.step queuedImport.id) (.opened queuedImport) canceledTwice).canceled.contains thread.run) = true := by
    decide +kernel
  have marked : queuedImport.id ∈ (run (Retrying.step queuedImport.id)
    (.opened queuedImport) canceledTwice).process.importCancelled := by
    decide +kernel
  obtain ⟨thread, member, asks⟩ := List.any_eq_true.mp foreign
  simp only [Bool.and_eq_true, Bool.not_eq_true', List.contains_eq_mem, decide_eq_false_iff_not] at asks
  exact asks.2 (canceled thread member asks.1 marked)

end Samples

end IdigestHub.System
