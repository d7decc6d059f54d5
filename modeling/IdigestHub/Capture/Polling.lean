import IdigestHub.Capture.Thread
import IdigestHub.Dispatcher.Settling

/-! The polling loop of a capture over the answers that its worker gives, one after the other. -/

set_option autoImplicit false

namespace IdigestHub.Capture

open Foundation Foundation.UnitOfWork Dispatcher Ingest

/-- `datetime.isoformat` and `datetime.fromisoformat`. Times are in microseconds. -/
structure Clock where
  isoformat : Nat → String
  fromisoformat : String → Option Nat
  fromisoformat_isoformat : ∀ time, fromisoformat (isoformat time) = some time

/-- What a worker without a ready artifact lets the loop hear, and when; `detail` is the text of the
exception that a failed call raises. -/
structure Heard (python : Python) where
  reply : Reply
  time : Nat
  detail : String
  unready : ∀ code poll, reply = .answer code poll → artifactReadyInPoll python poll = false

section Loop

variable (world : World) (clock : Clock) (stuck : Int)

/-- The world of one poll. Nothing but the worker fails. -/
def hearing (heard : Heard world.python) : World := { world with
  now := heard.time
  getTask := fun _ => heard.reply
  isoNow := clock.isoformat heard.time
  finalizingStuck := fun since => (clock.fromisoformat since).any fun begun => stuck < (heard.time : Int) - begun
  raises := fun _ => false }

/-- One round of the loop, with the handler for what it raises: whether the loop goes on. -/
def pollRound (id node : Nat) (detail : String) : Program Bool := do
  match ← Tx.attempt (threadPoll world id node) with
  | .ok (.poll _) => pure true
  | .ok _ => pure false
  | .error _ => do
    threadFailed world id detail
    pure false

/-- The hub between two polls. The session of the thread holds what is stored. -/
structure Polling where
  hub : Hub
  process : Process
  going : Bool

def Polling.step (id node : Nat) (s : Polling) (heard : Heard world.python) : Polling :=
  if s.going then
    let (outcome, after) := (pollRound (hearing world clock stuck heard) id node heard.detail).run
      (Session.start s.hub s.process)
    ⟨after.committed, after.memory, match outcome with | .ok going => going | .error _ => false⟩
  else s

def Polling.after (id node : Nat) (start : Polling) (heard : Nat → Heard world.python) : Nat → Polling
  | 0 => start
  | n + 1 => (Polling.after id node start heard n).step world clock stuck id node (heard n)

def Polling.Left (id : Nat) (s : Polling) : Prop :=
  s.going = false ∧ ∃ task, s.hub.tasks.find id = some task ∧ task.active = false

end Loop

section Answers

variable {python : Python}

def Heard.fatal (heard : Heard python) : Bool :=
  match heard.reply with
  | .raises | .unreachable => true
  | .answer code poll => code == 404 || workerStatus python poll == "error"

def Heard.active (heard : Heard python) : Bool :=
  match heard.reply with
  | .raises | .unreachable => false
  | .answer _ poll => captureActiveWorkerStatuses.contains (workerStatus python poll)

end Answers

section Round

variable {world : World}

/-- The row that a session shows under an id, wherever one looks. -/
abbrev Shows (id : Nat) (task : Task) (s : Session Hub Process) : Prop :=
  Everywhere (fun hub => hub.tasks.find id = some task) s

variable {A : Type} {id : Nat} {task : Task} {s : Session Hub Process}

theorem shows_start {hub : Hub} (found : hub.tasks.find id = some task) (process : Process) :
    Shows id task (Session.start hub process) := ⟨found, found, found⟩

theorem find_modifyTask {hub : Hub} (found : hub.tasks.find id = some task) (f : Task → Task) :
    (hub.modifyTask id f).tasks.find id = some (f task) := by
  simp [Hub.modifyTask, Table.find_modify, found]

theorem Shows.modified (shows : Shows id task s) (f : Task → Task) :
    Shows id (f task) (s.edit (s.working.modifyTask id f)).commit := by
  have changed := find_modifyTask shows.working f
  exact ⟨changed, changed, changed⟩

variable (quiet : world.raises = fun _ => false)
include quiet

theorem guardSite_quiet (site : Site) : guardSite world site = pure () := by simp [guardSite, quiet]

theorem commitAt_quiet (site : Site) : commitAt world site = Tx.commit := by simp [commitAt, quiet]

theorem callWorker_quiet (node : Nat) : callWorker world id node = Tx.commit := by
  rw [callWorker, guardSite_quiet quiet, commitAt_quiet quiet]
  rfl

variable {Q : Unit → Session Hub Process → Prop} {R : Fault → Session Hub Process → Prop}

theorem wp_forwardCaptureStop (shows : Shows id task s)
    (value : ∀ after, Shows id task after → after.memory = s.memory → Q () after) :
    wp (forwardCaptureStop world id) Q R s := by
  rw [forwardCaptureStop, wp_bind]
  refine wp_loaded_of shows.working ?_
  rw [wp_bind, wp_read]
  split
  · split
    · rw [callWorker_quiet quiet, wp_commit]
      exact value _ shows.commit rfl
    · exact value s shows rfl
  · exact value s shows rfl

theorem wp_forwardCaptureCancel (shows : Shows id task s)
    (value : ∀ after, Shows id task after → after.memory = s.memory → Q () after) :
    wp (forwardCaptureCancel world id) Q R s := by
  rw [forwardCaptureCancel, wp_bind]
  refine wp_loaded_of shows.working ?_
  rw [wp_bind, wp_read]
  split
  · split
    · rw [callWorker_quiet quiet, wp_bind, wp_attempt, wp_commit]
      exact value _ shows.commit rfl
    · exact value s shows rfl
  · exact value s shows rfl

theorem wp_failAndReturn {Q : Awaiting → Session Hub Process → Prop} (shows : Shows id task s) {code : ErrorCode}
    {extra : Dict} {step : Nat}
    (value : ∀ after, after.committed.tasks.find id = some (failed code extra task) → Q .returned after) :
    wp (failAndReturn world id code extra step) Q R s := by
  rw [failAndReturn, failAndCommit, failTask, guardSite_quiet quiet, commitAt_quiet quiet]
  simp only [wp_bind, wp_modifyTask, wp_flush, wp_pure, wp_commit]
  exact value _ (find_modifyTask shows.working _)

theorem wp_threadFailed (detail : String) (stored : s.committed.tasks.find id = some task)
    (value : ∀ after extra, after.committed.tasks.find id = some (failed .pipelineError extra task) → Q () after) :
    wp (threadFailed world id detail) Q R s := by
  rw [threadFailed, wp_bind, wp_rollback, wp_bind, wp_read, Session.rollback_working, stored]
  rw [Option.isSome_some, if_pos rfl, failAndCommit, failTask, guardSite_quiet quiet, commitAt_quiet quiet]
  simp only [wp_bind, wp_modifyTask, wp_flush, wp_pure, wp_commit]
  exact value _ _ (find_modifyTask stored _)

end Round

section Timer

variable (clock : Clock)

/-- What the loop needs of the row for its next poll: the stop is pending, and `since` is the time at
which the current finalization began, if there is one. -/
structure Pollable (id : Nat) (process : Process) (since : Option Nat) (task : Task) : Prop where
  pending : captureStopPending process id task = true
  timer : task.metaDict.find "finalizing_since" = since.map fun time => .str (clock.isoformat time)

variable {world : World}

def Heard.timer (heard : Heard world.python) (since : Option Nat) : Option Nat :=
  if heard.active then some (since.getD heard.time) else none

/-- The worker has been finalizing for too long. -/
def Heard.overdue (heard : Heard world.python) (stuck : Int) (since : Option Nat) : Bool :=
  heard.active && stuck < (heard.time : Int) - (since.getD heard.time : Nat)

theorem finalizing_iff_active (reported : String) :
    (if captureStopForwardStatuses.contains reported then "finalizing" else reported) = "finalizing" ↔
      captureActiveWorkerStatuses.contains reported = true := by
  simp only [captureStopForwardStatuses, captureActiveWorkerStatuses, List.contains_cons, List.contains_nil]
  by_cases same : reported = "finalizing"
  · simp [same]
  · simp [same, or_iff_not_imp_left]

variable {clock}

theorem Pollable.polled {id : Nat} {process : Process} {since : Option Nat} {task : Task}
    (pollable : Pollable clock id process since task) (stuck : Int) (heard : Heard world.python) (stage : String)
    {status : String} (active : status = "finalizing" ↔ heard.active = true) :
    Pollable clock id process (heard.timer since) { task with
      metaJson := some (polledFields (hearing world clock stuck heard) status stage task.metaDict) } := by
  have timer := pollable.timer
  constructor
  · have kept : (polledFields (hearing world clock stuck heard) status stage task.metaDict).get "stop_requested" =
        task.metaDict.get "stop_requested" := by
      unfold polledFields
      simp only [Dict.get_set, String.reduceEq, if_false]
      split
      · split
        · rfl
        · simp [Dict.get_set]
      · simp [Dict.get_pop]
    have pending := pollable.pending
    rw [captureStopPending, ← kept] at pending
    exact pending
  · show (polledFields _ status stage task.metaDict).find "finalizing_since" = _
    unfold polledFields
    simp only [Dict.find_set, String.reduceEq, if_false]
    by_cases is_active : heard.active = true
    · rw [if_pos (active.mpr is_active), Heard.timer, if_pos is_active]
      cases since with
      | none => simp [timer, Dict.find_set, hearing]
      | some begun => simp [timer]
    · rw [if_neg fun finalizing => is_active (active.mp finalizing), Heard.timer, if_neg is_active]
      simp [Dict.find_pop]

variable (clock)

def Heard.ends (heard : Heard world.python) (stuck : Int) (canceled : Bool) (since : Option Nat) : Bool :=
  canceled || heard.fatal || heard.overdue stuck since

def FailedRow (id : Nat) (hub : Hub) : Prop :=
  ∃ task, hub.tasks.find id = some task ∧ task.active = false

theorem failedRow_of_failed {hub : Hub} {id : Nat} {code : ErrorCode} {extra : Dict} {task : Task}
    (found : hub.tasks.find id = some (failed code extra task)) : FailedRow id hub := ⟨_, found, rfl⟩

def Polled (id : Nat) (process : Process) (ends : Bool) (since : Option Nat) : Awaiting → Session Hub Process → Prop
  | .returned, after => ends = true ∧ FailedRow id after.committed
  | .poll _, after => ends = false ∧ after.memory = process ∧
      ∃ task, after.committed.tasks.find id = some task ∧ Pollable clock id process since task
  | _, _ => False

variable {clock}

theorem afterPoll_polled {id node : Nat} {process : Process} {since : Option Nat} {task : Task} {stuck : Int}
    {heard : Heard world.python} {code : Nat} {poll : Dict} (replied : heard.reply = .answer code poll)
    (known : code ≠ 404) {status : String} (active : status = "finalizing" ↔ heard.active = true)
    (reported : heard.active = false → status = workerStatus world.python poll) {s : Session Hub Process}
    (shows : Shows id task s) (memory : s.memory = process) (uncanceled : process.cancelled.contains id = false)
    (pollable : Pollable clock id process (heard.timer since) task) :
    wp (afterPoll (hearing world clock stuck heard) id node status poll)
      (Polled clock id process (heard.ends stuck (process.cancelled.contains id) since) (heard.timer since))
      (fun _ _ => False) s := by
  have quiet : (hearing world clock stuck heard).raises = fun _ => false := rfl
  have unready : artifactReadyInPoll (hearing world clock stuck heard).python poll = false :=
    heard.unready code poll replied
  have fatal : heard.fatal = (workerStatus world.python poll == "error") := by simp [Heard.fatal, replied, known]
  -- The loop goes on: nothing has ended the capture.
  have goes_on (timely : heard.overdue stuck since = false) (fine : workerStatus world.python poll ≠ "error") :
      Polled clock id process (heard.ends stuck (process.cancelled.contains id) since) (heard.timer since)
        (.poll node) s := by
    refine ⟨?_, memory, task, shows.committed, pollable⟩
    rw [Heard.ends, uncanceled, fatal, timely]
    simpa using fine
  have fails {code : ErrorCode} {extra : Dict} (step : Nat)
      (ends : heard.ends stuck (process.cancelled.contains id) since = true) :
      wp (failAndReturn (hearing world clock stuck heard) id code extra step)
        (Polled clock id process (heard.ends stuck (process.cancelled.contains id) since) (heard.timer since))
        (fun _ _ => False) s :=
    wp_failAndReturn quiet shows fun after stored => ⟨ends, failedRow_of_failed stored⟩
  rw [afterPoll, wp_bind]
  refine wp_loaded_of shows.working ?_
  rw [wp_bind, wp_recollect, memory, pollable.pending]
  dsimp only
  rw [unready]
  cases is_active : heard.active with
  | true =>
    -- Only the timer ends a finalization.
    obtain rfl : status = "finalizing" := active.mpr is_active
    have fine : workerStatus world.python poll ≠ "error" := by
      intro error
      rw [Heard.active, replied] at is_active
      simp [error, captureActiveWorkerStatuses] at is_active
    have begun : task.metaDict.get "finalizing_since" = .str (clock.isoformat (since.getD heard.time)) := by
      rw [Dict.get, pollable.timer, Heard.timer, is_active]
      rfl
    have timer : (hearing world clock stuck heard).finalizingStuck (clock.isoformat (since.getD heard.time)) =
        heard.overdue stuck since := by
      simp [hearing, clock.fromisoformat_isoformat, Heard.overdue, is_active]
    simp only [begun, decide_true, Bool.true_and, timer, wp_ite]
    split
    case isTrue overdue => exact fails 22 (by simp [Heard.ends, overdue])
    case isFalse timely =>
      simp only [String.reduceEq, decide_false, Bool.or_self, Bool.false_eq_true, if_false, Bool.false_and, wp_pure]
      exact goes_on (Bool.eq_false_iff.mpr timely) fine
  | false =>
    -- The timer is off, and the status is the worker's own.
    obtain rfl := reported is_active
    have timely : heard.overdue stuck since = false := by simp [Heard.overdue, is_active]
    have off : task.metaDict.get "finalizing_since" = .null := by
      rw [Dict.get, pollable.timer, Heard.timer, is_active]
      rfl
    simp only [off, Bool.false_eq_true, if_false, Bool.or_false, Bool.not_false, if_true, Bool.not_true, Bool.and_false,
      wp_ite, wp_pure, decide_eq_true_eq]
    split
    case isTrue success => exact goes_on timely (by rw [success]; decide)
    case isFalse =>
      split
      case isTrue error => exact fails 23 (by simp [Heard.ends, fatal, error])
      case isFalse fine => exact goes_on timely fine

theorem wp_forwarded {A : Type} {forward : Prop} [Decidable forward] {next : Program A} {id : Nat} {task : Task}
    {s : Session Hub Process} {Q : A → Session Hub Process → Prop} {R : Fault → Session Hub Process → Prop}
    (quiet : world.raises = fun _ => false) (shows : Shows id task s)
    (value : ∀ after, Shows id task after → after.memory = s.memory → wp next Q R after) :
    wp (if forward then do forwardCaptureStop world id; next else next) Q R s := by
  rw [wp_ite]
  split
  · rw [wp_bind]
    exact wp_forwardCaptureStop quiet shows value
  · exact value s shows rfl

theorem wp_refreshTask {A : Type} {next : Unit → Program A} {id : Nat} {task : Task} {s : Session Hub Process}
    {Q : A → Session Hub Process → Prop} {R : Fault → Session Hub Process → Prop} (shows : Shows id task s)
    (value : ∀ after, Shows id task after → after.memory = s.memory → wp (next ()) Q R after) :
    wp (refreshTask id >>= next) Q R s := by
  rw [wp_bind, refreshTask, wp_bind, wp_query, shows.flushed]
  exact value _ ⟨shows.committed, shows.flushed, find_modifyTask shows.working _⟩ rfl

/-- One round of the loop. A call that raises leaves the row to the handler. -/
theorem threadPoll_polled {id : Nat} (node : Nat) {process : Process} {since : Option Nat} {task : Task} (stuck : Int)
    (heard : Heard world.python) {hub : Hub} (found : hub.tasks.find id = some task)
    (pollable : Pollable clock id process since task) :
    wp (threadPoll (hearing world clock stuck heard) id node)
      (Polled clock id process (heard.ends stuck (process.cancelled.contains id) since) (heard.timer since))
      (fun _ after => heard.fatal = true ∧ after.committed.tasks.find id = some task) (Session.start hub process) := by
  have quiet : (hearing world clock stuck heard).raises = fun _ => false := rfl
  rw [threadPoll]
  refine wp_refreshTask (shows_start found process) fun s shows memory => ?_
  replace memory : s.memory = process := memory
  rw [wp_bind, wp_recollect, memory, wp_bind, pollWorker, callWorker_quiet quiet, wp_bind, wp_commit]
  replace shows := shows.commit
  replace memory : s.commit.memory = process := memory
  generalize s.commit = s at shows memory
  rw [show (hearing world clock stuck heard).getTask id = heard.reply from rfl]
  cases replied : heard.reply with
  | raises => exact ⟨by simp [Heard.fatal, replied], shows.committed⟩
  | unreachable => exact ⟨by simp [Heard.fatal, replied], shows.committed⟩
  | answer code poll =>
    have unready : artifactReadyInPoll (hearing world clock stuck heard).python poll = false :=
      heard.unready code poll replied
    -- every way to fail the row is one of the reasons in `Heard.ends`
    have fails {code : ErrorCode} (step : Nat) {s : Session Hub Process} (shows : Shows id task s)
        (ends : heard.ends stuck (process.cancelled.contains id) since = true) :
        wp (failAndReturn (hearing world clock stuck heard) id code [] step)
          (Polled clock id process (heard.ends stuck (process.cancelled.contains id) since) (heard.timer since))
          (fun _ after => heard.fatal = true ∧ after.committed.tasks.find id = some task) s :=
      wp_failAndReturn quiet shows fun after stored => ⟨ends, failedRow_of_failed stored⟩
    dsimp only
    rw [wp_pure]
    dsimp only
    rw [unready, wp_ite]
    split
    case isTrue canceled =>
      rw [Bool.and_false, wp_ite, if_neg Bool.false_ne_true, wp_bind]
      refine wp_forwardCaptureCancel quiet shows fun after shows _ => ?_
      refine fails 25 shows ?_
      rw [Heard.ends, canceled]
      rfl
    case isFalse uncanceled =>
      rw [wp_ite]
      split
      case isTrue unknown => exact fails 26 shows (by simp [Heard.ends, Heard.fatal, replied, unknown])
      case isFalse known =>
        rw [wp_bind]
        refine wp_loaded_of shows.working ?_
        rw [pollable.pending, Bool.true_and]
        have active := finalizing_iff_active (workerStatus world.python poll)
        have heard_active : heard.active = captureActiveWorkerStatuses.contains (workerStatus world.python poll) := by
          rw [Heard.active, replied]
        rw [← heard_active] at active
        -- an idle worker reports its own status, not one that a stop has forwarded
        have reported (idle : heard.active = false) :
            (if captureStopForwardStatuses.contains (workerStatus world.python poll) then "finalizing"
              else workerStatus world.python poll) = workerStatus world.python poll := by
          refine if_neg fun forward => ?_
          have contradiction := active.mp (if_pos forward)
          rw [idle] at contradiction
          contradiction
        refine wp_forwarded quiet shows fun after shows same => ?_
        rw [wp_bind, wp_modifyTask, wp_bind, wp_flush, commitAt_quiet quiet, wp_bind, wp_commit]
        refine wp_mono (afterPoll_polled replied known active reported (shows.modified _) (same.trans memory)
          (Bool.eq_false_iff.mpr uncanceled) (pollable.polled stuck heard _ active)) (fun _ _ polled => polled) ?_
        exact fun _ _ impossible => impossible.elim

end Timer

section Rounds

variable {world : World} {clock : Clock} {id : Nat} {process : Process} {since : Option Nat}

structure Polling.Going (clock : Clock) (id : Nat) (process : Process) (since : Option Nat) (s : Polling) : Prop where
  going : s.going = true
  memory : s.process = process
  row : ∃ task, s.hub.tasks.find id = some task ∧ Pollable clock id process since task

def RoundLeft (clock : Clock) (id : Nat) (process : Process) (ends : Bool) (since : Option Nat) :
    Bool → Session Hub Process → Prop
  | false, after => ends = true ∧ FailedRow id after.committed
  | true, after => ends = false ∧ after.memory = process ∧
      ∃ task, after.committed.tasks.find id = some task ∧ Pollable clock id process since task

theorem pollRound_left (node : Nat) (stuck : Int) (heard : Heard world.python) {hub : Hub} {task : Task}
    (found : hub.tasks.find id = some task) (pollable : Pollable clock id process since task) :
    wp (pollRound (hearing world clock stuck heard) id node heard.detail)
      (RoundLeft clock id process (heard.ends stuck (process.cancelled.contains id) since) (heard.timer since))
      (fun _ _ => False) (Session.start hub process) := by
  have quiet : (hearing world clock stuck heard).raises = fun _ => false := rfl
  rw [pollRound, wp_bind, wp_attempt]
  refine wp_mono (threadPoll_polled node stuck heard found pollable) ?_ ?_
  · intro next after polled
    cases next with
    | returned => exact polled
    | poll node => exact polled
    | start => exact polled.elim
    | post node => exact polled.elim
    | artifact node poll => exact polled.elim
  · rintro fault after ⟨fatal, stored⟩
    rw [wp_bind]
    refine wp_threadFailed quiet heard.detail stored fun failing extra failed => ?_
    exact ⟨by simp [Heard.ends, fatal], failedRow_of_failed failed⟩

variable {s : Polling} (node : Nat) (stuck : Int) (heard : Heard world.python)

theorem Polling.Going.step (going : s.Going clock id process since) :
    if heard.ends stuck (process.cancelled.contains id) since then (s.step world clock stuck id node heard).Left id
    else (s.step world clock stuck id node heard).Going clock id process (heard.timer since) := by
  obtain ⟨task, found, pollable⟩ := going.row
  have left := pollRound_left node stuck heard found pollable
  simp only [Polling.step, going.going, if_true, going.memory, Tx.run]
  rw [wp] at left
  generalize pollRound (hearing world clock stuck heard) id node heard.detail (Session.start s.hub process) = result at left ⊢
  obtain ⟨outcome, after⟩ := result
  cases outcome with
  | error fault => exact left.elim
  | ok goes =>
    cases goes with
    | false =>
      rw [left.1, if_pos rfl]
      exact ⟨rfl, left.2⟩
    | true =>
      rw [left.1, if_neg Bool.false_ne_true]
      exact ⟨rfl, left.2.1, left.2.2⟩

theorem Polling.step_of_left (ended : s.going = false) : s.step world clock stuck id node heard = s := by
  simp [Polling.step, ended]

end Rounds

end IdigestHub.Capture
