import IdigestHub.Capture.Sections
import IdigestHub.Capture.Stops
import IdigestHub.Capture.Tracing

/-! The thread of a capture from a poll to the save of the file: while the row records, each section leads to the next unless the
worker's answer ends the capture, or the download fails. -/

set_option autoImplicit false

namespace IdigestHub.Capture

open Foundation Foundation.UnitOfWork Dispatcher Ingest

def namesMeeting (task : Task) : Bool :=
  match task.metaDict.get "meeting_url" with
  | .str url => Text.strip url != ""
  | _ => false

/-- The row runs without a file, and names its meeting. -/
structure Recording (task : Task) : Prop where
  running : stillRunning task = true
  named : namesMeeting task = true

instance Recording.decidable (task : Task) : Decidable (Recording task) :=
  decidable_of_iff (stillRunning task = true ∧ namesMeeting task = true)
    ⟨fun ⟨running, named⟩ => ⟨running, named⟩, fun h => ⟨h.1, h.2⟩⟩

def RecordingRow (id : Nat) (hub : Hub) : Prop := ∃ task, hub.tasks.find id = some task ∧ Recording task

instance RecordingRow.decidable (id : Nat) (hub : Hub) : Decidable (RecordingRow id hub) :=
  decidable_of_iff (∃ task ∈ hub.tasks.find id, Recording task) Iff.rfl

def Phase.follows : Phase → Bool
  | .polling _ | .asked .. | .replied .. | .fetched .. | .persisting .. | .downloading .. | .saving .. => true
  | _ => false

/-- The answer shows the file, or the loop goes on. -/
def Reply.LetsOn (world : World) (process : Process) (id : Nat) (task : Task) (salvage : Bool) : Reply → Prop
  | .answer code poll =>
    if salvage then code = 200 ∧ artifactReadyInPoll world.python poll = true
    else code ≠ 404 ∧ ¬Reply.TimedOut world process id task (.answer code poll) ∧
      (artifactReadyInPoll world.python poll = true ∨ workerStatus world.python poll ≠ "error" ∧
        (workerStatus world.python poll = "canceled" → captureStopPending process id task = true))
  | _ => False

instance Reply.timedOut_decidable (world : World) (process : Process) (id : Nat) (task : Task) :
    ∀ reply, Decidable (Reply.TimedOut world process id task reply)
  | .answer .. => inferInstanceAs (Decidable (_ ∧ _))
  | .raises | .unreachable => .isFalse fun impossible => impossible

instance Reply.letsOn_decidable (world : World) (process : Process) (id : Nat) (task : Task) (salvage : Bool) :
    ∀ reply, Decidable (Reply.LetsOn world process id task salvage reply)
  | .answer .. => inferInstanceAs (Decidable (ite _ _ _))
  | .raises | .unreachable => .isFalse fun impossible => impossible

structure Reaches (world : World) (id node : Nat) : Prop where
  prepares : world.raises (.prepare id node) = false
  releases : world.raises (.release id node) = false

instance Reaches.decidable (world : World) (id node : Nat) : Decidable (Reaches world id node) :=
  decidable_of_iff (world.raises (.prepare id node) = false ∧ world.raises (.release id node) = false)
    ⟨fun ⟨prepares, releases⟩ => ⟨prepares, releases⟩, fun h => ⟨h.1, h.2⟩⟩

/-- Nothing raises in the section of a thread that has not come to the download. -/
def Undisturbed (world : World) (id : Nat) (own : Task) : Phase → Prop
  | .polling node => Reaches world id node
  | .replied .. => world.raises (.runner id 27) = false ∧ ∀ node ∈ own.workerId, Reaches world id node
  | .persisting node _ => world.raises (.runner id 1) = false ∧ Reaches world id node
  | _ => True

instance Undisturbed.decidable (world : World) (id : Nat) (own : Task) : ∀ phase, Decidable (Undisturbed world id own phase)
  | .polling _ => inferInstanceAs (Decidable (Reaches ..))
  | .replied .. | .persisting .. => inferInstanceAs (Decidable (_ ∧ _))
  | .idle | .loaded | .posting _ | .asked .. | .fetched .. | .downloading .. | .saving .. | .raised | .leaving _ | .starting
  | .committing => .isTrue trivial

section Rows

variable {task : Task}

theorem Recording.fields (recording : Recording task) {fields : Dict}
    (same : fields.get "meeting_url" = task.metaDict.get "meeting_url") : Recording { task with metaJson := some fields } := by
  refine ⟨recording.running, ?_⟩
  have named := recording.named
  rw [namesMeeting, ← same] at named
  exact named

theorem Recording.merged {base own stored : Task} (written : Recording own) (kept : Recording stored) :
    Recording (Task.merged base own stored) := by
  have both {A : Type} [DecidableEq A] {P : A → Prop} (first second third : A) (its : P second) (there : P third) :
      P (column first second third) := by
    unfold column
    split
    · exact there
    · exact its
  have running (task : Task) : stillRunning task = true ↔ task.audioId = none ∧ task.status = .running := by
    simp [stillRunning]
  obtain ⟨file, status⟩ := (running own).mp written.running
  obtain ⟨file', status'⟩ := (running stored).mp kept.running
  refine ⟨(running _).mpr ⟨?_, ?_⟩, ?_⟩
  · exact both (P := fun file => file = none) _ _ _ file file'
  · exact both (P := fun status : TaskStatus => status = .running) _ _ _ status status'
  · exact both (P := fun fields => namesMeeting { own with metaJson := fields } = true) _ _ _ written.named kept.named

theorem Recording.meeting (recording : Recording task) (python : Python) : meetingUrlOf python task ≠ "" := by
  have named := recording.named
  rw [namesMeeting] at named
  rw [meetingUrlOf]
  split at named
  · rename_i url found
    have text : python.orEmpty (.str url) = url := by
      unfold Python.orEmpty Python.text
      split
      · rfl
      · rename_i blank
        have empty : url = "" := by simpa [Json.truthy] using blank
        exact empty.symm
    rw [found, text]
    simpa using named
  · contradiction

end Rows

/-- The session works on `task`, which records, as every row that it has read or written does. -/
structure Works (id : Nat) (task : Task) (process : Process) (s : Session Hub Process) : Prop where
  rows : Everywhere (RecordingRow id) s
  object : s.working.tasks.find id = some task
  memory : s.memory = process
  recording : Recording task

section Sessions

variable {id : Nat} {task : Task} {process : Process} {s : Session Hub Process}

theorem Works.commit (works : Works id task process s) : Works id task process s.commit :=
  ⟨Transactional.commit s works.rows, works.object, works.memory, works.recording⟩

theorem Works.flush (works : Works id task process s) : Works id task process s.flush :=
  ⟨Transactional.flush s works.rows, works.object, works.memory, works.recording⟩

theorem Works.modified (works : Works id task process s) {f : Task → Task} (recording : Recording (f task)) :
    Works id (f task) process (s.edit (s.working.modifyTask id f)) :=
  have changed := find_modifyTask works.object f
  ⟨⟨works.rows.committed, works.rows.flushed, ⟨_, changed, recording⟩⟩, changed, works.memory, recording⟩

variable {A : Type} {Q : A → Session Hub Process → Prop} {R : Fault → Session Hub Process → Prop}

theorem wp_refresh_works {next : Unit → Program A} (works : Works id task process s)
    (value : ∀ row after, Works id row process after → wp (next ()) Q R after) : wp (refreshTask id >>= next) Q R s := by
  obtain ⟨row, found, recording⟩ := works.rows.flushed
  rw [wp_bind, refreshTask, wp_bind, wp_query, found]
  exact value row _ (works.modified (f := fun _ => row) recording)

variable {world : World}

theorem Reaches.call {node : Nat} (reaches : Reaches world id node) : callWorker world id node = Tx.commit := by
  rw [callWorker, guardSite, commitAt, reaches.prepares, reaches.releases]
  rfl

theorem wp_forwardStop_works {Q : Unit → Session Hub Process → Prop} (works : Works id task process s)
    (reaches : ∀ node ∈ task.workerId, Reaches world id node) (value : ∀ after, Works id task process after → Q () after) :
    wp (forwardCaptureStop world id) Q R s := by
  rw [forwardCaptureStop, wp_bind]
  refine wp_loaded_of works.object ?_
  rw [wp_bind, wp_read]
  split
  · rename_i node _ assigned
    split
    · rw [(reaches node assigned).call, wp_commit]
      exact value _ works.commit
    · exact value s works
  · exact value s works

/-- A poll ends with the file, or the loop goes on. -/
def Awaiting.follows : Awaiting → Bool
  | .poll _ | .artifact .. => true
  | _ => false

theorem threadAsk_follows (works : Works id task process s) {node : Nat} (reaches : Reaches world id node) :
    wp (threadAsk world id node) (fun _ => Everywhere (RecordingRow id)) (fun _ _ => False) s := by
  rw [threadAsk]
  refine wp_refresh_works works fun row after works => ?_
  rw [wp_bind, wp_recollect, wp_bind, reaches.call, wp_commit]
  exact works.commit.rows

theorem afterPoll_follows (works : Works id task process s) (node : Nat) {status : String} {poll : Dict}
    (timely : ¬(status = "finalizing" ∧ timerStuck world (task.metaDict.get "finalizing_since") = true))
    (goes : artifactReadyInPoll world.python poll = true ∨ status ≠ "error" ∧
      (status = "canceled" → captureStopPending process id task = true)) :
    wp (afterPoll world id node status poll) (fun next after => next.follows = true ∧ Everywhere (RecordingRow id) after)
      (fun _ _ => False) s := by
  rw [afterPoll, wp_bind]
  refine wp_loaded_of works.object ?_
  rw [wp_bind, wp_recollect, works.memory]
  dsimp only
  refine wp_cases (fun stuck => absurd ?_ timely) fun _ => wp_cases (fun _ => ?_) fun unfinished => ?_
  · cases since : task.metaDict.get "finalizing_since" with
    | str text =>
      rw [since] at stuck
      simpa [timerStuck] using stuck
    | _ => simp [since] at stuck
  · refine wp_cases (fun _ => ⟨rfl, works.rows⟩) fun _ => ?_
    simp only [wp_bind, wp_modifyTask, wp_flush, wp_pure]
    exact ⟨rfl, (works.modified (works.recording.fields (by simp [Dict.get_pop]))).flush.rows⟩
  · simp only [Bool.or_eq_true, decide_eq_true_eq, not_or, Bool.not_eq_true] at unfinished
    obtain ⟨fine, graceful⟩ := goes.resolve_left (by simp [unfinished.2])
    refine wp_cases (fun error => absurd error fine) fun _ => wp_cases (fun canceled => ?_) fun _ => ⟨rfl, works.rows⟩
    simp only [Bool.and_eq_true, decide_eq_true_eq, Bool.not_eq_true'] at canceled
    rw [graceful canceled.1] at canceled
    exact absurd canceled.2 (by decide)

theorem threadReplied_follows (works : Works id task process s) (node : Nat) (salvage : Bool) {reply : Reply}
    (undisturbed : Undisturbed world id task (.replied node salvage reply))
      (lets : Reply.LetsOn world process id task salvage reply) :
    wp (threadReplied world id node salvage reply)
      (fun next after => next.follows = true ∧ Everywhere (RecordingRow id) after) (fun _ _ => False) s := by
  cases reply with
  | raises => exact lets.elim
  | unreachable => exact lets.elim
  | answer code poll =>
    rw [threadReplied, wp_bind, wp_recollect, works.memory]
    cases salvage with
    | true =>
      refine wp_cases (fun _ => wp_cases (fun _ => ⟨rfl, works.rows⟩) fun unready => absurd ?_ unready) fun other =>
        absurd rfl other
      have ready : code = 200 ∧ artifactReadyInPoll world.python poll = true := lets
      simpa using ready
    | false =>
      obtain ⟨known, timely, goes⟩ : code ≠ 404 ∧ ¬Reply.TimedOut world process id task (.answer code poll) ∧ _ := lets
      refine wp_cases (fun salvaging => absurd salvaging Bool.false_ne_true) fun _ => ?_
      refine wp_cases (fun missing => absurd missing known) fun _ => ?_
      rw [wp_bind]
      refine wp_loaded_of works.object ?_
      -- The status that is stored, and what follows a call that forwards a stop, or none.
      have rest {s : Session Hub Process} (works : Works id task process s) (status stage : String)
          (reported : status = workerStatus world.python poll ∨ status = "finalizing" ∧
            captureStopPending process id task = true ∧
            captureStopForwardStatuses.contains (workerStatus world.python poll) = true) :
          wp (do
            modifyTask id fun task => { task with metaJson := some (polledFields world status stage task.metaDict) }
            Tx.flush
            commitAt world (.runner id 27)
            afterPoll world id node status poll)
            (fun next after => next.follows = true ∧ Everywhere (RecordingRow id) after) (fun _ _ => False) s := by
        rw [wp_bind, wp_modifyTask, wp_bind, wp_flush, commitAt, undisturbed.1, if_neg Bool.false_ne_true, wp_bind, wp_commit]
        have polled := (works.modified (f := fun task =>
          { task with metaJson := some (polledFields world status stage task.metaDict) })
          (works.recording.fields (get_polledFields world status stage _))).flush.commit
        refine afterPoll_follows polled node ?_ ?_
        · rintro ⟨rfl, stuck⟩
          refine timely ⟨reported.imp Eq.symm And.right, ?_⟩
          simpa only [Task.metaDict, Option.getD_some, polled_since, if_true] using stuck
        · rw [polled_stop]
          rcases reported with rfl | ⟨rfl, _⟩
          · exact goes
          · exact goes.imp_right fun _ => ⟨by decide, fun canceled => absurd canceled (by decide)⟩
      refine wp_cases (fun forward => ?_) fun plain => ?_
      · rw [wp_bind]
        refine wp_forwardStop_works works undisturbed.2 fun after works => rest works _ _ (.inr ?_)
        rw [if_pos forward]
        exact ⟨rfl, Bool.and_eq_true_iff.mp forward⟩
      · exact rest works _ _ (.inl (if_neg plain))

theorem threadCheck_follows (works : Works id task process s) :
    wp (threadCheck id) (fun running after => running = true ∧ Everywhere (RecordingRow id) after) (fun _ _ => False) s := by
  rw [threadCheck]
  refine wp_refresh_works works fun row after works => ?_
  rw [wp_bind]
  exact wp_loaded_of works.object ⟨works.recording.running, works.rows⟩

theorem persistAsk_follows (works : Works id task process s) {node : Nat} (poll : Dict)
    (undisturbed : Undisturbed world id task (.persisting node poll)) :
    wp (persistAsk world id node) (fun begun after => begun.isSome = true ∧ Everywhere (RecordingRow id) after)
      (fun _ _ => False) s := by
  rw [persistAsk, wp_bind, persistBegin]
  refine wp_refresh_works works fun row after works => ?_
  rw [wp_bind]
  refine wp_loaded_of works.object ?_
  rw [works.recording.running, if_neg (by decide), if_neg (works.recording.meeting world.python)]
  simp only [updateTaskMeta, commitAt, undisturbed.1, undisturbed.2.call, Bool.false_eq_true, if_false, wp_bind, wp_modifyTask,
    wp_flush, wp_commit, wp_pure]
  have named : Recording (staged "downloading" [("worker_capture_status", .str "success")] row) :=
    works.recording.fields (by rw [Dict.get_update_of_absent (by simp), Dict.get_set, if_neg (by decide)])
  exact ⟨rfl, (works.modified named).flush.commit.commit.rows⟩

theorem persistDownloaded_follows (works : Works id task process s) (poll : Dict) :
    wp (persistDownloaded world id poll)
      (fun duration after => if duration.isSome then Everywhere (RecordingRow id) after else
        (world.artifact id).downloaded = false)
      (fun _ _ => True) s := by
  have fails (code : ErrorCode) (step : Nat) {bad : Prop} (its : bad) :
      wp (failAndCommit world id code [] step >>= fun _ => pure none)
        (fun duration after => if (duration : Option (Option Decimal)).isSome then Everywhere (RecordingRow id) after else bad)
        (fun _ _ => True) s := by
    rw [wp_bind]
    exact wp_mono (wp_trivial _ _) (fun _ _ _ => its) fun _ _ _ => trivial
  rw [persistDownloaded, wp_bind]
  refine wp_guardSite ?_ trivial
  cases world.artifact id with
  | notDownloaded => exact fails _ _ rfl
  | invalid => exact fails _ _ rfl
  | tooLarge | unreadable | missing | stored filename =>
    cases pollDuration world.python poll with
    | none => exact trivial
    | some duration =>
      refine wp_refresh_works works fun row after works => ?_
      rw [wp_bind]
      refine wp_loaded_of works.object ?_
      rw [works.recording.running, if_neg (by decide), wp_bind]
      exact wp_commitAt works.commit.rows trivial

end Sessions

end IdigestHub.Capture
