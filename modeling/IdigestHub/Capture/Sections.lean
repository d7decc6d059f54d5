import IdigestHub.Capture.Drivers
import IdigestHub.Dispatcher.Settling

/-! What a section of a driver leaves alone: every section but the last one of a persist keeps the
library and the other rows, and the file and the error codes of its own row. -/

set_option autoImplicit false

namespace IdigestHub.Capture

open Foundation Foundation.UnitOfWork Dispatcher Ingest

/-- The row of a driver, up to the columns that tell what became of the recording. -/
structure Fits (audioId : Option Nat) (allowed : ErrorCode → Prop) (task : Task) : Prop where
  audioId : task.audioId = audioId
  code : ∀ code, task.errorCode = some code → allowed code

/-- A store that agrees with `origin` but for one row, and that row fits. -/
structure Level (origin : Hub) (id : Nat) (fits : Task → Prop) (hub : Hub) : Prop where
  audios : hub.audios = origin.audios
  nextId : hub.nextId = origin.nextId
  others : ∀ other, other ≠ id → hub.tasks.find other = origin.tasks.find other
  row : ∃ task, hub.tasks.find id = some task ∧ fits task

structure Levels (origin : Hub) (id : Nat) (fits : Task → Prop) (s : Session Hub Process) : Prop where
  committed : Level origin id fits s.committed
  flushed : Level origin id fits s.flushed
  working : Level origin id fits s.working

/-- The driver is done with the row: it is not running, or has its file. -/
def Over (id : Nat) (hub : Hub) : Prop := ∀ task, hub.tasks.find id = some task → stillRunning task = false

variable {A B : Type} {origin : Hub} {id : Nat} {fits : Task → Prop}

/-- A program that keeps a store level, with what its value says of the objects that it leaves. -/
def Keeps (origin : Hub) (id : Nat) (fits : Task → Prop) (post : A → Hub → Prop) (program : Program A) : Prop :=
  ∀ s, Levels origin id fits s →
    wp program (fun a after => Levels origin id fits after ∧ post a after.working) (fun _ => Levels origin id fits) s

/-- The same, whatever its value. -/
abbrev Stays (origin : Hub) (id : Nat) (fits : Task → Prop) (program : Program A) : Prop :=
  Keeps origin id fits (fun _ _ => True) program

section Rules

variable {post : A → Hub → Prop} {post' : B → Hub → Prop} {program : Program A}

theorem Keeps.pure {a : A} (always : ∀ hub, post a hub) : Keeps origin id fits post (Pure.pure a : Program A) :=
  fun s levels => ⟨levels, always s.working⟩

theorem Stays.pure (a : A) : Stays origin id fits (Pure.pure a : Program A) := Keeps.pure fun _ => trivial

theorem Keeps.raise (fault : Fault) : Keeps origin id fits post (Tx.raise fault : Program A) := fun _ levels => levels

theorem Keeps.weaken (keeps : Keeps origin id fits post program) {weaker : A → Hub → Prop}
    (implied : ∀ a hub, post a hub → weaker a hub) : Keeps origin id fits weaker program := by
  intro s levels
  exact wp_mono (keeps s levels) (fun a after held => ⟨held.1, implied a _ held.2⟩) fun _ _ held => held

theorem Keeps.stays (keeps : Keeps origin id fits post program) : Stays origin id fits program :=
  keeps.weaken fun _ _ _ => trivial

theorem Keeps.bind {next : A → Program B} (first : Stays origin id fits program)
    (second : ∀ a, Keeps origin id fits post' (next a)) : Keeps origin id fits post' (program >>= next) := by
  intro s levels
  rw [wp_bind]
  exact wp_mono (first s levels) (fun a after held => second a after held.1) fun _ _ held => held

theorem Keeps.map {f : A → B} (first : Keeps origin id fits post program)
    (implied : ∀ a hub, post a hub → post' (f a) hub) :
    Keeps origin id fits post' (do let a ← program; Pure.pure (f a)) := by
  intro s levels
  rw [wp_bind]
  exact wp_mono (first s levels) (fun a _ held => ⟨held.1, implied a _ held.2⟩) fun _ _ held => held

theorem Keeps.ite {c : Prop} [Decidable c] {first second : Program A} (yes : c → Keeps origin id fits post first)
    (no : ¬c → Keeps origin id fits post second) : Keeps origin id fits post (if c then first else second) := by
  split
  · exact yes ‹_›
  · exact no ‹_›

theorem stays_read : Stays origin id fits (Tx.read : Program Hub) := fun _ levels => ⟨levels, trivial⟩

theorem stays_query : Stays origin id fits (Tx.query : Program Hub) := fun _ levels => ⟨levels, trivial⟩

theorem stays_recollect : Stays origin id fits (Tx.recollect : Program Process) := fun _ levels => ⟨levels, trivial⟩

theorem stays_remember (f : Process → Process) : Stays origin id fits (Tx.remember f : Program Unit) :=
  fun _ levels => ⟨⟨levels.committed, levels.flushed, levels.working⟩, trivial⟩

theorem stays_flush : Stays origin id fits (Tx.flush : Program Unit) :=
  fun _ levels => ⟨⟨levels.committed, levels.working, levels.working⟩, trivial⟩

theorem stays_guardSite (world : World) (site : Site) : Stays origin id fits (guardSite world site) :=
  Keeps.ite (fun _ => .raise _) fun _ => Stays.pure _

theorem stays_commitAt (world : World) (site : Site) : Stays origin id fits (commitAt world site) :=
  Keeps.ite (fun _ => .raise _) fun _ => fun _ levels =>
    ⟨⟨levels.working, levels.working, levels.working⟩, trivial⟩

theorem stays_loaded (other : Nat) : Stays origin id fits (loaded other) := by
  refine Keeps.bind stays_read fun hub => ?_
  split
  · exact Stays.pure _
  · exact .raise _

theorem stays_callWorker (world : World) (node : Nat) : Stays origin id fits (callWorker world id node) :=
  Keeps.bind (stays_guardSite world _) fun _ => stays_commitAt world _

theorem stays_attempt {program : Program A} (stays : Stays origin id fits program) :
    Stays origin id fits (Tx.attempt program) := by
  intro s levels
  rw [wp_attempt]
  exact wp_mono (stays s levels) (fun _ _ held => held) fun _ _ held => ⟨held, trivial⟩

theorem Level.modify {hub : Hub} {f : Task → Task} (level : Level origin id fits hub)
    (row : ∀ task, fits task → fits (f task)) : Level origin id fits (hub.modifyTask id f) := by
  obtain ⟨task, found, fit⟩ := level.row
  refine ⟨level.audios, level.nextId, fun other different => ?_, f task, ?_, row task fit⟩
  · rw [← level.others other different]
    simp [Hub.modifyTask, Table.find_modify, different]
  · simp [Hub.modifyTask, Table.find_modify, found]

theorem stays_modify {f : Task → Task} (row : ∀ task, fits task → fits (f task)) :
    Stays origin id fits (modifyTask id f) :=
  fun _ levels => ⟨⟨levels.committed, levels.flushed, levels.working.modify row⟩, trivial⟩

theorem stays_refresh : Stays origin id fits (refreshTask id) := by
  intro s levels
  obtain ⟨task, found, fit⟩ := levels.flushed.row
  rw [refreshTask, wp_bind, wp_query, found]
  exact stays_modify (fun _ _ => fit) s levels

end Rules

section Writes

variable {audioId : Option Nat} {allowed : ErrorCode → Prop} (world : World)

theorem Fits.of_same {task after : Task} (fit : Fits audioId allowed task) (file : after.audioId = task.audioId)
    (code : after.errorCode = task.errorCode) : Fits audioId allowed after :=
  ⟨file.trans fit.audioId, fun its named => fit.code its (code ▸ named)⟩

theorem Fits.failed {task : Task} {code : ErrorCode} (fit : Fits audioId allowed task) (fine : allowed code) (extra : Dict) :
    Fits audioId allowed (failed code extra task) := by
  refine ⟨fit.audioId, fun its named => ?_⟩
  obtain rfl : code = its := Option.some.inj named
  exact fine

/-- A row with the codes of a session's object, and with the file that is stored. -/
theorem Fits.merged {file : Option Nat} {base written stored : Task} (fit : Fits audioId allowed written)
    (same : written.audioId = base.audioId) (its : Fits file allowed stored) :
    Fits file allowed (Task.merged base written stored) := by
  refine ⟨?_, fun code named => ?_⟩
  · simp [Task.merged, same, its.audioId]
  · simp only [Task.merged, column] at named
    split at named
    · exact its.code code named
    · exact fit.code code named

variable {world}

theorem updateTaskMeta_stays (stage : String) (extra : Dict) :
    Stays origin id (Fits audioId allowed) (updateTaskMeta id stage extra) :=
  Keeps.bind (stays_modify fun _ fit => fit.of_same rfl rfl) fun _ => stays_flush

theorem failAndCommit_fails {code : ErrorCode} (fine : allowed code) (extra : Dict) (step : Nat)
    {s : Session Hub Process} (levels : Levels origin id (Fits audioId allowed) s) :
    wp (failAndCommit world id code extra step)
      (fun _ after => Levels origin id (Fits audioId allowed) after ∧ Over id after.working)
      (fun _ after => Levels origin id (Fits audioId allowed) after ∧ Over id after.working) s := by
  have failing := levels.working.modify fun task fit => fit.failed fine extra
  have ended : Over id (s.working.modifyTask id (failed code extra)) := by
    intro task found
    obtain ⟨before, here, _⟩ := levels.working.row
    simp only [Hub.modifyTask, Table.find_modify, here, if_true, Option.map_some, Option.some.injEq] at found
    subst found
    simp [stillRunning, failed]
  rw [failAndCommit, failTask, wp_bind, wp_bind, wp_modifyTask, wp_bind, wp_flush]
  refine wp_guardSite (wp_commitAt ?_ ?_) ?_
  · exact ⟨⟨failing, failing, failing⟩, ended⟩
  · exact ⟨⟨levels.committed, failing, failing⟩, ended⟩
  · exact ⟨⟨levels.committed, failing, failing⟩, ended⟩

theorem failAndCommit_over {code : ErrorCode} (fine : allowed code) (extra : Dict) (step : Nat) :
    Keeps origin id (Fits audioId allowed) (fun _ => Over id) (failAndCommit world id code extra step) :=
  fun _ levels => wp_mono (failAndCommit_fails fine extra step levels) (fun _ _ held => held) fun _ _ held => held.1

theorem failTask_stays {code : ErrorCode} (fine : allowed code) (extra : Dict) :
    Stays origin id (Fits audioId allowed) (failTask world id code extra) :=
  Keeps.bind (stays_modify fun _ fit => fit.failed fine extra) fun _ =>
    Keeps.bind stays_flush fun _ => stays_guardSite world _

/-- A thread that has begun goes on, or is done with the row. -/
def ThreadOver (id : Nat) : Awaiting → Hub → Prop
  | .returned, hub => Over id hub
  | .start, _ => False
  | _, _ => True

theorem failAndReturn_over {code : ErrorCode} (fine : allowed code) (extra : Dict) (step : Nat) :
    Keeps origin id (Fits audioId allowed) (ThreadOver id) (failAndReturn world id code extra step) :=
  (failAndCommit_over fine extra step).map fun _ _ ended => ended

end Writes

section Runner

variable {audioId : Option Nat} {allowed : ErrorCode → Prop} {world : World}

theorem mapCaptureWorkerError_ordinary (code : Option String) : mapCaptureWorkerError code ≠ .canceled :=
  mapCaptureWorkerError_of (P := (· ≠ .canceled)) (by decide) (by decide) code

theorem mapWorkerError_ordinary (code : Json) : mapWorkerError code ≠ some .canceled := by
  intro same
  unfold mapWorkerError at same
  split at same
  · cases same
  · split at same
    · cases same
    · split at same
      · rename_i name _ _
        cases known : workerErrorMap.lookup name with
        | none => simp [known] at same
        | some its =>
          obtain ⟨before, after, listed, _⟩ := List.lookup_eq_some_iff.mp known
          have all : ∀ entry ∈ workerErrorMap, entry.2 ≠ .canceled := by decide
          rw [known] at same
          exact all (name, its) (by simp [listed]) (Option.some.inj same)
      · cases same

theorem postErrorCode_ordinary {body : Dict} {code : ErrorCode} (its : postErrorCode body = some code) : code ≠ .canceled := by
  rintro rfl
  rw [postErrorCode] at its
  split at its
  · cases its
  · cases its
  · cases its
  · exact mapCaptureWorkerError_ordinary _ (Option.some.inj its)
  · exact mapWorkerError_ordinary _ its

theorem capacityAvailable_stays : Stays origin id (Fits audioId allowed) (capacityAvailable world id) := by
  refine Keeps.bind (stays_loaded id) fun task => Keeps.bind stays_recollect fun process => ?_
  refine Keeps.bind stays_query fun stored => Keeps.bind stays_read fun working => ?_
  split
  · exact .raise _
  · exact Stays.pure _

theorem forwardCaptureStop_stays : Stays origin id (Fits audioId allowed) (forwardCaptureStop world id) := by
  refine Keeps.bind (stays_loaded id) fun task => Keeps.bind stays_read fun hub => ?_
  split
  · exact .ite (fun _ => stays_callWorker world _) fun _ => Stays.pure _
  · exact Stays.pure _

theorem forwardCaptureCancel_stays : Stays origin id (Fits audioId allowed) (forwardCaptureCancel world id) := by
  refine Keeps.bind (stays_loaded id) fun task => Keeps.bind stays_read fun hub => ?_
  split
  · refine .ite (fun _ => ?_) fun _ => Stays.pure _
    exact Keeps.bind (stays_attempt (stays_callWorker world _)) fun _ => Stays.pure _
  · exact Stays.pure _

variable (ordinary : ∀ code, code ≠ .canceled → allowed code)
include ordinary

theorem failCaptureMeetingError_stays (code : ErrorCode) :
    Stays origin id (Fits audioId allowed) (failCaptureMeetingError world id code) := by
  have fails (code : ErrorCode) (fine : code ≠ .canceled) (extra : Dict) :
      Stays origin id (Fits audioId allowed) (failTask world id code extra) :=
    failTask_stays (ordinary code fine) extra
  refine Keeps.bind (stays_loaded id) fun task => ?_
  split
  · exact fails _ (by decide) _
  · exact fails _ (by decide) _
  · exact fails _ (by decide) _
  · dsimp only
    split
    · exact .raise _
    · exact fails _ (by decide) _
  · exact fails _ (by decide) _

theorem bindCaptureWorker_stays : Stays origin id (Fits audioId allowed) (bindCaptureWorker world id) := by
  have fails (code : ErrorCode) (fine : code ≠ .canceled) :
      Stays origin id (Fits audioId allowed) (do failTask world id code []; pure none : Program (Option Nat)) :=
    Keeps.bind (failTask_stays (ordinary code fine) []) fun _ => Stays.pure _
  have kept : Stays origin id (Fits audioId allowed) (boundWorker world id) := by
    refine Keeps.bind (stays_loaded id) fun task => Keeps.bind stays_read fun hub => ?_
    split
    · exact Stays.pure _
    · refine .ite (fun _ => Keeps.bind capacityAvailable_stays fun available => ?_) fun _ => Stays.pure _
      exact .ite (fun _ => Stays.pure _) fun _ => Stays.pure _
  refine Keeps.bind (stays_loaded id) fun task => .ite (fun _ => fails _ (by decide)) fun _ => ?_
  refine Keeps.bind kept fun node => ?_
  cases node with
  | some node => exact Stays.pure _
  | none =>
    have unbinds : Stays origin id (Fits audioId allowed) (modifyTask id fun task =>
        if task.workerId.isSome then { task with workerId := none, workerTaskId := none } else task) := by
      refine stays_modify fun task fit => ?_
      split
      · exact fit.of_same rfl rfl
      · exact fit
    refine Keeps.bind unbinds fun _ => Keeps.bind stays_read fun hub => Keeps.bind stays_query fun stored => ?_
    cases hub.orgs.find task.orgId with
    | none => exact fails _ (by decide)
    | some org =>
      dsimp only
      cases resolveTask world stored hub org task with
      | error fault =>
        cases fault with
        | exception => exact .raise _
        | meeting code => exact Keeps.bind (failCaptureMeetingError_stays ordinary code) fun _ => Stays.pure _
      | ok target =>
        exact Keeps.bind (stays_modify fun _ fit => fit.of_same rfl rfl) fun _ =>
          Keeps.bind stays_flush fun _ => Stays.pure _

theorem maybeStartCapture_stays : Stays origin id (Fits audioId allowed) (maybeStartCapture world id) := by
  refine Keeps.bind (stays_loaded id) fun task => Keeps.bind stays_recollect fun process => ?_
  refine .ite (fun _ => Stays.pure _) fun _ => .ite (fun _ => Stays.pure _) fun _ => ?_
  refine Keeps.bind (stays_remember _) fun _ => Keeps.bind capacityAvailable_stays fun available => ?_
  refine .ite (fun _ => ?_) fun _ => failTask_stays (ordinary .captureNoWorker (by decide)) []
  refine Keeps.bind (stays_remember _) fun _ => ?_
  have spawns (f : Process → Process) :
      Stays origin id (Fits audioId allowed) (do commitAt world (.spawn id); Tx.remember f) :=
    Keeps.bind (stays_commitAt world _) fun _ => stays_remember _
  refine .ite (fun _ => ?_) fun _ => spawns _
  exact Keeps.bind (stays_modify fun _ fit => fit.of_same rfl rfl) fun _ => Keeps.bind stays_flush fun _ => spawns _

end Runner

section Thread

variable {audioId : Option Nat} {allowed : ErrorCode → Prop} {world : World}

theorem threadAsk_stays (node : Nat) : Stays origin id (Fits audioId allowed) (threadAsk world id node) :=
  Keeps.bind stays_refresh fun _ => Keeps.bind stays_recollect fun _ =>
    Keeps.bind (stays_callWorker world node) fun _ => Stays.pure _

theorem forwardEarlyStop_stays (node : Nat) :
    Keeps origin id (Fits audioId allowed) (ThreadOver id) (forwardEarlyStop world id node) := by
  refine Keeps.bind (stays_loaded id) fun task => Keeps.bind stays_recollect fun process => ?_
  refine .ite (fun _ => Keeps.bind forwardCaptureStop_stays fun _ => ?_) fun _ => .pure fun _ => trivial
  exact Keeps.bind (updateTaskMeta_stays _ _) fun _ => Keeps.bind (stays_commitAt world _) fun _ => .pure fun _ => trivial

theorem threadStart_stays (every : ∀ code, allowed code) :
    Stays origin id (Fits audioId allowed) (threadStart world id) := by
  have fails (code : ErrorCode) (step : Nat) :
      Stays origin id (Fits audioId allowed) (failAndReturn world id code [] step) :=
    (failAndReturn_over (every code) [] step).stays
  refine Keeps.bind stays_read fun hub => Keeps.bind stays_recollect fun process => ?_
  split
  · exact Stays.pure _
  · refine .ite (fun _ => Stays.pure _) fun _ => .ite (fun _ => fails _ _) fun _ => .ite (fun _ => fails _ _) fun _ => ?_
    refine Keeps.bind (bindCaptureWorker_stays fun code _ => every code) fun node => ?_
    cases node with
    | none => exact Keeps.bind (stays_commitAt world _) fun _ => Stays.pure _
    | some node =>
      refine Keeps.bind (stays_loaded id) fun task => .ite (fun _ => ?_) fun _ => ?_
      · exact Keeps.bind (stays_commitAt world _) fun _ => (forwardEarlyStop_stays node).stays
      · refine Keeps.bind (updateTaskMeta_stays _ _) fun _ => Keeps.bind (stays_commitAt world _) fun _ => ?_
        refine .ite (fun _ => fails _ _) fun _ => ?_
        exact Keeps.bind (stays_callWorker world node) fun _ => Stays.pure _

def GivesUp (python : Python) (salvage graceful : Bool) : Reply → Prop
  | .answer code poll =>
    if salvage then ¬(code = 200 ∧ artifactReadyInPoll python poll)
    else code ≠ 404 ∧ workerStatus python poll = "canceled" ∧ ¬artifactReadyInPoll python poll ∧ ¬graceful
  | _ => False

theorem polled_stop (world : World) (process : Process) (status stage : String) (task : Task) :
    captureStopPending process id { task with metaJson := some (polledFields world status stage task.metaDict) } =
      captureStopPending process id task := by
  have kept : (polledFields world status stage task.metaDict).get "stop_requested" = task.metaDict.get "stop_requested" := by
    rw [polledFields, Dict.get_set, if_neg (by decide), Dict.get_set, if_neg (by decide)]
    split
    · split
      · rfl
      · rw [Dict.get_set, if_neg (by decide)]
    · rw [Dict.get_pop, if_neg (by decide)]
  rw [captureStopPending, captureStopPending]
  show (_ || isTrue ((polledFields world status stage task.metaDict).get "stop_requested")) = _
  rw [kept]

variable (ordinary : ∀ code, code ≠ .canceled → allowed code)
include ordinary

theorem threadPosted_over (node : Nat) :
    Keeps origin id (Fits audioId allowed) (ThreadOver id) (threadPosted world id node) := by
  have fails (code : ErrorCode) (fine : code ≠ .canceled) (step : Nat) :
      Keeps origin id (Fits audioId allowed) (ThreadOver id) (failAndReturn world id code [] step) :=
    failAndReturn_over (ordinary code fine) [] step
  unfold threadPosted
  split
  · exact .raise _
  · split
    · exact .raise _
    · exact fails _ (postErrorCode_ordinary ‹_›) _
  · refine .ite (fun _ => fails _ (by decide) _) fun _ => Keeps.bind (stays_loaded id) fun task => ?_
    refine Keeps.bind (stays_modify fun _ fit => fit.of_same rfl rfl) fun _ => Keeps.bind (stays_commitAt world _) fun _ => ?_
    refine .ite (fun _ => fails _ (mapCaptureWorkerError_ordinary _) _) fun _ => Keeps.bind (updateTaskMeta_stays _ _) fun _ => ?_
    exact Keeps.bind (stays_commitAt world _) fun _ => forwardEarlyStop_stays node

theorem afterPoll_over {s : Session Hub Process} (levels : Levels origin id (Fits audioId allowed) s) (node : Nat)
    (status : String) (poll : Dict)
    (canceled : status = "canceled" → ¬artifactReadyInPoll world.python poll →
      ∀ task, s.working.tasks.find id = some task → captureStopPending s.memory id task = false → allowed .canceled) :
    wp (afterPoll world id node status poll)
      (fun next after => Levels origin id (Fits audioId allowed) after ∧ ThreadOver id next after.working)
      (fun _ => Levels origin id (Fits audioId allowed)) s := by
  have fails (code : ErrorCode) (fine : allowed code) (extra : Dict) (step : Nat) :
      Keeps origin id (Fits audioId allowed) (ThreadOver id) (failAndReturn world id code extra step) :=
    failAndReturn_over fine extra step
  rw [afterPoll, wp_bind]
  refine wp_loaded ?_ levels
  intro task found
  rw [wp_bind, wp_recollect]
  refine Keeps.ite (fun _ => fails _ (ordinary _ (by decide)) _ _) (fun _ => ?_) s levels
  refine .ite (fun _ => .ite (fun _ => .pure fun _ => trivial) fun _ => ?_) fun unfinished => ?_
  · refine Keeps.bind (stays_modify fun _ fit => fit.of_same rfl rfl) fun _ => Keeps.bind stays_flush fun _ => ?_
    exact .pure fun _ => trivial
  · refine .ite (fun _ => fails _ (ordinary _ (mapCaptureWorkerError_ordinary _)) _ _) fun _ => ?_
    refine .ite (fun gives_up => ?_) fun _ => .pure fun _ => trivial
    simp only [Bool.and_eq_true, decide_eq_true_eq, Bool.not_eq_true', Bool.or_eq_true, not_or] at gives_up unfinished
    exact fails _ (canceled gives_up.1 unfinished.2 task found gives_up.2) _ _

theorem threadReplied_over {s : Session Hub Process} (levels : Levels origin id (Fits audioId allowed) s) (node : Nat)
    (salvage : Bool) (reply : Reply)
    (gives_up : ∀ task, s.working.tasks.find id = some task →
      GivesUp world.python salvage (captureStopPending s.memory id task) reply → allowed .canceled) :
    wp (threadReplied world id node salvage reply)
      (fun next after => Levels origin id (Fits audioId allowed) after ∧ ThreadOver id next after.working)
      (fun _ => Levels origin id (Fits audioId allowed)) s := by
  obtain ⟨task, found, _⟩ := levels.working.row
  cases reply with
  | raises => exact levels
  | unreachable => exact levels
  | answer code poll =>
    rw [threadReplied, wp_bind, wp_recollect]
    cases salvage with
    | true =>
      refine Keeps.ite (fun _ => .pure fun _ => trivial) (fun unready => ?_) s levels
      refine Keeps.bind forwardCaptureCancel_stays fun _ => failAndReturn_over (gives_up task found ?_) _ _
      simpa [GivesUp] using unready
    | false =>
      simp only [Bool.false_eq_true, if_false, wp_ite]
      split
      · exact failAndReturn_over (ordinary _ (by decide)) _ _ s levels
      · rename_i known
        rw [wp_bind]
        refine wp_loaded_of found ?_
        -- Only a poll that reports `canceled` can fail the row as canceled, and none such forwards a stop.
        by_cases canceled : workerStatus world.python poll = "canceled"
        · have unforwarded : captureStopForwardStatuses.contains (workerStatus world.python poll) = false := by
            rw [canceled]
            decide
          simp only [unforwarded, Bool.and_false, Bool.false_eq_true, if_false, wp_bind, wp_modifyTask, wp_flush]
          have level (status stage : String) : Level origin id (Fits audioId allowed) (s.working.modifyTask id fun task =>
              { task with metaJson := some (polledFields world status stage task.metaDict) }) :=
            levels.working.modify fun _ fit => fit.of_same rfl rfl
          refine wp_commitAt (afterPoll_over ordinary ⟨level _ _, level _ _, level _ _⟩ _ _ _ ?_)
            ⟨levels.committed, level _ _, level _ _⟩
          intro _ unready row found_row waits
          simp only [Session.commit_working, Session.flush_working, Session.edit_working, Hub.modifyTask, Table.find_modify,
            found, if_true, Option.map_some, Option.some.injEq] at found_row
          subst found_row
          refine gives_up task found ⟨known, canceled, unready, ?_⟩
          rw [← polled_stop world]
          simpa using waits
        · have polls (status stage : String) (plain : status ≠ "canceled") :
              Keeps origin id (Fits audioId allowed) (ThreadOver id) (do
                modifyTask id fun task =>
                  { task with metaJson := some (polledFields world status stage task.metaDict) }
                Tx.flush
                commitAt world (.runner id 27)
                afterPoll world id node status poll) := by
            refine Keeps.bind (stays_modify fun _ fit => fit.of_same rfl rfl) fun _ => Keeps.bind stays_flush fun _ => ?_
            refine Keeps.bind (stays_commitAt world _) fun _ => ?_
            exact fun s levels => afterPoll_over ordinary levels node status poll fun is_canceled => absurd is_canceled plain
          have plain (forward : Bool) : (if forward then "finalizing" else workerStatus world.python poll) ≠ "canceled" := by
            split
            · decide
            · exact canceled
          refine Keeps.ite (fun _ => Keeps.bind forwardCaptureStop_stays fun _ => ?_) (fun _ => ?_) s levels
          · exact polls _ _ (plain _)
          · exact polls _ _ (plain _)

end Thread

section Persist

variable {audioId : Option Nat} {allowed : ErrorCode → Prop} {world : World}

/-- A part of a persist goes on exactly when the row is still running. -/
def Verdict (id : Nat) (next : Option A) (hub : Hub) : Prop :=
  ∀ task, hub.tasks.find id = some task → stillRunning task = next.isSome

theorem threadCheck_over : Keeps origin id (Fits audioId allowed)
    (fun running hub => running = false → Over id hub) (threadCheck id) := by
  refine Keeps.bind stays_refresh fun _ s levels => ?_
  obtain ⟨task, found, _⟩ := levels.working.row
  rw [wp_bind]
  refine wp_loaded_of found ⟨levels, fun waits row here => ?_⟩
  obtain rfl : task = row := Option.some.inj (found.symm.trans here)
  exact waits

theorem checked_verdict {program : Task → Program (Option A)} (goes_on : ∀ task, stillRunning task = true →
      ∀ s, Levels origin id (Fits audioId allowed) s → s.working.tasks.find id = some task →
        wp (program task) (fun next after => Levels origin id (Fits audioId allowed) after ∧ Verdict id next after.working)
          (fun _ => Levels origin id (Fits audioId allowed)) s) :
    Keeps origin id (Fits audioId allowed) (Verdict id) (do
      refreshTask id
      let task ← loaded id
      if !stillRunning task then pure none else program task) := by
  refine Keeps.bind stays_refresh fun _ s levels => ?_
  obtain ⟨task, found, _⟩ := levels.working.row
  rw [wp_bind]
  refine wp_loaded_of found ?_
  rw [wp_ite]
  split
  · rename_i waits
    refine ⟨levels, fun row here => ?_⟩
    obtain rfl : task = row := Option.some.inj (found.symm.trans here)
    simpa using waits
  · rename_i running
    exact goes_on task (by simpa using running) s levels found

variable (ordinary : ∀ code, code ≠ .canceled → allowed code)
include ordinary

theorem failed_verdict {code : ErrorCode} (fine : code ≠ .canceled) (step : Nat) :
    Keeps origin id (Fits audioId allowed) (Verdict id)
      (do failAndCommit world id code [] step; pure none : Program (Option A)) :=
  (failAndCommit_over (ordinary code fine) [] step).map fun _ _ ended => ended

theorem persistBegin_verdict : Keeps origin id (Fits audioId allowed) (Verdict id) (persistBegin world id) := by
  refine checked_verdict fun task running s levels found => ?_
  rw [wp_ite]
  split
  · exact failed_verdict ordinary (by decide) 0 s levels
  · have level : Level origin id (Fits audioId allowed)
        (s.working.modifyTask id (staged "downloading" [("worker_capture_status", .str "success")])) :=
      levels.working.modify fun _ fit => fit.of_same rfl rfl
    rw [updateTaskMeta, wp_bind, wp_bind, wp_modifyTask, wp_flush, wp_bind]
    refine wp_commitAt ⟨⟨level, level, level⟩, fun row here => ?_⟩ ⟨levels.committed, level, level⟩
    simp only [Session.commit_working, Session.flush_working, Session.edit_working, Hub.modifyTask, Table.find_modify,
      found, if_true, Option.map_some, Option.some.injEq] at here
    subst here
    exact running

theorem persistAsk_verdict (node : Nat) : Keeps origin id (Fits audioId allowed) (Verdict id) (persistAsk world id node) := by
  intro s levels
  rw [persistAsk, wp_bind]
  refine wp_mono (persistBegin_verdict ordinary s levels) ?_ fun _ _ held => held
  rintro begun after ⟨levels, verdict⟩
  cases begun with
  | none => exact ⟨levels, verdict⟩
  | some fields =>
    rw [wp_bind, callWorker, wp_bind]
    refine wp_guardSite (wp_commitAt ⟨?_, verdict⟩ levels) levels
    exact ⟨levels.working, levels.working, levels.working⟩

theorem persistDownloaded_verdict (poll : Dict) :
    Keeps origin id (Fits audioId allowed)
      (fun next hub => Verdict id next hub ∧ (next.isSome → (world.artifact id).downloaded = true))
      (persistDownloaded world id poll) := by
  refine Keeps.bind (stays_guardSite world _) fun _ => ?_
  have goes_on : Keeps origin id (Fits audioId allowed) (Verdict id)
    (persistTimed world id (pollDuration world.python poll)) := by
    cases pollDuration world.python poll with
    | none => exact .raise _
    | some duration =>
      refine checked_verdict fun task running s levels found => ?_
      rw [wp_bind]
      refine wp_commitAt ⟨⟨levels.working, levels.working, levels.working⟩, fun row here => ?_⟩ levels
      obtain rfl : task = row := Option.some.inj (found.symm.trans here)
      exact running
  have fails (code : ErrorCode) (fine : code ≠ .canceled) (step : Nat) (downloaded : Prop) :
      Keeps origin id (Fits audioId allowed) (fun next hub => Verdict id next hub ∧ (next.isSome → downloaded))
      (do failAndCommit world id code [] step; pure none : Program (Option (Option Decimal))) :=
    (failAndCommit_over (ordinary code fine) [] step).map fun _ _ ended => ⟨ended, fun some => by contradiction⟩
  cases world.artifact id with
  | notDownloaded => exact fails _ (by decide) 2 _
  | invalid => exact fails _ (by decide) 3 _
  | tooLarge => exact goes_on.weaken fun _ _ verdict => ⟨verdict, fun _ => rfl⟩
  | unreadable => exact goes_on.weaken fun _ _ verdict => ⟨verdict, fun _ => rfl⟩
  | missing => exact goes_on.weaken fun _ _ verdict => ⟨verdict, fun _ => rfl⟩
  | stored filename => exact goes_on.weaken fun _ _ verdict => ⟨verdict, fun _ => rfl⟩

theorem persistSaved_over (fields : Dict) (duration : Option Decimal)
    (unstored : ∀ filename, world.artifact id ≠ .stored filename) :
    Keeps origin id (Fits audioId allowed) (fun _ hub => (world.artifact id).downloaded = true → Over id hub)
      (persistSaved world id fields duration) := by
  have fails (code : ErrorCode) (fine : code ≠ .canceled) (extra : Dict) (step : Nat) (downloaded : Prop) :
      Keeps origin id (Fits audioId allowed) (fun _ hub => downloaded → Over id hub)
        (failAndCommit world id code extra step) :=
    (failAndCommit_over (ordinary code fine) extra step).weaken fun _ _ ended _ => ended
  unfold persistSaved
  cases artifact : world.artifact id with
  | tooLarge => exact fails _ (by decide) _ _ _
  | unreadable => exact fails _ (by decide) _ _ _
  | missing => exact fails _ (by decide) _ _ _
  | stored filename => exact absurd artifact (unstored filename)
  | notDownloaded => exact .pure fun _ downloaded => by contradiction
  | invalid => exact .pure fun _ downloaded => by contradiction

end Persist

section Ends

variable {audioId : Option Nat} {allowed : ErrorCode → Prop} {world : World}

theorem tickAsk_stays : Stays origin id (Fits audioId allowed) (tickAsk world id) := by
  refine Keeps.bind (stays_loaded id) fun task => .ite (fun _ => Stays.pure _) fun _ => ?_
  split
  · refine Keeps.bind stays_read fun hub => .ite (fun _ => Stays.pure _) fun _ => ?_
    exact Keeps.bind (stays_callWorker world _) fun _ => Stays.pure _
  · exact Stays.pure _

theorem tickReplied_stays (reply : Reply) : Stays origin id (Fits audioId allowed) (tickReplied world id reply) := by
  cases reply with
  | raises => exact .raise _
  | unreachable => exact Stays.pure _
  | answer code poll =>
    refine .ite (fun _ => Stays.pure _) fun _ => .ite (fun _ => Stays.pure _) fun _ => ?_
    exact .ite (fun _ => Keeps.bind (updateTaskMeta_stays _ _) fun _ => Stays.pure _) fun _ => Stays.pure _

theorem threadLeaves_idle (node : Option Nat) :
    Keeps origin id (Fits audioId allowed) (fun next _ => next = .idle) (threadLeaves world id node) := by
  have ends : Keeps origin id (Fits audioId allowed) (fun next _ => next = .idle)
      (do Tx.remember (threadFinished id); pure .idle : Program Phase) :=
    Keeps.bind (stays_remember _) fun _ => .pure fun _ => rfl
  refine Keeps.bind stays_read fun hub => ?_
  cases node with
  | none => exact ends
  | some node =>
    refine .ite (fun _ => ?_) fun _ => ends
    exact Keeps.bind (stays_attempt (stays_callWorker world node)) fun _ => ends

theorem threadFailed_fails (fine : allowed .pipelineError) (detail : String) {s : Session Hub Process}
    (levels : Levels origin id (Fits audioId allowed) s) :
    wp (threadFailed world id detail)
      (fun _ after => Levels origin id (Fits audioId allowed) after ∧ Over id after.working)
      (fun _ after => Levels origin id (Fits audioId allowed) after ∧ Over id after.working) s := by
  obtain ⟨task, found, _⟩ := levels.committed.row
  rw [threadFailed, wp_bind, wp_rollback, wp_bind, wp_read, Session.rollback_working, found, wp_ite,
    if_pos Option.isSome_some]
  exact failAndCommit_fails fine _ _ ⟨levels.committed, levels.committed, levels.committed⟩

end Ends

section Records

variable {audioId : Option Nat} {allowed : ErrorCode → Prop} {world : World}

structure Recorded (origin : Hub) (id : Nat) (hub : Hub) : Prop where
  audios : ∃ audio, hub.audios = origin.audios.put origin.nextId audio
  row : ∃ task, hub.tasks.find id = some task ∧ task.audioId = some origin.nextId
  tasks : (∀ other, other ≠ id → hub.tasks.find other = origin.tasks.find other) ∨
    ∃ followUp : Task, ∀ other, other ≠ id →
      hub.tasks.find other = if other = origin.nextId + 1 then some followUp else origin.tasks.find other

theorem enqueueTranscribe_records {s : Session Hub Process} (recorded : Recorded origin id s.working)
    (unchanged : ∀ other, other ≠ id → s.working.tasks.find other = origin.tasks.find other)
    (next : s.working.nextId = origin.nextId + 1) (below : id < origin.nextId) :
    wp (enqueueTranscribeAfterIngest world id)
      (fun _ after => Recorded origin id after.working ∧ after.committed = s.committed)
      (fun _ after => after.committed = s.committed) s := by
  obtain ⟨task, found, file⟩ := recorded.row
  rw [enqueueTranscribeAfterIngest, wp_bind]
  refine wp_loaded_of found ?_
  rw [wp_bind, wp_read]
  simp only [wp_ite]
  split
  · exact ⟨recorded, rfl⟩
  · split
    · exact ⟨recorded, rfl⟩
    · cases s.working.orgs.find task.orgId with
      | none => exact ⟨recorded, rfl⟩
      | some org =>
        dsimp only
        cases outOfBalance org with
        | none => exact rfl
        | some broke =>
          cases broke with
          | true => exact ⟨recorded, rfl⟩
          | false =>
            rw [wp_bind]
            refine wp_guardSite ?_ rfl
            simp only [wp_bind, wp_update, wp_flush, wp_modifyTask]
            have own : id ≠ s.working.nextId := by omega
            refine ⟨⟨?_, ?_, .inr ?_⟩, rfl⟩
            · exact recorded.audios
            · refine ⟨task.mergeMeta [("follow_up_task_id", idJson s.working.nextId)], ?_, file⟩
              simp [Hub.modifyTask, Hub.addTask, Table.find_modify, Table.find_put, own, found]
            · refine ⟨ingestFollowUp world.now (telegramNotifyMeta world task.metaDict) task, fun other different => ?_⟩
              simp [Hub.modifyTask, Hub.addTask, Table.find_modify, Table.find_put, different, next, unchanged other different]

theorem persistSaved_records (fields : Dict) (duration : Option Decimal) {filename : String}
    (stored : world.artifact id = .stored filename) (below : id < origin.nextId) {s : Session Hub Process}
    (levels : Levels origin id (Fits audioId allowed) s) :
    wp (persistSaved world id fields duration)
      (fun _ after => Recorded origin id after.committed ∧ after.working = after.committed)
      (fun _ after => Level origin id (Fits audioId allowed) after.committed) s := by
  obtain ⟨task, found, fit⟩ := levels.working.row
  have level := levels.working
  rw [persistSaved, stored]
  dsimp only
  rw [wp_bind]
  refine wp_loaded_of found ?_
  simp only [wp_bind, wp_read, wp_update, wp_flush]
  refine wp_guardSite ?_ levels.committed
  rw [wp_modifyTask]
  refine wp_guardSite ?_ levels.committed
  have unchanged : ∀ other, other ≠ id →
      ((s.working.addAudio ⟨task.orgId, task.userId, filename, duration⟩).modifyTask id
        (capturedTask s.working.nextId duration fields)).tasks.find other = origin.tasks.find other := by
    intro other different
    rw [← level.others other different]
    simp [Hub.modifyTask, Hub.addAudio, Table.find_modify, different]
  refine wp_mono (enqueueTranscribe_records ?_ unchanged ?_ below) ?_ ?_
  · refine ⟨⟨_, by rw [← level.audios, ← level.nextId]; rfl⟩, ⟨capturedTask s.working.nextId duration fields task, ?_, ?_⟩,
      .inl unchanged⟩
    · simp [Hub.modifyTask, Hub.addAudio, Table.find_modify, found]
    · rw [← level.nextId]
      rfl
  · rw [← level.nextId]
    rfl
  · rintro _ after ⟨recorded, same⟩
    refine wp_commitAt ⟨recorded, rfl⟩ ?_
    rw [same]
    exact levels.committed
  · intro _ after same
    rw [same]
    exact levels.committed

end Records

section Whole

variable {audioId : Option Nat} {allowed : ErrorCode → Prop} {world : World}

def Phase.sound : Phase → Bool
  | .saving _ _ _ artifact => artifact.downloaded
  | _ => true

/-- Only a persist enters the lock, and only for a row that is still running. -/
def Locking (id : Nat) (phase next : Phase) (hub : Hub) : Prop :=
  next.sound = true ∧ (next.locks = true → (phase.isPersisting || phase.locks) = true ∧
    ∀ task, hub.tasks.find id = some task → stillRunning task = true)

theorem unlocked {phase next : Phase} (outside : next.locks = false) : ∀ hub, Locking id phase next hub := by
  intro hub
  refine ⟨?_, fun locks => ?_⟩
  · cases next <;> first | rfl | contradiction
  · rw [outside] at locks
    contradiction

theorem awaiting_unlocked (node : Option Nat) (waiting : Awaiting) : (waiting.phase node).locks = false := by
  cases waiting <;> rfl

theorem afterPersist_unlocked (role : Role) (node : Nat) : (role.afterPersist node).locks = false := by
  cases role <;> rfl

theorem section_stays (every : ∀ code, allowed code) (detail : String) (role : Role) (phase : Phase)
    (unsaved : ∀ node fields duration artifact, phase ≠ .saving node fields duration artifact) :
    Keeps origin id (Fits audioId allowed) (Locking id phase) (sectionOf world id detail role phase).program := by
  have ordinary : ∀ code, code ≠ .canceled → allowed code := fun code _ => every code
  -- a section that waits holds no lock
  have waits {program : Program Awaiting} (stays : Stays origin id (Fits audioId allowed) program) (node : Option Nat) :
      Keeps origin id (Fits audioId allowed) (Locking id phase)
        (do let waiting ← program; pure (waiting.phase node)) :=
    stays.map fun waiting hub _ => unlocked (awaiting_unlocked node waiting) hub
  cases phase with
  | idle =>
    cases role with
    | thread =>
      refine Keeps.bind stays_recollect fun process => .ite (fun _ => ?_) fun _ => .pure (unlocked rfl)
      exact waits (threadStart_stays every) none
    | tick =>
      refine Keeps.bind (stays_loaded id) fun task => .pure (unlocked ?_)
      split <;> rfl
  | loaded =>
    refine Keeps.bind tickAsk_stays fun node => ?_
    cases node with
    | none => exact .pure (unlocked rfl)
    | some node => exact .pure (unlocked rfl)
  | posting node => exact waits (threadPosted_over ordinary node).stays none
  | polling node => exact Keeps.bind (threadAsk_stays node) fun _ => .pure (unlocked rfl)
  | asked node salvage => exact .pure (unlocked rfl)
  | replied node salvage reply =>
    cases role with
    | thread =>
      refine waits (fun s levels => ?_) (some node)
      exact wp_mono (threadReplied_over ordinary levels node salvage reply fun _ _ _ => every _)
        (fun _ _ held => ⟨held.1, trivial⟩) fun _ _ held => held
    | tick =>
      refine Keeps.bind (tickReplied_stays reply) fun poll => ?_
      cases poll with
      | none => exact .pure (unlocked rfl)
      | some poll => exact .pure (unlocked rfl)
  | fetched node poll =>
    refine Keeps.bind threadCheck_over.stays fun running => .pure (unlocked ?_)
    split <;> rfl
  -- from here on a section may lock: it has the verdict of its own reading
  | persisting node poll =>
    intro s levels
    show wp (persistAsk world id node >>= _) _ _ s
    rw [wp_bind]
    refine wp_mono (persistAsk_verdict ordinary node s levels) ?_ fun _ _ held => held
    rintro begun after ⟨levels, verdict⟩
    cases begun with
    | none => exact ⟨levels, unlocked (afterPersist_unlocked role node) _⟩
    | some fields => exact ⟨levels, rfl, fun _ => ⟨rfl, verdict⟩⟩
  | downloading node poll fields =>
    intro s levels
    show wp (persistDownloaded world id poll >>= _) _ _ s
    rw [wp_bind]
    refine wp_mono (persistDownloaded_verdict ordinary poll s levels) ?_ fun _ _ held => held
    rintro downloaded after ⟨levels, verdict, saves⟩
    cases downloaded with
    | none => exact ⟨levels, unlocked (afterPersist_unlocked role node) _⟩
    | some duration => exact ⟨levels, saves rfl, fun _ => ⟨rfl, verdict⟩⟩
  | saving node fields duration artifact => exact absurd rfl (unsaved node fields duration artifact)
  | raised =>
    intro s levels
    show wp (threadFailed world id detail >>= _) _ _ s
    rw [wp_bind]
    refine wp_mono (threadFailed_fails (every _) detail levels) ?_ fun _ _ held => held.1
    exact fun _ after held => ⟨held.1, unlocked rfl _⟩
  | leaving node =>
    refine (threadLeaves_idle node).weaken fun next hub idle => unlocked ?_ hub
    rw [idle]
    rfl
  | starting => exact Keeps.bind (maybeStartCapture_stays ordinary) fun _ => .pure (unlocked rfl)
  | committing => exact Keeps.bind (stays_commitAt world _) fun _ => .pure (unlocked rfl)

theorem failure_unlocked (detail : String) (role : Role) (phase : Phase) :
    (sectionOf world id detail role phase).failure.locks = false := by
  cases phase <;> cases role <;> rfl

/-- What a driver and its store are after a section that keeps the store level. -/
structure Ran (hub : Hub) (id : Nat) (task : Task) (reader : Driver) (fits : Task → Prop)
    (post : Phase → Hub → Prop) (after : Hub) (driver : Driver) : Prop where
  base : fits driver.base
  own : fits driver.own
  audios : after.audios = hub.audios
  nextId : after.nextId = hub.nextId
  others : ∀ other, other ≠ id → after.tasks.find other = hub.tasks.find other
  row : after.tasks.find id = some (Task.merged reader.base driver.base task)
  phase : ∃ working : Hub, working.tasks.find id = some driver.own ∧ post driver.phase working

theorem session_levels {hub : Hub} {reader : Driver} {task : Task} (found : hub.tasks.find id = some task)
    (base : fits reader.base) (own : fits reader.own) (process : Process) :
    Levels hub id fits (reader.session id hub process) := by
  have view (row : Task) (fit : fits row) : Level hub id fits (hub.modifyTask id fun _ => row) := by
    refine ⟨rfl, rfl, fun other different => ?_, row, ?_, fit⟩
    · simp [Hub.modifyTask, Table.find_modify, different]
    · simp [Hub.modifyTask, Table.find_modify, found]
  exact ⟨view _ base, view _ own, view _ own⟩

theorem Driver.run_level {driver : Driver} {hub : Hub} {task : Task} {part : Section} {post : Phase → Hub → Prop}
    {process : Process} (found : hub.tasks.find id = some task)
    (held : wp part.program (fun next after => Levels hub id fits after ∧ post next after.working)
      (fun _ after => Levels hub id fits after ∧ post part.failure after.working)
      ((driver.read task part.reading).session id hub process)) :
    Ran hub id task (driver.read task part.reading) fits post
      (driver.run id hub process part).1 (driver.run id hub process part).2.2 := by
  simp only [Driver.run, found, Option.getD_some, Tx.run]
  simp only [wp] at held
  generalize part.program ((driver.read task part.reading).session id hub process) = ran at held
  obtain ⟨outcome, after⟩ := ran
  have levels : Levels hub id fits after := by
    cases outcome with
    | ok next => exact held.1
    | error fault => exact held.1
  obtain ⟨written, stored, written_fits⟩ := levels.committed.row
  obtain ⟨object, shown, object_fits⟩ := levels.working.row
  simp only [stored, shown, Option.getD_some]
  refine ⟨written_fits, object_fits, levels.committed.audios, levels.committed.nextId, ?_, ?_, after.working, shown, ?_⟩
  · intro other different
    rw [← levels.committed.others other different]
    simp [Hub.modifyTask, Table.find_modify, different]
  · simp [Hub.modifyTask, Table.find_modify, stored]
  · cases outcome with
    | ok next => exact held.2
    | error fault => exact held.2

end Whole

end IdigestHub.Capture
