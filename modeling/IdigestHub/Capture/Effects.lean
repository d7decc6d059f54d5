import IdigestHub.Capture.Thread
import IdigestHub.Ingest.Effects

/-! The capture runner and its thread keep to their own row. -/

set_option autoImplicit false

namespace IdigestHub.Capture

open Foundation Foundation.UnitOfWork Dispatcher Ingest Relation

section Rows

variable {task : Task}

theorem hubStage_not_done (status : String) (ready : Bool) : hubStageForWorkerStatus status ready ≠ "done" := by
  unfold hubStageForWorkerStatus
  split
  · split <;> decide
  · split
    · rename_i listed
      intro done
      subst done
      revert listed
      decide
    · decide

theorem bound_row (target : CaptureTarget) (displayName : String) (task : Task) :
    IngestRow task (bound target displayName task) := by
  refine kept_row rfl rfl rfl rfl rfl ?_ rfl
  have absent (token : Dict) (token_absent : ∀ field ∈ token, field.1 ≠ "stage") :
      (task.metaDict.update ([
        ("meeting_host", .str target.meetingHost), ("meeting_room", .str target.meetingRoom),
        ("connector", .str target.connector), ("display_name", .str displayName)] ++ token)).get "stage" =
        task.stage := by
    rw [Dict.get_update_of_absent]
    · rfl
    · intro field member
      rcases List.mem_append.mp member with listed | listed
      · simp only [List.mem_cons, List.not_mem_nil, or_false] at listed
        rcases listed with rfl | rfl | rfl | rfl <;> simp
      · exact token_absent field listed
  refine absent _ ?_
  split <;> simp

theorem unbound_row (task : Task) :
    IngestRow task (if task.workerId.isSome then { task with workerId := none, workerTaskId := none } else task) := by
  split
  · exact kept_row rfl rfl rfl rfl rfl rfl rfl
  · exact .refl task

theorem polled_row (world : World) (status stage : String) (notDone : stage ≠ "done") (task : Task) :
    IngestRow task { task with metaJson := some (polledFields world status stage task.metaDict) } :=
  restaged_row stage notDone ⟨rfl, rfl, rfl, rfl, rfl, fun done => .inr ⟨done, rfl⟩⟩ rfl

theorem popped_row (task : Task) :
    IngestRow task
      { task with metaJson := some ((task.metaDict.pop "stop_requested").pop "finalizing_since") } := by
  refine kept_row rfl rfl rfl rfl rfl ?_ rfl
  show ((task.metaDict.pop "stop_requested").pop "finalizing_since").get "stage" = task.stage
  rw [Dict.get_pop, if_neg (by decide), Dict.get_pop, if_neg (by decide)]
  rfl

end Rows

variable {world : World} {scope : Nat → Prop} {origin : Hub} {id : Nat} {A : Type} {s : Session Hub Process}

section Runner

theorem capacityAvailable_tends : Tends world scope origin id (capacityAvailable world id) := by
  refine (tends_loaded id).bind fun task => tends_recollect.bind fun process => ?_
  refine tends_query.bind fun stored => tends_read.bind fun working => ?_
  cases captureWorkerCapacityAvailable world.python process stored working id task with
  | none => exact .raise _
  | some available => exact .pure _

theorem loseCaptureWorkerLink_tends (reason : String) :
    Tends world scope origin id (loseCaptureWorkerLink world id reason) := by
  refine (tends_loaded id).bind fun task => .ite (fun _ => failTask_tends _ _) fun _ => ?_
  exact tends_modify fun row _ => requeued_row row

theorem forwardCaptureStop_tends : Tends world scope origin id (forwardCaptureStop world id) := by
  refine (tends_loaded id).bind fun task => tends_read.bind fun hub => ?_
  split
  · exact .ite (fun _ => tends_callWorker _) fun _ => .pure _
  · exact .pure _

theorem reattach_tends (task : Task) (poll : Dict) :
    Tends world scope origin id (recoverCaptureTask.reattach world id task poll) := by
  refine tends_recollect.bind fun process => .ite (fun _ => failTask_tends _ _) fun _ => .ite (fun _ => ?_) fun _ => ?_
  · refine .ite (fun _ => updateTaskMeta_tends (by decide) (by simp)) fun _ => failTask_tends _ _
  · refine .ite (fun _ => loseCaptureWorkerLink_tends _) fun _ => ?_
    refine (updateTaskMeta_tends (hubStage_not_done _ _) (by simp)).bind fun _ => ?_
    refine (tends_loaded id).bind fun task => .ite (fun _ => ?_) fun _ => .pure _
    exact forwardCaptureStop_tends.bind fun _ => updateTaskMeta_tends (by decide) (by simp)

theorem recoverCaptureTask_tends (nodes : List Nat) : Tends world scope origin id (recoverCaptureTask world id nodes) := by
  refine (tends_loaded id).bind fun task => .ite (fun _ => .pure _) fun _ => ?_
  split
  · refine .ite (fun _ => loseCaptureWorkerLink_tends _) fun _ => (tends_pollWorker _).bind fun answer => ?_
    cases answer with
    | none => exact .pure _
    | some reply =>
      refine .ite (fun _ => loseCaptureWorkerLink_tends _) fun _ => .ite (fun _ => .pure _) fun _ => ?_
      exact reattach_tends task _
  · exact loseCaptureWorkerLink_tends _

theorem failCaptureMeetingError_tends (code : ErrorCode) :
    Tends world scope origin id (failCaptureMeetingError world id code) := by
  refine (tends_loaded id).bind fun task => ?_
  split
  · exact failTask_tends _ _
  · exact failTask_tends _ _
  · exact failTask_tends _ _
  · dsimp only
    split
    · exact .raise _
    · exact failTask_tends _ _
  · exact failTask_tends _ _

theorem boundWorker_tends : Tends world scope origin id (boundWorker world id) := by
  refine (tends_loaded id).bind fun task => tends_read.bind fun hub => ?_
  split
  · exact .pure _
  · refine .ite (fun _ => capacityAvailable_tends.bind fun available => ?_) fun _ => .pure _
    exact .ite (fun _ => .pure _) fun _ => .pure _

theorem bindCaptureWorker_tends : Tends world scope origin id (bindCaptureWorker world id) := by
  refine (tends_loaded id).bind fun task => .ite (fun _ => (failTask_tends _ _).bind fun _ => .pure _) fun _ => ?_
  refine boundWorker_tends.bind fun kept => ?_
  cases kept with
  | some workerId => exact .pure _
  | none =>
    refine (tends_modify fun row _ => unbound_row row).bind fun _ => tends_read.bind fun hub => ?_
    refine tends_query.bind fun stored => ?_
    cases hub.orgs.find task.orgId with
    | none => exact (failTask_tends _ _).bind fun _ => .pure _
    | some org =>
      dsimp only
      cases resolveTask world stored hub org task with
      | error fault =>
        cases fault with
        | exception => exact .raise _
        | meeting code => exact (failCaptureMeetingError_tends code).bind fun _ => .pure _
      | ok target =>
        exact (tends_modify fun row _ => bound_row target _ row).bind fun _ => tends_flush.bind fun _ => .pure _

theorem maybeStartCapture_tends : Tends world scope origin id (maybeStartCapture world id) := by
  refine (tends_loaded id).bind fun task => tends_recollect.bind fun process => ?_
  refine .ite (fun _ => .pure _) fun _ => .ite (fun _ => .pure _) fun _ => ?_
  refine (tends_remember _).bind fun _ => capacityAvailable_tends.bind fun available => ?_
  refine .ite (fun _ => ?_) fun _ => failTask_tends _ _
  refine (tends_remember _).bind fun _ => ?_
  have spawns (f : Process → Process) :
      Tends world scope origin id (do commitAt world (.spawn id); Tx.remember f) :=
    (tends_commitAt _).bind fun _ => tends_remember _
  dsimp only
  refine .ite (fun _ => ?_) fun _ => spawns _
  exact (tends_modify fun row _ => started_row (by decide) row).bind fun _ => tends_flush.bind fun _ => spawns _

end Runner

section Persist

/-- Nothing is pending, so a refresh changes nothing. -/
structure Clean (world : World) (scope : Nat → Prop) (origin : Hub) (id : Nat) (s : Session Hub Process) : Prop where
  holds : Holds world scope origin id s
  flushed : s.flushed.tasks.find id = s.working.tasks.find id

def Renews (world : World) (scope : Nat → Prop) (origin : Hub) (id : Nat) (program : Program A) : Prop :=
  ∀ s, Clean world scope origin id s →
    wp program (fun _ => Holds world scope origin id) (fun _ after => Path world scope origin after.committed) s

theorem refresh_clean (clean : Clean world scope origin id s) :
    wp (refreshTask id) (fun _ => Clean world scope origin id)
      (fun _ after => Path world scope origin after.committed) s := by
  obtain ⟨task, found, ingest⟩ := clean.holds.row
  have inside := clean.holds.inside
  rw [refreshTask, wp_bind, wp_query, clean.flushed, found]
  refine ⟨⟨clean.holds.bounded, clean.holds.inside, clean.holds.start,
    Follows.modify clean.holds.follows found (.ingests task ingest (.refl task))⟩, ?_⟩
  simp [clean.flushed, found]

theorem Tends.after_refresh {program : Program A} (tends : Tends world scope origin id program) :
    Renews world scope origin id (refreshTask id >>= fun _ => program) := by
  intro s clean
  rw [wp_bind]
  exact wp_mono (refresh_clean clean) (fun _ after clean => tends after clean.holds) fun _ _ saved => saved

theorem callWorker_clean (holds : Holds world scope origin id s) (node : Nat) :
    wp (callWorker world id node) (fun _ => Clean world scope origin id)
      (fun _ after => Path world scope origin after.committed) s := by
  rw [callWorker, wp_bind]
  refine wp_guardSite ?_ holds.follows.saved
  exact wp_commitAt ⟨⟨holds.bounded, holds.inside, holds.start, holds.follows.commit⟩, rfl⟩ holds.follows.saved

theorem pollWorker_clean (holds : Holds world scope origin id s) (node : Nat) :
    wp (pollWorker world id node) (fun _ => Clean world scope origin id)
      (fun _ after => Path world scope origin after.committed) s := by
  rw [pollWorker, wp_bind]
  refine wp_mono (callWorker_clean holds node) ?_ fun _ _ saved => saved
  intro _ after clean
  cases world.getTask id with
  | answer status body => exact clean
  | unreachable => exact clean
  | raises => exact clean.holds.follows.saved

theorem persistBegin_renews : Renews world scope origin id (persistBegin world id) := by
  refine Tends.after_refresh ?_
  refine (tends_loaded id).bind fun task => .ite (fun _ => .pure _) fun _ => .ite (fun _ => ?_) fun _ => ?_
  · exact (failAndCommit_tends _ _ _).bind fun _ => .pure _
  · exact (updateTaskMeta_tends (by decide) (by simp)).bind fun _ => (tends_commitAt _).bind fun _ => .pure _

theorem persistDownloaded_renews (poll : Dict) : Renews world scope origin id (persistDownloaded world id poll) := by
  intro s clean
  rw [persistDownloaded, wp_bind]
  refine wp_guardSite ?_ clean.holds.follows.saved
  have goes_on : Renews world scope origin id (persistTimed world id (pollDuration world.python poll)) := by
    cases pollDuration world.python poll with
    | none => exact fun _ clean => clean.holds.follows.saved
    | some duration =>
      refine Tends.after_refresh ((tends_loaded id).bind fun task => .ite (fun _ => .pure _) fun _ => ?_)
      exact (tends_commitAt _).bind fun _ => .pure _
  have fails (code : ErrorCode) (step : Nat) : Tends world scope origin id
      (do failAndCommit world id code [] step; pure none : Program (Option (Option Decimal))) :=
    (failAndCommit_tends _ _ _).bind fun _ => .pure _
  cases world.artifact id with
  | notDownloaded => exact fails _ _ s clean.holds
  | invalid => exact fails _ _ s clean.holds
  | tooLarge => exact goes_on s clean
  | unreadable => exact goes_on s clean
  | missing => exact goes_on s clean
  | stored filename => exact goes_on s clean

theorem persistSaved_tends (fields : Dict) (duration : Option Decimal) :
    Tends world scope origin id (persistSaved world id fields duration) := by
  unfold persistSaved
  cases world.artifact id with
  | tooLarge => exact failAndCommit_tends _ _ _
  | unreadable => exact failAndCommit_tends _ _ _
  | missing => exact failAndCommit_tends _ _ _
  | notDownloaded => exact .pure _
  | invalid => exact .pure _
  | stored filename =>
    have captured (audioId : Nat) (row : Task) : IngestRow row (capturedTask audioId duration fields row) :=
      succeeded_row rfl rfl rfl rfl rfl rfl
    refine (tends_loaded id).bind fun task => tends_read.bind fun hub => ?_
    refine (addAudio_tends _).bind fun _ => tends_flush.bind fun _ => (tends_guardSite _).bind fun _ => ?_
    refine (tends_modify fun row _ => captured _ row).bind fun _ => (tends_guardSite _).bind fun _ => ?_
    exact enqueueTranscribeAfterIngest_tends.bind fun _ => tends_commitAt _

theorem persistCaptureArtifact_renews (node : Nat) (poll : Dict) :
    Renews world scope origin id (persistCaptureArtifact world id node poll) := by
  intro s clean
  rw [persistCaptureArtifact, wp_bind]
  refine wp_mono (persistBegin_renews s clean) ?_ fun _ _ saved => saved
  intro begun after holds
  cases begun with
  | none => exact holds
  | some fields =>
    rw [wp_bind]
    refine wp_mono (callWorker_clean holds node) ?_ fun _ _ saved => saved
    intro _ after clean
    rw [wp_bind]
    refine wp_mono (persistDownloaded_renews poll after clean) ?_ fun _ _ saved => saved
    intro downloaded after holds
    cases downloaded with
    | none => exact holds
    | some duration => exact persistSaved_tends fields duration after holds

theorem tryFinishCaptureTask_tends : Tends world scope origin id (tryFinishCaptureTask world id) := by
  refine (tends_loaded id).bind fun task => .ite (fun _ => .pure _) fun _ => ?_
  split
  · refine tends_read.bind fun hub => .ite (fun _ => .pure _) fun _ => ?_
    intro s holds
    rw [wp_bind]
    refine wp_mono (pollWorker_clean holds _) ?_ fun _ _ saved => saved
    intro answer after clean
    cases answer with
    | none => exact clean.holds
    | some reply =>
      obtain ⟨status, poll⟩ := reply
      simp only [wp_ite]
      split
      · exact clean.holds
      · rw [tryFinishCaptureTask.report]
        simp only [wp_ite]
        split
        · exact persistCaptureArtifact_renews _ poll after clean
        · split
          · exact updateTaskMeta_tends (hubStage_not_done _ _) (by simp) after clean.holds
          · exact clean.holds
  · exact .pure _

end Persist

section Thread

theorem failAndReturn_tends (code : ErrorCode) (extra : Dict) (step : Nat) :
    Tends world scope origin id (failAndReturn world id code extra step) :=
  (failAndCommit_tends _ _ _).bind fun _ => .pure _

theorem forwardCaptureCancel_tends : Tends world scope origin id (forwardCaptureCancel world id) := by
  refine (tends_loaded id).bind fun task => tends_read.bind fun hub => ?_
  split
  · refine .ite (fun _ => Tends.bind ?_ fun _ => .pure _) fun _ => .pure _
    intro s holds
    rw [wp_attempt, callWorker, wp_bind]
    refine wp_guardSite ?_ holds
    exact wp_commitAt ⟨holds.bounded, holds.inside, holds.start, holds.follows.commit⟩ holds
  · exact .pure _

theorem forwardEarlyStop_tends (node : Nat) : Tends world scope origin id (forwardEarlyStop world id node) := by
  refine (tends_loaded id).bind fun task => tends_recollect.bind fun process => .ite (fun _ => ?_) fun _ => .pure _
  refine forwardCaptureStop_tends.bind fun _ => (updateTaskMeta_tends (by decide) (by simp)).bind fun _ => ?_
  exact (tends_commitAt _).bind fun _ => .pure _

theorem threadStart_tends : Tends world scope origin id (threadStart world id) := by
  refine tends_read.bind fun hub => tends_recollect.bind fun process => ?_
  cases hub.tasks.find id with
  | none => exact .pure _
  | some task =>
    refine .ite (fun _ => .pure _) fun _ => .ite (fun _ => failAndReturn_tends _ _ _) fun _ => ?_
    refine .ite (fun _ => failAndReturn_tends _ _ _) fun _ => bindCaptureWorker_tends.bind fun binding => ?_
    cases binding with
    | none => exact (tends_commitAt _).bind fun _ => .pure _
    | some node =>
      refine (tends_loaded id).bind fun task => .ite (fun _ => ?_) fun _ => ?_
      · exact (tends_commitAt _).bind fun _ => forwardEarlyStop_tends _
      · refine (updateTaskMeta_tends (by decide) (by simp)).bind fun _ => (tends_commitAt _).bind fun _ => ?_
        refine .ite (fun _ => failAndReturn_tends _ _ _) fun _ => (tends_callWorker _).bind fun _ => .pure _

theorem threadPosted_tends (node : Nat) : Tends world scope origin id (threadPosted world id node) := by
  unfold threadPosted
  cases world.post id node with
  | raises => exact .raise _
  | refused kind body =>
    dsimp only
    split
    · exact .raise _
    · exact failAndReturn_tends _ _ _
  | accepted body =>
    refine .ite (fun _ => failAndReturn_tends _ _ _) fun _ => (tends_loaded id).bind fun task => ?_
    have accepted (workerTaskId : String) (row : Task) :
        IngestRow row { row with workerTaskId := some workerTaskId } := kept_row rfl rfl rfl rfl rfl rfl rfl
    refine (tends_modify fun row _ => accepted _ row).bind fun _ => ?_
    refine (tends_commitAt _).bind fun _ => .ite (fun _ => failAndReturn_tends _ _ _) fun _ => ?_
    refine (updateTaskMeta_tends (by decide) (by simp [postedFields])).bind fun _ => ?_
    exact (tends_commitAt _).bind fun _ => forwardEarlyStop_tends _

theorem afterPoll_tends (node : Nat) (status : String) (poll : Dict) :
    Tends world scope origin id (afterPoll world id node status poll) := by
  refine (tends_loaded id).bind fun task => tends_recollect.bind fun process => ?_
  dsimp only
  refine .ite (fun _ => failAndReturn_tends _ _ _) fun _ => .ite (fun _ => .ite (fun _ => .pure _) fun _ => ?_) fun _ => ?_
  · exact (tends_modify fun row _ => popped_row row).bind fun _ => tends_flush.bind fun _ => .pure _
  · refine .ite (fun _ => failAndReturn_tends _ _ _) fun _ => ?_
    exact .ite (fun _ => failAndReturn_tends _ _ _) fun _ => .pure _

theorem threadPoll_renews (node : Nat) : Renews world scope origin id (threadPoll world id node) := by
  refine Tends.after_refresh (tends_recollect.bind fun process => (tends_pollWorker node).bind fun answer => ?_)
  cases answer with
  | none => exact .raise _
  | some reply =>
    obtain ⟨code, poll⟩ := reply
    dsimp only
    refine .ite (fun _ => .ite (fun _ => .pure _) fun _ => ?_) fun _ => .ite (fun _ => failAndReturn_tends _ _ _) fun _ => ?_
    · exact forwardCaptureCancel_tends.bind fun _ => failAndReturn_tends _ _ _
    · refine (tends_loaded id).bind fun task => ?_
      have shows (status stage : String) (notDone : stage ≠ "done") : Tends world scope origin id (do
          modifyTask id fun task =>
            { task with metaJson := some (polledFields world status stage task.metaDict) }
          Tx.flush
          commitAt world (.runner id 27)
          afterPoll world id node status poll) := by
        refine (tends_modify fun row _ => polled_row world status stage notDone row).bind fun _ => ?_
        exact tends_flush.bind fun _ => (tends_commitAt _).bind fun _ => afterPoll_tends node status poll
      have notDone (c : Prop) [Decidable c] (status : String) (ready : Bool) :
          (if c then "finalizing" else hubStageForWorkerStatus status ready) ≠ "done" := by
        split
        · decide
        · exact hubStage_not_done status ready
      refine .ite (fun _ => forwardCaptureStop_tends.bind fun _ => shows _ _ (notDone _ _ _)) fun _ => ?_
      exact shows _ _ (notDone _ _ _)

theorem threadPersist_renews (node : Nat) (poll : Dict) : Renews world scope origin id (threadPersist world id node poll) := by
  intro s clean
  rw [threadPersist, wp_bind]
  refine wp_mono (refresh_clean clean) ?_ fun _ _ saved => saved
  intro _ after clean
  rw [wp_bind]
  refine wp_loaded ?_ clean.holds.follows.saved
  intro task _
  rw [wp_ite]
  split
  · rw [wp_bind]
    exact persistCaptureArtifact_renews node poll after clean
  · exact clean.holds

theorem threadFailed_tends (detail : String) : Tends world scope origin id (threadFailed world id detail) :=
  tends_rollback.bind fun _ => tends_read.bind fun _ =>
    .ite (fun _ => failAndCommit_tends _ _ _) fun _ => .pure _

end Thread

end IdigestHub.Capture
