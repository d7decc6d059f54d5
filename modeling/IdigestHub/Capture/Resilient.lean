import IdigestHub.Capture.Polling

/-! What the sections of a capture that has its worker may do to the store: a few writes of the row, each of which keeps the
link to the worker, and a recording with the task that follows it. -/

set_option autoImplicit false

namespace IdigestHub.Capture

open Foundation Foundation.UnitOfWork Dispatcher Ingest

structure Resilient (id : Nat) (P : Hub → Prop) : Prop where
  refreshed : ∀ stored hub task, P stored → P hub → stored.tasks.find id = some task → P (hub.modifyTask id fun _ => task)
  fields : ∀ hub (f : Task → Dict), (∀ task, (f task).get "meeting_url" = task.metaDict.get "meeting_url") → P hub →
    P (hub.modifyTask id fun task => { task with metaJson := some (f task) })
  failed : ∀ hub code extra, code ≠ .captureNoWorker → P hub → P (hub.modifyTask id (failed code extra))
  captured : ∀ hub audioId duration fields, P hub → P (hub.modifyTask id (capturedTask audioId duration fields))
  task : ∀ hub task, P hub → P (hub.addTask task)
  audio : ∀ hub audio, P hub → P (hub.addAudio audio)

section Gate

variable {id : Nat}

/-- The task's own id counts for nothing. -/
theorem heldByOther_forget (process : Process) (stored working : Hub) (workerId : Nat) :
    captureWorkerHeldByOther { process with active := forget id process.active } stored working workerId id =
      captureWorkerHeldByOther process stored working workerId id := by
  unfold captureWorkerHeldByOther forget
  simp only [List.any_append, List.any_filter, ← Bool.and_assoc, Bool.and_self]

structure Alike (id : Nat) (before after : Hub) : Prop where
  nodes : after.nodes = before.nodes
  settings : after.settings = before.settings
  others : ∀ other, other ≠ id → after.tasks.find other = before.tasks.find other

theorem Alike.refl (hub : Hub) : Alike id hub hub := ⟨rfl, rfl, fun _ _ => rfl⟩

theorem Alike.modify {before after : Hub} (alike : Alike id before after) (f : Task → Task) :
    Alike id before (after.modifyTask id f) := by
  refine ⟨alike.nodes, alike.settings, fun other different => ?_⟩
  rw [← alike.others other different]
  simp [Hub.modifyTask, Table.find_modify, different]

theorem Alike.heldByOther {hub stored working : Hub} (flushed : Alike id hub stored) (loaded : Alike id hub working)
    (process : Process) (node : Nat) :
    captureWorkerHeldByOther process stored working node id = captureWorkerHeldByOther process hub hub node id := by
  have counts : (stored.tasks.count (fun other task => task.type == .capture && task.workerId == some node &&
      other != id && task.status == .running) = 0) ↔ (hub.tasks.count (fun other task => task.type == .capture &&
      task.workerId == some node && other != id && task.status == .running) = 0) := by
    rw [Table.count_eq_zero, Table.count_eq_zero]
    refine forall_congr' fun other => ?_
    by_cases own : other = id
    · simp [own]
    · rw [flushed.others other own]
  unfold captureWorkerHeldByOther
  congr 1
  · exact Bool.eq_iff_iff.mpr (by rw [bne_iff_ne, bne_iff_ne, ne_eq, ne_eq, counts])
  · refine List.any_congr rfl fun other => ?_
    by_cases own : other = id
    · simp [own]
    · rw [loaded.others other own]

theorem Alike.gate {hub stored working : Hub} (flushed : Alike id hub stored) (loaded : Alike id hub working) (python : Python)
    (process : Process) {task row : Task} (same : row.workerId = task.workerId) :
    captureWorkerCapacityAvailable python { process with active := forget id process.active } stored working id row =
      captureWorkerCapacityAvailable python process hub hub id task := by
  unfold captureWorkerCapacityAvailable
  simp only [same, loaded.nodes, loaded.settings, heldByOther_forget, flushed.heldByOther loaded]

end Gate

section Calls

variable {id : Nat} {I : Session Hub Process → Prop} [Transactional I] (world : World)

theorem maintains_pollWorker (task node : Nat) : Maintains I (pollWorker world task node) := by
  refine (maintains_callWorker world task node).bind fun _ => ?_
  split
  · exact maintains_pure _
  · exact maintains_pure _
  · exact maintains_raise _

theorem maintains_forwardCaptureStop : Maintains I (forwardCaptureStop world id) := by
  refine (maintains_loaded id).bind fun task => maintains_read.bind fun hub => ?_
  split
  · exact .ite (fun _ => maintains_callWorker world _ _) fun _ => maintains_pure _
  · exact maintains_pure _

theorem maintains_forwardCaptureCancel : Maintains I (forwardCaptureCancel world id) := by
  refine (maintains_loaded id).bind fun task => maintains_read.bind fun hub => ?_
  split
  · refine .ite (fun _ => ?_) fun _ => maintains_pure _
    exact (maintains_callWorker world _ _).attempt.bind fun _ => maintains_pure _
  · exact maintains_pure _

end Calls

/-- The codes of a worker's errors say nothing of a missing worker. -/
theorem mapCaptureWorkerError_assigned (code : Option String) : mapCaptureWorkerError code ≠ .captureNoWorker :=
  mapCaptureWorkerError_of (P := (· ≠ .captureNoWorker)) (by decide) (by decide) code

section Programs

variable {id : Nat} {P : Hub → Prop} (world : World) (resilient : Resilient id P)
include resilient

theorem preserves_fields {f : Task → Dict} (same : ∀ task, (f task).get "meeting_url" = task.metaDict.get "meeting_url") :
    Preserves P (modifyTask id fun task => { task with metaJson := some (f task) }) :=
  preserves_update fun hub => resilient.fields hub f same

theorem preserves_refresh : Preserves P (refreshTask id) := by
  intro s holds
  rw [refreshTask, wp_bind, wp_query]
  cases found : s.flushed.tasks.find id with
  | none => exact holds
  | some task =>
    exact ⟨holds.committed, holds.flushed, resilient.refreshed _ _ _ holds.flushed holds.working found⟩

theorem preserves_updateTaskMeta (stage : String) {extra : Dict} (absent : ∀ field ∈ extra, field.1 ≠ "meeting_url") :
    Preserves P (updateTaskMeta id stage extra) := by
  refine (preserves_fields resilient fun task => ?_).bind fun _ => maintains_flush
  rw [Dict.get_update_of_absent absent, Dict.get_set, if_neg (by decide)]

theorem preserves_failTask {code : ErrorCode} (assigned : code ≠ .captureNoWorker) (extra : Dict) :
    Preserves P (failTask world id code extra) :=
  (preserves_update fun hub => resilient.failed hub code extra assigned).bind fun _ =>
    maintains_flush.bind fun _ => maintains_guardSite world _

theorem preserves_failAndCommit {code : ErrorCode} (assigned : code ≠ .captureNoWorker) (extra : Dict) (step : Nat) :
    Preserves P (failAndCommit world id code extra step) :=
  (preserves_failTask world resilient assigned extra).bind fun _ => maintains_commitAt world _

theorem preserves_failAndReturn {code : ErrorCode} (assigned : code ≠ .captureNoWorker) (extra : Dict) (step : Nat) :
    Preserves P (failAndReturn world id code extra step) :=
  (preserves_failAndCommit world resilient assigned extra step).bind fun _ => maintains_pure _

theorem preserves_afterPoll (on : Nat) (status : String) (poll : Dict) : Preserves P (afterPoll world id on status poll) := by
  refine (maintains_loaded id).bind fun task => maintains_recollect.bind fun process => ?_
  refine .ite (fun _ => preserves_failAndReturn world resilient (by decide) _ _) fun _ =>
    .ite (fun _ => .ite (fun _ => maintains_pure _) fun _ => ?_) fun _ => ?_
  · refine (preserves_fields resilient fun task => ?_).bind fun _ => maintains_flush.bind fun _ => maintains_pure _
    simp [Dict.get_pop]
  · refine .ite (fun _ => preserves_failAndReturn world resilient (mapCaptureWorkerError_assigned _) _ _) fun _ => ?_
    exact .ite (fun _ => preserves_failAndReturn world resilient (by decide) _ _) fun _ => maintains_pure _

omit resilient in
theorem get_polledFields (status stage : String) (fields : Dict) :
    (polledFields world status stage fields).get "meeting_url" = fields.get "meeting_url" := by
  unfold polledFields
  simp only [Dict.get_set, String.reduceEq, if_false]
  split
  · split
    · rfl
    · simp [Dict.get_set]
  · simp [Dict.get_pop]

theorem preserves_threadPoll (on : Nat) : Preserves P (threadPoll world id on) := by
  refine (preserves_refresh resilient).bind fun _ => maintains_recollect.bind fun process =>
    (maintains_pollWorker world id on).bind fun answer => ?_
  split
  · exact maintains_raise _
  · rename_i code poll
    refine .ite (fun _ => .ite (fun _ => maintains_pure _) fun _ => ?_) fun _ => ?_
    · exact (maintains_forwardCaptureCancel world).bind fun _ => preserves_failAndReturn world resilient (by decide) _ _
    · refine .ite (fun _ => preserves_failAndReturn world resilient (by decide) _ _) fun _ => ?_
      refine (maintains_loaded id).bind fun task => ?_
      have rest (status stage : String) : Preserves P (do
          modifyTask id fun task => { task with metaJson := some (polledFields world status stage task.metaDict) }
          Tx.flush
          commitAt world (.runner id 27)
          afterPoll world id on status poll) :=
        (preserves_fields resilient fun task => get_polledFields world status stage _).bind fun _ => maintains_flush.bind fun _ =>
          (maintains_commitAt world _).bind fun _ => preserves_afterPoll world resilient on status poll
      exact .ite (fun _ => (maintains_forwardCaptureStop world).bind fun _ => rest _ _) fun _ => rest _ _

theorem preserves_persistBegin : Preserves P (persistBegin world id) := by
  refine (preserves_refresh resilient).bind fun _ => (maintains_loaded id).bind fun task => ?_
  refine .ite (fun _ => maintains_pure _) fun _ => ?_
  refine .ite (fun _ => (preserves_failAndCommit world resilient (by decide) _ _).bind fun _ => maintains_pure _) fun _ => ?_
  refine (preserves_updateTaskMeta resilient _ ?_).bind fun _ => (maintains_commitAt world _).bind fun _ => maintains_pure _
  simp

theorem preserves_persistDownloaded (poll : Dict) : Preserves P (persistDownloaded world id poll) := by
  refine (maintains_guardSite world _).bind fun _ => ?_
  split
  · exact (preserves_failAndCommit world resilient (by decide) _ _).bind fun _ => maintains_pure _
  · exact (preserves_failAndCommit world resilient (by decide) _ _).bind fun _ => maintains_pure _
  · split
    · exact maintains_raise _
    · refine (preserves_refresh resilient).bind fun _ => (maintains_loaded id).bind fun task => ?_
      exact .ite (fun _ => maintains_pure _) fun _ => (maintains_commitAt world _).bind fun _ => maintains_pure _

theorem preserves_enqueueTranscribe : Preserves P (enqueueTranscribeAfterIngest world id) := by
  refine (maintains_loaded id).bind fun task => preserves_read fun hub _ => ?_
  refine .ite (fun _ => maintains_pure _) fun _ => .ite (fun _ => maintains_pure _) fun _ => ?_
  split
  · exact maintains_pure _
  · split
    · exact maintains_raise _
    · exact maintains_pure _
    · refine (maintains_guardSite world _).bind fun _ => (preserves_update fun hub => resilient.task hub _).bind fun _ => ?_
      refine maintains_flush.bind fun _ => preserves_fields resilient fun task => ?_
      exact Dict.get_update_of_absent (by simp) _

theorem preserves_persistSaved (fields : Dict) (duration : Option Decimal) :
    Preserves P (persistSaved world id fields duration) := by
  unfold persistSaved
  split
  · exact preserves_failAndCommit world resilient (by decide) _ _
  · exact preserves_failAndCommit world resilient (by decide) _ _
  · exact preserves_failAndCommit world resilient (by decide) _ _
  · refine (maintains_loaded id).bind fun task => preserves_read fun hub _ => ?_
    refine (preserves_update fun hub => resilient.audio hub _).bind fun _ => maintains_flush.bind fun _ => ?_
    refine (maintains_guardSite world _).bind fun _ => (preserves_update fun hub => resilient.captured hub _ _ _).bind fun _ => ?_
    refine (maintains_guardSite world _).bind fun _ => (preserves_enqueueTranscribe world resilient).bind fun _ => ?_
    exact maintains_commitAt world _
  · exact maintains_pure _
  · exact maintains_pure _

theorem preserves_persist (on : Nat) (poll : Dict) : Preserves P (persistCaptureArtifact world id on poll) := by
  refine (preserves_persistBegin world resilient).bind fun begun => ?_
  split
  · exact maintains_pure _
  · refine (maintains_callWorker world id on).bind fun _ => ?_
    refine (preserves_persistDownloaded world resilient poll).bind fun duration => ?_
    split
    · exact maintains_pure _
    · exact preserves_persistSaved world resilient _ _

theorem preserves_threadPersist (on : Nat) (poll : Dict) : Preserves P (threadPersist world id on poll) := by
  refine (preserves_refresh resilient).bind fun _ => (maintains_loaded id).bind fun task => ?_
  exact .ite (fun _ => (preserves_persist world resilient on poll).bind fun _ => maintains_pure _) fun _ => maintains_pure _

theorem preserves_threadFailed (detail : String) : Preserves P (threadFailed world id detail) := by
  refine maintains_rollback.bind fun _ => preserves_read fun hub _ => ?_
  exact .ite (fun _ => preserves_failAndCommit world resilient (by decide) _ _) fun _ => maintains_pure _

theorem preserves_tryFinish : Preserves P (tryFinishCaptureTask world id) := by
  refine (maintains_loaded id).bind fun task => .ite (fun _ => maintains_pure _) fun _ => ?_
  split
  · refine preserves_read fun hub _ => .ite (fun _ => maintains_pure _) fun _ => ?_
    refine (maintains_pollWorker world id _).bind fun answer => ?_
    split
    · exact maintains_pure _
    · refine .ite (fun _ => maintains_pure _) fun _ => .ite (fun _ => preserves_persist world resilient _ _) fun _ => ?_
      exact .ite (fun _ => preserves_updateTaskMeta resilient _ (by simp)) fun _ => maintains_pure _
  · exact maintains_pure _

theorem preserves_forwardEarlyStop (on : Nat) : Preserves P (forwardEarlyStop world id on) := by
  refine (maintains_loaded id).bind fun task => maintains_recollect.bind fun process => ?_
  refine .ite (fun _ => ?_) fun _ => maintains_pure _
  refine (maintains_forwardCaptureStop world).bind fun _ => (preserves_updateTaskMeta resilient _ (by simp)).bind fun _ => ?_
  exact (maintains_commitAt world _).bind fun _ => maintains_pure _

/-- What the recovery does with an answer, where the property is kept by a loss of the link as well, or no link is lost. -/
theorem preserves_reattach (task : Task) {poll : Dict}
    (loses : workerStatus world.python poll = "" → ∀ reason, Preserves P (loseCaptureWorkerLink world id reason)) :
    Preserves P (recoverCaptureTask.reattach world id task poll) := by
  have staged (stage : String) (status : Json) : Preserves P (updateTaskMeta id stage [("worker_capture_status", status)]) :=
    preserves_updateTaskMeta resilient stage (by simp)
  refine maintains_recollect.bind fun process => .ite (fun _ => ?_) fun _ => ?_
  · exact preserves_failTask world resilient (mapCaptureWorkerError_assigned _) _
  · refine .ite (fun _ => .ite (fun _ => staged _ _) fun _ => preserves_failTask world resilient (by decide) _) fun _ => ?_
    refine .ite (fun empty => loses ?_ _) fun _ => (staged _ _).bind fun _ => (maintains_loaded id).bind fun task => ?_
    · split at empty
      · contradiction
      · exact empty
    · exact .ite (fun _ => (maintains_forwardCaptureStop world).bind fun _ => staged _ _) fun _ => maintains_pure _

end Programs

end IdigestHub.Capture
