import IdigestHub.Dispatcher.Dispatching
import IdigestHub.Ingest.Import

/-! The programs of the import and the capture runner take the store along moves of their
own row; they may add files and chained tasks. -/

set_option autoImplicit false

namespace IdigestHub.Ingest

open Foundation Foundation.UnitOfWork Dispatcher Relation

section Rows

variable {task after : Task}

theorem not_done_of_stage {stage : String} (shown : task.stage = .str stage) (notDone : stage ≠ "done") :
    task.isDone = false := by
  simp [Task.isDone, shown, Json.isText, notDone]

theorem staged_row {stage : String} {extra : Dict} (notDone : stage ≠ "done")
    (absent : ∀ field ∈ extra, field.1 ≠ "stage") (task : Task) : IngestRow task (staged stage extra task) := by
  have shown : (staged stage extra task).stage = .str stage := by
    show ((task.metaDict.set "stage" (.str stage)).update extra).get "stage" = .str stage
    rw [Dict.get_update_of_absent absent, Dict.get_set, if_pos rfl]
  refine ⟨rfl, rfl, rfl, rfl, rfl, fun done => ?_⟩
  rw [not_done_of_stage shown notDone] at done
  contradiction

theorem failed_row (code : ErrorCode) (extra : Dict) (task : Task) : IngestRow task (failed code extra task) := by
  have shown : (failed code extra task).stage = .str "error" := by
    show ((task.metaDict.update extra).set "stage" (.str "error")).get "stage" = .str "error"
    rw [Dict.get_set, if_pos rfl]
  refine ⟨rfl, rfl, rfl, rfl, rfl, fun done => ?_⟩
  rw [not_done_of_stage shown (by decide)] at done
  contradiction

theorem restaged_row (stage : String) {fields : Dict} (notDone : stage ≠ "done")
    (row : IngestRow { task with metaJson := after.metaJson, status := after.status } after)
    (shown : after.metaJson = some (fields.set "stage" (.str stage))) : IngestRow task after := by
  have stamped : after.stage = .str stage := by
    rw [Task.stage, Task.metaDict, shown]
    show (fields.set "stage" (.str stage)).get "stage" = .str stage
    rw [Dict.get_set, if_pos rfl]
  refine ⟨row.type, row.orgId, row.billed, row.snap, row.skipPersist, fun done => ?_⟩
  rw [not_done_of_stage stamped notDone] at done
  contradiction

theorem started_row {stage : String} (notDone : stage ≠ "done") (task : Task) :
    IngestRow task (started stage task) :=
  restaged_row stage notDone ⟨rfl, rfl, rfl, rfl, rfl, fun done => .inr ⟨done, rfl⟩⟩ rfl

theorem requeued_row (task : Task) : IngestRow task (requeued task) :=
  restaged_row "queued" (by decide) ⟨rfl, rfl, rfl, rfl, rfl, fun done => .inr ⟨done, rfl⟩⟩ rfl

theorem succeeded_row (type : after.type = task.type) (orgId : after.orgId = task.orgId)
    (billed : after.billed = task.billed) (snap : after.snap = task.snap)
    (skipPersist : after.skipPersist = task.skipPersist) (success : after.status = .success) :
    IngestRow task after := ⟨type, orgId, billed, snap, skipPersist, fun _ => .inl success⟩

theorem kept_row (type : after.type = task.type) (orgId : after.orgId = task.orgId)
    (billed : after.billed = task.billed) (snap : after.snap = task.snap)
    (skipPersist : after.skipPersist = task.skipPersist) (stage : after.stage = task.stage)
    (status : after.status = task.status) : IngestRow task after :=
  ⟨type, orgId, billed, snap, skipPersist, fun done => .inr ⟨by rwa [Task.isDone, ← stage], status⟩⟩

end Rows

section Rules

variable {world : World} {scope : Nat → Prop} {origin : Hub} {id : Nat} {A B : Type} {s : Session Hub Process}

structure Holds (world : World) (scope : Nat → Prop) (origin : Hub) (id : Nat) (s : Session Hub Process) : Prop where
  bounded : Bounded origin
  inside : InScope scope id
  start : ∃ task, origin.tasks.find id = some task ∧ task.onWorker = false
  follows : Follows (Move world scope) origin s

theorem Holds.row (holds : Holds world scope origin id s) :
    ∃ task, s.working.tasks.find id = some task ∧ task.onWorker = false := by
  obtain ⟨first, found, ingest⟩ := holds.start
  obtain ⟨task, here, type⟩ := Path.type holds.follows.whole holds.bounded found
  exact ⟨task, here, by rw [Task.onWorker, type]; exact ingest⟩

/-- The program keeps to its own row and to what it adds. -/
def Tends (world : World) (scope : Nat → Prop) (origin : Hub) (id : Nat) (program : Program A) : Prop :=
  ∀ s, Holds world scope origin id s →
    wp program (fun _ => Holds world scope origin id) (fun _ after => Path world scope origin after.committed) s

theorem Tends.pure (a : A) : Tends world scope origin id (Pure.pure a : Program A) := fun _ holds => holds

theorem Tends.raise (fault : Fault) : Tends world scope origin id (Tx.raise fault : Program A) :=
  fun _ holds => holds.follows.saved

theorem Tends.bind {program : Program A} {next : A → Program B} (first : Tends world scope origin id program)
    (second : ∀ a, Tends world scope origin id (next a)) : Tends world scope origin id (program >>= next) := by
  intro s holds
  rw [wp_bind]
  exact wp_mono (first s holds) (fun a after held => second a after held) fun _ _ saved => saved

theorem Tends.ite {c : Prop} [Decidable c] {first second : Program A}
    (yes : c → Tends world scope origin id first) (no : ¬c → Tends world scope origin id second) :
    Tends world scope origin id (if c then first else second) := by
  split
  · exact yes ‹_›
  · exact no ‹_›

theorem tends_read : Tends world scope origin id (Tx.read : Program Hub) := fun _ holds => holds

theorem tends_query : Tends world scope origin id (Tx.query : Program Hub) := fun _ holds => holds

theorem tends_recollect : Tends world scope origin id (Tx.recollect : Program Process) := fun _ holds => holds

theorem tends_remember (f : Process → Process) : Tends world scope origin id (Tx.remember f : Program Unit) :=
  fun _ holds => ⟨holds.bounded, holds.inside, holds.start, holds.follows.remember _⟩

theorem tends_flush : Tends world scope origin id (Tx.flush : Program Unit) :=
  fun _ holds => ⟨holds.bounded, holds.inside, holds.start, holds.follows.flush⟩

theorem tends_guardSite (site : Site) : Tends world scope origin id (guardSite world site) :=
  fun _ holds => wp_guardSite holds holds.follows.saved

theorem tends_commitAt (site : Site) : Tends world scope origin id (commitAt world site) :=
  fun _ holds => wp_commitAt ⟨holds.bounded, holds.inside, holds.start, holds.follows.commit⟩ holds.follows.saved

theorem tends_loaded (other : Nat) : Tends world scope origin id (loaded other) :=
  fun _ holds => wp_loaded (fun _ _ => holds) holds.follows.saved

theorem tends_callWorker (node : Nat) : Tends world scope origin id (callWorker world id node) :=
  (tends_guardSite _).bind fun _ => tends_commitAt _

theorem tends_pollWorker (node : Nat) : Tends world scope origin id (pollWorker world id node) := by
  refine (tends_callWorker node).bind fun _ => ?_
  cases world.getTask id with
  | answer status body => exact .pure _
  | unreachable => exact .pure _
  | raises => exact .raise _

theorem tends_modify {f : Task → Task} (row : ∀ task, task.onWorker = false → IngestRow task (f task)) :
    Tends world scope origin id (modifyTask id f) := by
  intro s holds
  obtain ⟨task, found, ingest⟩ := holds.row
  have inside := holds.inside
  rw [wp_modifyTask]
  exact ⟨holds.bounded, holds.inside, holds.start,
    Follows.modify holds.follows found (.ingests (f task) ingest (row task ingest))⟩

/-- Writes that leave the tasks, the nodes and the ledger alone; the counter of ids may grow. -/
theorem tends_update {f : Hub → Hub} (tasks : ∀ hub, (f hub).tasks = hub.tasks)
    (nodes : ∀ hub, (f hub).nodes = hub.nodes) (nextId : ∀ hub : Hub, hub.nextId ≤ (f hub).nextId)
    (usage : ∀ hub, (f hub).usage = hub.usage) (orgs : ∀ hub, (f hub).orgs = hub.orgs) :
    Tends world scope origin id (Tx.update f : Program Unit) := by
  intro s holds
  obtain ⟨task, found, ingest⟩ := holds.row
  rw [wp_update]
  have here : (f s.working).tasks.find id = some task := by rw [tasks, found]
  have move : Move world scope s.working (f s.working) :=
    .row id task task holds.inside.mem found here (.ingests task ingest (.refl task))
      ⟨fun other _ => .inl (by rw [tasks]), fun node => by rw [nodes], nextId _⟩ (usage _) (orgs _)
  exact ⟨holds.bounded, holds.inside, holds.start, holds.follows.edit (.single move)⟩

theorem tends_rollback : Tends world scope origin id (Tx.rollback : Program Unit) :=
  fun _ holds => ⟨holds.bounded, holds.inside, holds.start, .rollback holds.follows.saved⟩

theorem addAudio_tends (audio : Audio) :
    Tends world scope origin id (Tx.update fun hub => hub.addAudio audio : Program Unit) :=
  tends_update (fun _ => rfl) (fun _ => rfl) (fun hub => Nat.le_succ hub.nextId) (fun _ => rfl) fun _ => rfl

theorem Tends.safe {program : Program Unit} (tends : Tends world scope origin id program)
    (holds : Holds world scope origin id s) : Safe world scope origin program s :=
  wp_mono (tends s holds) (fun _ _ held => held.follows) fun _ _ saved => saved

end Rules

section Writes

variable {world : World} {scope : Nat → Prop} {origin : Hub} {id : Nat}

theorem updateTaskMeta_tends {stage : String} {extra : Dict} (notDone : stage ≠ "done")
    (absent : ∀ field ∈ extra, field.1 ≠ "stage") : Tends world scope origin id (updateTaskMeta id stage extra) :=
  (tends_modify fun task _ => staged_row notDone absent task).bind fun _ => tends_flush

theorem failTask_tends (code : ErrorCode) (extra : Dict) : Tends world scope origin id (failTask world id code extra) :=
  (tends_modify fun task _ => failed_row code extra task).bind fun _ => tends_flush.bind fun _ => tends_guardSite _

theorem failAndCommit_tends (code : ErrorCode) (extra : Dict) (step : Nat) :
    Tends world scope origin id (failAndCommit world id code extra step) :=
  (failTask_tends code extra).bind fun _ => tends_commitAt _

theorem ingestFollowUp_chained (world : World) (now : Nat) (source : Dict) (task : Task) :
    Chained task (ingestFollowUp now (telegramNotifyMeta world source) task) where
  onWorker := rfl
  status := rfl
  orgId := rfl
  billed := rfl
  skipPersist := rfl
  produced := rfl
  notDone := by
    have notDone := (chainedTask_chained world now source task).notDone
    exact notDone

theorem followed_row (followUp : Nat) (task : Task) :
    IngestRow task (task.mergeMeta [("follow_up_task_id", idJson followUp)]) :=
  kept_row rfl rfl rfl rfl rfl
    (by
      show (task.metaDict.update [("follow_up_task_id", idJson followUp)]).get "stage" = task.stage
      rw [Dict.get_update_of_absent (by simp)]
      rfl) rfl

theorem Holds.chain {parent : Task} {s : Session Hub Process} (holds : Holds world scope origin id s)
    (found : s.working.tasks.find id = some parent) (fields : Dict) :
    Holds world scope origin id
      (s.edit (s.working.addTask (ingestFollowUp world.now (telegramNotifyMeta world fields) parent))) := by
  obtain ⟨task, here, ingest⟩ := holds.row
  obtain rfl : task = parent := Option.some.inj (here.symm.trans found)
  have below : id < s.working.nextId := Path.bounded holds.follows.whole holds.bounded id task found
  have kept : (s.working.addTask (ingestFollowUp world.now (telegramNotifyMeta world fields) task)).tasks.find id =
      some task := by
    simp [Hub.addTask, Table.find_put, below.ne, found]
  refine ⟨holds.bounded, holds.inside, holds.start, holds.follows.edit (.single (.row id task task holds.inside.mem found kept
    (.ingests task ingest (.refl task)) ⟨fun other different => ?_, fun _ => rfl, Nat.le_succ _⟩ rfl rfl))⟩
  by_cases new : other = s.working.nextId
  · refine .inr ⟨new.ge, by simp [Hub.addTask, new], _, ?_, ingestFollowUp_chained world world.now fields task⟩
    simp [Hub.addTask, new]
  · exact .inl (by simp [Hub.addTask, Table.find_put, new])

theorem enqueueTranscribeAfterIngest_tends : Tends world scope origin id (enqueueTranscribeAfterIngest world id) := by
  intro s holds
  rw [enqueueTranscribeAfterIngest, wp_bind]
  refine wp_loaded ?_ holds.follows.saved
  intro task found
  rw [wp_bind, wp_read]
  simp only [wp_ite]
  split
  · exact holds
  · split
    · exact holds
    · cases s.working.orgs.find task.orgId with
      | none => exact holds
      | some org =>
        dsimp only
        cases outOfBalance org with
        | none => exact holds.follows.saved
        | some broke_now =>
          cases broke_now with
          | true => exact holds
          | false =>
            simp only [wp_bind, wp_update]
            refine wp_guardSite ?_ holds.follows.saved
            have chained := holds.chain found task.metaDict
            exact (tends_flush.bind fun _ => tends_modify fun row _ => followed_row s.working.nextId row) _ chained

end Writes

section Import

variable {world : World} {scope : Nat → Prop} {origin : Hub} {id : Nat}

theorem failImport_tends (code : ErrorCode) (extra : Dict) (step : Nat) :
    Tends world scope origin id (failImport world id code extra step) :=
  (failAndCommit_tends code extra step).bind fun _ => .pure _

theorem importStart_tends : Tends world scope origin id (importStart world id) := by
  refine tends_read.bind fun hub => ?_
  cases hub.tasks.find id with
  | none => exact .pure _
  | some task =>
    refine .ite (fun _ => .pure _) fun _ => .ite (fun _ => failImport_tends _ _ _) fun _ => ?_
    refine .ite (fun _ => failImport_tends _ _ _) fun _ => .ite (fun _ => failImport_tends _ _ _) fun _ => ?_
    refine .ite (fun _ => failImport_tends _ _ _) fun _ => ?_
    exact (tends_guardSite _).bind fun _ => (tends_commitAt _).bind fun _ => .pure _

theorem onProgress_tends (progress : Progress) : Tends world scope origin id (onProgress world id progress) := by
  have notDone : progress.stage ≠ "done" := by cases progress <;> simp [Progress.stage]
  have absent : ∀ field ∈ progress.fields, field.1 ≠ "stage" := by cases progress <;> simp [Progress.fields]
  refine tends_read.bind fun hub => .ite (fun _ => ?_) fun _ => .pure _
  exact (updateTaskMeta_tends notDone absent).bind fun _ => tends_commitAt _

theorem importRefused_tends (code : ErrorCode) (fields : Dict) :
    Tends world scope origin id (importRefused world id code fields) := by
  refine tends_rollback.bind fun _ => tends_read.bind fun hub => ?_
  cases hub.tasks.find id with
  | none => exact .pure _
  | some task => exact failAndCommit_tends _ _ _

theorem importFailed_tends (detail : String) : Tends world scope origin id (importFailed world id detail) :=
  tends_rollback.bind fun _ => tends_read.bind fun _ =>
    .ite (fun _ => failAndCommit_tends _ _ _) fun _ => .pure _

theorem importDownloaded_tends (fields : Dict) : Tends world scope origin id (importDownloaded world id fields) := by
  unfold importDownloaded
  cases world.download id with
  | failed code extra => exact (importRefused_tends code extra).bind fun _ => .pure _
  | raises detail => exact (importFailed_tends detail).bind fun _ => .pure _
  | fetched result =>
    refine tends_recollect.bind fun process => .ite (fun _ => failImport_tends _ _ _) fun _ => ?_
    exact (tends_commitAt _).bind fun _ => .pure _

theorem importSaved_tends (fields : Dict) (result : ImportResult) :
    Tends world scope origin id (importSaved world id fields result) := by
  refine (tends_loaded id).bind fun task => ?_
  cases world.artifact id with
  | tooLarge => exact failAndCommit_tends _ _ _
  | unreadable => exact failAndCommit_tends _ _ _
  | notDownloaded => exact .raise _
  | invalid => exact .raise _
  | missing => exact .raise _
  | stored filename =>
    refine tends_read.bind fun hub => ?_
    refine (addAudio_tends _).bind fun _ => tends_flush.bind fun _ => (tends_guardSite _).bind fun _ => ?_
    have imported (audioId : Nat) (row : Task) : IngestRow row (importedTask audioId fields result row) :=
      succeeded_row rfl rfl rfl rfl rfl rfl
    refine (tends_modify fun row _ => imported _ row).bind fun _ => ?_
    exact (tends_guardSite _).bind fun _ => enqueueTranscribeAfterIngest_tends.bind fun _ => tends_commitAt _

end Import

end IdigestHub.Ingest
