import IdigestHub.System.Runs

/-! What a request does to the tasks: it adds a fresh one, or edits rows without ever
making one look more finished than it was. -/

set_option autoImplicit false

namespace IdigestHub.System

open Foundation Dispatcher Tasks

def Request.removes : Request → Option Nat
  | .deleteWorker _ workerId _ => some workerId
  | _ => none

/-- The worker link of a running row, unless its worker is the one that goes. -/
def LinkKept (gone : Option Nat) (task after : Task) : Prop :=
  (after.workerId = task.workerId ∧ after.workerTaskId = task.workerTaskId) ∨
    ∃ workerId, gone = some workerId ∧ task.workerId = some workerId

/-- A row after a request that edits it and may remove a worker. -/
structure Edit (gone : Option Nat) (task after : Task) : Prop where
  price : SamePrice task after
  orgId : after.orgId = task.orgId
  billed : after.billed = task.billed
  status : after.status = task.status ∨ (task.status ≠ .success ∧ after.status ≠ .success)
  done : after.isDone = true → task.isDone = true
  produced : hasProduced after = true → hasProduced task = true
  active : after.active = true → task.active = true ∨ hasProduced after = false
  link : after.status = .running → task.status = .running ∧ LinkKept gone task after

variable {gone : Option Nat}

theorem LinkKept.refl (task : Task) : LinkKept gone task task := .inl ⟨rfl, rfl⟩

theorem Edit.refl (task : Task) : Edit gone task task :=
  ⟨.refl task, rfl, rfl, .inl rfl, id, id, .inl, fun running => ⟨running, .refl task⟩⟩

theorem Edit.trans {first second third : Task} (one : Edit gone first second) (two : Edit gone second third) :
    Edit gone first third where
  price := one.price.trans two.price
  orgId := two.orgId.trans one.orgId
  billed := two.billed.trans one.billed
  status := by
    rcases one.status with same | ⟨before, between⟩
    · rw [← same]
      exact two.status
    · rcases two.status with same | ⟨_, after⟩
      · exact .inr ⟨before, same ▸ between⟩
      · exact .inr ⟨before, after⟩
  done done := one.done (two.done done)
  produced produced := one.produced (two.produced produced)
  active active := by
    rcases two.active active with between | none_produced
    · rcases one.active between with before | none_before
      · exact .inl before
      · refine .inr (Bool.eq_false_iff.mpr fun produced => ?_)
        rw [two.produced produced] at none_before
        contradiction
    · exact .inr none_produced
  link running := by
    obtain ⟨between, second_link⟩ := two.link running
    obtain ⟨before, first_link⟩ := one.link between
    refine ⟨before, ?_⟩
    rcases first_link with ⟨worker, workerTask⟩ | lost
    · rcases second_link with ⟨worker', workerTask'⟩ | ⟨workerId, same, on_gone⟩
      · exact .inl ⟨worker'.trans worker, workerTask'.trans workerTask⟩
      · exact .inr ⟨workerId, same, worker ▸ on_gone⟩
    · exact .inr lost

theorem Edit.onWorker {task after : Task} (edit : Edit gone task after) : after.onWorker = task.onWorker := by
  rw [Task.onWorker, edit.price.type, Task.onWorker]

section Rows

variable {task : Task}

theorem not_success_of_active (active : task.active = true) : task.status ≠ .success := by
  intro success
  simp [Task.active, success] at active

theorem edit_of_requeue {after : Task} {fields : Dict} (price : SamePrice task after) (orgId : after.orgId = task.orgId)
    (billed : after.billed = task.billed) (before : task.status ≠ .success) (queued : after.status = .queued)
    (shown : after.metaJson = some fields) (stage : fields.get "stage" = .str "queued")
    (produced : hasProduced after = true → hasProduced task = true)
    (active : task.active = true ∨ hasProduced after = false) : Edit gone task after where
  price := price
  orgId := orgId
  billed := billed
  status := .inr ⟨before, by simp [queued]⟩
  done done := by
    have notDone : after.isDone = false := by simp [Task.isDone, Task.stage, Task.metaDict, shown, stage, Json.isText]
    rw [notDone] at done
    contradiction
  produced := produced
  active _ := active
  link running := by simp [queued] at running

theorem retried_edit (now : Nat) (error : task.status = .error) : Edit gone task (retried now task) := by
  refine edit_of_requeue ⟨rfl, rfl, rfl, rfl⟩ rfl rfl (by simp [error]) rfl rfl ?_ (fun produced => ?_) (.inr rfl)
  · rw [Dict.get_pop, if_neg (by decide), Dict.get_set, if_pos rfl]
  · simp [hasProduced, retried] at produced

theorem canceled_edit (code : ErrorCode) (active : task.active = true) : Edit gone task (canceled code task) :=
  ⟨⟨rfl, rfl, rfl, rfl⟩, rfl, rfl, .inr ⟨not_success_of_active active, by simp [canceled]⟩, id, id,
    fun _ => .inl active, fun running => by simp [canceled] at running⟩

theorem withdrawn_edit (code reason : ErrorCode) (active : task.active = true) : Edit gone task (withdrawn code reason task) := by
  unfold withdrawn
  split
  · exact canceled_edit code active
  · exact ⟨⟨rfl, rfl, rfl, rfl⟩, rfl, rfl, .inl rfl, id, id, fun _ => .inl active, fun running => ⟨running, .refl task⟩⟩

theorem stopMarked_edit (python : Python) (task : Task) : Edit gone task (stopMarked python task) := by
  refine ⟨⟨rfl, rfl, rfl, rfl⟩, rfl, rfl, .inl rfl, fun done => ?_, id, .inl, fun running => ⟨running, .inl ⟨rfl, rfl⟩⟩⟩
  let fields := task.metaDict.set "stop_requested" (.bool true)
  by_cases kept : ["downloading", "done"].contains (python.orEmpty (fields.get "stage")) = true
  · have shown : (stopMarked python task).stage = task.stage := by
      show Dict.get (if _ then fields else _) "stage" = _
      rw [if_pos kept, Dict.get_set, if_neg (by decide)]
      rfl
    rwa [Task.isDone, shown] at done
  · have shown : (stopMarked python task).stage = .str "finalizing" := by
      show Dict.get (if _ then _ else fields.set "stage" (.str "finalizing")) "stage" = _
      rw [if_neg kept, Dict.get_set, if_pos rfl]
    simp [Task.isDone, shown, Json.isText] at done

theorem sentBack_edit (active : task.active = true) : Edit gone task (sentBack task) :=
  edit_of_requeue ⟨rfl, rfl, rfl, rfl⟩ rfl rfl (not_success_of_active active) rfl rfl rfl id (.inl active)

/-- Writing columns that no invariant reads. -/
theorem edit_of_links (after : Task) (price : SamePrice task after) (orgId : after.orgId = task.orgId)
    (billed : after.billed = task.billed) (status : after.status = task.status) (shown : after.metaJson = task.metaJson)
    (produced : hasProduced after = true → hasProduced task = true)
    (link : task.status = .running → LinkKept gone task after) : Edit gone task after where
  price := price
  orgId := orgId
  billed := billed
  status := .inl status
  done done := by simpa [Task.isDone, Task.stage, Task.metaDict, shown] using done
  produced := produced
  active active := .inl (by simpa [Task.active, status] using active)
  link running := ⟨status ▸ running, link (status ▸ running)⟩

theorem detached_edit {workerId : Nat} (on_worker : task.workerId = some workerId) :
    Edit (some workerId) task (detached task) := by
  have lost (after : Task) : LinkKept (some workerId) task after := .inr ⟨workerId, rfl, on_worker⟩
  unfold detached
  split
  · rename_i capture
    have active : task.active = true := by simp at capture; exact capture.2
    refine (sentBack_edit active).trans (edit_of_links _ ⟨rfl, rfl, rfl, rfl⟩ rfl rfl rfl rfl id fun running => ?_)
    simp [sentBack] at running
  · exact edit_of_links _ ⟨rfl, rfl, rfl, rfl⟩ rfl rfl rfl rfl id fun _ => lost _

theorem captureRemediated_edit (replacement : Nat) (active : task.active = true) :
    Edit gone task (captureRemediated replacement task) := by
  unfold captureRemediated
  dsimp only
  split
  · exact (sentBack_edit active).trans
      (edit_of_links _ ⟨rfl, rfl, rfl, rfl⟩ rfl rfl rfl rfl id fun _ => .inl ⟨rfl, rfl⟩)
  · exact edit_of_links _ ⟨rfl, rfl, rfl, rfl⟩ rfl rfl rfl rfl id fun running => absurd running ‹_›

theorem modelRemediated_edit (snap : Snapshot) (active : task.active = true)
    (audio : snap.pricePerAudioSec = task.snap.pricePerAudioSec)
    (summary : snap.pricePer1kSummaryChars = task.snap.pricePer1kSummaryChars)
    (unlimited : snap.unlimited = task.snap.unlimited) : Edit gone task (modelRemediated snap task) := by
  have links (row after : Task) (worker : after.workerId = row.workerId)
      (workerTask : after.workerTaskId = row.workerTaskId) : row.status = .running → LinkKept gone row after :=
    fun _ => .inl ⟨worker, workerTask⟩
  have moved : Edit gone task { task with snap } :=
    edit_of_links _ ⟨rfl, audio, summary, unlimited⟩ rfl rfl rfl rfl id (links _ _ rfl rfl)
  unfold modelRemediated
  dsimp only
  split
  · exact (moved.trans (sentBack_edit active)).trans
      (edit_of_links _ ⟨rfl, rfl, rfl, rfl⟩ rfl rfl rfl rfl id (links _ _ rfl rfl))
  · exact moved.trans (edit_of_links _ ⟨rfl, rfl, rfl, rfl⟩ rfl rfl rfl rfl id (links _ _ rfl rfl))

theorem cleared_produced (gone : Nat) (task : Task) :
    hasProduced { task with producedTranscriptId := cleared gone task.producedTranscriptId } = true →
      hasProduced task = true := by
  simp only [hasProduced, cleared]
  cases task.producedTranscriptId <;> simp

end Rows

structure Edited (gone : Option Nat) (hub after : Hub) : Prop where
  rows : ∀ id, (hub.tasks.find id = none ∧ after.tasks.find id = none) ∨
    ∃ task row, hub.tasks.find id = some task ∧ after.tasks.find id = some row ∧ Edit gone task row
  nextId : after.nextId = hub.nextId
  usage : after.usage = hub.usage
  balances : ∀ org, (after.orgs.find org).map Organization.balance = (hub.orgs.find org).map Organization.balance

section Stores

variable {hub after : Hub}

theorem edited_of_mapRows {f : Nat → Task → Task} (tasks : after.tasks = hub.tasks.mapRows f)
    (edit : ∀ id task, hub.tasks.find id = some task → Edit gone task (f id task)) (nextId : after.nextId = hub.nextId)
    (usage : after.usage = hub.usage)
    (balances : ∀ org, (after.orgs.find org).map Organization.balance = (hub.orgs.find org).map Organization.balance) :
    Edited gone hub after := by
  refine ⟨fun id => ?_, nextId, usage, balances⟩
  rw [tasks, Table.find_mapRows]
  cases found : hub.tasks.find id with
  | none => exact .inl ⟨rfl, rfl⟩
  | some task => exact .inr ⟨task, f id task, rfl, rfl, edit id task found⟩

theorem Edited.refl (hub : Hub) : Edited gone hub hub := by
  refine ⟨fun id => ?_, rfl, rfl, fun _ => rfl⟩
  cases hub.tasks.find id with
  | none => exact .inl ⟨rfl, rfl⟩
  | some task => exact .inr ⟨task, task, rfl, rfl, .refl task⟩

theorem Edited.trans {first second third : Hub} (one : Edited gone first second) (two : Edited gone second third) :
    Edited gone first third := by
  refine ⟨fun id => ?_, two.nextId.trans one.nextId, two.usage.trans one.usage,
    fun org => (two.balances org).trans (one.balances org)⟩
  rcases one.rows id with ⟨none_first, none_second⟩ | ⟨task, row, found, here, edit⟩
  · rcases two.rows id with ⟨_, none_third⟩ | ⟨_, _, some_second, _⟩
    · exact .inl ⟨none_first, none_third⟩
    · rw [none_second] at some_second
      contradiction
  · rcases two.rows id with ⟨none_second, _⟩ | ⟨task', row', found', here', edit'⟩
    · rw [here] at none_second
      contradiction
    · obtain rfl : row = task' := Option.some.inj (here.symm.trans found')
      exact .inr ⟨task, row', found, here', edit.trans edit'⟩

theorem edit_ite {task row : Task} {c : Prop} [Decidable c] (edit : c → Edit gone task row) :
    Edit gone task (if c then row else task) := by
  split
  · exact edit ‹_›
  · exact .refl task

theorem edited_of_modify {f : Task → Task} (id : Nat) (edit : ∀ task, hub.tasks.find id = some task → Edit gone task (f task)) :
    Edited gone hub (hub.modifyTask id f) := by
  refine edited_of_mapRows (f := fun other task => if other = id then f task else task) rfl ?_ rfl rfl fun _ => rfl
  intro other task found
  refine edit_ite fun same => ?_
  subst other
  exact edit task found

theorem withdraw_edited (code reason : ErrorCode) (condition : Task → Bool) :
    Edited gone hub (withdraw code reason condition hub) := by
  refine edited_of_mapRows (f := fun _ task =>
    if task.active && condition task then withdrawn code reason task else task) rfl ?_ rfl rfl fun _ => rfl
  intro id task found
  exact edit_ite fun matched => withdrawn_edit code reason (Bool.and_eq_true_iff.mp matched).1

/-- A remediation changes the models of active tasks, or moves them. -/
theorem remediate_edited {python : Python} {workerId : Nat} {node : WorkerNode}
    {remediation : Option WorkerRemediation} (remediated : remediate python workerId node remediation hub = some after) :
    Edited gone hub after := by
  have of_rows {f : Task → Task} (same : some { hub with tasks := hub.tasks.mapRows fun _ => f } = some after)
      (edit : ∀ task, Edit gone task (f task)) : Edited gone hub after := by
    obtain rfl := Option.some.inj same
    exact edited_of_mapRows (f := fun _ => f) rfl (fun _ task _ => edit task) rfl rfl fun _ => rfl
  cases remediation with
  | none =>
    obtain rfl := Option.some.inj remediated
    exact .refl hub
  | some body =>
    rw [remediate] at remediated
    cases type : node.type with
    | transcribe =>
      simp only [applyWorkerRemediation, type, applyTranscribeRemediation] at remediated
      split at remediated
      · refine of_rows remediated fun task => edit_ite fun matched => ?_
        have active := (Bool.and_eq_true_iff.mp (Bool.and_eq_true_iff.mp matched).1).2
        exact modelRemediated_edit _ active rfl rfl rfl
      · contradiction
    | summarize =>
      simp only [applyWorkerRemediation, type, Option.bind_eq_some_iff, applySummarizeRemediation] at remediated
      obtain ⟨model, _, applied⟩ := remediated
      split at applied
      · refine of_rows applied fun task => edit_ite fun matched => ?_
        have active := (Bool.and_eq_true_iff.mp (Bool.and_eq_true_iff.mp matched).1).2
        exact modelRemediated_edit _ active rfl rfl rfl
      · contradiction
    | capture =>
      simp only [applyWorkerRemediation, type, Option.bind_eq_some_iff, applyCaptureRemediation] at remediated
      obtain ⟨replacement, _, applied⟩ := remediated
      split at applied
      · refine of_rows applied fun task => edit_ite fun matched => ?_
        exact captureRemediated_edit replacement (Bool.and_eq_true_iff.mp matched).2
      · contradiction

theorem deleteWorker_edited (python : Python) (workerId : Nat) (remediation : Option WorkerRemediation) (hub : Hub) :
    Edited (some workerId) hub (deleteWorker python workerId remediation hub) := by
  unfold deleteWorker
  cases hub.nodes.find workerId with
  | none => exact .refl hub
  | some node =>
    dsimp only
    cases remediated : remediate python workerId node remediation hub with
    | none => exact .refl hub
    | some after =>
      refine (remediate_edited remediated).trans ?_
      refine edited_of_mapRows (f := fun _ task => if task.workerId = some workerId then detached task else task)
        rfl (fun _ task _ => edit_ite fun on_worker => detached_edit on_worker) rfl rfl fun _ => rfl

theorem hardDeleteAudio_edited (audioId : Nat) (hub : Hub) : Edited gone hub (hardDeleteAudio audioId hub) := by
  refine (withdraw_edited .canceled .sourceDeleted _).trans (edited_of_mapRows
    (f := fun _ task => { task with audioId := cleared audioId task.audioId }) rfl (fun _ task _ => ?_) rfl rfl fun _ => rfl)
  exact edit_of_links _ ⟨rfl, rfl, rfl, rfl⟩ rfl rfl rfl rfl id fun _ => .inl ⟨rfl, rfl⟩

theorem hardDeleteTranscript_edited (transcriptId : Nat) (hub : Hub) :
    Edited gone hub (hardDeleteTranscript transcriptId hub) := by
  refine (withdraw_edited .canceled .sourceDeleted _).trans (edited_of_mapRows
    (f := fun _ task => { task with
      transcriptId := cleared transcriptId task.transcriptId
      producedTranscriptId := cleared transcriptId task.producedTranscriptId }) rfl (fun _ task _ => ?_) rfl rfl fun _ => rfl)
  exact edit_of_links _ ⟨rfl, rfl, rfl, rfl⟩ rfl rfl rfl rfl (cleared_produced transcriptId task) fun _ => .inl ⟨rfl, rfl⟩

theorem edited_of_request {f : Task → Task} (id : Nat) (allowed : Task → Bool)
    (edit : ∀ task, allowed task = true → Edit gone task (f task)) :
    Edited gone hub (if (hub.tasks.find id).any allowed then hub.modifyTask id f else hub) := by
  split
  · rename_i accepted
    refine edited_of_modify id fun task found => edit task ?_
    simpa [found] using accepted
  · exact .refl hub

end Stores

structure Created (hub : Hub) (row : Task) : Prop where
  org : (hub.orgs.find row.orgId).isSome
  status : row.status = .queued
  billed : row.billed = false
  skipPersist : row.skipPersist = false
  produced : hasProduced row = false
  notDone : row.isDone = false

section Effects

variable {hub : Hub}

theorem org_of_canAccept {orgId : Nat} (accepts : canAccept hub orgId = true) : (hub.orgs.find orgId).isSome := by
  obtain ⟨org, found, _⟩ := Option.any_eq_true _ _ |>.mp accepts
  simp [found]

theorem pipelineFields_stage (pipeline : Pipeline) : ∀ field ∈ pipeline.fields, field.1 ≠ "stage" := by
  intro field member
  rcases List.mem_append.mp member with first | chat
  · rcases List.mem_append.mp first with transcribe | tags
    · revert transcribe
      split <;> simp +contextual
    · revert tags
      split <;> simp +contextual
  · revert chat
    split
    · simp
    · simp only [List.mem_cons, List.not_mem_nil, or_false]
      rintro (rfl | rfl) <;> simp

theorem not_done_of_fields {task : Task} {fields rest : Dict} (shown : task.metaJson = some (fields.update rest))
    (absent : ∀ field ∈ rest, field.1 ≠ "stage") (stage : fields.get "stage" = .str "queued") :
    task.isDone = false := by
  simp [Task.isDone, Task.stage, Task.metaDict, shown, Dict.get_update_of_absent absent, stage, Json.isText]

theorem pipeline_org (pipeline : Pipeline) (submission : Submission) :
    (pipeline.submission submission).orgId = submission.orgId := by
  unfold Pipeline.submission
  split <;> rfl

theorem rows_effect (request : Request) (hub : Hub) :
    Edited request.removes hub (request.rows hub) ∨ ∃ row, request.rows hub = hub.addTask row ∧ Created hub row := by
  cases request with
  | createTranscribe audioId submission =>
    rw [Request.rows]
    unfold createTranscribe
    dsimp only
    split
    · rename_i accepted
      simp only [Bool.and_eq_true] at accepted
      exact .inr ⟨_, rfl, org_of_canAccept accepted.1.2, rfl, rfl, rfl, rfl, rfl⟩
    · exact .inl (.refl hub)
  | createSummarize transcriptId submission =>
    rw [Request.rows]
    unfold createSummarize
    dsimp only
    split
    · rename_i accepted
      simp only [Bool.and_eq_true] at accepted
      exact .inr ⟨_, rfl, org_of_canAccept accepted.2, rfl, rfl, rfl, rfl, rfl⟩
    · exact .inl (.refl hub)
  | createImport url pipeline submission =>
    rw [Request.rows]
    unfold createImport
    split
    · rename_i accepted
      have org := (Bool.and_eq_true_iff.mp accepted).1
      rw [← pipeline_org pipeline] at org
      exact .inr ⟨_, rfl, org, rfl, rfl, rfl, rfl, not_done_of_fields rfl (pipelineFields_stage pipeline) rfl⟩
    · exact .inl (.refl hub)
  | createCapture target meetingUrl displayName pipeline submission =>
    rw [Request.rows]
    unfold createCapture
    split
    · rename_i accepted
      have org := (Bool.and_eq_true_iff.mp (Bool.and_eq_true_iff.mp accepted).2).1
      rw [← pipeline_org pipeline] at org
      exact .inr ⟨_, rfl, org, rfl, rfl, rfl, rfl, not_done_of_fields rfl (pipelineFields_stage pipeline) rfl⟩
    · exact .inl (.refl hub)
  -- the requests from here on edit rows and add none
  | retry id orgId now =>
    refine .inl (edited_of_request id _ fun task accepted => retried_edit now ?_)
    simp only [retriable, Bool.and_eq_true, beq_iff_eq] at accepted
    exact accepted.1.1.1.1
  | cancel id =>
    refine .inl (edited_of_request id _ fun task accepted => canceled_edit .canceled ?_)
    unfold cancelable at accepted
    split at accepted
    · simp only [Bool.and_eq_true, beq_iff_eq] at accepted
      exact active_of_queued accepted.1
    · exact accepted
  | stop python id => exact .inl (edited_of_request id _ fun task _ => stopMarked_edit python task)
  | deleteWorker python workerId remediation => exact .inl (deleteWorker_edited python workerId remediation hub)
  | saveWorker workerId node =>
    refine .inl ⟨(Edited.refl hub).rows, rfl, rfl, fun _ => rfl⟩
  | setTariff orgId unlimited =>
    refine .inl ⟨(Edited.refl hub).rows, rfl, rfl, fun org => ?_⟩
    simp only [Request.rows, Table.find_modify]
    by_cases same : org = orgId
    · cases found : hub.orgs.find orgId <;> simp [same, found]
    · simp [same]
  | deleteAudio audioId => exact .inl (hardDeleteAudio_edited audioId hub)
  | deleteTranscript transcriptId => exact .inl (hardDeleteTranscript_edited transcriptId hub)
  | deleteOrg orgId => exact .inl (withdraw_edited ..)
  | wipeUser userId => exact .inl (withdraw_edited ..)

end Effects

end IdigestHub.System
