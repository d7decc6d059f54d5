import IdigestHub.Capture.Runner
import IdigestHub.Tasks.Workers
import IdigestHub.System.Failures

/-! What removing a capture worker leaves of the tasks that it had: the fields that starting them again needs. -/

set_option autoImplicit false

namespace IdigestHub.Tasks

open Foundation Dispatcher Capture

/-- What starting a capture needs, and what its pipeline was promised. -/
def carriedFields : List String :=
  ["meeting_url", "pin", "connector", "display_name", "pipeline_transcribe", "user_tags", "notify_telegram", "telegram_chat_id"]

inductive WorkerRemoval where
  | delete (remediation : Option WorkerRemediation)
  | change (after : List Node) (replacement : Nat)

def WorkerRemoval.apply (python : Python) (workerId : Nat) (hub : Hub) : WorkerRemoval → Hub
  | .delete remediation => deleteWorker python workerId remediation hub
  | .change after replacement => (applyCaptureRemediation python after workerId replacement hub).getD hub

structure CaptureOn (hub : Hub) (workerId : Nat) where
  node : WorkerNode
  known : hub.nodes.find workerId = some node
  captures : node.type = .capture
  id : Nat
  task : Task
  found : hub.tasks.find id = some task
  capture : task.type = .capture
  active : task.active = true
  assigned : task.workerId = some workerId

def Carries (before after : Task) : Prop := ∀ key ∈ carriedFields, after.metaDict.get key = before.metaDict.get key

/-- The task has its fields, and resolves to the same meeting for a later bind. -/
def CaptureOn.Survives {hub : Hub} {workerId : Nat} (job : CaptureOn hub workerId) (after : Hub) : Prop :=
  ∃ row, after.tasks.find job.id = some row ∧ Carries job.task row ∧
    ∀ (world : World) (stored working : Hub) (org : Organization),
      resolveTask world stored working org row = resolveTask world stored working org job.task

/-- `invalid_replacement` is not raised. -/
def validReplacement (python : Python) (after : List Node) (replacement : Nat) : Bool :=
  after.any fun node => node.1 == replacement && node.2.type == .capture && node.2.enabled &&
    workerOffersConnector python node.2 "jitsi"

def WorkerRemoval.replacement (python : Python) (workerId : Nat) (hub : Hub) : WorkerRemoval → Option Nat
  | .delete remediation => (remediation.bind WorkerRemediation.captureWorkerId).filter
      (validReplacement python (hub.nodeList.filter fun row => row.1 != workerId))
  | .change after replacement => (some replacement).filter (validReplacement python after)

def WorkerRemoval.refused (python : Python) (workerId : Nat) (hub : Hub) (removal : WorkerRemoval) : Bool :=
  match removal with
  | .delete none => false
  | _ => (removal.replacement python workerId hub).isNone

/-- The removal is refused, the task waits and gets another worker, or it has nothing to carry. -/
def CaptureOn.Spared {hub : Hub} {workerId : Nat} (job : CaptureOn hub workerId) (python : Python)
    (removal : WorkerRemoval) : Prop :=
  removal.refused python workerId hub = true ∨
  job.task.status = .queued ∧ (removal.replacement python workerId hub).isSome ∨
  ∀ key ∈ carriedFields, job.task.metaDict.get key = .null

section Fields

variable {before after : Task}

theorem resolveTask_congr (carries : Carries before after) (org : after.orgId = before.orgId)
    (user : after.userId = before.userId) (world : World) (stored working : Hub) (organization : Organization) :
    resolveTask world stored working organization after = resolveTask world stored working organization before := by
  unfold resolveTask meetingUrlOf displayNameOf
  rw [carries "meeting_url" (by decide), carries "pin" (by decide), carries "display_name" (by decide), org, user]

theorem sentBack_get (task : Task) : ∀ key ∈ carriedFields, (sentBack task).metaDict.get key = .null := by
  have nothing : ∀ key ∈ carriedFields, Dict.get [("stage", .str "queued")] key = .null := by decide +kernel
  exact nothing

theorem sentBack_carries (task : Task) : Carries task (sentBack task) ↔
    ∀ key ∈ carriedFields, task.metaDict.get key = .null := by
  unfold Carries
  refine forall₂_congr fun key member => ?_
  rw [sentBack_get task key member, eq_comm]

end Fields

section Rows

variable {hub : Hub} {workerId : Nat} (job : CaptureOn hub workerId) {python : Python}

theorem CaptureOn.survives_iff {after : Hub} {row : Task} (found : after.tasks.find job.id = some row)
    (org : row.orgId = job.task.orgId) (user : row.userId = job.task.userId) : job.Survives after ↔ Carries job.task row := by
  constructor
  · rintro ⟨other, there, carries, _⟩
    obtain rfl := Option.some.inj (found.symm.trans there)
    exact carries
  · exact fun carries => ⟨row, found, carries, resolveTask_congr carries org user⟩

theorem CaptureOn.find_remediated {after : List Node} {replacement : Nat} {remediated : Hub}
    (done : applyCaptureRemediation python after workerId replacement hub = some remediated) :
    remediated.tasks.find job.id = some (captureRemediated replacement job.task) := by
  unfold applyCaptureRemediation at done
  dsimp only at done
  split at done
  · obtain rfl := Option.some.inj done
    rw [Table.find_mapRows, job.found, Option.map_some, if_pos]
    simp [job.capture, job.assigned, job.active]
  · cases done

theorem applyCaptureRemediation_isSome (python : Python) (hub : Hub) (workerId : Nat) (after : List Node) (replacement : Nat) :
    (applyCaptureRemediation python after workerId replacement hub).isSome = validReplacement python after replacement := by
  unfold applyCaptureRemediation validReplacement
  dsimp only
  split
  · rename_i valid
    rw [valid]
    rfl
  · rename_i invalid
    rw [Bool.eq_false_iff.mpr invalid]
    rfl

theorem captureRemediated_carries (replacement : Nat) : Carries job.task (captureRemediated replacement job.task) ↔
    job.task.status = .queued ∨ ∀ key ∈ carriedFields, job.task.metaDict.get key = .null := by
  have active := job.active
  cases status : job.task.status with
  | running =>
    have sent : (captureRemediated replacement job.task).metaDict = (sentBack job.task).metaDict := by
      simp [captureRemediated, status, Task.metaDict]
    unfold Carries
    rw [sent]
    simp only [reduceCtorEq, false_or]
    exact sentBack_carries job.task
  | queued =>
    refine iff_of_true (fun key _ => ?_) (.inl rfl)
    simp [captureRemediated, status, Task.metaDict]
  | _ => simp [Task.active, status] at active

theorem captureRemediated_owner (replacement : Nat) (task : Task) :
    (captureRemediated replacement task).orgId = task.orgId ∧ (captureRemediated replacement task).userId = task.userId := by
  unfold captureRemediated
  dsimp only
  split <;> exact ⟨rfl, rfl⟩

theorem CaptureOn.change_survives (after : List Node) (replacement : Nat) :
    job.Survives ((WorkerRemoval.change after replacement).apply python workerId hub) ↔
      job.Spared python (.change after replacement) := by
  have valid := applyCaptureRemediation_isSome python hub workerId after replacement
  have spared : job.Spared python (.change after replacement) ↔ validReplacement python after replacement = false ∨
      job.task.status = .queued ∧ validReplacement python after replacement = true ∨
      ∀ key ∈ carriedFields, job.task.metaDict.get key = .null := by
    simp only [CaptureOn.Spared, WorkerRemoval.refused, WorkerRemoval.replacement, Option.filter_some]
    cases validReplacement python after replacement <;> simp
  rw [spared]
  show job.Survives ((applyCaptureRemediation python after workerId replacement hub).getD hub) ↔ _
  cases done : applyCaptureRemediation python after workerId replacement hub with
  | none =>
    rw [done] at valid
    have invalid : validReplacement python after replacement = false := valid.symm
    exact iff_of_true ((job.survives_iff job.found rfl rfl).mpr fun _ _ => rfl) (.inl invalid)
  | some remediated =>
    rw [done] at valid
    have chosen : validReplacement python after replacement = true := valid.symm
    have owner := captureRemediated_owner replacement job.task
    rw [Option.getD_some, job.survives_iff (job.find_remediated done) owner.1 owner.2, captureRemediated_carries, chosen]
    simp

theorem CaptureOn.delete_survives : job.Survives ((WorkerRemoval.delete none).apply python workerId hub) ↔
    ∀ key ∈ carriedFields, job.task.metaDict.get key = .null := by
  have found : ((WorkerRemoval.delete none).apply python workerId hub).tasks.find job.id =
      some { sentBack job.task with retryWithoutTimeout := false } := by
    simp only [WorkerRemoval.apply, deleteWorker, job.known, remediate, prepareWorkerNodeDelete, Table.find_mapRows, job.found,
      Option.map_some, job.assigned, if_true, detached, job.capture, job.active, decide_true, Bool.and_self]
  rw [job.survives_iff found rfl rfl]
  exact sentBack_carries job.task

theorem CaptureOn.find_deleted {remediation : WorkerRemediation} {replacement : Nat} {remediated : Hub}
    (chosen : remediation.captureWorkerId = some replacement)
    (done : applyCaptureRemediation python (hub.nodeList.filter fun row => row.1 != workerId) workerId replacement hub =
      some remediated) :
    ((WorkerRemoval.delete (some remediation)).apply python workerId hub).tasks.find job.id =
      some (captureRemediated replacement job.task) := by
  have moved : (captureRemediated replacement job.task).workerId ≠ some workerId := by
    have valid := applyCaptureRemediation_isSome python hub workerId
      (hub.nodeList.filter fun row => row.1 != workerId) replacement
    rw [done] at valid
    obtain ⟨node, member, fits⟩ := List.any_eq_true.mp valid.symm
    have other := (List.mem_filter.mp member).2
    have same : node.1 = replacement := by
      simp only [Bool.and_eq_true, beq_iff_eq] at fits
      exact fits.1.1.1
    rw [same] at other
    unfold captureRemediated
    dsimp only
    split
    · simp [sentBack]
    · simpa using other
  simp only [WorkerRemoval.apply, deleteWorker, job.known, remediate, job.captures, applyWorkerRemediation, chosen,
    Option.bind_some, done, prepareWorkerNodeDelete, Table.find_mapRows, job.find_remediated done, Option.map_some, moved,
    if_false]

end Rows

/-- A capture survives the removal of its worker exactly where the removal is refused, where it waits and gets another
worker, or where it has nothing to carry. -/
theorem removal_survives_iff {hub : Hub} {workerId : Nat} (job : CaptureOn hub workerId) (python : Python)
    (removal : WorkerRemoval) : job.Survives (removal.apply python workerId hub) ↔ job.Spared python removal := by
  cases removal with
  | change after replacement => exact job.change_survives after replacement
  | delete remediation =>
    cases remediation with
    | none =>
      rw [job.delete_survives, CaptureOn.Spared]
      simp [WorkerRemoval.refused, WorkerRemoval.replacement]
    | some remediation =>
      have spared : job.Spared python (.delete (some remediation)) ↔
          ((remediation.captureWorkerId.filter
            (validReplacement python (hub.nodeList.filter fun row => row.1 != workerId))).isNone = true ∨
          job.task.status = .queued ∧ (remediation.captureWorkerId.filter
            (validReplacement python (hub.nodeList.filter fun row => row.1 != workerId))).isSome ∨
          ∀ key ∈ carriedFields, job.task.metaDict.get key = .null) := Iff.rfl
      rw [spared]
      cases chosen : remediation.captureWorkerId with
      | none =>
        refine iff_of_true ((job.survives_iff ?_ rfl rfl).mpr fun _ _ => rfl) (.inl (by simp))
        simp only [WorkerRemoval.apply, deleteWorker, job.known, remediate, job.captures, applyWorkerRemediation, chosen,
          Option.bind_none, job.found]
      | some replacement =>
        have valid := applyCaptureRemediation_isSome python hub workerId
          (hub.nodeList.filter fun row => row.1 != workerId) replacement
        cases done : applyCaptureRemediation python (hub.nodeList.filter fun row => row.1 != workerId) workerId
            replacement hub with
        | none =>
          rw [done] at valid
          have invalid : validReplacement python (hub.nodeList.filter fun row => row.1 != workerId) replacement = false :=
            valid.symm
          refine iff_of_true ((job.survives_iff ?_ rfl rfl).mpr fun _ _ => rfl) (.inl (by simp [Option.filter, invalid]))
          simp only [WorkerRemoval.apply, deleteWorker, job.known, remediate, job.captures, applyWorkerRemediation, chosen,
            Option.bind_some, done, job.found]
        | some remediated =>
          rw [done] at valid
          have fits : validReplacement python (hub.nodeList.filter fun row => row.1 != workerId) replacement = true := valid.symm
          have owner := captureRemediated_owner replacement job.task
          rw [job.survives_iff (job.find_deleted chosen done) owner.1 owner.2, captureRemediated_carries]
          simp [Option.filter, fits]

def captureNode : WorkerNode where
  type := .capture
  weight := 1
  enabled := true
  lastHealth := none
  lastHealthAt := none
  lastSeenVersion := .null
  asrModels := none
  diarizationModels := none
  captureConnectors := some ["jitsi"]

def queuedCapture : Task :=
  { newTask .capture System.smallSubmission
      (some [("meeting_url", .str "https://meet.example/room"), ("stage", .str "queued")]) with workerId := some 1 }

def capturingHub : Hub := { System.smallHub with
  nodes := Table.put ∅ 1 captureNode
  tasks := Table.put ∅ 5 queuedCapture }

def waiting : CaptureOn capturingHub 1 where
  node := captureNode
  known := rfl
  captures := rfl
  id := 5
  task := queuedCapture
  found := rfl
  capture := rfl
  active := rfl
  assigned := rfl

/-- Its node is deleted, and the meeting is forgotten. -/
theorem removal_forgets : ¬waiting.Survives ((WorkerRemoval.delete none).apply System.plainPython 1 capturingHub) := by
  rw [waiting.delete_survives]
  intro nothing
  have url : waiting.task.metaDict.get "meeting_url" = .null := nothing _ (by decide)
  have here : waiting.task.metaDict.get "meeting_url" = .str "https://meet.example/room" := by decide +kernel
  rw [here] at url
  cases url

end IdigestHub.Tasks
