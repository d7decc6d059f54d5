import IdigestHub.System.Failures

/-! Running tasks over whole runs: each one is a task that the next tick polls. -/

set_option autoImplicit false

namespace IdigestHub.System

open Foundation Foundation.Runs Dispatcher Tasks

/-- A tick polls this task: it names a stored node and a job of its worker. -/
structure Polled (hub : Hub) (task : Task) : Prop where
  node : ∃ node, task.workerId = some node ∧ (hub.nodes.find node).isSome
  linked : task.linked = true

def NoneStuck (hub : Hub) : Prop :=
  ∀ id task, hub.tasks.find id = some task → task.onWorker = true → task.status = .running → Polled hub task

/-- An accepted post that goes on names the worker's task. -/
def NamesTask (world : World) : Prop :=
  ∀ id node body, Accepts world id node body → (reportedTaskId world.python body).isSome

def kindOf : WorkerType → Option TaskType
  | .transcribe => some .transcribe
  | .summarize => some .summarize
  | .capture => none

def Relinks (python : Python) (hub : Hub) (workerId : Nat) (remediation : Option WorkerRemediation) : Prop :=
  ∀ node, hub.nodes.find workerId = some node → (remediate python workerId node remediation hub).isSome →
    ∀ id task, hub.tasks.find id = some task → task.onWorker = true → task.status = .running →
      task.workerId = some workerId → remediation.isSome ∧ kindOf node.type = some task.type

def KeepsLinks (server : Server) : Event → Prop
  | .request (.deleteWorker python workerId remediation) => Relinks python server.hub workerId remediation
  | .request _ => True
  | .work world _ => NamesTask world

structure LinkedRow (hub : Hub) (row : Task) : Prop where
  polled : row.onWorker = true → row.status = .running → Polled hub row
  fresh : row.onWorker = true → row.active = true → hasProduced row = false

structure LinkedRows (hub : Hub) : Prop where
  bounded : Bounded hub
  rows : ∀ id row, hub.tasks.find id = some row → LinkedRow hub row

section Steps

variable {world : World} {scope : Nat → Prop} {hub after : Hub} {task row : Task}

theorem Polled.mono (polled : Polled hub row)
    (nodes : ∀ node, (hub.nodes.find node).isSome → (after.nodes.find node).isSome) : Polled after row := by
  obtain ⟨node, worker, stored⟩ := polled.node
  exact ⟨⟨node, worker, nodes node stored⟩, polled.linked⟩

theorem LinkedRow.mono (now : LinkedRow hub row)
    (nodes : ∀ node, (hub.nodes.find node).isSome → (after.nodes.find node).isSome) : LinkedRow after row :=
  ⟨fun onWorker running => (now.polled onWorker running).mono nodes, now.fresh⟩

theorem linkedRow_of_queued (queued : row.status = .queued) (produced : hasProduced row = false) :
    LinkedRow hub row := ⟨fun _ running => by simp [queued] at running, fun _ _ => produced⟩

theorem linkedRow_of_ended (ended : row.active = false) : LinkedRow hub row := by
  refine ⟨fun _ running => ?_, fun _ active => by simp [ended] at active⟩
  simp [Task.active, running] at ended

theorem linked_of_reported {body : Dict} (names : (reportedTaskId world.python body).isSome) (node : Nat) :
    (dispatched node (reportedTaskId world.python body) task).linked = true := by
  have linked (value : Json) (truthy : value.truthy = true) :
      (dispatched node (some (world.python.text value)) task).linked = true := by
    have text := world.python.text_truthy truthy
    simp [Task.linked, dispatched, Task.mergeMeta, nonEmpty, text]
  unfold reportedTaskId at names ⊢
  by_cases inner : (((body.get "meta").asDict.getD []).get "task_id").truthy = true
  · simpa [inner] using linked _ inner
  · by_cases outer : (body.get "task_id").truthy = true
    · simpa [inner, outer] using linked _ outer
    · simp [inner, outer] at names

theorem RowMove.linked {id : Nat} (change : RowMove world hub id task row) (names : NamesTask world)
    (nodes : ∀ node, (after.nodes.find node).isSome = (hub.nodes.find node).isSome)
    (before : LinkedRow hub task) : LinkedRow after row := by
  cases change with
  | waits retry metaJson onWorker queued =>
    exact linkedRow_of_queued queued (before.fresh onWorker (active_of_queued queued))
  | fails code detail onWorker active => exact linkedRow_of_ended rfl
  | requeues workerTaskId onWorker running =>
    exact linkedRow_of_queued rfl (before.fresh onWorker (active_of_running running))
  | unlinks onWorker running produced =>
    rw [before.fresh onWorker (active_of_running running)] at produced
    contradiction
  | links node body onWorker queued accepts stored =>
    refine ⟨fun _ _ => ⟨⟨node, rfl, by rw [nodes, stored]⟩, linked_of_reported (names _ _ _ accepts) node⟩, fun _ _ => ?_⟩
    exact before.fresh onWorker (active_of_queued queued)
  | goesOn status onWorker running =>
    obtain ⟨node, worker, stored⟩ := (before.polled onWorker running).node
    refine ⟨fun _ _ => ⟨⟨node, worker, by rw [nodes, stored]⟩, (before.polled onWorker running).linked⟩, fun _ _ => ?_⟩
    exact before.fresh onWorker (active_of_running running)
  | ingests _ ingest kept =>
    have still : row.onWorker = false := by rw [Task.onWorker, kept.type]; exact ingest
    exact ⟨fun onWorker => by simp [still] at onWorker, fun onWorker => by simp [still] at onWorker⟩

theorem LinkedRows.move (now : LinkedRows hub) (names : NamesTask world) (move : Move world scope hub after) :
    LinkedRows after := by
  refine ⟨move.bounded now.bounded, fun other row here => ?_⟩
  have stored (node : Nat) (before : (hub.nodes.find node).isSome) : (after.nodes.find node).isSome := by
    rw [move.nodes, before]
  have others {id : Nat} {task : Task} (frame : Frame id task hub after) (different : other ≠ id) :
      LinkedRow after row := by
    rcases frame.others other different with same | ⟨_, _, new, there, chained⟩
    · exact (now.rows other row (same.symm.trans here)).mono stored
    · obtain rfl : new = row := Option.some.inj (there.symm.trans here)
      exact linkedRow_of_queued chained.status chained.produced
  cases move with
  | row id task final inside before found change frame usage orgs =>
    by_cases same : other = id
    · subst same
      obtain rfl : final = row := Option.some.inj (found.symm.trans here)
      exact RowMove.linked change names frame.nodes (now.rows other task before)
    · exact others frame same
  | settled id task body inside before onWorker active reports success settlement =>
    by_cases same : other = id
    · subst same
      obtain ⟨final, found, finished⟩ := settlement.row
      obtain rfl : final = row := Option.some.inj (found.symm.trans here)
      refine linkedRow_of_ended ?_
      rw [Task.active, finished.status]
      split <;> rfl
    · exact others settlement.frame same
  | aside tasks nodes nextId usage orgs =>
    rw [tasks] at here
    exact (now.rows other row here).mono stored

theorem LinkedRows.path (now : LinkedRows hub) (names : NamesTask world) (path : Path world scope hub after) :
    LinkedRows after := by
  induction path with
  | refl => exact now
  | tail _ move ih => exact ih.move names move

theorem Edit.linked {gone : Option Nat} (edit : Edit gone task row) (before : LinkedRow hub task)
    (nodes : ∀ node, (hub.nodes.find node).isSome → gone ≠ some node → (after.nodes.find node).isSome)
    (elsewhere : row.onWorker = true → row.status = .running → gone = none ∨ task.workerId ≠ gone) :
    LinkedRow after row := by
  constructor
  · intro onWorker running
    obtain ⟨was_running, link⟩ := edit.link running
    have polled := before.polled (edit.onWorker ▸ onWorker) was_running
    obtain ⟨node, worker, stored⟩ := polled.node
    rcases link with ⟨same_worker, same_task⟩ | ⟨workerId, same, on_gone⟩
    · refine ⟨⟨node, same_worker.trans worker, nodes node stored ?_⟩, ?_⟩
      · rintro rfl
        rcases elsewhere onWorker running with none_gone | other
        · contradiction
        · exact other worker
      · rw [Task.linked, same_task]
        exact polled.linked
    · rcases elsewhere onWorker running with none_gone | other
      · rw [same] at none_gone
        contradiction
      · exact absurd (on_gone.trans same.symm) other
  · intro onWorker active
    rcases edit.active active with was_active | none_produced
    · rw [Bool.eq_false_iff]
      intro produced
      have fresh := before.fresh (edit.onWorker ▸ onWorker) was_active
      rw [edit.produced produced] at fresh
      contradiction
    · exact none_produced

theorem remediate_nodes {python : Python} {workerId : Nat} {node : WorkerNode} {remediation : Option WorkerRemediation}
    (remediated : remediate python workerId node remediation hub = some after) : after.nodes = hub.nodes := by
  cases remediation with
  | none => rw [← Option.some.inj remediated]
  | some body =>
    rw [remediate] at remediated
    cases type : node.type with
    | transcribe =>
      simp only [applyWorkerRemediation, type, applyTranscribeRemediation] at remediated
      split at remediated
      · rw [← Option.some.inj remediated]
      · contradiction
    | summarize =>
      simp only [applyWorkerRemediation, type, Option.bind_eq_some_iff, applySummarizeRemediation] at remediated
      obtain ⟨model, _, applied⟩ := remediated
      split at applied
      · rw [← Option.some.inj applied]
      · contradiction
    | capture =>
      simp only [applyWorkerRemediation, type, Option.bind_eq_some_iff, applyCaptureRemediation] at remediated
      obtain ⟨replacement, _, applied⟩ := remediated
      split at applied
      · rw [← Option.some.inj applied]
      · contradiction

theorem rows_nodes (request : Request) (hub : Hub) (removes : request.removes = none) (node : Nat)
    (stored : (hub.nodes.find node).isSome) : ((request.rows hub).nodes.find node).isSome := by
  cases request with
  | deleteWorker => simp [Request.removes] at removes
  | saveWorker workerId saved =>
    rw [Request.rows, Table.find_put]
    split
    · rfl
    · exact stored
  | createTranscribe =>
    rw [Request.rows, createTranscribe]
    dsimp only
    split <;> exact stored
  | createSummarize =>
    rw [Request.rows, createSummarize]
    dsimp only
    split <;> exact stored
  | createImport =>
    rw [Request.rows, createImport]
    split <;> exact stored
  | createCapture =>
    rw [Request.rows, createCapture]
    split <;> exact stored
  | retry =>
    rw [Request.rows, retryTask]
    split <;> exact stored
  | cancel =>
    rw [Request.rows, cancelTask]
    split <;> exact stored
  | stop =>
    rw [Request.rows, stopTask]
    split <;> exact stored
  | _ => exact stored

theorem modelRemediated_queued (snap : Snapshot) (running : task.status = .running) :
    (modelRemediated snap task).status = .queued := by simp [modelRemediated, running, sentBack]

theorem remediated_queued {python : Python} {workerId id : Nat} {node : WorkerNode} {body : WorkerRemediation}
    (remediated : remediate python workerId node (some body) hub = some after)
    (found : hub.tasks.find id = some task) (running : task.status = .running)
    (on_node : task.workerId = some workerId) (kind : kindOf node.type = some task.type) :
    ∃ row, after.tasks.find id = some row ∧ row.status = .queued := by
  have active : task.active = true := active_of_running running
  rw [remediate] at remediated
  cases type : node.type with
  | transcribe =>
    obtain transcribes : TaskType.transcribe = task.type := by simpa [type, kindOf] using kind
    simp only [applyWorkerRemediation, type, applyTranscribeRemediation] at remediated
    split at remediated
    · obtain rfl := Option.some.inj remediated
      refine ⟨_, by rw [Table.find_mapRows, found]; rfl, ?_⟩
      dsimp only
      rw [if_pos (by simp [← transcribes, active, on_node, running])]
      exact modelRemediated_queued _ running
    · contradiction
  | summarize =>
    obtain summarizes : TaskType.summarize = task.type := by simpa [type, kindOf] using kind
    simp only [applyWorkerRemediation, type, Option.bind_eq_some_iff, applySummarizeRemediation] at remediated
    obtain ⟨model, _, applied⟩ := remediated
    split at applied
    · obtain rfl := Option.some.inj applied
      refine ⟨_, by rw [Table.find_mapRows, found]; rfl, ?_⟩
      dsimp only
      rw [if_pos (by cases summarizeModelOf task <;> simp [← summarizes, active, on_node, running])]
      exact modelRemediated_queued _ running
    · contradiction
  | capture => simp [type, kindOf] at kind

theorem detached_queued (queued : task.status = .queued) : (detached task).status = .queued := by
  unfold detached
  split
  · rfl
  · exact queued

theorem Edited.bounded {gone : Option Nat} (edited : Edited gone hub after) (bounded : Bounded hub) : Bounded after := by
  intro id row here
  rw [edited.nextId]
  rcases edited.rows id with ⟨_, none_after⟩ | ⟨task, _, found, _⟩
  · rw [here] at none_after
    contradiction
  · exact bounded id task found

theorem LinkedRows.edited {gone : Option Nat} (now : LinkedRows hub) (edited : Edited gone hub after)
    (nodes : ∀ node, (hub.nodes.find node).isSome → gone ≠ some node → (after.nodes.find node).isSome)
    (elsewhere : ∀ id task row, hub.tasks.find id = some task → after.tasks.find id = some row →
      Edit gone task row → row.onWorker = true → row.status = .running → gone = none ∨ task.workerId ≠ gone) :
    LinkedRows after := by
  refine ⟨edited.bounded now.bounded, fun id row here => ?_⟩
  rcases edited.rows id with ⟨_, none_after⟩ | ⟨task, row', found, here', edit⟩
  · rw [here] at none_after
    contradiction
  · obtain rfl : row' = row := Option.some.inj (here'.symm.trans here)
    exact edit.linked (now.rows id task found) nodes (elsewhere id task row' found here' edit)

theorem LinkedRows.deleteWorker {python : Python} {workerId : Nat} {remediation : Option WorkerRemediation}
    (now : LinkedRows hub) (relinks : Relinks python hub workerId remediation) :
    LinkedRows (deleteWorker python workerId remediation hub) := by
  have edited := deleteWorker_edited python workerId remediation hub
  revert edited
  unfold Tasks.deleteWorker
  cases stored : hub.nodes.find workerId with
  | none => exact fun _ => now
  | some node =>
    dsimp only
    cases remediated : remediate python workerId node remediation hub with
    | none => exact fun _ => now
    | some middle =>
      intro edited
      refine now.edited edited ?_ fun id task row found here edit onWorker running => .inr fun on_node => ?_
      · intro other before different
        have apart : other ≠ workerId := fun same => different (same ▸ rfl)
        simpa [prepareWorkerNodeDelete, remediate_nodes remediated, Table.find_delete, apart] using before
      · -- then the remediation has sent the task back
        have was_running := (edit.link running).1
        have accepted : (remediate python workerId node remediation hub).isSome := by rw [remediated]; rfl
        obtain ⟨given, kind⟩ :=
          relinks node stored accepted id task found (edit.onWorker ▸ onWorker) was_running on_node
        obtain ⟨body, rfl⟩ := Option.isSome_iff_exists.mp given
        obtain ⟨between, there, queued⟩ := remediated_queued remediated found was_running on_node kind
        dsimp only [prepareWorkerNodeDelete] at here
        rw [Table.find_mapRows, there] at here
        obtain rfl := Option.some.inj here
        dsimp only at running
        split at running
        · rw [detached_queued queued] at running
          contradiction
        · rw [queued] at running
          contradiction

theorem LinkedRows.request (now : LinkedRows hub) (request : Request)
    (relinks : ∀ python workerId remediation, request = .deleteWorker python workerId remediation →
      Relinks python hub workerId remediation) : LinkedRows (request.rows hub) := by
  by_cases removes : request.removes = none
  · have nodes := rows_nodes request hub removes
    rcases rows_effect request hub with edited | ⟨new, same, created⟩
    · rw [removes] at edited
      exact now.edited edited (fun node stored _ => nodes node stored) fun _ _ _ _ _ _ _ _ => .inl rfl
    · refine ⟨?_, fun id row here => ?_⟩
      · rw [same]
        intro id row here
        by_cases at_new : id = hub.nextId
        · exact at_new.trans_lt (Nat.lt_succ_self _)
        · rw [Hub.addTask, Table.find_put, if_neg at_new] at here
          exact (now.bounded id row here).trans (Nat.lt_succ_self _)
      · rw [same] at here
        by_cases at_new : id = hub.nextId
        · obtain rfl : new = row := by simpa [Hub.addTask, at_new] using here
          exact linkedRow_of_queued created.status created.produced
        · rw [Hub.addTask, Table.find_put, if_neg at_new] at here
          exact (now.rows id row here).mono nodes
  · cases request with
    | deleteWorker python workerId remediation => exact now.deleteWorker (relinks _ _ _ rfl)
    | _ => exact absurd rfl removes

theorem LinkedRows.step {server : Server} {event : Event} (now : LinkedRows server.hub)
    (keeps : KeepsLinks server event) : LinkedRows (step server event).hub := by
  cases event with
  | request request =>
    refine now.request request fun python workerId remediation same => ?_
    subst same
    exact keeps
  | work world job => exact now.path keeps (work_path now.bounded job)

theorem LinkedRows.noneStuck (now : LinkedRows hub) : NoneStuck hub :=
  fun id task found onWorker running => (now.rows id task found).polled onWorker running

end Steps

/-- In a run in which every accepted post names the worker's task, and no worker is deleted
under a running task that is not sent back, no running task is left behind. -/
theorem none_stuck (opening : Opening) {events : List Event} (keeps : Along step KeepsLinks (.fresh opening.hub) events) :
    Always step (fun server => NoneStuck server.hub) (.fresh opening.hub) events := by
  have start : LinkedRows opening.hub := ⟨by simp [Bounded, opening.tasks], by simp [opening.tasks]⟩
  have linked : Always step (fun server => LinkedRows server.hub) (.fresh opening.hub) events := by
    refine always_of_along (I := fun server => LinkedRows server.hub) (fun server event now allowed => ?_) start keeps
    exact LinkedRows.step now allowed
  exact fun done rest same => (linked done rest same).noneStuck

section Samples

/-- A node takes the task and does not say under which id. -/
def namelessWorld : World := { silentWorld with post := fun _ _ => .accepted [("status", .str "queued")] }

theorem none_stuck_polled :
    Always step (fun server => NoneStuck server.hub) (.fresh small.hub) [
      .request (.createTranscribe 3 smallSubmission),
      .work acceptingWorld (.tick none false),
      .request (.cancel 10)] := by
  refine none_stuck small ⟨trivial, ?_, trivial, trivial⟩
  rintro id node body ⟨reply, -, -⟩
  obtain rfl : _ = body := by simpa [acceptingWorld] using reply
  decide

/-- A node that accepts the post without naming its task, and a node deleted without
remediation while it runs the task: both leave a running row that no tick polls. -/
theorem running_task_is_stuck :
    (∃ server : Server, server = run step (.fresh small.hub) [
        .request (.createTranscribe 3 smallSubmission), .work namelessWorld (.tick none false)] ∧
      (server.hub.tasks.find 10).map (fun task => (task.status, task.workerId, task.workerTaskId)) =
        some (.running, some 1, none) ∧ ¬NoneStuck server.hub) ∧
    ∃ server : Server, server = run step (.fresh small.hub) [
        .request (.createTranscribe 3 smallSubmission), .work acceptingWorld (.tick none false),
        .request (.deleteWorker plainPython 1 none)] ∧
      (server.hub.tasks.find 10).map (fun task => (task.status, task.workerId, task.workerTaskId)) =
        some (.running, none, none) ∧ ¬NoneStuck server.hub := by
  have stuck (hub : Hub) (worker : Option Nat)
      (row : (hub.tasks.find 10).map (fun task => (task.status, task.workerId, task.workerTaskId)) =
        some (.running, worker, none))
      (type : (hub.tasks.find 10).map Task.onWorker = some true) : ¬NoneStuck hub := by
    intro none_stuck
    obtain ⟨task, found, columns⟩ := Option.map_eq_some_iff.mp row
    obtain ⟨running, _, unnamed⟩ : task.status = .running ∧ task.workerId = worker ∧ task.workerTaskId = none := by
      simpa using columns
    have onWorker : task.onWorker = true := by simpa [found] using type
    have linked := (none_stuck 10 task found onWorker running).linked
    simp [Task.linked, unnamed, nonEmpty] at linked
  constructor
  · exact ⟨_, rfl, by decide +kernel, stuck _ (some 1) (by decide +kernel) (by decide +kernel)⟩
  · exact ⟨_, rfl, by decide +kernel, stuck _ none (by decide +kernel) (by decide +kernel)⟩

end Samples

end IdigestHub.System
