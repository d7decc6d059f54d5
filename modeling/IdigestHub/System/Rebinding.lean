import IdigestHub.Capture.Resilient
import IdigestHub.System.Failures

/-! A queued capture that has lost its worker, and the turn of the tick that comes to it. -/

set_option autoImplicit false

namespace IdigestHub.System

open Foundation Foundation.UnitOfWork Dispatcher Capture

section Capacity

variable (python : Python) (s : Session Hub Process) (id : Nat)

/-- Enabled, healthy, and a free place: in the pool that it reports, or none of its captures is another's. -/
def hasRoom (node : Node) : Bool :=
  node.2.enabled && healthy node.2 &&
    match parseHealthWorkerPool python node.2 with
    | none => false
    | some (some pool) => 0 < pool.available
    | some none => !captureWorkerHeldByOther s.memory s.flushed s.working node.1 id

/-- `str(meta.get("connector") or "jitsi")`. -/
def connectorOf (task : Task) : String := (nonEmpty (some (python.orEmpty (task.metaDict.get "connector")))).getD "jitsi"

structure Suitable (task : Task) (node : Node) : Prop where
  known : s.working.nodes.find node.1 = some node.2
  captures : node.2.type = .capture
  offers : workerOffersConnector python node.2 (connectorOf python task) = true
  room : hasRoom python s id node = true

structure Stranded where
  task : Task
  found : s.working.tasks.find id = some task
  capture : task.type = .capture
  queued : task.status = .queued
  roomless : ∀ workerId node, task.workerId = some workerId → s.working.nodes.find workerId = some node →
    node.type = .capture ∧ hasRoom python s id (workerId, node) = false

end Capacity

section Gate

variable {python : Python} {s : Session Hub Process} {id : Nat}

theorem Stranded.closed (stranded : Stranded python s id) :
    captureWorkerCapacityAvailable python { s.memory with active := forget id s.memory.active } s.flushed s.working id
      stranded.task ≠ some true := by
  unfold captureWorkerCapacityAvailable
  intro opened
  split at opened
  · cases opened
  · rename_i workerId assigned
    split at opened
    · cases opened
    · rename_i node known
      obtain ⟨captures, full⟩ := stranded.roomless workerId node assigned known
      split at opened
      · cases opened
      · rename_i available
        have ready : node.enabled = true ∧ healthy node = true := by
          simp only [Bool.not_eq_true', Bool.not_eq_false, dispatchAvailable, captures, Bool.and_eq_true] at available
          exact ⟨available.1, available.2.1⟩
        simp only [hasRoom, ready.1, ready.2, Bool.and_self, Bool.true_and] at full
        rw [heldByOther_forget] at opened
        cases pool : parseHealthWorkerPool python node with
        | none => simp [pool] at opened
        | some report =>
          cases report <;> simp_all

end Gate

section Turn

variable {world : World} {s : Session Hub Process} {id : Nat} (stranded : Stranded world.python s id) (nodes : List Node)

def NotStarted (id : Nat) (s : Session Hub Process) : Prop :=
  ∃ row, s.working.tasks.find id = some row ∧ row.status ≠ .running

include stranded in
theorem Stranded.wp_turn {Q : Unit → Session Hub Process → Prop} {R : Fault → Session Hub Process → Prop}
    (starts : wp (maybeStartCapture world id) Q R s) : wp (tickTask world nodes id) Q R s := by
  rw [tickTask, wp_bind]
  refine wp_loaded_of stranded.found ?_
  rw [stranded.capture]
  show wp (tryFinishCaptureTask world id >>= fun _ => maybeStartCapture world id) Q R s
  rw [wp_bind, tryFinishCaptureTask, wp_bind]
  refine wp_loaded_of stranded.found ?_
  rw [wp_ite, if_pos (by simp [stillRunning, stranded.queued])]
  exact starts

include stranded in
/-- The turn asks for nothing but the task's own worker. -/
theorem Stranded.wp_start {Q : Unit → Session Hub Process → Prop} {R : Fault → Session Hub Process → Prop}
    (passes : stranded.task.audioId.isSome = true ∨ s.memory.threads.contains id = true → Q () s)
    (overflows : R .overflow { s with memory := { s.memory with active := forget id s.memory.active } })
    (fails : wp (Ingest.failTask world id .captureNoWorker []) Q R
      { s with memory := { s.memory with active := forget id s.memory.active } }) :
    wp (maybeStartCapture world id) Q R s := by
  rw [maybeStartCapture, wp_bind]
  refine wp_loaded_of stranded.found ?_
  rw [wp_bind, wp_recollect, wp_ite, if_neg (by simp [stranded.capture, stranded.queued]), wp_ite]
  split
  · rename_i leaves
    exact passes (by simpa using leaves)
  · rw [wp_bind, wp_remember, wp_bind, capacityAvailable, wp_bind]
    refine wp_loaded_of stranded.found ?_
    simp only [wp_bind, wp_recollect, wp_query, wp_read]
    have closed := stranded.closed
    split
    · exact overflows
    · rename_i available gate
      rw [gate] at closed
      have shut : available = false := by simpa using closed
      rw [wp_pure, shut]
      exact fails

theorem failTask_leaves {task : Task} (found : s.working.tasks.find id = some task) {code : ErrorCode} :
    wp (Ingest.failTask world id code []) (fun _ after => after.working.tasks.find id = some (Ingest.failed code [] task))
      (fun _ after => after.working.tasks.find id = some (Ingest.failed code [] task)) s := by
  have written : (s.working.modifyTask id (Ingest.failed code [])).tasks.find id = some (Ingest.failed code [] task) := by
    simp [Hub.modifyTask, Table.find_modify, found]
  rw [Ingest.failTask, wp_bind, wp_modifyTask, wp_bind, wp_flush]
  exact wp_guardSite written written

include stranded in
theorem Stranded.not_started : wp (tickTask world nodes id) (fun _ => NotStarted id) (fun _ => NotStarted id) s := by
  have waits : NotStarted id s := ⟨stranded.task, stranded.found, by simp [stranded.queued]⟩
  refine stranded.wp_turn nodes (stranded.wp_start (fun _ => waits) waits ?_)
  have fails (after : Session Hub Process)
      (row : after.working.tasks.find id = some (Ingest.failed .captureNoWorker [] stranded.task)) : NotStarted id after :=
    ⟨_, row, by simp [Ingest.failed]⟩
  refine wp_mono (failTask_leaves
    (s := { s with memory := { s.memory with active := forget id s.memory.active } }) stranded.found) ?_ ?_
  · exact fun _ => fails
  · exact fun _ => fails

theorem Stranded.fails (fresh : stranded.task.audioId = none) (idle : s.memory.threads.contains id = false) :
    wp (tickTask world nodes id)
      (fun _ after => after.working.tasks.find id = some (Ingest.failed .captureNoWorker [] stranded.task))
      (fun fault after => fault = .overflow ∨
        after.working.tasks.find id = some (Ingest.failed .captureNoWorker [] stranded.task)) s := by
  refine stranded.wp_turn nodes (stranded.wp_start (fun passed => ?_) (.inl rfl) ?_)
  · rw [fresh, idle] at passed
    simp at passed
  · refine wp_mono (failTask_leaves
      (s := { s with memory := { s.memory with active := forget id s.memory.active } }) stranded.found) ?_ ?_
    · exact fun _ _ row => row
    · exact fun _ _ row => .inr row

/-- Where some worker could take the task, it is started; it fails for want of a worker where none could. -/
def Stranded.Meets (after : Session Hub Process) : Prop :=
  ((∃ node, Suitable world.python s id stranded.task node) →
    ∃ row, after.working.tasks.find id = some row ∧ row.status = .running) ∧
  ∀ row, after.working.tasks.find id = some row → row.status = .error → row.errorCode = some .captureNoWorker →
    ¬∃ node, Suitable world.python s id stranded.task node

theorem Stranded.passes_over (suitable : ∃ node, Suitable world.python s id stranded.task node) :
    ¬stranded.Meets ((tickTask world nodes id).run s).2 := by
  have not_started : NotStarted id ((tickTask world nodes id).run s).2 := by
    have ends := stranded.not_started nodes
    unfold wp at ends
    show NotStarted id (tickTask world nodes id s).2
    generalize tickTask world nodes id s = ran at ends
    obtain ⟨outcome, after⟩ := ran
    cases outcome with
    | ok _ => exact ends
    | error _ => exact ends
  intro meets
  obtain ⟨row, found, running⟩ := meets.1 suitable
  obtain ⟨other, there, waits⟩ := not_started
  obtain rfl := Option.some.inj (found.symm.trans there)
  exact waits running

/-- The turn is right about a stranded capture exactly where no worker could take it. -/
theorem stranded_meets_iff : stranded.Meets ((tickTask world nodes id).run s).2 ↔
    ¬∃ node, Suitable world.python s id stranded.task node := by
  constructor
  · exact fun meets suitable => stranded.passes_over nodes suitable meets
  · exact fun none_suitable => ⟨fun suitable => absurd suitable none_suitable, fun _ _ _ _ => none_suitable⟩

end Turn

section Samples

/-- A capture whose thread has not reached a worker when the hub stops, and an idle worker. -/
def interruptedHub : Hub := { smallHub with
  nodes := Table.put ∅ 1 {
    type := .capture
    weight := 1
    enabled := true
    lastHealth := some [("_http", idJson 200), ("connectors", .obj [("jitsi", .str "loaded")])]
    lastHealthAt := none
    lastSeenVersion := .null
    asrModels := none
    diarizationModels := none
    captureConnectors := none }
  tasks := Table.put ∅ 5 { Tasks.newTask .capture smallSubmission
      (some [("meeting_url", .str "https://meet.example/room"), ("stage", .str "queued")]) with
    status := .running
    workerId := some 1 } }

def workingWorld : World := { silentWorld with
  probe := fun _ => .answer 200 [("connectors", .obj [("jitsi", .str "loaded")])] 200 }

/-- The hub has been started again, and the capture waits. -/
def restartedHub : Hub := (step (.fresh interruptedHub) (.work workingWorld .restart)).hub

theorem restarted_keeps : (restartedHub.tasks.find 5).isSome = true := by decide +kernel

def requeuedCapture : Stranded workingWorld.python (.start restartedHub .fresh) 5 where
  task := (restartedHub.tasks.find 5).get restarted_keeps
  found := (Option.some_get restarted_keeps).symm
  capture := by decide +kernel
  queued := by decide +kernel
  roomless workerId node assigned := by
    have unassigned : ((restartedHub.tasks.find 5).get restarted_keeps).workerId = none := by decide +kernel
    rw [unassigned] at assigned
    cases assigned

theorem restarted_works : (restartedHub.nodes.find 1).isSome = true := by decide +kernel

/-- The idle worker is passed over. -/
theorem requeued_capture_fails : ¬requeuedCapture.Meets
    ((tickTask workingWorld restartedHub.nodeList 5).run (.start restartedHub .fresh)).2 := by
  refine requeuedCapture.passes_over _
    ⟨(1, (restartedHub.nodes.find 1).get restarted_works), (Option.some_get restarted_works).symm, ?_, ?_, ?_⟩
  · decide +kernel
  · decide +kernel
  · decide +kernel

end Samples

end IdigestHub.System
