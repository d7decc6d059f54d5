import IdigestHub.Capture.Resilient
import IdigestHub.System.Failures

/-! A running capture after a restart of the hub: the recovery, the ticks and the thread that they start, with whatever else
the hub does in between. -/

set_option autoImplicit false

namespace IdigestHub.System

open Foundation Foundation.Runs Foundation.UnitOfWork Dispatcher Ingest Capture

structure LiveCapture where
  hub : Hub
  id : Nat
  node : Nat
  job : String
  task : Task
  stored : hub.tasks.find id = some task
  numbered : id < hub.nextId
  capture : task.type = .capture
  running : task.status = .running
  assigned : task.workerId = some node
  dispatched : task.workerTaskId = some job
  named : Text.strip job ≠ ""

structure OnJob (node : Nat) (job : String) (task : Task) : Prop where
  type : task.type = .capture
  assigned : task.workerId = some node
  dispatched : task.workerTaskId = some job
  started : task.status ≠ .queued
  fails : task.status = .error → task.errorCode ≠ some .captureNoWorker

structure Holding (id node : Nat) (job : String) (hub : Hub) : Prop where
  row : ∃ task, hub.tasks.find id = some task ∧ OnJob node job task
  numbered : id < hub.nextId

/-- Where the thread may wait: never for the answer to a post, and for no other worker. -/
def Onto (node : Nat) : Awaiting → Prop
  | .poll on => on = node
  | .artifact .. | .returned => True
  | .start | .post _ => False

/-- The row is held, and the thread has not begun or polls the row's worker. -/
structure Resumed (live : LiveCapture) (server : Server) : Prop where
  holding : Holding live.id live.node live.job server.hub
  thread : server.captures live.id = .start ∨ Onto live.node (server.captures live.id)

/-- What happens: the recovery of the row, its turn in a tick, a section of its thread, or something else. -/
inductive Happening where
  | others (after : Server)
  | restart (world : World)
  | tick (world : World)
  | thread (world : World) (detail : String)

def happen (id : Nat) (server : Server) : Happening → Server
  | .others after => after
  | .restart world =>
    perform_ (do recoverTask world server.hub.nodeList id; commitAt world (.tick 4)) (.fresh server.hub)
  | .tick world => perform_ (do tickTask world server.hub.nodeList id; commitAt world (.tick 3)) server
  | .thread world detail => work world server (.captureThread id detail)

def Attended (id : Nat) (hub : Hub) (process : Process) : Prop :=
  process.threads.contains id = true ∨ ∀ task, hub.tasks.find id = some task → stillRunning task = false

/-- A turn in a tick starts the thread of the row unless it raises, and the first section of the thread takes it to the row's
worker. -/
def Attends (live : LiveCapture) (server : Server) : Happening → Prop
  | .tick world =>
    let (outcome, after) := perform (do tickTask world server.hub.nodeList live.id; commitAt world (.tick 3)) server
    outcome = .ok () → Attended live.id after.hub after.process
  | .thread world detail =>
    alive .capture server.process.threads server.hub live.id = true → server.captures live.id = .start →
      Onto live.node ((happen live.id server (.thread world detail)).captures live.id)
  | .others _ | .restart _ => True

def reports (world : World) (id : Nat) : Bool :=
  match world.getTask id with
  | .answer code poll => code == 200 && captureActiveWorkerStatuses.contains (workerStatus world.python poll)
  | _ => false

/-- The hub still knows the worker, whose reports are active, and nothing else touches the row and its thread. -/
def Reported (live : LiveCapture) (server : Server) : Happening → Prop
  | .others after => after.hub.tasks.find live.id = server.hub.tasks.find live.id ∧ live.id < after.hub.nextId ∧
      after.captures live.id = server.captures live.id
  | .restart world => reports world live.id = true ∧ (server.hub.nodes.find live.node).isSome = true
  | .tick world => reports world live.id = true
  | .thread .. => True

/-- The gate for new captures is open to the row while it runs, or its reading of the pool raises. -/
def gateOpen (world : World) (live : LiveCapture) (server : Server) : Bool :=
  (server.hub.tasks.find live.id).all fun task => !stillRunning task ||
    captureWorkerCapacityAvailable world.python server.process server.hub server.hub live.id task != some false

/-- Wherever the gate is asked about the row, it is open. -/
def admits (live : LiveCapture) (server : Server) : Happening → Bool
  | .tick world => server.process.threads.contains live.id || gateOpen world live server
  | .thread world _ =>
    match server.captures live.id with
    | .start => gateOpen world live server &&
        (server.hub.nodes.find live.node).any fun node => node.type == .capture && node.enabled
    | _ => true
  | _ => true

section Rows

variable {id node : Nat} {job : String}

theorem Holding.modify {hub : Hub} {f : Task → Task} (holding : Holding id node job hub)
    (row : ∀ task, OnJob node job task → OnJob node job (f task)) : Holding id node job (hub.modifyTask id f) := by
  obtain ⟨task, found, held⟩ := holding.row
  exact ⟨⟨f task, find_modifyTask found f, row task held⟩, holding.numbered⟩

theorem OnJob.fields {task : Task} (held : OnJob node job task) (fields : Option Dict) :
    OnJob node job { task with metaJson := fields } :=
  ⟨held.type, held.assigned, held.dispatched, held.started, held.fails⟩

theorem OnJob.job_eq {task : Task} (held : OnJob node job task) (named : Text.strip job ≠ "") :
    nonEmpty (task.workerTaskId.map Text.strip) = some (Text.strip job) := by
  rw [held.dispatched, Option.map_some]
  unfold nonEmpty
  split
  · rename_i same
    exact absurd (Option.some.inj same) named
  · rfl

theorem holding_resilient : Resilient id (Holding id node job) where
  refreshed stored hub task there here found := by
    obtain ⟨its, known, held⟩ := there.row
    obtain rfl := Option.some.inj (known.symm.trans found)
    exact here.modify fun _ _ => held
  fields hub f _ holding := holding.modify fun _ held => held.fields _
  failed hub code extra assigned holding := holding.modify fun _ held =>
    ⟨held.type, held.assigned, held.dispatched, (fun queued => by cases queued),
      fun _ same => assigned (Option.some.inj same)⟩
  captured hub audioId duration fields holding := holding.modify fun _ held =>
    ⟨held.type, held.assigned, held.dispatched, (fun queued => by cases queued), fun failed => by cases failed⟩
  task hub task holding := by
    obtain ⟨row, found, held⟩ := holding.row
    have own : id ≠ hub.nextId := Nat.ne_of_lt holding.numbered
    exact ⟨⟨row, by simp [Hub.addTask, Table.find_put, own, found], held⟩, Nat.lt_succ_of_lt holding.numbered⟩
  audio hub audio holding := ⟨holding.row, Nat.lt_succ_of_lt holding.numbered⟩

end Rows

section Thread

variable {id node : Nat} {job : String} {world : World} {A : Type}

/-- Wherever it starts, the section ends at the row's worker or leaves. -/
def Lands (node : Nat) (program : Program Awaiting) : Prop :=
  ∀ s, wp program (fun next _ => Onto node next) (fun _ _ => True) s

theorem lands_pure {next : Awaiting} (onto : Onto node next) : Lands node (pure next) := fun _ => onto

theorem lands_raise (fault : Fault) : Lands node (Tx.raise fault) := fun _ => trivial

theorem Lands.bind {program : Program A} {next : A → Program Awaiting} (lands : ∀ a, Lands node (next a)) :
    Lands node (program >>= next) := by
  intro s
  rw [wp_bind]
  exact wp_mono (wp_trivial program s) (fun a after _ => lands a after) fun _ _ _ => trivial

theorem Lands.ite {c : Prop} [Decidable c] {first second : Program Awaiting} (yes : c → Lands node first)
    (no : ¬c → Lands node second) : Lands node (if c then first else second) := by
  split
  · exact yes ‹_›
  · exact no ‹_›

theorem lands_failAndReturn (code : ErrorCode) (extra : Dict) (step : Nat) :
    Lands node (failAndReturn world id code extra step) := .bind fun _ => lands_pure trivial

theorem lands_afterPoll (status : String) (poll : Dict) : Lands node (afterPoll world id node status poll) := by
  refine .bind fun task => .bind fun process => .ite (fun _ => lands_failAndReturn _ _ _) fun _ => ?_
  refine .ite (fun _ => .ite (fun _ => lands_pure rfl) fun _ => ?_) fun _ => ?_
  · exact .bind fun _ => .bind fun _ => lands_pure trivial
  · exact .ite (fun _ => lands_failAndReturn _ _ _) fun _ => .ite (fun _ => lands_failAndReturn _ _ _) fun _ => lands_pure rfl

theorem lands_threadPoll : Lands node (threadPoll world id node) := by
  refine .bind fun _ => .bind fun process => .bind fun answer => ?_
  split
  · exact lands_raise _
  · refine .ite (fun _ => .ite (fun _ => lands_pure trivial) fun _ => ?_) fun _ => ?_
    · exact .bind fun _ => lands_failAndReturn _ _ _
    · refine .ite (fun _ => lands_failAndReturn _ _ _) fun _ => .bind fun task => ?_
      have rest (status stage : String) (poll : Dict) : Lands node (do
          modifyTask id fun task => { task with metaJson := some (polledFields world status stage task.metaDict) }
          Tx.flush
          commitAt world (.runner id 27)
          afterPoll world id node status poll) :=
        .bind fun _ => .bind fun _ => .bind fun _ => lands_afterPoll _ _
      exact .ite (fun _ => .bind fun _ => rest _ _ _) fun _ => rest _ _ _

theorem lands_threadPersist (on : Nat) (poll : Dict) : Lands node (threadPersist world id on poll) := by
  refine .bind fun _ => .bind fun task => .ite (fun _ => ?_) fun _ => lands_pure trivial
  exact .bind fun _ => lands_pure trivial

theorem lands_forwardEarlyStop : Lands node (forwardEarlyStop world id node) := by
  refine .bind fun task => .bind fun process => .ite (fun _ => ?_) fun _ => lands_pure rfl
  exact .bind fun _ => .bind fun _ => .bind fun _ => lands_pure rfl

/-- A section that keeps the store's property and lands. -/
def Resumes (node : Nat) (P : Hub → Prop) (program : Program Awaiting) (s : Session Hub Process) : Prop :=
  wp program (fun next after => Everywhere P after ∧ Onto node next) (fun _ => Everywhere P) s

theorem resumes_of_lands {P : Hub → Prop} {program : Program Awaiting} (preserves : Preserves P program)
    (lands : Lands node program) {s : Session Hub Process} (holds : Everywhere P s) : Resumes node P program s :=
  wp_mono (wp_and (preserves s holds) (lands s)) (fun _ _ both => both) fun _ _ both => both.1

end Thread

section Gate

variable {world : World} {id node : Nat} {job : String} {s : Session Hub Process} {task : Task}

/-- The gate of a session is open to the row that it has loaded. -/
def Admitted (world : World) (id : Nat) (s : Session Hub Process) (task : Task) : Prop :=
  captureWorkerCapacityAvailable world.python s.memory s.flushed s.working id task ≠ some false

theorem wp_capacityAvailable (found : s.working.tasks.find id = some task) (admitted : Admitted world id s task) :
    wp (capacityAvailable world id) (fun available after => available = true ∧ after = s) (fun _ after => after = s) s := by
  rw [capacityAvailable, wp_bind]
  refine wp_loaded_of found ?_
  simp only [wp_bind, wp_recollect, wp_query, wp_read]
  unfold Admitted at admitted
  split
  · rfl
  · rename_i available gate
    rw [gate] at admitted
    exact ⟨by simpa using admitted, rfl⟩

theorem wp_boundWorker (found : s.working.tasks.find id = some task) (held : OnJob node job task)
    (usable : (s.working.nodes.find node).any (fun node => node.type == .capture && node.enabled) = true)
    (admitted : Admitted world id s task) :
    wp (boundWorker world id) (fun worker after => worker = some node ∧ after = s) (fun _ after => after = s) s := by
  rw [boundWorker, wp_bind]
  refine wp_loaded_of found ?_
  rw [wp_bind, wp_read]
  simp only [held.assigned, usable, if_true, wp_bind]
  refine wp_mono (wp_capacityAvailable found admitted) ?_ fun _ _ same => same
  rintro _ after ⟨rfl, rfl⟩
  exact ⟨rfl, rfl⟩

/-- The binding of such a row keeps it, or fails it for its meeting. -/
theorem wp_bindCaptureWorker (holding : Everywhere (Holding id node job) s) (found : s.working.tasks.find id = some task)
    (held : OnJob node job task)
    (usable : (s.working.nodes.find node).any (fun node => node.type == .capture && node.enabled) = true)
    (admitted : Admitted world id s task) :
    wp (bindCaptureWorker world id)
      (fun worker after => Everywhere (Holding id node job) after ∧ (worker = none ∨ worker = some node ∧ after = s))
      (fun _ => Everywhere (Holding id node job)) s := by
  rw [bindCaptureWorker, wp_bind]
  refine wp_loaded_of found ?_
  rw [wp_ite]
  split
  · rw [wp_bind]
    refine wp_mono (preserves_failTask world holding_resilient (by decide) [] s holding) ?_ fun _ _ held => held
    exact fun _ after held => ⟨held, .inl rfl⟩
  · rw [wp_bind]
    refine wp_mono (wp_boundWorker found held usable admitted) ?_ ?_
    · rintro _ after ⟨rfl, rfl⟩
      exact ⟨holding, .inr ⟨rfl, rfl⟩⟩
    · rintro _ after rfl
      exact holding

theorem resumes_threadStart (named : Text.strip job ≠ "") (holding : Everywhere (Holding id node job) s)
    (admits : ∀ task, s.working.tasks.find id = some task → stillRunning task = true → Admitted world id s task)
    (usable : (s.working.nodes.find node).any (fun node => node.type == .capture && node.enabled) = true) :
    Resumes node (Holding id node job) (threadStart world id) s := by
  obtain ⟨task, found, held⟩ := holding.working.row
  have failing (code : ErrorCode) (assigned : code ≠ .captureNoWorker) (step : Nat) :
      Resumes node (Holding id node job) (failAndReturn world id code [] step) s :=
    resumes_of_lands (preserves_failAndReturn world holding_resilient assigned [] step) (lands_failAndReturn _ _ _) holding
  unfold Resumes threadStart
  rw [wp_bind, wp_read, wp_bind, wp_recollect, found]
  dsimp only
  rw [wp_ite]
  split
  · exact ⟨holding, trivial⟩
  · rename_i goes_on
    have running : stillRunning task = true := by simpa [held.type] using goes_on
    have admitted := admits task found running
    rw [wp_ite]
    split
    · exact failing _ (by decide) _
    · rw [wp_ite]
      split
      · exact failing _ (by decide) _
      · rw [wp_bind]
        refine wp_mono (wp_bindCaptureWorker holding found held usable admitted) ?_ fun _ _ held => held
        rintro worker after ⟨kept, rfl | ⟨rfl, rfl⟩⟩
        · dsimp only
          rw [wp_bind]
          refine wp_mono (maintains_commitAt world _ after kept) ?_ fun _ _ held => held
          exact fun _ last held => ⟨held, trivial⟩
        · dsimp only
          rw [wp_bind]
          refine wp_loaded_of found ?_
          rw [held.job_eq named, wp_ite, if_pos Option.isSome_some, wp_bind]
          refine wp_mono (maintains_commitAt world _ after kept) ?_ fun _ _ held => held
          exact fun _ last held => resumes_of_lands (preserves_forwardEarlyStop world holding_resilient node)
            lands_forwardEarlyStop held

end Gate

section Turns

variable {world : World} {id node : Nat} {job : String}

theorem reported_poll (reported : reports world id = true) : ∃ poll, world.getTask id = .answer 200 poll ∧
    captureActiveWorkerStatuses.contains (workerStatus world.python poll) = true := by
  unfold reports at reported
  split at reported
  · rename_i code poll replied
    simp only [Bool.and_eq_true, beq_iff_eq] at reported
    exact ⟨poll, reported.1 ▸ replied, reported.2⟩
  · cases reported

theorem not_active_success : captureActiveWorkerStatuses.contains "success" = false := by decide

structure Noted (id node : Nat) (job : String) (hub after : Hub) : Prop where
  alike : Alike id hub after
  holding : Holding id node job after
  still : ∀ task row, hub.tasks.find id = some task → after.tasks.find id = some row → stillRunning row = stillRunning task

structure Unmoved (id node : Nat) (job : String) (hub : Hub) (process : Process) (s : Session Hub Process) : Prop where
  rows : Everywhere (Noted id node job hub) s
  memory : s.memory = process

variable {hub : Hub} {process : Process}

theorem Noted.start (holding : Holding id node job hub) : Noted id node job hub hub :=
  ⟨.refl hub, holding, fun task row found there => by rw [Option.some.inj (found.symm.trans there)]⟩

theorem Noted.modify {after : Hub} (noted : Noted id node job hub after) (f : Task → Dict) :
    Noted id node job hub (after.modifyTask id fun task => { task with metaJson := some (f task) }) := by
  refine ⟨noted.alike.modify _, noted.holding.modify fun _ held => held.fields _, fun task row found there => ?_⟩
  obtain ⟨its, known, _⟩ := noted.holding.row
  obtain rfl := Option.some.inj ((find_modifyTask known _).symm.trans there)
  exact noted.still task its found known

instance Unmoved.transactional : Transactional (Unmoved id node job hub process) where
  flush s unmoved := ⟨Transactional.flush s unmoved.rows, unmoved.memory⟩
  commit s unmoved := ⟨Transactional.commit s unmoved.rows, unmoved.memory⟩
  rollback s unmoved := ⟨Transactional.rollback s unmoved.rows, unmoved.memory⟩

theorem Unmoved.holding {s : Session Hub Process} (unmoved : Unmoved id node job hub process s) :
    Everywhere (Holding id node job) s :=
  ⟨unmoved.rows.committed.holding, unmoved.rows.flushed.holding, unmoved.rows.working.holding⟩

theorem unmoved_updateTaskMeta (stage : String) (extra : Dict) :
    Maintains (Unmoved id node job hub process) (updateTaskMeta id stage extra) := by
  refine Maintains.bind (fun s unmoved => ?_) fun _ => maintains_flush
  exact ⟨⟨unmoved.rows.committed, unmoved.rows.flushed, unmoved.rows.working.modify _⟩, unmoved.memory⟩

theorem unmoved_tryFinish (reported : reports world id = true) :
    Maintains (Unmoved id node job hub process) (tryFinishCaptureTask world id) := by
  obtain ⟨poll, replied, active⟩ := reported_poll reported
  have unready : ¬workerStatus world.python poll = "success" := by
    intro success
    rw [success, not_active_success] at active
    cases active
  refine (maintains_loaded id).bind fun task => .ite (fun _ => maintains_pure _) fun _ => ?_
  split
  · refine maintains_read.bind fun hub => .ite (fun _ => maintains_pure _) fun _ => ?_
    simp only [pollWorker, replied, bind_assoc, pure_bind]
    refine (maintains_callWorker world id _).bind fun _ => .ite (fun _ => maintains_pure _) fun _ => ?_
    unfold tryFinishCaptureTask.report
    simp only [unready, decide_false, Bool.false_and, Bool.false_eq_true, if_false, active, Bool.true_or, if_true]
    exact unmoved_updateTaskMeta _ _
  · exact maintains_pure _

/-- A row whose gate is open is not failed by the start, and has a thread after it. -/
theorem wp_maybeStart {s : Session Hub Process} (holding : Everywhere (Holding id node job) s)
    (admits : s.memory.threads.contains id = false → ∀ task, s.working.tasks.find id = some task → stillRunning task = true →
      Admitted world id { s with memory := { s.memory with active := forget id s.memory.active } } task) :
    wp (maybeStartCapture world id)
      (fun _ after => Everywhere (Holding id node job) after ∧ Attended id after.working after.memory)
      (fun _ => Everywhere (Holding id node job)) s := by
  obtain ⟨task, found, held⟩ := holding.working.row
  rw [maybeStartCapture, wp_bind]
  refine wp_loaded_of found ?_
  have settled (ended : stillRunning task = false) : Attended id s.working s.memory :=
    .inr fun row there => by rwa [← Option.some.inj (found.symm.trans there)]
  rw [wp_bind, wp_recollect, wp_ite]
  split
  · rename_i inactive
    refine ⟨holding, settled ?_⟩
    have stopped : task.status ≠ .running := by
      intro running
      simp [held.type, running] at inactive
    simp [stillRunning, stopped]
  · rename_i active
    have running : task.status = .running := by
      by_contra stopped
      exact active (by simp [held.started, stopped])
    rw [wp_ite]
    split
    · rename_i attended
      rcases Bool.or_eq_true_iff.mp attended with recorded | threaded
      · refine ⟨holding, settled ?_⟩
        simp [stillRunning, Option.isNone_eq_false_iff.mpr recorded]
      · exact ⟨holding, .inl threaded⟩
    · rename_i unthreaded
      simp only [Bool.or_eq_true, not_or, Bool.not_eq_true, Option.isSome_eq_false_iff, Option.isNone_iff_eq_none] at unthreaded
      have still : stillRunning task = true := by simp [stillRunning, running, unthreaded.1]
      have admitted := admits unthreaded.2 task found still
      rw [wp_bind, wp_remember, wp_bind]
      refine wp_mono (wp_capacityAvailable found admitted) ?_ ?_
      · rintro _ after ⟨rfl, rfl⟩
        rw [if_pos rfl, wp_bind, wp_remember, if_neg (by simp [running]), wp_bind]
        refine wp_commitAt ?_ ⟨holding.committed, holding.flushed, holding.working⟩
        exact ⟨⟨holding.working, holding.working, holding.working⟩, .inl (by simp)⟩
      · rintro _ after rfl
        exact ⟨holding.committed, holding.flushed, holding.working⟩

/-- The turn of a tick keeps the row and starts its thread, where the gate is open to it. -/
theorem holding_tick (reported : reports world id = true) (holding : Holding id node job hub)
    (admits : process.threads.contains id = false → ∀ task, hub.tasks.find id = some task → stillRunning task = true →
      captureWorkerCapacityAvailable world.python process hub hub id task ≠ some false) (nodes : List Node) :
    wp (tickTask world nodes id)
      (fun _ after => Everywhere (Holding id node job) after ∧ Attended id after.working after.memory)
      (fun _ => Everywhere (Holding id node job)) (.start hub process) := by
  obtain ⟨task, found, held⟩ := holding.row
  have start : Unmoved id node job hub process (.start hub process) := ⟨everywhere_start (.start holding) _, rfl⟩
  rw [tickTask, wp_bind]
  refine wp_loaded_of found ?_
  rw [held.type]
  show wp (tryFinishCaptureTask world id >>= fun _ => maybeStartCapture world id) _ _ _
  rw [wp_bind]
  refine wp_mono (unmoved_tryFinish reported _ start) ?_ fun _ _ unmoved => unmoved.holding
  intro _ after unmoved
  refine wp_maybeStart unmoved.holding fun unthreaded row there still => ?_
  have before : stillRunning task = true := (unmoved.rows.working.still task row found there).symm.trans still
  obtain ⟨its, known, its_held⟩ := unmoved.rows.working.holding.row
  obtain rfl : its = row := Option.some.inj (known.symm.trans there)
  rw [unmoved.memory] at unthreaded
  unfold Admitted
  dsimp only
  rw [unmoved.memory, unmoved.rows.flushed.alike.gate unmoved.rows.working.alike world.python process
    (its_held.assigned.trans held.assigned.symm)]
  exact admits unthreaded task found before

theorem mem_nodes (known : (hub.nodes.find node).isSome = true) : (hub.nodeList.map Prod.fst).contains node = true := by
  obtain ⟨worker, found⟩ := Option.isSome_iff_exists.mp known
  have member := (Table.mem_entries hub.nodes node worker).mpr found
  simp only [Hub.nodeList, List.map_map, List.contains_eq_mem, decide_eq_true_eq]
  exact List.mem_map.mpr ⟨⟨node, worker⟩, member, rfl⟩

theorem holding_recovery (reported : reports world id = true) (named : Text.strip job ≠ "")
    (known : (hub.nodes.find node).isSome = true) (holding : Holding id node job hub) (process : Process) :
    wp (recoverTask world hub.nodeList id) (fun _ => Everywhere (Holding id node job)) (fun _ => Everywhere (Holding id node job))
      (.start hub process) := by
  obtain ⟨task, found, held⟩ := holding.row
  obtain ⟨poll, replied, active⟩ := reported_poll reported
  have start := everywhere_start holding process
  rw [recoverTask, wp_bind]
  refine wp_loaded_of found ?_
  rw [held.type]
  show wp (recoverCaptureTask world id (hub.nodeList.map Prod.fst)) _ _ _
  rw [recoverCaptureTask, wp_bind]
  refine wp_loaded_of found ?_
  rw [wp_ite]
  split
  · exact start
  · rw [held.job_eq named, held.assigned]
    dsimp only
    rw [mem_nodes known, wp_ite, if_neg (by decide)]
    simp only [pollWorker, replied, bind_assoc, pure_bind]
    have reattaches : Preserves (Holding id node job) (recoverCaptureTask.reattach world id task poll) := by
      refine preserves_reattach world holding_resilient task fun empty => ?_
      rw [empty] at active
      exact absurd active (by decide)
    exact ((maintains_callWorker world id node).bind fun _ => reattaches) _ start

end Turns

section Steps

variable {live : LiveCapture} {server : Server}

theorem admitted_of_open {world : World} (is_open : gateOpen world live server = true) {task : Task}
    (found : server.hub.tasks.find live.id = some task) (still : stillRunning task = true) :
    captureWorkerCapacityAvailable world.python server.process server.hub server.hub live.id task ≠ some false := by
  rw [gateOpen, found, Option.all_some, still] at is_open
  simpa using is_open

theorem perform_holding {program : Program Unit}
    (keeps : wp program (fun _ => Everywhere (Holding live.id live.node live.job))
      (fun _ => Everywhere (Holding live.id live.node live.job)) (.start server.hub server.process)) (site : World × Site) :
    Holding live.id live.node live.job (perform_ (do program; commitAt site.1 site.2) server).hub := by
  have kept : wp (do program; commitAt site.1 site.2) (fun _ => Everywhere (Holding live.id live.node live.job))
      (fun _ => Everywhere (Holding live.id live.node live.job)) (.start server.hub server.process) := by
    rw [wp_bind]
    exact wp_mono keeps (fun _ after held => maintains_commitAt site.1 site.2 after held) fun _ _ held => held
  unfold wp at kept
  show Holding _ _ _ ((do program; commitAt site.1 site.2 : Program Unit) (.start server.hub server.process)).2.committed
  generalize (do program; commitAt site.1 site.2 : Program Unit) (.start server.hub server.process) = ran at kept ⊢
  obtain ⟨outcome, after⟩ := ran
  cases outcome with
  | ok _ => exact kept.committed
  | error _ => exact kept.committed

/-- What a turn leaves in the working copy is committed, unless the commit raises. -/
theorem perform_attended {program : Program Unit}
    (attends : wp program (fun _ after => Attended live.id after.working after.memory) (fun _ _ => True)
      (.start server.hub server.process)) (site : World × Site)
    (ended : (perform (do program; commitAt site.1 site.2) server).1 = .ok ()) :
    Attended live.id (perform (do program; commitAt site.1 site.2) server).2.hub
      (perform (do program; commitAt site.1 site.2) server).2.process := by
  have kept : wp (do program; commitAt site.1 site.2) (fun _ after => Attended live.id after.committed after.memory)
      (fun _ _ => True) (.start server.hub server.process) := by
    rw [wp_bind]
    exact wp_mono attends (fun _ after attended => wp_commitAt attended trivial) fun _ _ _ => trivial
  have ran : (do program; commitAt site.1 site.2 : Program Unit) (.start server.hub server.process) =
      (.ok (), ((do program; commitAt site.1 site.2 : Program Unit) (.start server.hub server.process)).2) := Prod.ext ended rfl
  unfold wp at kept
  rw [ran] at kept
  exact kept

theorem section_resumed {program : Program Awaiting} (world : World) (detail : String)
    (resumes : Resumes live.node (Holding live.id live.node live.job) program (.start server.hub server.process)) :
    let after := afterSection (Server.captureAt live.id) (threadFailed world live.id detail) .returned (perform program server)
    Holding live.id live.node live.job after.hub ∧ Onto live.node (after.captures live.id) := by
  have performed : perform program server = ((program (.start server.hub server.process)).1, { server with
      hub := (program (.start server.hub server.process)).2.committed
      process := (program (.start server.hub server.process)).2.memory }) := rfl
  unfold Resumes wp at resumes
  rw [performed]
  generalize program (.start server.hub server.process) = ran at resumes ⊢
  obtain ⟨outcome, after⟩ := ran
  cases outcome with
  | ok next => exact ⟨resumes.1.committed, by simpa [afterSection, Server.captureAt] using resumes.2⟩
  | error _ =>
    have handled := (preserves_threadFailed world holding_resilient detail).committed resumes.committed after.memory
    exact ⟨handled, by simp [afterSection, Server.captureAt, Onto]⟩

/-- The first section of the thread keeps the row and goes to its worker. -/
theorem Resumed.thread_start (resumed : Resumed live server) (world : World) (detail : String)
    (waits : server.captures live.id = .start) (admitted : admits live server (.thread world detail) = true) :
    Holding live.id live.node live.job (captureSection world live.id detail server).hub ∧
      Onto live.node ((captureSection world live.id detail server).captures live.id) := by
  simp only [admits, waits, Bool.and_eq_true] at admitted
  rw [captureSection, waits]
  exact section_resumed world detail (resumes_threadStart live.named (everywhere_start resumed.holding server.process)
    (fun _ found still => admitted_of_open admitted.1 found still) admitted.2)

theorem Resumed.thread_step (resumed : Resumed live server) (world : World) (detail : String)
    (admitted : admits live server (.thread world detail) = true) :
    Resumed live (happen live.id server (.thread world detail)) := by
  have start := everywhere_start resumed.holding server.process
  rw [happen, work]
  split
  · cases waits : server.captures live.id with
    | start =>
      have began := resumed.thread_start world detail waits admitted
      exact ⟨began.1, .inr began.2⟩
    | post on =>
      rcases resumed.thread with same | onto
      · rw [waits] at same
        cases same
      · rw [waits] at onto
        exact onto.elim
    | poll on =>
      rcases resumed.thread with same | onto
      · rw [waits] at same
        cases same
      · rw [waits] at onto
        obtain rfl : on = live.node := onto
        rw [captureSection, waits]
        have polled := section_resumed world detail
          (resumes_of_lands (preserves_threadPoll world holding_resilient _) lands_threadPoll start)
        exact ⟨polled.1, .inr polled.2⟩
    | artifact on poll =>
      rw [captureSection, waits]
      have persisted := section_resumed world detail
        (resumes_of_lands (preserves_threadPersist world holding_resilient on poll) (lands_threadPersist on poll) start)
      exact ⟨persisted.1, .inr persisted.2⟩
    | returned =>
      rw [captureSection, waits]
      exact ⟨resumed.holding, .inl (by simp [Server.captureAt])⟩
  · exact resumed

theorem Resumed.turn (resumed : Resumed live server) {world : World} (reported : reports world live.id = true)
    (admitted : admits live server (.tick world) = true) :
    wp (tickTask world server.hub.nodeList live.id)
      (fun _ after => Everywhere (Holding live.id live.node live.job) after ∧ Attended live.id after.working after.memory)
      (fun _ => Everywhere (Holding live.id live.node live.job)) (.start server.hub server.process) := by
  refine holding_tick reported resumed.holding (fun unthreaded task found still => ?_) _
  simp only [admits, unthreaded, Bool.false_or] at admitted
  exact admitted_of_open admitted found still

theorem Resumed.step (resumed : Resumed live server) {event : Happening} (reported : Reported live server event)
    (admitted : admits live server event = true) : Resumed live (happen live.id server event) := by
  cases event with
  | others after =>
    obtain ⟨row, numbered, waits⟩ := reported
    obtain ⟨task, found, held⟩ := resumed.holding.row
    exact ⟨⟨⟨task, row.trans found, held⟩, numbered⟩, waits ▸ resumed.thread⟩
  | restart world =>
    obtain ⟨reported, known⟩ := reported
    refine ⟨@perform_holding live (.fresh server.hub) _ ?_ (world, .tick 4), .inl rfl⟩
    exact holding_recovery reported live.named known resumed.holding _
  | tick world =>
    refine ⟨perform_holding ?_ (world, .tick 3), resumed.thread⟩
    exact wp_mono (resumed.turn reported admitted) (fun _ _ both => both.1) fun _ _ held => held
  | thread world detail => exact resumed.thread_step world detail admitted

theorem Resumed.attends (resumed : Resumed live server) {event : Happening} (reported : Reported live server event)
    (admitted : admits live server event = true) : Attends live server event := by
  cases event with
  | others after => trivial
  | restart world => trivial
  | tick world =>
    refine perform_attended ?_ (world, .tick 3)
    exact wp_mono (resumed.turn reported admitted) (fun _ _ both => both.2) fun _ _ _ => trivial
  | thread world detail =>
    intro lives waits
    rw [happen, work, if_pos lives]
    exact (resumed.thread_start world detail waits admitted).2

end Steps

/-- Where the gate is open to it whenever it is asked, a live capture stays with its worker through a restart; a tick starts its
thread, and the thread goes on to poll the job that the worker has. -/
theorem live_capture_resumes (live : LiveCapture) {events : List Happening}
    (reported : Along (happen live.id) (Reported live) (.fresh live.hub) events)
    (admitted : Along (happen live.id) (fun server event => admits live server event = true) (.fresh live.hub) events) :
    Always (happen live.id) (Resumed live) (.fresh live.hub) events ∧
      Along (happen live.id) (Attends live) (.fresh live.hub) events := by
  have start : Resumed live (.fresh live.hub) := by
    refine ⟨⟨⟨live.task, live.stored, live.capture, live.assigned, live.dispatched, ?_, ?_⟩, live.numbered⟩, .inl rfl⟩
    · simp [live.running]
    · simp [live.running]
  have both := along_and reported admitted
  constructor
  · exact always_of_along (fun _ _ resumed good => resumed.step good.1 good.2) start both
  · exact along_of_invariant (fun _ _ resumed good => resumed.step good.1 good.2)
      (fun _ _ resumed good => resumed.attends good.1 good.2) start both

section Samples

def pooled (places free : Int) : Hub := { smallHub with
  nodes := Table.put ∅ 1 {
    type := .capture
    weight := 1
    enabled := true
    lastHealth := some [("_http", idJson 200), ("connectors", .obj [("jitsi", .str "loaded")]), ("workers", .obj [
      ("max", .num (.finite places 0)), ("active", idJson 1), ("available", .num (.finite free 0))])]
    lastHealthAt := none
    lastSeenVersion := .null
    asrModels := none
    diarizationModels := none
    captureConnectors := none }
  tasks := Table.put ∅ 5 { Tasks.newTask .capture smallSubmission (some [
      ("meeting_url", .str "https://meet.example/room"), ("stage", .str "capturing")]) with
    status := .running
    workerId := some 1
    workerTaskId := some "w1" } }

def recording (places free : Int) : LiveCapture where
  hub := pooled places free
  id := 5
  node := 1
  job := "w1"
  task := _
  stored := rfl
  numbered := show 5 < 10 by decide
  capture := rfl
  running := rfl
  assigned := rfl
  dispatched := rfl
  named := by decide +kernel

def activeWorld : World := { silentWorld with
  getTask := fun _ => .answer 200 [("status", .str "capturing")] }

def recovered : List Happening :=
  [.restart activeWorld, .tick activeWorld, .thread activeWorld "", .thread activeWorld ""]

theorem reports_recording : reports activeWorld 5 = true := by decide +kernel

theorem reported_recovered (places free : Int) :
    Along (happen 5) (Reported (recording places free)) (.fresh (pooled places free)) recovered :=
  ⟨⟨reports_recording, rfl⟩, reports_recording, trivial, trivial, trivial⟩

/-- Two places, of which one is free. -/
theorem live_capture_resumes_roomy : Always (happen 5) (Resumed (recording 2 1)) (.fresh (pooled 2 1)) recovered ∧
    Along (happen 5) (Attends (recording 2 1)) (.fresh (pooled 2 1)) recovered :=
  live_capture_resumes (recording 2 1) (reported_recovered 2 1) (by decide +kernel)

/-- The only place is the capture's own, and the hub fails it for want of a worker. -/
theorem live_capture_lost : Along (happen 5) (Reported (recording 1 0)) (.fresh (pooled 1 0)) recovered ∧
    ¬Always (happen 5) (Resumed (recording 1 0)) (.fresh (pooled 1 0)) recovered := by
  refine ⟨reported_recovered 1 0, fun always => ?_⟩
  obtain ⟨task, found, held⟩ := (always recovered [] (List.append_nil _).symm).holding.row
  have failed : ((run (happen 5) (.fresh (pooled 1 0)) recovered).hub.tasks.find 5).any (fun task =>
      task.status == .error && task.errorCode == some .captureNoWorker) = true := by decide +kernel
  have there : (run (happen 5) (.fresh (pooled 1 0)) recovered).hub.tasks.find 5 = some task := found
  rw [there] at failed
  have lost : task.status = .error ∧ task.errorCode = some .captureNoWorker := by simpa using failed
  exact held.fails lost.1 lost.2

end Samples

end IdigestHub.System
