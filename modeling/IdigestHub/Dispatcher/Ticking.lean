import IdigestHub.Capture.Effects

/-! A tick and a recovery, over all active tasks, take the store along moves. -/

set_option autoImplicit false

namespace IdigestHub.Dispatcher

open Foundation Foundation.UnitOfWork Ingest Relation

variable {world : World} {scope : Nat → Prop} {origin : Hub} {id : Nat} {s : Session Hub Process}

section Health

/-- The nodes are probed; the tasks stay, and so does what a query of tasks sees. -/
theorem refreshNodesHealth_keeps (follows : Follows (Move world scope) origin s)
    (flushed : s.flushed.tasks = s.committed.tasks) (ids : List Nat) (force : Bool) :
    wp (refreshNodesHealth world ids force)
      (fun _ after => Follows (Move world scope) origin after ∧ after.flushed.tasks = after.committed.tasks)
      (fun _ after => Path world scope origin after.committed) s := by
  rw [refreshNodesHealth, wp_bind, wp_read]
  simp only [wp_ite]
  split
  · exact ⟨follows, flushed⟩
  · rw [wp_bind]
    refine wp_commitAt ?_ follows.saved
    rw [wp_bind, wp_update, wp_ite]
    have probes := follows.commit
    split
    · refine ⟨probes.edit (.single (.aside rfl (fun node => ?_) rfl rfl rfl)), rfl⟩
      simp
    · exact probes.saved

end Health

section Turn

variable {nodes : List Node}

theorem maybeStartImport_tends : Tends world scope origin id (maybeStartImport world id) := by
  refine (tends_loaded id).bind fun task => tends_recollect.bind fun process => .ite (fun _ => .pure _) fun _ => ?_
  refine .ite (fun _ => .pure _) fun _ => .ite (fun _ => ?_) fun _ => ?_
  · have waits (row : Task) :
        IngestRow row { row with metaJson := some (row.metaDict.set "stage" (.str "queued")) } :=
      restaged_row "queued" (by decide) ⟨rfl, rfl, rfl, rfl, rfl, fun done => .inr ⟨done, rfl⟩⟩ rfl
    exact tends_modify fun row _ => waits row
  · refine (tends_remember _).bind fun _ => (tends_modify fun row _ => started_row (by decide) row).bind fun _ => ?_
    exact tends_flush.bind fun _ => (tends_commitAt _).bind fun _ => tends_remember _

/-- The type of a row decides which runner a turn calls. -/
theorem onWorker_of_path {row task : Task} (follows : Follows (Move world scope) origin s)
    (bounded : Bounded origin) (before : origin.tasks.find id = some row)
    (found : s.working.tasks.find id = some task) : task.onWorker = row.onWorker := by
  obtain ⟨now, here, type⟩ := Path.type follows.whole bounded before
  obtain rfl : now = task := Option.some.inj (here.symm.trans found)
  rw [Task.onWorker, type, Task.onWorker]

variable [inside : InScope scope id] {row : Task}

theorem pollTurn_safe (follows : Follows (Move world scope) origin s) (bounded : Bounded origin)
    (added : AddedInScope scope origin) (before : origin.tasks.find id = some row)
    (onWorker : row.onWorker = true) : Safe world scope origin (pollTurn world nodes id) s := by
  rw [Safe, Leaves, pollTurn, wp_bind]
  refine wp_loaded ?_ follows.saved
  intro task found
  rw [wp_ite]
  split
  · rename_i polls
    have running : task.status = .running := by simp at polls; exact polls.1
    exact pollRunningTask_safe follows bounded added found
      ((onWorker_of_path follows bounded before found).trans onWorker) running
  · exact follows

theorem dispatchTurn_safe (follows : Follows (Move world scope) origin s) (bounded : Bounded origin)
    (added : AddedInScope scope origin) (before : origin.tasks.find id = some row)
    (onWorker : row.onWorker = true) (exist : ∀ node ∈ nodes, (origin.nodes.find node.1).isSome) :
    Safe world scope origin (dispatchTurn world nodes id) s := by
  rw [Safe, Leaves, dispatchTurn, wp_bind]
  refine wp_loaded ?_ follows.saved
  intro task found
  rw [wp_ite]
  split
  · rename_i queued
    exact dispatchQueuedTask_safe bounded (dispatchFollowUpTask_safe bounded added) follows found
      ((onWorker_of_path follows bounded before found).trans onWorker) queued nodes exist
  · exact follows

theorem tickTask_safe (follows : Follows (Move world scope) origin s) (bounded : Bounded origin)
    (added : AddedInScope scope origin) (before : origin.tasks.find id = some row)
    (exist : ∀ node ∈ nodes, (origin.nodes.find node.1).isSome) :
    Safe world scope origin (tickTask world nodes id) s := by
  rw [Safe, Leaves, tickTask, wp_bind]
  refine wp_loaded ?_ follows.saved
  intro task found
  have same := onWorker_of_path follows bounded before found
  have holds (ingest : task.onWorker = false) : Holds world scope origin id s :=
    ⟨bounded, inside, ⟨row, before, same ▸ ingest⟩, follows⟩
  have worker (onWorker : task.onWorker = true) : Safe world scope origin (do
      pollTurn world nodes id
      dispatchTurn world nodes id
      commitAt world (.turn id)) s := by
    have first : row.onWorker = true := same ▸ onWorker
    refine (pollTurn_safe follows bounded added before first).bind fun s' follows => ?_
    refine (dispatchTurn_safe follows bounded added before first exist).bind fun s' follows => ?_
    exact wp_commitAt follows.commit follows.saved
  cases type : task.type with
  | importUrl =>
    have ingest : task.onWorker = false := by rw [Task.onWorker, type]; rfl
    rw [wp_ite]
    split
    · exact maybeStartImport_tends.safe (holds ingest)
    · exact follows
  | capture =>
    have ingest : task.onWorker = false := by rw [Task.onWorker, type]; rfl
    exact (Capture.tryFinishCaptureTask_tends.bind fun _ => Capture.maybeStartCapture_tends).safe (holds ingest)
  | transcribe => exact worker (by rw [Task.onWorker, type]; rfl)
  | summarize => exact worker (by rw [Task.onWorker, type]; rfl)

theorem recoverTask_safe (follows : Follows (Move world scope) origin s) (bounded : Bounded origin)
    (added : AddedInScope scope origin) (before : origin.tasks.find id = some row)
    (running : ∀ task, s.working.tasks.find id = some task → task.status = .running) :
    Safe world scope origin (recoverTask world nodes id) s := by
  rw [Safe, Leaves, recoverTask, wp_bind]
  refine wp_loaded ?_ follows.saved
  intro task found
  have holds (ingest : task.onWorker = false) : Holds world scope origin id s :=
    ⟨bounded, inside, ⟨row, before, onWorker_of_path follows bounded before found ▸ ingest⟩, follows⟩
  cases type : task.type with
  | importUrl =>
    have ingest : task.onWorker = false := by rw [Task.onWorker, type]; rfl
    exact Tends.safe (tends_modify fun row _ => requeued_row row) (holds ingest)
  | capture =>
    have ingest : task.onWorker = false := by rw [Task.onWorker, type]; rfl
    exact (Capture.recoverCaptureTask_tends _).safe (holds ingest)
  | transcribe => exact recoverWorkerTask_safe follows bounded added found (running task found)
  | summarize => exact recoverWorkerTask_safe follows bounded added found (running task found)

end Turn

section Loops

theorem tickOnce_safe (follows : Follows (Move world anywhere) origin s) (bounded : Bounded origin)
    (taskId : Option Nat) (refreshHealth : Bool) :
    Safe world anywhere origin (tickOnce world taskId refreshHealth) s := by
  have turns {s : Session Hub Process} (follows : Follows (Move world anywhere) origin s) :
      Safe world anywhere origin (do
        commitAt world (.tick 2)
        let stored ← Tx.query
        Tx.forEach (stored.tasks.select (inTick taskId)) (tickTask world stored.nodeList)) s := by
    rw [Safe, Leaves, wp_bind]
    refine wp_commitAt ?_ follows.saved
    rw [wp_bind, wp_query]
    -- the rows that the tick looks at are stored at this point, so the loop starts a path of its own
    have base : Follows (Move world anywhere) s.working s.commit := ⟨.refl, .refl⟩
    have loop : Safe world anywhere s.working
        (Tx.forEach (s.working.tasks.select (inTick taskId)) (tickTask world s.working.nodeList)) s.commit := by
      refine wp_forEach base fun id member s' reached => ?_
      obtain ⟨row, before, _⟩ := (Table.mem_select ..).mp member
      exact tickTask_safe reached (Path.bounded follows.whole bounded) (fun _ _ => trivial) before
        fun _ => mem_nodeList
    exact wp_mono loop (fun _ _ reached => ⟨follows.whole.trans reached.saved, reached.pending⟩)
      fun _ _ saved => follows.whole.trans saved
  rw [Safe, Leaves, tickOnce, wp_bind]
  refine wp_commitAt ?_ follows.saved
  rw [wp_bind, wp_read]
  dsimp only
  rw [wp_ite]
  split
  · rw [wp_bind]
    exact wp_mono (refreshNodesHealth_keeps follows.commit rfl _ _) (fun _ _ kept => turns kept.1)
      fun _ _ saved => saved
  · exact turns follows.commit

theorem tickJob_safe (follows : Follows (Move world anywhere) origin s) (bounded : Bounded origin)
    (taskId : Option Nat) (refreshHealth : Bool) :
    Safe world anywhere origin (tickJob world taskId refreshHealth) s :=
  (tickOnce_safe follows bounded taskId refreshHealth).bind fun _ reached =>
    wp_commitAt reached.commit reached.saved

theorem Move.outside {hub after : Hub} {other : Nat} {row : Task} (move : Move world scope hub after)
    (bounded : Bounded hub) (outside : ¬scope other) (found : hub.tasks.find other = some row) :
    after.tasks.find other = some row := by
  have kept {id : Nat} {task : Task} (frame : Frame id task hub after) (inside : scope id) :
      after.tasks.find other = some row := by
    rcases frame.others other (fun same => outside (same ▸ inside)) with same | ⟨above, _⟩
    · exact same.trans found
    · exact absurd (bounded other row found) above.not_gt
  cases move with
  | row id task final inside before here change frame usage orgs => exact kept frame inside
  | settled id task body inside before onWorker active reports success settlement => exact kept settlement.frame inside
  | aside tasks nodes nextId usage orgs => rw [tasks, found]

theorem Path.outside {hub after : Hub} {other : Nat} {row : Task} (path : Path world scope hub after)
    (bounded : Bounded hub) (outside : ¬scope other) (found : hub.tasks.find other = some row) :
    after.tasks.find other = some row := by
  induction path with
  | refl => exact found
  | tail before move ih => exact move.outside (Path.bounded before bounded) outside ih

theorem Move.widen {wider : Nat → Prop} (wide : ∀ id, scope id → wider id) {hub after : Hub}
    (move : Move world scope hub after) : Move world wider hub after := by
  cases move with
  | row id task final inside before found change frame usage orgs =>
    exact .row id task final (wide id inside) before found change frame usage orgs
  | settled id task body inside before onWorker active reports success settlement =>
    exact .settled id task body (wide id inside) before onWorker active reports success settlement
  | aside tasks nodes nextId usage orgs => exact .aside tasks nodes nextId usage orgs

theorem Path.widen {wider : Nat → Prop} (wide : ∀ id, scope id → wider id) {hub after : Hub}
    (path : Path world scope hub after) : Path world wider hub after := by
  induction path with
  | refl => exact .refl
  | tail _ move ih => exact ih.tail (move.widen wide)

theorem Path.tasks {hub after : Hub} (path : Path world (fun _ => False) hub after) : after.tasks = hub.tasks := by
  induction path with
  | refl => rfl
  | tail _ move ih =>
    cases move with
    | row id task final inside => exact inside.elim
    | settled id task body inside => exact inside.elim
    | aside tasks => exact tasks.trans ih

theorem Follows.widen {wider : Nat → Prop} (wide : ∀ id, scope id → wider id)
    (follows : Follows (Move world scope) origin s) : Follows (Move world wider) origin s :=
  ⟨Path.widen wide follows.saved, Path.widen wide follows.pending⟩

theorem recoverLoop_safe {nodes : List Node} (bounded : Bounded origin) {remaining : List Nat}
    (distinct : remaining.Nodup)
    (running : ∀ id ∈ remaining, ∃ row, origin.tasks.find id = some row ∧ row.status = .running)
    (follows : Follows (Move world fun other => other ∉ remaining) origin s) :
    Safe world anywhere origin (Tx.forEach remaining (recoverTask world nodes)) s := by
  induction remaining generalizing s with
  | nil => exact Follows.widen (fun _ _ => trivial) follows
  | cons id rest ih =>
    obtain ⟨row, before, row_running⟩ := running id (List.mem_cons_self ..)
    obtain ⟨notLater, distinct⟩ := List.nodup_cons.mp distinct
    have inside : InScope (fun other => other ∉ rest) id := ⟨notLater⟩
    have added : AddedInScope (fun other => other ∉ rest) origin := by
      intro other above member
      obtain ⟨later, found, _⟩ := running other (List.mem_cons_of_mem id member)
      exact absurd (bounded other later found) above.not_gt
    have now (task : Task) (found : s.working.tasks.find id = some task) : task.status = .running := by
      have kept := Path.outside follows.whole bounded (by simp) before
      obtain rfl : row = task := Option.some.inj (kept.symm.trans found)
      exact row_running
    have wider : Follows (Move world fun other => other ∉ rest) origin s :=
      Follows.widen (fun other outside member => outside (List.mem_cons_of_mem id member)) follows
    rw [Safe, Leaves, Tx.forEach, wp_bind]
    refine wp_mono (recoverTask_safe wider bounded added before now) ?_ ?_
    · exact fun _ s' reached => ih distinct (fun other member => running other (List.mem_cons_of_mem id member)) reached
    · exact fun _ _ saved => Path.widen (fun _ _ => trivial) saved

theorem recoverOrphanedTasks_safe (bounded : Bounded origin) (memory : Process) :
    Safe world anywhere origin (recoverOrphanedTasks world) (.start origin memory) := by
  rw [Safe, Leaves, recoverOrphanedTasks, wp_bind, wp_read, wp_bind]
  -- no task is touched before the loop
  have start : Follows (Move world fun _ => False) origin (.start origin memory) := .start ..
  refine wp_mono (refreshNodesHealth_keeps start rfl _ _) ?_ ?_
  · rintro _ s ⟨follows, flushed⟩
    simp only [wp_bind, wp_query, wp_read]
    have loop : Safe world anywhere origin
        (Tx.forEach (s.flushed.tasks.select fun _ task => task.status == .running)
          (recoverTask world s.working.nodeList)) s := by
      refine recoverLoop_safe bounded (Table.select_nodup ..) ?_ (Follows.widen (fun _ none => none.elim) follows)
      intro id member
      obtain ⟨row, found, running⟩ := (Table.mem_select ..).mp member
      rw [flushed, Path.tasks follows.saved] at found
      exact ⟨row, found, by simpa using running⟩
    refine wp_mono loop ?_ fun _ _ saved => saved
    exact fun _ s' reached => wp_commitAt reached.commit reached.saved
  · exact fun _ _ saved => Path.widen (fun _ none => none.elim) saved

end Loops

end IdigestHub.Dispatcher
