import IdigestHub.System.Ledger

/-! Failed tasks over whole runs: unbilled and not shown as done, as long as no worker
reports a success for a task whose result will not be stored. -/

set_option autoImplicit false

namespace IdigestHub.System

open Foundation Foundation.Runs Dispatcher Relation

def FailedUnbilled (hub : Hub) : Prop :=
  ∀ id task, hub.tasks.find id = some task → task.status = .error →
    (∀ event ∈ hub.usage, event.taskId ≠ id) ∧ task.isDone = false

def QuietSkips (world : World) (hub : Hub) : Prop :=
  ∀ id task, hub.tasks.find id = some task → task.onWorker = true → task.active = true →
    task.skipPersist = true → ∀ body, Reports world id body → reportsSuccess body = false

def Quiet (server : Server) : Event → Prop
  | .request _ => True
  | .work world _ => QuietSkips world server.hub

/-- Only a finished task is billed or shows the last stage. -/
structure Sound (hub : Hub) : Prop where
  done : ∀ id task, hub.tasks.find id = some task → task.isDone = true → task.status = .success
  billed : ∀ id task, hub.tasks.find id = some task → task.billed = true →
    task.status = .success ∧ task.onWorker = true

section Steps

variable {world : World} {scope : Nat → Prop} {hub after : Hub}

structure SoundRow (row : Task) : Prop where
  done : row.isDone = true → row.status = .success
  billed : row.billed = true → row.status = .success ∧ row.onWorker = true

theorem sound_of_rows (rows : ∀ id row, after.tasks.find id = some row → SoundRow row) : Sound after :=
  ⟨fun id row found => (rows id row found).done, fun id row found => (rows id row found).billed⟩

theorem Sound.row (sound : Sound hub) {id : Nat} {task : Task} (found : hub.tasks.find id = some task) :
    SoundRow task := ⟨sound.done id task found, sound.billed id task found⟩

theorem Chained.sound {parent row : Task} (chained : Chained parent row) : SoundRow row :=
  ⟨by simp [chained.notDone], by simp [chained.billed]⟩

theorem RowMove.active {id : Nat} {task row : Task} (change : RowMove world hub id task row)
    (onWorker : task.onWorker = true) : task.active = true := by
  cases change with
  | waits retry metaJson _ queued => exact active_of_queued queued
  | fails code detail _ active => exact active
  | requeues workerTaskId _ running => exact active_of_running running
  | unlinks _ running => exact active_of_running running
  | links node body _ queued => exact active_of_queued queued
  | goesOn status _ running => exact active_of_running running
  | ingests _ ingest => rw [onWorker] at ingest; contradiction

theorem RowMove.skipPersist {id : Nat} {task row : Task} (change : RowMove world hub id task row) :
    row.skipPersist = task.skipPersist := by
  cases change with
  | ingests _ _ row => exact row.skipPersist
  | _ => rfl

theorem RowMove.done {id : Nat} {task row : Task} (change : RowMove world hub id task row) (done : row.isDone = true) :
    row.status = .success ∨ (task.isDone = true ∧ (row.status = task.status ∨ task.active = true)) := by
  cases change with
  | waits retry metaJson _ queued stage => exact .inr ⟨stage done, .inl rfl⟩
  | fails code detail _ active => rw [failedTask_not_done] at done; contradiction
  | requeues workerTaskId _ running => exact .inr ⟨done, .inr (active_of_running running)⟩
  | unlinks _ running => exact .inr ⟨done, .inl rfl⟩
  | links node body =>
    have notDone : (dispatched node (reportedTaskId world.python body) task).isDone = false :=
      isDone_mergeMeta { task with
        workerId := some node
        workerTaskId := reportedTaskId world.python body
        status := .running } (.str "dispatched") (by simp)
    rw [notDone] at done
    contradiction
  | goesOn status _ _ notDone =>
    have shown : (stillActive status task).isDone = status.isText "done" :=
      isDone_mergeMeta { task with status := .running } status (by simp)
    rw [shown, notDone] at done
    contradiction
  | ingests _ _ row =>
    rcases row.stage done with success | ⟨before, status⟩
    · exact .inl success
    · exact .inr ⟨before, .inl status⟩

theorem RowMove.sound {id : Nat} {task row : Task} (change : RowMove world hub id task row) (before : SoundRow task) :
    SoundRow row := by
  constructor
  · intro done
    rcases RowMove.done change done with success | ⟨was_done, same | active⟩
    · exact success
    · rw [same]
      exact before.done was_done
    · exact absurd (before.done was_done) (not_success_of_active active)
  · intro billed
    rw [change.billed] at billed
    obtain ⟨success, onWorker⟩ := before.billed billed
    exact absurd success (not_success_of_active (RowMove.active change onWorker))

/-- Both facts go along a move: the rows stay sound and no skipped task is reported done. -/
theorem Sound.move (sound : Sound hub) (quiet : QuietSkips world hub) (move : Move world scope hub after) :
    Sound after ∧ QuietSkips world after := by
  -- other rows stay, but for one that a finished task chains
  have others {id : Nat} {task : Task} (frame : Frame id task hub after) {other : Nat} {row : Task}
      (different : other ≠ id) (found : after.tasks.find other = some row) :
      hub.tasks.find other = some row ∨ Chained task row := by
    rcases frame.others other different with same | ⟨_, _, new, here, chained⟩
    · exact .inl (same.symm.trans found)
    · obtain rfl : new = row := Option.some.inj (here.symm.trans found)
      exact .inr chained
  cases move with
  | row id task final inside before found change frame usage orgs =>
    constructor
    · refine sound_of_rows fun other row here => ?_
      by_cases same : other = id
      · subst same
        obtain rfl : final = row := Option.some.inj (found.symm.trans here)
        exact RowMove.sound change (sound.row before)
      · rcases others frame same here with kept | chained
        · exact sound.row kept
        · exact Chained.sound chained
    · intro other row here onWorker active skip body
      by_cases same : other = id
      · subst same
        obtain rfl : final = row := Option.some.inj (found.symm.trans here)
        rw [Task.onWorker, change.type, ← Task.onWorker] at onWorker
        rw [RowMove.skipPersist change] at skip
        exact quiet other task before onWorker (RowMove.active change onWorker) skip body
      · rcases others frame same here with kept | chained
        · exact quiet other row kept onWorker active skip body
        · rw [chained.skipPersist] at skip
          contradiction
  | settled id task body inside before onWorker active reports success settlement =>
    obtain ⟨final, found, finished⟩ := settlement.row
    -- a result was reported, so the task does keep one
    have kept_result : task.skipPersist = false := by
      rw [Bool.eq_false_iff]
      intro skip
      rw [quiet id task before onWorker active skip body reports] at success
      contradiction
    have succeeded : final.status = .success := by rw [finished.status, kept_result]; rfl
    constructor
    · refine sound_of_rows fun other row here => ?_
      by_cases same : other = id
      · subst same
        obtain rfl : final = row := Option.some.inj (found.symm.trans here)
        refine ⟨fun _ => succeeded, fun _ => ⟨succeeded, ?_⟩⟩
        rw [Task.onWorker, finished.type]
        exact onWorker
      · rcases others settlement.frame same here with kept | chained
        · exact sound.row kept
        · exact Chained.sound chained
    · intro other row here worker still_active skip body
      by_cases same : other = id
      · subst same
        obtain rfl : final = row := Option.some.inj (found.symm.trans here)
        exact absurd succeeded (not_success_of_active still_active)
      · rcases others settlement.frame same here with kept | chained
        · exact quiet other row kept worker still_active skip body
        · rw [chained.skipPersist] at skip
          contradiction
  | aside tasks nodes nextId usage orgs =>
    constructor
    · refine sound_of_rows fun other row here => ?_
      rw [tasks] at here
      exact sound.row here
    · intro other row here
      rw [tasks] at here
      exact quiet other row here

theorem Sound.path (sound : Sound hub) (quiet : QuietSkips world hub) (path : Path world scope hub after) :
    Sound after := by
  have both : Sound after ∧ QuietSkips world after := by
    induction path with
    | refl => exact ⟨sound, quiet⟩
    | tail _ move ih => exact ih.1.move ih.2 move
  exact both.1

theorem Edit.sound {gone : Option Nat} {task row : Task} (edit : Edit gone task row) (before : SoundRow task) : SoundRow row := by
  have keeps (success : task.status = .success) : row.status = .success := by
    rcases edit.status with same | ⟨not_success, _⟩
    · rw [same, success]
    · exact absurd success not_success
  constructor
  · exact fun done => keeps (before.done (edit.done done))
  · intro billed
    rw [edit.billed] at billed
    obtain ⟨success, onWorker⟩ := before.billed billed
    exact ⟨keeps success, by rw [edit.onWorker, onWorker]⟩

theorem Sound.request (sound : Sound hub) (request : Request) : Sound (request.rows hub) := by
  refine sound_of_rows fun id row found => ?_
  rcases rows_effect request hub with edited | ⟨new, same, created⟩
  · rcases edited.rows id with ⟨_, none_after⟩ | ⟨task, row', before, here, edit⟩
    · rw [found] at none_after
      contradiction
    · obtain rfl : row' = row := Option.some.inj (here.symm.trans found)
      exact edit.sound (sound.row before)
  · rw [same] at found
    by_cases at_new : id = hub.nextId
    · obtain rfl : new = row := by simpa [Hub.addTask, at_new] using found
      exact ⟨by simp [created.notDone], by simp [created.billed]⟩
    · rw [Hub.addTask, Table.find_put, if_neg at_new] at found
      exact sound.row found

end Steps

structure Kept (server : Server) : Prop where
  booked : Booked server.hub
  sound : Sound server.hub

theorem Kept.step {server : Server} {event : Event} (kept : Kept server)
    (quiet : Quiet server event) : Kept (step server event) := by
  refine ⟨kept.booked.step event, ?_⟩
  cases event with
  | request request => exact kept.sound.request request
  | work world job => exact kept.sound.path quiet (work_path kept.booked.bounded job)

theorem Kept.failed {server : Server} (kept : Kept server) : FailedUnbilled server.hub := by
  intro id task found failed
  constructor
  · intro event member same
    have billed := (kept.booked.billed id task found).mpr ⟨event, member, same⟩
    have success := (kept.sound.billed id task found billed).1
    simp [failed] at success
  · rw [Bool.eq_false_iff]
    intro done
    have success := kept.sound.done id task found done
    simp [failed] at success

/-- In a run in which no worker reports a success for an active task marked `skip_persist`,
every failed task is unbilled and looks failed. -/
theorem failed_unbilled (opening : Opening) {events : List Event}
    (quiet : Along step Quiet (.fresh opening.hub) events) :
    Always step (fun server => FailedUnbilled server.hub) (.fresh opening.hub) events := by
  have start : Kept (.fresh opening.hub) :=
    ⟨.opening opening, by simp [Server.fresh, opening.tasks], by simp [Server.fresh, opening.tasks]⟩
  have kept : Always step (Kept) (.fresh opening.hub) events :=
    always_of_along (fun _ _ now quiet => now.step quiet) start quiet
  exact fun done rest same => (kept done rest same).failed

section Samples

def deletedWhileRunning : List Event := [
  .request (.createTranscribe 3 smallSubmission),
  .work acceptingWorld (.tick none false),
  .request (.deleteAudio 3)]

theorem failed_unbilled_silent :
    Always step (fun server => FailedUnbilled server.hub) (.fresh small.hub)
      (deletedWhileRunning ++ [.work silentWorld (.tick none false)]) := by
  refine failed_unbilled small ⟨trivial, ?_, trivial, ?_, trivial⟩
  · rintro id task - - - - body (⟨code, answer⟩ | ⟨node, reply⟩)
    · simp [acceptingWorld, silentWorld] at answer
    · obtain rfl : _ = body := by simpa [acceptingWorld] using reply
      rfl
  · rintro id task - - - - body (⟨code, answer⟩ | ⟨node, reply⟩)
    · simp [silentWorld] at answer
    · simp [silentWorld] at reply

/-- The audio of a running task is deleted; then the worker reports a success: the task has failed, is charged, and shows
`done`. -/
theorem deleted_source_is_billed :
    let hub := (run step (.fresh small.hub)
      (deletedWhileRunning ++ [.work finishingWorld (.tick none false)])).hub
    (hub.tasks.find 10).map (fun task => (task.status, task.isDone)) = some (.error, true) ∧
    hub.usage.map UsageEvent.taskId = [10] ∧ ¬FailedUnbilled hub := by
  intro hub
  have row : (hub.tasks.find 10).map (fun task => (task.status, task.isDone)) = some (.error, true) := by
    decide +kernel
  refine ⟨row, by decide +kernel, fun unbilled => ?_⟩
  obtain ⟨task, found, shown⟩ := Option.map_eq_some_iff.mp row
  obtain ⟨status, done⟩ := Prod.mk.inj shown
  obtain ⟨_, notDone⟩ := unbilled 10 task found status
  rw [done] at notDone
  contradiction

end Samples

end IdigestHub.System
