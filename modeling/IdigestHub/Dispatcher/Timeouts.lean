import IdigestHub.Capture.Resilient
import IdigestHub.Dispatcher.Patience
import IdigestHub.Dispatcher.Ticking

/-! What a tick and a recovery make of the tasks that wait for a worker: only a task that has waited too long, for a pool
without workers, times out. -/

set_option autoImplicit false

namespace IdigestHub.Dispatcher

open Foundation Foundation.UnitOfWork Ingest Relation

/-- A store after some of the work of a tick or a recovery that began with `before`. -/
structure Amid (expires : Nat → Task → Prop) (before hub : Hub) : Prop where
  rows : ∀ id task, before.tasks.find id = some task → ∃ row, hub.tasks.find id = some row ∧ row.type = task.type ∧
    (task.onWorker = true → Kept task row ∧ (isTimedOut row = true → isTimedOut task = true ∨ expires id task))
  added : ∀ id row, before.tasks.find id = none → hub.tasks.find id = some row →
    isTimedOut row = false ∧ row.skipPersist = false
  bounded : Bounded hub

def Excused (hub : Hub) : Prop :=
  ∀ id task, hub.tasks.find id = some task → task.onWorker = true → task.skipPersist = true →
    task.skipReason ≠ some .dispatchTimeout

def ingesting (before : Hub) (id : Nat) : Prop := ∃ task, before.tasks.find id = some task ∧ task.onWorker = false

section Amid

variable {world : World} {expires : Nat → Task → Prop} {before hub after : Hub} {id : Nat} {task row : Task}

theorem Amid.start (bounded : Bounded hub) (same : hub.tasks = before.tasks) : Amid expires before hub := by
  refine ⟨fun id task found => ?_, fun id row absent found => ?_, bounded⟩
  · exact ⟨task, by rw [same, found], rfl, fun _ => ⟨.refl task, .inl⟩⟩
  · rw [same, absent] at found
    contradiction

theorem onWorker_of_type_eq (same : row.type = task.type) : row.onWorker = task.onWorker := by
  rw [Task.onWorker, same, Task.onWorker]

theorem Amid.modify (amid : Amid expires before hub) {f : Task → Task}
    (type : ∀ row, (f row).type = row.type)
    (waiting : ∀ row, hub.tasks.find id = some row → (∃ task, before.tasks.find id = some task ∧ task.onWorker = false) ∨
      (Kept row (f row) ∧ (isTimedOut (f row) = true → isTimedOut row = true ∨
        ∃ task, before.tasks.find id = some task ∧ (task.onWorker = true → expires id task)))) :
    Amid expires before (hub.modifyTask id f) := by
  refine ⟨fun other task found => ?_, fun other row absent found => ?_, ?_⟩
  · obtain ⟨row, here, same, kept⟩ := amid.rows other task found
    by_cases its : other = id
    · subst its
      refine ⟨f row, by simp [here], (type row).trans same, fun onWorker => ?_⟩
      obtain ⟨sofar, timedOut⟩ := kept onWorker
      rcases waiting row here with ⟨ingest, there, other_type⟩ | ⟨still, late⟩
      · obtain rfl : task = ingest := Option.some.inj (found.symm.trans there)
        rw [onWorker] at other_type
        contradiction
      · refine ⟨sofar.trans still, fun now => ?_⟩
        rcases late now with earlier | ⟨first, there, due⟩
        · exact timedOut earlier
        · obtain rfl : task = first := Option.some.inj (found.symm.trans there)
          exact .inr (due onWorker)
    · exact ⟨row, by simp [its, here], same, kept⟩
  · rw [find_modifyTask] at found
    by_cases its : other = id
    · subst its
      rw [if_pos rfl, Option.map_eq_some_iff] at found
      obtain ⟨its, here, rfl⟩ := found
      obtain ⟨running, stored⟩ := amid.added other its absent here
      rcases waiting its here with ⟨_, there, _⟩ | ⟨still, late⟩
      · rw [absent] at there
        contradiction
      · refine ⟨?_, still.skipPersist.trans stored⟩
        rw [Bool.eq_false_iff]
        intro now
        rcases late now with earlier | ⟨_, there, _⟩
        · rw [running] at earlier
          contradiction
        · rw [absent] at there
          contradiction
    -- Every other row is as it was.
    · rw [if_neg its] at found
      exact amid.added other row absent found
  · intro other row found
    rw [find_modifyTask] at found
    by_cases its : other = id
    · rw [if_pos its, Option.map_eq_some_iff] at found
      obtain ⟨first, here, _⟩ := found
      exact its ▸ amid.bounded id first here
    · rw [if_neg its] at found
      exact amid.bounded other row found

theorem Amid.careful (amid : Amid expires before hub) {f : Task → Task} (careful : Careful f) :
    Amid expires before (hub.modifyTask id f) :=
  amid.modify (fun row => (careful.kept row).type) fun row _ =>
    .inr ⟨careful.kept row, fun now => .inl (careful.timedOut row now)⟩

theorem Amid.refuse (amid : Amid expires before hub) (excused : Excused before) (found : hub.tasks.find id = some row)
    (skips : row.skipPersist = true) :
    Amid expires before (hub.modifyTask id (failedTask (row.skipReason.getD .sourceDeleted) none)) := by
  refine amid.modify (fun _ => rfl) fun its here => ?_
  obtain rfl : row = its := Option.some.inj (found.symm.trans here)
  cases first : before.tasks.find id with
  | none =>
    have stored := (amid.added id row first here).2
    rw [skips] at stored
    contradiction
  | some task =>
    cases onWorker : task.onWorker with
    | false => exact .inl ⟨task, rfl, onWorker⟩
    | true =>
      obtain ⟨now, there, _, kept⟩ := amid.rows id task first
      obtain rfl : row = now := Option.some.inj (here.symm.trans there)
      obtain ⟨sofar, _⟩ := kept onWorker
      have reason := excused id task first onWorker (sofar.skipPersist.symm.trans skips)
      refine .inr ⟨kept_failedTask .., fun late => absurd (beq_iff_eq.mp (Bool.and_eq_true_iff.mp late).2) ?_⟩
      show some (row.skipReason.getD .sourceDeleted) ≠ some .dispatchTimeout
      rw [← sofar.skipReason] at reason
      cases given : row.skipReason with
      | none => decide
      | some code => rwa [given] at reason

theorem Amid.add (amid : Amid expires before hub) (patient : isTimedOut row = false) (stored : row.skipPersist = false) :
    Amid expires before (hub.addTask row) := by
  have find (other : Nat) : (hub.addTask row).tasks.find other = if other = hub.nextId then some row else hub.tasks.find other :=
    Table.find_put ..
  refine ⟨fun other task found => ?_, fun other its absent found => ?_, fun other its found => ?_⟩
  · obtain ⟨now, here, kept⟩ := amid.rows other task found
    exact ⟨now, by rw [find, if_neg (amid.bounded other now here).ne, here], kept⟩
  · rw [find] at found
    split at found
    · obtain rfl := Option.some.inj found
      exact ⟨patient, stored⟩
    · exact amid.added other its absent found
  · rw [find] at found
    show other < hub.nextId + 1
    split at found
    · omega
    · exact Nat.lt_succ_of_lt (amid.bounded other its found)

theorem Amid.aside (amid : Amid expires before hub) (tasks : after.tasks = hub.tasks) (nextId : hub.nextId ≤ after.nextId) :
    Amid expires before after :=
  ⟨fun id task found => by rw [tasks]; exact amid.rows id task found,
    fun id row absent found => amid.added id row absent (tasks ▸ found),
    fun id row found => lt_of_lt_of_le (amid.bounded id row (tasks ▸ found)) nextId⟩

/-- A move of another row leaves it, and the rows that it adds are queued. -/
theorem Amid.framed (amid : Amid expires before hub) (frame : Frame id task hub after) (inside : ingesting before id)
    (found : hub.tasks.find id = some task) (final : after.tasks.find id = some row) (type : row.type = task.type)
    (bounded : Bounded after) : Amid expires before after := by
  obtain ⟨ingest, first, its_type⟩ := inside
  refine ⟨fun other its there => ?_, fun other its absent here => ?_, bounded⟩
  · obtain ⟨now, here, same, kept⟩ := amid.rows other its there
    -- The row itself is an import or a capture; any other is as it was, or it is new.
    by_cases its_own : other = id
    · subst its_own
      obtain rfl : now = task := Option.some.inj (here.symm.trans found)
      obtain rfl : its = ingest := Option.some.inj (there.symm.trans first)
      exact ⟨row, final, type.trans same, fun onWorker => by rw [its_type] at onWorker; contradiction⟩
    · rcases frame.others other its_own with unchanged | ⟨above, _⟩
      · exact ⟨now, unchanged.trans here, same, kept⟩
      · exact absurd (amid.bounded other now here) above.not_gt
  · have other_row : other ≠ id := by
      rintro rfl
      rw [absent] at first
      contradiction
    rcases frame.others other other_row with unchanged | ⟨_, _, new, there, chained⟩
    · exact amid.added other its absent (unchanged.symm.trans here)
    · obtain rfl : its = new := Option.some.inj (here.symm.trans there)
      exact ⟨by rw [isTimedOut, chained.status]; rfl, chained.skipPersist⟩

/-- Imports and captures do not let a task time out. -/
theorem Amid.path (amid : Amid expires before hub) (path : Path world (ingesting before) hub after) :
    Amid expires before after := by
  induction path with
  | refl => exact amid
  | tail _ move ih =>
    have bounded := move.bounded ih.bounded
    cases move with
    | row id task final inside found there change frame => exact ih.framed frame inside found there change.type bounded
    | settled id task body inside found onWorker active reports success settlement =>
      obtain ⟨final, there, finished⟩ := settlement.row
      exact ih.framed settlement.frame inside found there finished.type bounded
    | aside tasks nodes nextId => exact ih.aside tasks nextId.ge

end Amid

section Work

variable {world : World} {expires : Nat → Task → Prop} {before : Hub} {base : Nat}

structure Recent (world : World) (expires : Nat → Task → Prop) (before : Hub) (base : Nat) (hub : Hub) : Prop where
  amid : Amid expires before hub
  young : ∀ id row, base ≤ id → hub.tasks.find id = some row → row.queuedAt = world.now

/-- The turn of a transcribe or summarize task; the rows from `base` on are those that it adds. -/
structure Turning (world : World) (expires : Nat → Task → Prop) (before : Hub) (base : Nat) (s : Session Hub Process) : Prop where
  committed : Recent world expires before base s.committed
  working : Recent world expires before base s.working
  above : base ≤ s.working.nextId
  older : s.committed.nextId ≤ s.working.nextId

theorem Recent.modify {hub : Hub} (recent : Recent world expires before base hub) {id : Nat} {f : Task → Task}
    (amid : Amid expires before (hub.modifyTask id f)) (queuedAt : ∀ row, (f row).queuedAt = row.queuedAt) :
    Recent world expires before base (hub.modifyTask id f) := by
  refine ⟨amid, fun other row above found => ?_⟩
  rw [find_modifyTask] at found
  split at found
  · rename_i its
    obtain ⟨first, here, rfl⟩ := Option.map_eq_some_iff.mp found
    exact (queuedAt first).trans (recent.young id first (its ▸ above) here)
  · exact recent.young other row above found

theorem steady_turning (excused : Excused before) : Steady world base (Turning world expires before base) where
  numbered _ turning := turning.above
  modify id f s careful turning :=
    ⟨turning.committed, turning.working.modify (turning.working.amid.careful careful) fun row => (careful.kept row).queuedAt,
      turning.above, turning.older⟩
  add notifyMeta parent s turning := by
    refine ⟨turning.committed, ⟨turning.working.amid.add rfl rfl, fun id row above found => ?_⟩, Nat.le_succ_of_le turning.above,
      Nat.le_succ_of_le turning.older⟩
    have found : (if id = s.working.nextId then some (chainedTask world.now notifyMeta parent)
        else s.working.tasks.find id) = some row := (Table.find_put ..).symm.trans found
    split at found
    · obtain rfl := Option.some.inj found
      rfl
    · exact turning.working.young id row above found
  aside hub s tasks nextId turning :=
    ⟨turning.committed, ⟨turning.working.amid.aside tasks nextId,
      fun id row above found => turning.working.young id row above (tasks ▸ found)⟩, turning.above.trans nextId,
      turning.older.trans nextId⟩
  refuse id row s turning found skips :=
    ⟨turning.committed, turning.working.modify (turning.working.amid.refuse excused found skips) fun _ => rfl, turning.above,
      turning.older⟩
  flush _ turning := ⟨turning.committed, turning.working, turning.above, turning.older⟩
  commit _ turning := ⟨turning.working, turning.working, turning.above, le_rfl⟩

theorem Kept.poolOf {task row : Task} (kept : Kept task row) (nodes : List Node) : poolOf row nodes = poolOf task nodes := by
  unfold Dispatcher.poolOf asrModelOf summarizeModelOf
  rw [kept.type, kept.snap]

theorem Kept.expired {task row : Task} (kept : Kept task row) {nodes : List Node}
    (now : expired world (Dispatcher.poolOf row nodes).1 row = true) :
      expired world (Dispatcher.poolOf task nodes).1 task = true := by
  rw [kept.poolOf] at now
  simp only [Dispatcher.expired, Bool.and_eq_true, Bool.not_eq_true'] at now ⊢
  refine ⟨⟨⟨?_, now.1.1.2⟩, now.1.2⟩, ?_⟩
  -- A mark would have stayed, and with it the row would not time out now.
  · rw [Bool.eq_false_iff]
    intro marked
    rw [kept.patient marked] at now
    cases now.1.1.1
  · rw [← kept.queuedAt]
    exact now.2

theorem expires_listed {nodes : List Node} {id : Nat} {task : Task} (listed : before.tasks.find id = some task)
    (lapses : expired world (poolOf task nodes).1 task = true → expires id task) :
    Expires world (Turning world expires before base) nodes id := by
  intro row s turning found late
  refine ⟨turning.committed, turning.working.modify ?_ fun _ => rfl, turning.above, turning.older⟩
  refine turning.working.amid.modify (fun _ => rfl) fun its here => .inr ⟨kept_failedTask .., fun _ => .inr ⟨task, listed, ?_⟩⟩
  intro onWorker
  obtain ⟨now, there, _, kept⟩ := turning.working.amid.rows id task listed
  obtain rfl : row = now := Option.some.inj (found.symm.trans there)
  exact lapses ((kept onWorker).1.expired late)

theorem expires_new (new : Nat) (above : base ≤ new) (nodes : List Node) :
    Expires world (Turning world expires before base) nodes new := by
  intro row s turning found late
  have young := turning.working.young new row above found
  simp only [expired, Bool.and_eq_true, decide_eq_true_eq] at late
  -- It has waited for no time, which is not over any limit.
  omega

theorem Amid.turning {s : Session Hub Process} (committed : Amid expires before s.committed)
    (working : Amid expires before s.working) (older : s.committed.nextId ≤ s.working.nextId) :
    Turning world expires before s.working.nextId s := by
  refine ⟨⟨committed, fun id row above found => ?_⟩, ⟨working, fun id row above found => ?_⟩, le_rfl, older⟩
  · exact absurd (committed.bounded id row found) (by omega)
  · exact absurd (working.bounded id row found) (by omega)

end Work

section Turns

variable {world : World} {expires : Nat → Task → Prop} {before : Hub} {nodes : List Node} {id : Nat} {task : Task}
    {s : Session Hub Process}

/-- Between turns: what is not committed yet, imports and captures have written. -/
def Between (world : World) (expires : Nat → Task → Prop) (before : Hub) (s : Session Hub Process) : Prop :=
  ∃ hub, Follows (Move world (ingesting before)) hub s ∧ Amid expires before hub

theorem Between.working (between : Between world expires before s) : Amid expires before s.working := by
  obtain ⟨_, follows, amid⟩ := between
  exact amid.path follows.whole

theorem Between.committed (between : Between world expires before s) : Amid expires before s.committed := by
  obtain ⟨_, follows, amid⟩ := between
  exact amid.path follows.saved

theorem Between.older (between : Between world expires before s) : s.committed.nextId ≤ s.working.nextId := by
  obtain ⟨_, follows, _⟩ := between
  exact Path.nextId follows.pending

theorem Amid.between (amid : Amid expires before s.committed) (saved : s.working = s.committed) :
    Between world expires before s := by
  refine ⟨s.committed, ⟨.refl, ?_⟩, amid⟩
  rw [saved]

/-- The type of a row tells whether it was an import or a capture before. -/
theorem Amid.ingesting {hub : Hub} (amid : Amid expires before hub) (listed : before.tasks.find id = some task) {row : Task}
    (found : hub.tasks.find id = some row) (ingest : row.onWorker = false) : ingesting before id := by
  obtain ⟨now, here, same, _⟩ := amid.rows id task listed
  obtain rfl : row = now := Option.some.inj (found.symm.trans here)
  exact ⟨task, listed, (onWorker_of_type_eq same).symm.trans ingest⟩

theorem Between.ingest (between : Between world expires before s) {program : Program Unit}
    (inside : Dispatcher.ingesting before id)
    (tends : ∀ origin, Tends world (Dispatcher.ingesting before) origin id program) :
    wp program (fun _ => Between world expires before) (fun _ after => Amid expires before after.committed) s := by
  obtain ⟨hub, follows, amid⟩ := between
  obtain ⟨task, first, ingest⟩ := inside
  -- the row was there when the path began
  have start : ∃ row, hub.tasks.find id = some row ∧ row.onWorker = false := by
    obtain ⟨row, here, same, _⟩ := amid.rows id task first
    exact ⟨row, here, (onWorker_of_type_eq same).trans ingest⟩
  have holds : Holds world (Dispatcher.ingesting before) hub id s := ⟨amid.bounded, ⟨task, first, ingest⟩, start, follows⟩
  exact wp_mono (tends hub s holds) (fun _ _ held => ⟨hub, held.follows, amid⟩) fun _ _ saved => amid.path saved

theorem Between.worker (between : Between world expires before s) (excused : Excused before)
    (listed : before.tasks.find id = some task)
    (lapses : expired world (poolOf task nodes).1 task = true → expires id task) :
    wp (do
      pollTurn world nodes id
      dispatchTurn world nodes id
      commitAt world (.turn id)) (fun _ => Between world expires before)
        (fun _ after => Amid expires before after.committed) s := by
  have turning : Turning world expires before s.working.nextId s :=
    between.committed.turning between.working between.older
  have steady : Steady world s.working.nextId (Turning world expires before s.working.nextId) := steady_turning excused
  -- The turn polls, then dispatches; what it adds is as young as the tick.
  rw [wp_bind]
  refine wp_mono (steady.pollTurn expires_new id s turning) (fun _ polled held => ?_) fun _ _ held => held.committed.amid
  rw [wp_bind]
  refine wp_mono (steady.dispatchTurn expires_new (expires_listed listed lapses) polled held) (fun _ sent later => ?_)
    fun _ _ later => later.committed.amid
  exact wp_commitAt (Amid.between later.working.amid rfl) later.committed.amid

theorem Between.tickTask (between : Between world expires before s) (excused : Excused before)
    (listed : before.tasks.find id = some task)
    (lapses : expired world (poolOf task nodes).1 task = true → expires id task) :
    wp (Dispatcher.tickTask world nodes id) (fun _ => Between world expires before)
      (fun _ after => Amid expires before after.committed) s := by
  rw [Dispatcher.tickTask, wp_bind]
  refine wp_loaded (fun row found => ?_) between.committed
  have ingests (ingest : row.onWorker = false) : Dispatcher.ingesting before id := between.working.ingesting listed found ingest
  -- Imports and captures run programs of their own, of which no timeout is a part.
  cases type : row.type with
  | importUrl =>
    have inside := ingests (by rw [Task.onWorker, type]; rfl)
    exact wp_cases (fun _ => between.ingest inside fun _ => maybeStartImport_tends) fun _ => between
  | capture =>
    have inside := ingests (by rw [Task.onWorker, type]; rfl)
    exact between.ingest inside fun _ => Capture.tryFinishCaptureTask_tends.bind fun _ => Capture.maybeStartCapture_tends
  | transcribe => exact between.worker excused listed lapses
  | summarize => exact between.worker excused listed lapses

end Turns

section Loops

variable {world : World} {before : Hub}

def probedHub (world : World) (hub : Hub) (taskId : Option Nat) (refreshHealth : Bool) : Hub :=
  let due (id : Nat) (node : WorkerNode) : Bool := (healthNodes hub taskId).contains id && stale world false node
  if refreshHealth && hub.nodes.count due != 0 then
    { hub with nodes := hub.nodes.mapRows fun id node => if due id node then probed world id node else node }
  else hub

/-- The task is queued or running when the tick lists it, and has waited too long for a pool that is empty after the probes. -/
def Expired (world : World) (hub : Hub) (taskId : Option Nat) (refreshHealth : Bool) (id : Nat) (task : Task) : Prop :=
  inTick taskId id task = true ∧ expired world (poolOf task (probedHub world hub taskId refreshHealth).nodeList).1 task = true

theorem wp_refreshNodesHealth (process : Process) (taskId : Option Nat) :
    wp (refreshNodesHealth world (healthNodes before taskId) false)
      (fun _ after => after.working = probedHub world before taskId true ∧ after.committed = before)
      (fun _ after => after.committed = before) (.start before process) := by
  rw [refreshNodesHealth, wp_bind, wp_read]
  show wp (if before.nodes.count _ = 0 then pure () else _) _ _ _
  unfold probedHub
  dsimp only
  refine wp_cases (fun none_due => ?_) fun some_due => ?_
  · rw [none_due]
    exact ⟨rfl, rfl⟩
  · rw [Bool.true_and, if_pos (bne_iff_ne.mpr some_due), wp_bind]
    refine wp_commitAt ?_ rfl
    rw [wp_bind, wp_update]
    exact wp_cases (fun _ => ⟨rfl, rfl⟩) fun _ => rfl

/-- Only what has waited too long times out in a tick. -/
theorem tickJob_amid (excused : Excused before) (bounded : Bounded before) (process : Process) (taskId : Option Nat)
    (refreshHealth : Bool) :
    wp (tickJob world taskId refreshHealth)
      (fun _ after => Amid (Expired world before taskId refreshHealth) before after.committed)
      (fun _ after => Amid (Expired world before taskId refreshHealth) before after.committed) (.start before process) := by
  have tasks : (probedHub world before taskId refreshHealth).tasks = before.tasks := by
    unfold probedHub
    dsimp only
    split <;> rfl
  have nextId : (probedHub world before taskId refreshHealth).nextId = before.nextId := by
    unfold probedHub
    dsimp only
    split <;> rfl
  have first : Amid (Expired world before taskId refreshHealth) before before := .start bounded rfl
  have probed : Amid (Expired world before taskId refreshHealth) before (probedHub world before taskId refreshHealth) :=
    first.aside tasks nextId.ge
  -- after the probes, the turns
  have turns (s : Session Hub Process) (working : s.working = probedHub world before taskId refreshHealth)
      (committed : Amid (Expired world before taskId refreshHealth) before s.committed) :
      wp (do
        commitAt world (.tick 2)
        let stored ← Tx.query
        Tx.forEach (stored.tasks.select (inTick taskId)) (tickTask world stored.nodeList))
        (fun _ => Between world (Expired world before taskId refreshHealth) before)
        (fun _ after => Amid (Expired world before taskId refreshHealth) before after.committed) s := by
    rw [wp_bind]
    refine wp_commitAt ?_ committed
    rw [wp_bind, wp_query]
    show wp (Tx.forEach (s.working.tasks.select _) (tickTask world s.working.nodeList)) _ _ s.commit
    have entry : Between world (Expired world before taskId refreshHealth) before s.commit :=
      Amid.between (show Amid _ before s.working by rw [working]; exact probed) rfl
    refine wp_forEach entry fun id member s' between => ?_
    obtain ⟨task, listed, inside⟩ := (Table.mem_select ..).mp member
    rw [working, tasks] at listed
    rw [working]
    exact between.tickTask excused listed fun late => ⟨inside, late⟩
  rw [tickJob, wp_bind, tickOnce, wp_bind]
  refine wp_commitAt ?_ first
  rw [wp_bind, wp_read]
  have ends {s : Session Hub Process} (between : Between world (Expired world before taskId refreshHealth) before s) :
      wp (commitAt world (.tick 3)) (fun _ after => Amid (Expired world before taskId refreshHealth) before after.committed)
        (fun _ after => Amid (Expired world before taskId refreshHealth) before after.committed) s :=
    wp_commitAt between.working between.committed
  -- With probes or without, the turns see the nodes of `probedHub`.
  cases refreshHealth with
  | false =>
    rw [if_neg Bool.false_ne_true]
    exact wp_mono (turns _ rfl first) (fun _ _ between => ends between) fun _ _ saved => saved
  | true =>
    rw [if_pos rfl, wp_bind]
    refine wp_mono (wp_refreshNodesHealth process taskId) (fun _ after ended => ?_) fun _ after saved => by
      rw [saved]; exact first
    obtain ⟨working, committed⟩ := ended
    exact wp_mono (turns after working (by rw [committed]; exact first)) (fun _ _ between => ends between) fun _ _ saved => saved

end Loops

section Recovery

variable {world : World} {before : Hub} {id : Nat}

structure Standing (before : Hub) (s : Session Hub Process) : Prop where
  committed : Amid (fun _ _ => False) before s.committed
  working : Amid (fun _ _ => False) before s.working
  older : s.committed.nextId ≤ s.working.nextId

instance Standing.transactional : Transactional (Standing before) where
  flush _ standing := ⟨standing.committed, standing.working, standing.older⟩
  commit _ standing := ⟨standing.working, standing.working, le_rfl⟩
  rollback _ standing := ⟨standing.committed, standing.committed, le_rfl⟩

section Captures

variable (inside : ingesting before id)
include inside

theorem Standing.modify {f : Task → Task} (type : ∀ row, (f row).type = row.type) :
    Maintains (Standing before) (modifyTask id f) := fun _ standing =>
  ⟨standing.committed, standing.working.modify type fun _ _ => .inl inside, standing.older⟩

theorem Standing.failTask (code : ErrorCode) (extra : Dict) : Maintains (Standing before) (failTask world id code extra) :=
  (Standing.modify inside fun _ => by rfl).bind fun _ => maintains_flush.bind fun _ => maintains_guardSite world _

theorem Standing.updateTaskMeta (stage : String) (extra : Dict) : Maintains (Standing before) (updateTaskMeta id stage extra) :=
  (Standing.modify inside fun _ => by rfl).bind fun _ => maintains_flush

theorem Standing.loseLink (reason : String) : Maintains (Standing before) (Capture.loseCaptureWorkerLink world id reason) :=
  (maintains_loaded id).bind fun _ => .ite (fun _ => Standing.failTask inside _ _) fun _ => Standing.modify inside fun _ => by rfl

theorem Standing.reattach (task : Task) (poll : Dict) :
    Maintains (Standing before) (Capture.recoverCaptureTask.reattach world id task poll) := by
  refine maintains_recollect.bind fun process => .ite (fun _ => Standing.failTask inside _ _) fun _ => ?_
  refine .ite (fun _ => .ite (fun _ => Standing.updateTaskMeta inside _ _) fun _ => Standing.failTask inside _ _) fun _ => ?_
  refine .ite (fun _ => Standing.loseLink inside _) fun _ => (Standing.updateTaskMeta inside _ _).bind fun _ => ?_
  refine (maintains_loaded id).bind fun task => .ite (fun _ => ?_) fun _ => maintains_pure _
  exact (Capture.maintains_forwardCaptureStop world).bind fun _ => Standing.updateTaskMeta inside _ _

theorem Standing.recoverCaptureTask (nodes : List Nat) :
    Maintains (Standing before) (Capture.recoverCaptureTask world id nodes) := by
  refine (maintains_loaded id).bind fun task => .ite (fun _ => maintains_pure _) fun _ => ?_
  split
  · refine .ite (fun _ => Standing.loseLink inside _) fun _ => (Capture.maintains_pollWorker world id _).bind fun answer => ?_
    split
    · exact maintains_pure _
    · exact .ite (fun _ => Standing.loseLink inside _) fun _ =>
        .ite (fun _ => maintains_pure _) fun _ => Standing.reattach inside _ _
  · exact Standing.loseLink inside _

end Captures

theorem Standing.recoverWorkerTask (excused : Excused before) (nodes : List Node) :
    Maintains (Standing before) (recoverWorkerTask world id nodes) := by
  intro s standing
  have turning : Turning world (fun _ _ => False) before s.working.nextId s :=
    standing.committed.turning standing.working standing.older
  have steady : Steady world s.working.nextId (Turning world (fun _ _ => False) before s.working.nextId) := steady_turning excused
  exact wp_mono (steady.recoverWorkerTask expires_new id s turning)
    (fun _ _ held => ⟨held.committed.amid, held.working.amid, held.older⟩)
    fun _ _ held => ⟨held.committed.amid, held.working.amid, held.older⟩

theorem Standing.recoverTask {task : Task} (excused : Excused before) (listed : before.tasks.find id = some task)
    (nodes : List Node) : Maintains (Standing before) (recoverTask world nodes id) := by
  intro s standing
  rw [Dispatcher.recoverTask, wp_bind]
  refine wp_loaded (fun row found => ?_) standing
  have ingests (ingest : row.onWorker = false) : ingesting before id := standing.working.ingesting listed found ingest
  cases type : row.type with
  | importUrl => exact Standing.modify (ingests (by rw [Task.onWorker, type]; rfl)) (fun _ => by rfl) s standing
  | capture => exact Standing.recoverCaptureTask (ingests (by rw [Task.onWorker, type]; rfl)) _ s standing
  | transcribe => exact Standing.recoverWorkerTask excused nodes s standing
  | summarize => exact Standing.recoverWorkerTask excused nodes s standing

theorem Standing.aside {f : Hub → Hub} (tasks : ∀ hub, (f hub).tasks = hub.tasks) (nextId : ∀ hub, (f hub).nextId = hub.nextId) :
    Maintains (Standing before) (Tx.update f : Program Unit) := by
  intro s standing
  exact ⟨standing.committed, standing.working.aside (tasks _) (nextId _).ge, standing.older.trans (nextId _).ge⟩

theorem Standing.refreshNodesHealth (ids : List Nat) (force : Bool) :
    Maintains (Standing before) (refreshNodesHealth world ids force) :=
  maintains_read.bind fun hub => .ite (fun _ => maintains_pure _) fun _ => (maintains_commitAt world _).bind fun _ =>
    (Standing.aside (fun _ => by rfl) fun _ => by rfl).bind fun _ => .ite (fun _ => maintains_pure _) fun _ => maintains_raise _

theorem recoverOrphanedTasks_amid (excused : Excused before) (bounded : Bounded before) (process : Process) :
    wp (recoverOrphanedTasks world) (fun _ => Standing before) (fun _ => Standing before) (.start before process) := by
  have first : Amid (fun _ _ => False) before before := .start bounded rfl
  have listed (id : Nat) (s : Session Hub Process) (flushed : s.flushed.tasks = before.tasks)
      (member : id ∈ s.flushed.tasks.select fun _ task => task.status == .running) :
      ∃ task, before.tasks.find id = some task := by
    rw [flushed] at member
    obtain ⟨task, found, _⟩ := (Table.mem_select ..).mp member
    exact ⟨task, found⟩
  rw [recoverOrphanedTasks, wp_bind, wp_read, wp_bind]
  have start : Follows (Move world fun _ => False) before (.start before process) := .start ..
  have probed := wp_and (@Standing.refreshNodesHealth world before (before.nodeList.map Prod.fst) true _ ⟨first, first, le_rfl⟩)
    (refreshNodesHealth_keeps start rfl (before.nodeList.map Prod.fst) true)
  -- The probes write to nodes only, so recovery goes through the tasks that were there before.
  refine wp_mono probed (fun _ s held => ?_) fun _ _ held => held.1
  obtain ⟨standing, follows, flushed⟩ := held
  rw [Path.tasks follows.saved] at flushed
  rw [wp_bind, wp_query, wp_bind, wp_read, wp_bind]
  refine wp_mono (wp_forEach standing fun id member s' held => ?_) (fun _ after held => maintains_commitAt world _ after held)
    fun _ _ held => held
  obtain ⟨task, found⟩ := listed id s flushed member
  exact Standing.recoverTask excused found _ s' held

end Recovery

end IdigestHub.Dispatcher
