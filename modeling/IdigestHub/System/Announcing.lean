import IdigestHub.System.Hooks
import IdigestHub.System.Requests

/-! What the hub does with one task between two of its commits, and what has been announced by then. -/

set_option autoImplicit false

namespace IdigestHub.Announcing

open Foundation Foundation.UnitOfWork Dispatcher Ingest

inductive Move where
  | waits (stage : String)
  | goesWithout
  | shows (fields : Dict)
  | dispatches (node : Nat) (workerTaskId : Option String)
  | goesOn (status : Json)
  | requeues (workerTaskId : Option String)
  | unlinks
  | starts (stage : String)
  | requeuesIngest
  | stages (stage : String) (extra : Dict)
  | stores (metaJson : Option Dict)
  | binds (workerId : Option Nat) (workerTaskId : Option String)

def Move.apply (task : Task) : Move → Task
  | .waits stage => patient stage task
  | .goesWithout => { task with retryWithoutTimeout := true }
  | .shows fields => task.mergeMeta fields
  | .dispatches node workerTaskId => dispatched node workerTaskId task
  | .goesOn status => stillActive status task
  | .requeues workerTaskId => { task with workerId := none, workerTaskId, status := .queued }
  | .unlinks => unlinked task
  | .starts stage => started stage task
  | .requeuesIngest => requeued task
  | .stages stage extra => staged stage extra task
  | .stores metaJson => { task with metaJson }
  | .binds workerId workerTaskId => { task with workerId, workerTaskId }

theorem Move.apply_status (move : Move) (task : Task) :
    (move.apply task).status = task.status ∨ (move.apply task).active = true := by
  cases move with
  | dispatches | goesOn | requeues | starts | requeuesIngest => exact .inr rfl
  | _ => exact .inl rfl

/-- What a session does with its object of the task up to the next commit. -/
inductive Section where
  | timesOut (pool : PoolState)
  | refuses (code : ErrorCode) (detail : Option String)
  | reports (body : Dict)
  | accepts (node : Nat) (body : Dict)
  | fails (code : ErrorCode) (extra : Dict)
  | imports (fields : Dict) (result : ImportResult)
  | captures (filename : String) (fields : Dict) (duration : Option Decimal)
  | moves (move : Move)
  | asks (request : System.Request)

/-- Who ends a run: the hub itself, or a request. A retry opens one. -/
inductive Source where
  | outcome | request | retry
  deriving DecidableEq

def isQueued (task : Task) : Bool := task.onWorker && task.status == .queued

def isPolled (task : Task) : Bool := task.onWorker && task.status == .running

def isIngest (task : Task) : Bool := !task.onWorker

section Programs

variable (world : World) (id : Nat)

def whenever (check : Task → Bool) (program : Announcer Unit) : Announcer Unit := do
  let task ← quietly (loaded id)
  if check task then program else pure ()

def report (body : Dict) : Announcer Unit := do
  let task ← quietly (loaded id)
  if reportsSuccess body then
    if task.type = .transcribe then do
      let _ ← onTranscribeSuccess world id body
      pure ()
    else do
      let _ ← onSummarizeSuccess world id body
      pure ()
  else if reportsError body then do
    let _ ← onWorkerTerminalError world id body
    pure ()
  else pure ()

namespace Section

def program : Section → Announcer Unit
  | .timesOut pool => whenever id isQueued do
    let _ ← maybeTimeout world id pool
    pure ()
  | .refuses code detail => whenever id isQueued (fail world id code detail)
  | .reports body => whenever id isPolled (report world id body)
  | .accepts node body => whenever id isQueued do
    quietly (modifyTask id (dispatched node (reportedTaskId world.python body)))
    report world id body
  | .fails code extra => whenever id isIngest (failTask world id code extra)
  | .imports fields result => whenever id isIngest (imported world id fields result)
  | .captures filename fields duration => whenever id isIngest (captured world id filename fields duration)
  | .moves move => quietly (modifyTask id fun task => move.apply task)
  | .asks request => Tx.update request.rows

def source : Section → Source
  | .asks (.retry other _ _) => if other = id then .retry else .request
  | .asks _ => .request
  | _ => .outcome

def onlyFails : Section → Bool
  | .timesOut _ | .refuses .. | .fails .. => true
  | .reports body | .accepts _ body => !reportsSuccess body
  | _ => false

def timedOut (pool : PoolState) (task : Task) : Bool :=
  !(task.retryWithoutTimeout || pool != .empty || world.dispatchNoCandidateSec ≤ 0) &&
    world.dispatchNoCandidateSec * 1000000 ≤ (world.now : Int) - task.queuedAt

def tells (body : Dict) : Bool := reportsSuccess body || reportsError body

def announces (task : Task) : Section → Bool
  | .timesOut pool => isQueued task && timedOut world pool task
  | .refuses .. => isQueued task
  | .reports body => isPolled task && tells body
  | .accepts _ body => isQueued task && tells body
  | .fails .. | .imports .. | .captures .. => isIngest task
  | .moves _ | .asks _ => false

def chains (task : Task) : Bool := task.skillIds != [] && (!task.skipPersist || task.producedTranscriptId.isSome)

/-- What follows the announcement of a worker's success goes through. -/
def settles (hub : Hub) (task : Task) (body : Dict) : Bool :=
  if task.type = .transcribe then
    (reportedSeconds world body).all fun audioSec => (Billing.transcribeAmount task audioSec).all fun amount =>
      chargeable world hub task amount && !(chains task && world.raises (.chain id))
  else (Billing.summarizeAmount task (reportedSummary body)).all fun amount => chargeable world hub task amount

def followed (hub : Hub) (task : Task) : Bool :=
  !isTrue (task.metaDict.get "pipeline_transcribe") || (hub.orgs.find task.orgId).all fun org =>
    match outOfBalance org with
    | none => false
    | some true => true
    | some false => !world.raises (.chain id)

def lasts (hub : Hub) (task : Task) (part : Section) : Bool :=
  !world.raises (.terminalHook id) &&
    match part with
    | .reports body | .accepts _ body => !reportsSuccess body || settles world id hub task body
    | .imports fields result => followed world id hub (importedTask 0 fields result task)
    | .captures _ fields duration => followed world id hub (Capture.capturedTask 0 duration fields task)
    | _ => true

end Section

end Programs

section Rules

variable {world : World} {id : Nat} {task : Task} {s : Telling} {R : Fault → Telling → Prop}

theorem wp_quiet_loaded {A : Type} {Q : A → Telling → Prop} {k : Task → Announcer A}
    (found : s.working.tasks.find id = some task) (value : wp (k task) Q R s) : wp (quietly (loaded id) >>= k) Q R s := by
  rw [wp_bind]
  exact wp_quietly (wp_loaded_of (s := silent s) found value)

theorem wp_whenever {check : Task → Bool} {program : Announcer Unit} {Q : Unit → Telling → Prop}
    (found : s.working.tasks.find id = some task) (passes : check task = true → wp program Q R s)
    (fails : check task = false → Q () s) :
    wp (whenever id check program) Q R s := by
  refine wp_quiet_loaded found (wp_cases passes fun stops => ?_)
  exact fails (Bool.not_eq_true _ |>.mp stops)

abbrev Unsaid (s : Telling) : Fault → Telling → Prop := fun _ after => after.memory.2 = s.memory.2

structure Announced (id : Nat) (s after : Telling) (row : Task) : Prop where
  found : after.working.tasks.find id = some row
  ended : row.active = false
  book : after.memory.2 = s.memory.2.announce row.status

theorem markTaskTerminal_announces {row : Task} (hook : world.raises (.terminalHook id) = false)
    (found : s.working.tasks.find id = some row) (ended : row.active = false) :
    wp (markTaskTerminal world id) (fun _ after => Announced id s after row ∧ after.working = s.working) R s := by
  refine wp_quiet_loaded found ?_
  rw [ended, if_neg Bool.false_ne_true, wp_bind, wp_remember]
  refine wp_quietly ?_
  rw [wp_guardSite_eq, hook]
  exact ⟨⟨found, ended, rfl⟩, rfl⟩

theorem fail_announces (hook : world.raises (.terminalHook id) = false) (found : s.working.tasks.find id = some task)
    (code : ErrorCode) (detail : Option String) :
    wp (fail world id code detail) (fun _ after => Announced id s after (failedTask code detail task) ∧
      after.working = s.working.modifyTask id (failedTask code detail)) R s := by
  rw [fail, wp_bind]
  refine wp_quietly ?_
  rw [wp_modifyTask]
  have row : (s.working.modifyTask id (failedTask code detail)).tasks.find id = some (failedTask code detail task) := by
    simp [found]
  refine wp_mono (markTaskTerminal_announces hook row rfl) ?_ fun _ _ raised => raised
  rintro _ after ⟨⟨found, ended, book⟩, same⟩
  exact ⟨⟨found, ended, book⟩, same⟩

/-- The columns that a charge and a chained task read. -/
structure Alike (task row : Task) : Prop where
  orgId : row.orgId = task.orgId
  billed : row.billed = task.billed
  snap : row.snap = task.snap
  skillIds : row.skillIds = task.skillIds
  produced : row.producedTranscriptId.isSome → task.producedTranscriptId.isSome ∨ task.skipPersist = false

theorem Alike.chains {row : Task} (alike : Alike task row) (skills : row.skillIds ≠ [])
    (produced : row.producedTranscriptId.isSome) : Section.chains task = true := by
  rw [alike.skillIds] at skills
  rcases alike.produced produced with before | keeps
  · simp [Section.chains, skills, before]
  · simp [Section.chains, skills, keeps]

/-- A stored or a refused result has been announced. Before that, nothing has. -/
theorem persist_announces (hook : world.raises (.terminalHook id) = false) (found : s.working.tasks.find id = some task)
    {add : Task → Hub → Hub} {point : Nat → Task → Task} (rows : ∀ hub, (add task hub).tasks = hub.tasks)
    (orgs : ∀ hub, (add task hub).orgs = hub.orgs) (nextId : ∀ hub, hub.nextId ≤ (add task hub).nextId)
    (alike : task.skipPersist = false → ∀ rowId, Alike task (point rowId task)) :
    wp (persist world id add point) (fun _ after => ∃ row, Announced id s after row ∧ Alike task row ∧
      after.working.orgs = s.working.orgs ∧ s.working.nextId ≤ after.working.nextId)
      (Unsaid s) s := by
  refine wp_quiet_loaded found (wp_cases (fun skips => ?_) fun keeps => ?_)
  · refine wp_mono (fail_announces hook found _ _) ?_ fun _ _ raised => raised
    rintro _ after ⟨told, same⟩
    exact ⟨_, told, ⟨rfl, rfl, rfl, rfl, .inl⟩, by rw [same]; rfl, by rw [same]; exact le_rfl⟩
  · rw [wp_bind]
    refine wp_quietly ?_
    rw [stored, wp_bind]
    refine wp_guardSite ?_ rfl
    simp only [wp_bind, wp_read, wp_update, wp_flush, wp_modifyTask]
    have row : ((add task s.working).modifyTask id fun task => succeededTask (point s.working.nextId task)).tasks.find id =
        some (succeededTask (point s.working.nextId task)) := by simp [rows, found]
    have same := alike (Bool.not_eq_true _ |>.mp keeps) s.working.nextId
    refine wp_mono (markTaskTerminal_announces hook row rfl) ?_ fun _ _ raised => raised
    rintro _ after ⟨⟨found, ended, book⟩, working⟩
    refine ⟨_, ⟨found, ended, book⟩, ⟨same.orgId, same.billed, same.snap, same.skillIds, same.produced⟩, ?_, ?_⟩
    · rw [working]
      exact orgs s.working
    · rw [working]
      exact nextId s.working

section Afterwards

variable {s : Session Hub Process}

def Shows (id : Nat) (status : TaskStatus) (hub : Hub) : Prop := ∃ row, hub.tasks.find id = some row ∧ row.status = status

theorem Shows.modify {status : TaskStatus} {hub : Hub} (shows : Shows id status hub) {f : Task → Task}
    (kept : ∀ row, (f row).status = row.status) : Shows id status (hub.modifyTask id f) := by
  obtain ⟨row, found, same⟩ := shows
  exact ⟨f row, by simp [found], (kept row).trans same⟩

theorem charge_passes (found : s.working.tasks.find id = some task) (audioSec : Option Decimal) {amount : Int}
    (chars : Option Nat) (passes : chargeable world s.working task amount = true) :
    wp (charge world id audioSec amount chars)
      (fun _ after => ∃ billed, after.working.tasks.find id = some (task.withBilled billed) ∧
        after.working.nextId = s.working.nextId)
      (fun _ _ => False) s := by
  have finishes := (charge_finishes found audioSec amount chars).mpr passes
  refine wp_mono (wp_and finishes (charge_charges found audioSec amount chars)) ?_ fun _ _ both => both.1
  rintro _ after ⟨_, charging, _⟩
  exact ⟨_, charging.row, charging.nextId⟩

theorem enqueueSummarize_passes (found : s.working.tasks.find id = some task) (below : id < s.working.nextId)
    (passes : task.skillIds ≠ [] → task.producedTranscriptId.isSome → world.raises (.chain id) = false) :
    wp (enqueueSummarizeAfterTranscribe world id) (fun _ after => Shows id task.status after.working) (fun _ _ => False) s := by
  rw [enqueueSummarizeAfterTranscribe, wp_bind]
  refine wp_loaded_of found (wp_cases (fun _ => ⟨task, found, rfl⟩) fun chained => ?_)
  simp only [Bool.or_eq_true, decide_eq_true_eq, not_or, Option.isNone_iff_eq_none] at chained
  rw [wp_bind, wp_guardSite_eq, passes chained.1 (Option.isSome_iff_ne_none.mpr chained.2), if_neg Bool.false_ne_true]
  simp only [wp_bind, wp_read, wp_update, wp_flush, wp_modifyTask, wp_pure]
  refine Shows.modify ⟨task, ?_, rfl⟩ fun _ => rfl
  simp [Hub.addTask, Table.find_put, below.ne, found]

theorem enqueueTranscribe_passes (found : s.working.tasks.find id = some task) (below : id < s.working.nextId)
    (passes : Section.followed world id s.working task = true) :
    wp (enqueueTranscribeAfterIngest world id) (fun _ after => Shows id task.status after.working) (fun _ _ => False) s := by
  have as_before : Shows id task.status s.working := ⟨task, found, rfl⟩
  rw [enqueueTranscribeAfterIngest, wp_bind]
  refine wp_loaded_of found ?_
  rw [wp_bind, wp_read]
  dsimp only
  refine wp_cases (fun _ => as_before) fun _ => wp_cases (fun _ => as_before) fun wanted => ?_
  simp only [Bool.or_eq_true, Bool.not_eq_true', not_or, Bool.not_eq_false] at wanted
  rw [Section.followed, wanted.1, Bool.not_true, Bool.false_or] at passes
  cases org : s.working.orgs.find task.orgId with
  | none => exact as_before
  | some row =>
    rw [org, Option.all_some] at passes
    cases balance : outOfBalance row with
    | none => simp [balance] at passes
    | some broke =>
      cases broke with
      | true =>
        simp only [balance]
        exact as_before
      | false =>
        simp only [balance, Bool.not_eq_true'] at passes ⊢
        rw [wp_bind, wp_guardSite_eq, passes, if_neg Bool.false_ne_true]
        simp only [wp_bind, wp_update, wp_flush, wp_modifyTask]
        refine Shows.modify ⟨task, ?_, rfl⟩ fun _ => rfl
        simp [Hub.addTask, Table.find_put, below.ne, found]

end Afterwards

section Handlers

def Spoke (id : Nat) (s after : Telling) (fails : Bool) : Prop :=
  ∃ row, after.working.tasks.find id = some row ∧ row.active = false ∧ after.memory.2 = s.memory.2.announce row.status ∧
    (fails = true → row.status = .error)

theorem ended_of_status {row after : Task} (same : after.status = row.status) (ended : row.active = false) :
    after.active = false := by
  rwa [Task.active, same]

theorem Announced.spoke {after last : Telling} {row : Task} (told : Announced id s after row)
    (book : last.memory.2 = after.memory.2) (shows : Shows id row.status last.working) : Spoke id s last false := by
  obtain ⟨final, found, same⟩ := shows
  exact ⟨final, found, ended_of_status same told.ended, by rw [book, told.book, same], nofun⟩

theorem onSummarizeSuccess_speaks (found : s.working.tasks.find id = some task) (hook : world.raises (.terminalHook id) = false)
    (body : Dict) (settles : (Billing.summarizeAmount task (reportedSummary body)).all (chargeable world s.working task) = true) :
    wp (onSummarizeSuccess world id body) (fun _ after => Spoke id s after false) (Unsaid s) s := by
  refine wp_quiet_loaded found ?_
  dsimp only
  cases amounts : Billing.summarizeAmount task (reportedSummary body) with
  | none => exact rfl
  | some amount =>
    rw [amounts, Option.all_some] at settles
    rw [wp_bind]
    refine wp_mono (persist_announces hook found (fun _ => rfl) (fun _ => rfl) (fun _ => Nat.le_succ _)
      fun keeps _ => ⟨rfl, rfl, rfl, rfl, fun _ => .inr keeps⟩) ?_ fun _ _ quiet => quiet
    rintro _ stored ⟨row, told, alike, orgs, _⟩
    rw [wp_bind]
    refine wp_quietly (wp_mono (charge_passes (s := silent stored) told.found none _ ?_) ?_ fun _ _ never => never.elim)
    · exact (chargeable_congr amount orgs alike.orgId alike.billed alike.snap).trans settles
    · rintro _ charged ⟨billed, here, _⟩
      rw [wp_bind]
      exact wp_quietly (told.spoke rfl (Shows.modify ⟨_, here, rfl⟩ fun _ => rfl))

theorem onTranscribeSuccess_speaks (found : s.working.tasks.find id = some task) (below : id < s.working.nextId)
    (hook : world.raises (.terminalHook id) = false) (body : Dict)
    (settles : (reportedSeconds world body).all (fun audioSec => (Billing.transcribeAmount task audioSec).all fun amount =>
      chargeable world s.working task amount && !(Section.chains task && world.raises (.chain id))) = true) :
    wp (onTranscribeSuccess world id body) (fun _ after => Spoke id s after false) (Unsaid s) s := by
  refine wp_quiet_loaded found ?_
  dsimp only
  cases reported : reportedSeconds world body with
  | none => exact rfl
  | some audioSec =>
    rw [reported, Option.all_some] at settles
    rw [wp_bind]
    refine wp_quietly (wp_mono (fillDuration_aside (s := silent s) audioSec) ?_ fun _ after _ => rfl)
    rintro _ filled ⟨aside, _⟩
    cases amounts : Billing.transcribeAmount task audioSec with
    | none => exact rfl
    | some amount =>
      rw [amounts, Option.all_some, Bool.and_eq_true, Bool.not_eq_true', Bool.and_eq_false_iff] at settles
      obtain ⟨charges, chains⟩ := settles
      have found : (told filled s.memory.2).working.tasks.find id = some task := by
        rw [← found]
        exact congrArg (fun tasks => tasks.find id) aside.tasks
      rw [wp_bind]
      refine wp_mono (persist_announces hook found (fun _ => rfl) (fun _ => rfl) (fun _ => Nat.le_succ _)
        fun keeps _ => ⟨rfl, rfl, rfl, rfl, fun _ => .inr keeps⟩) ?_ fun _ _ quiet => quiet
      rintro _ stored ⟨row, told, alike, orgs, nextId⟩
      have charges_now : chargeable world stored.working row amount = true := by
        rw [chargeable_congr amount (orgs.trans aside.orgs) alike.orgId alike.billed alike.snap]
        exact charges
      have below : id < stored.working.nextId := below.trans_le (aside.nextId.ge.trans nextId)
      rw [wp_bind]
      refine wp_quietly (wp_mono (charge_passes (s := silent stored) told.found _ none charges_now) ?_
        fun _ _ never => never.elim)
      rintro _ charged ⟨billed, here, same⟩
      rw [wp_bind]
      refine wp_quietly (wp_mono (enqueueSummarize_passes here (same ▸ below) ?_) ?_ fun _ _ never => never.elim)
      · intro skills produced
        exact chains.resolve_left (by simp [alike.chains skills produced])
      · rintro followUp chained shows
        rw [wp_bind]
        exact wp_quietly (told.spoke rfl (shows.modify fun _ => rfl))

theorem onWorkerTerminalError_speaks (found : s.working.tasks.find id = some task)
    (hook : world.raises (.terminalHook id) = false) (body : Dict) :
    wp (onWorkerTerminalError world id body) (fun _ after => Spoke id s after true) (Unsaid s) s := by
  refine wp_quiet_loaded found ?_
  cases mapWorkerError (((body.get "error").asDict.getD []).get "code") with
  | none => exact rfl
  | some code =>
    rw [wp_bind]
    refine wp_mono (fail_announces hook found _ _) ?_ fun _ _ quiet => quiet
    rintro _ after ⟨told, _⟩
    exact ⟨_, told.found, told.ended, told.book, fun _ => rfl⟩

theorem failTask_speaks (found : s.working.tasks.find id = some task) (hook : world.raises (.terminalHook id) = false)
    (code : ErrorCode) (extra : Dict) : wp (failTask world id code extra) (fun _ after => Spoke id s after true) R s := by
  rw [failTask, wp_bind]
  refine wp_quietly ?_
  rw [wp_modifyTask, wp_bind, wp_flush]
  have row : (s.working.modifyTask id (failed code extra)).tasks.find id = some (failed code extra task) := by simp [found]
  refine wp_mono (markTaskTerminal_announces hook row rfl) ?_ fun _ _ raised => raised
  rintro _ after ⟨told, _⟩
  exact ⟨_, told.found, told.ended, told.book, fun _ => rfl⟩

theorem ingested_speaks (found : s.working.tasks.find id = some task) (below : id < s.working.nextId)
    (hook : world.raises (.terminalHook id) = false) {add : Task → Hub → Hub} {point : Nat → Task → Task}
    (rows : ∀ hub, (add task hub).tasks = hub.tasks) (orgs : ∀ hub, (add task hub).orgs = hub.orgs)
    (nextId : ∀ hub, hub.nextId ≤ (add task hub).nextId) (ended : ∀ audioId, (point audioId task).active = false)
    (follows : ∀ hub : Hub, hub.orgs = s.working.orgs → ∀ audioId,
      Section.followed world id hub (point audioId task) = true) :
    wp (ingested world id add point) (fun _ after => Spoke id s after false) (Unsaid s) s := by
  refine wp_quiet_loaded found ?_
  simp only [wp_bind, wp_read, wp_update, wp_flush]
  refine wp_quietly (wp_guardSite ?_ rfl)
  refine wp_quietly ?_
  rw [wp_modifyTask]
  have row : ((add task s.working).modifyTask id (point s.working.nextId)).tasks.find id =
      some (point s.working.nextId task) := by simp [rows, found]
  refine wp_mono (markTaskTerminal_announces hook row (ended _)) ?_ fun _ _ quiet => quiet
  rintro _ after ⟨told, working⟩
  refine wp_quietly (wp_mono (enqueueTranscribe_passes (s := silent after) told.found ?_ ?_) ?_ fun _ _ never => never.elim)
  · show id < after.working.nextId
    rw [working]
    exact below.trans_le (nextId s.working)
  · refine follows _ ?_ _
    show after.working.orgs = s.working.orgs
    rw [working]
    exact orgs s.working
  · intro _ last shows
    exact told.spoke rfl shows

end Handlers

section Sections

/-- What a section of the hub leaves for the commit: a run that goes on, or the status that it has announced. -/
inductive Spoken (world : World) (id : Nat) (task : Task) (part : Section) (s after : Telling) : Prop where
  | quiet (row : Task) (found : after.working.tasks.find id = some row) (book : after.memory.2 = s.memory.2)
      (goes_on : row.status = task.status ∨ row.active = true) : Spoken world id task part s after
  | told (announces : part.announces world task = true) (spoke : Spoke id s after part.onlyFails) :
      Spoken world id task part s after

theorem Spoken.unchanged {part : Section} (found : s.working.tasks.find id = some task) : Spoken world id task part s s :=
  .quiet task found rfl (.inl rfl)

theorem Spoke.mono {after : Telling} {fails fails' : Bool} (spoke : Spoke id s after fails)
    (less : fails' = true → fails = true) : Spoke id s after fails' := by
  obtain ⟨row, found, ended, book, error⟩ := spoke
  exact ⟨row, found, ended, book, fun fails => error (less fails)⟩

variable {part : Section} {body : Dict}

theorem report_speaks (found : s.working.tasks.find id = some task) (below : id < s.working.nextId)
    (lasts : Section.tells body = true → world.raises (.terminalHook id) = false)
    (settles : reportsSuccess body = true → Section.settles world id s.working task body = true) :
    wp (report world id body) (fun _ after => (after = s ∧ Section.tells body = false) ∨
      (Section.tells body = true ∧ Spoke id s after !(reportsSuccess body)))
      (Unsaid s) s := by
  refine wp_quiet_loaded found (wp_cases (fun success => ?_) fun no_success => ?_)
  · have tells : Section.tells body = true := by simp [Section.tells, success]
    have hook := lasts tells
    have settles := settles success
    rw [success, Bool.not_true]
    rw [Section.settles] at settles
    refine wp_cases (fun transcribe => ?_) fun summarize => ?_
    · rw [if_pos transcribe] at settles
      rw [wp_bind]
      exact wp_mono (onTranscribeSuccess_speaks found below hook body settles) (fun _ _ spoke => .inr ⟨tells, spoke⟩)
        fun _ _ quiet => quiet
    · rw [if_neg summarize] at settles
      rw [wp_bind]
      exact wp_mono (onSummarizeSuccess_speaks found hook body settles) (fun _ _ spoke => .inr ⟨tells, spoke⟩)
        fun _ _ quiet => quiet
  · refine wp_cases (fun error => ?_) fun no_error => ?_
    · have tells : Section.tells body = true := by simp [Section.tells, error]
      rw [wp_bind]
      exact wp_mono (onWorkerTerminalError_speaks found (lasts tells) body)
        (fun _ _ spoke => .inr ⟨tells, spoke.mono fun _ => rfl⟩) fun _ _ quiet => quiet
    · exact .inl ⟨rfl, by simp [Section.tells, no_success, no_error]⟩

theorem maybeTimeout_speaks (found : s.working.tasks.find id = some task) (pool : PoolState)
    (lasts : Section.timedOut world pool task = true → world.raises (.terminalHook id) = false) :
    wp (maybeTimeout world id pool) (fun _ after => after = s ∨ (Section.timedOut world pool task = true ∧ Spoke id s after true))
      (Unsaid s) s := by
  refine wp_quiet_loaded found (wp_cases (fun _ => .inl rfl) fun limited => wp_cases (fun late => ?_) fun _ => .inl rfl)
  have timedOut : Section.timedOut world pool task = true := by simp [Section.timedOut, limited, late]
  rw [wp_bind]
  refine wp_mono (fail_announces (lasts timedOut) found _ _) ?_ fun _ _ quiet => quiet
  rintro _ after ⟨told, _⟩
  exact .inr ⟨timedOut, _, told.found, told.ended, told.book, fun _ => rfl⟩

theorem lasts_hook {hub : Hub} (lasts : part.lasts world id hub task = true) : world.raises (.terminalHook id) = false := by
  have hook := (Bool.and_eq_true_iff.mp lasts).1
  rwa [Bool.not_eq_true'] at hook

theorem followed_congr {hub after : Hub} {row : Task} (orgs : after.orgs = hub.orgs) (fields : row.metaDict = task.metaDict)
    (orgId : row.orgId = task.orgId) : Section.followed world id after row = Section.followed world id hub task := by
  rw [Section.followed, Section.followed, orgs, fields, orgId]

theorem source_asks (request : System.Request) : (Section.asks request).source id ≠ .outcome := by
  cases request with
  | retry other orgId now =>
    rw [Section.source]
    split <;> decide
  | _ => exact (by decide : Source.request ≠ .outcome)

/-- An answer to a post is handled on the row that the post has left. -/
theorem lasts_report {hub : Hub} {node : Nat} (lasts : Section.lasts world id hub task (.accepts node body) = true) :
    reportsSuccess body = true →
      Section.settles world id hub (dispatched node (reportedTaskId world.python body) task) body = true := by
  intro success
  simp only [Section.lasts, success, Bool.not_true, Bool.false_or, Bool.and_eq_true] at lasts
  exact lasts.2

theorem section_speaks (part : Section) (own : part.source id = .outcome) (found : s.working.tasks.find id = some task)
    (below : id < s.working.nextId)
    (lasting : part.announces world task = true → part.lasts world id s.working task = true) :
    wp (part.program world id) (fun _ after => Spoken world id task part s after) (Unsaid s) s := by
  -- the row that is announced is still there when the hooks run
  have hook (announces : part.announces world task = true) := lasts_hook (lasting announces)
  cases part with
  | timesOut pool =>
    refine wp_whenever found (fun queued => ?_) fun _ => .unchanged found
    rw [wp_bind]
    refine wp_mono (maybeTimeout_speaks found pool fun late => hook (Bool.and_eq_true_iff.mpr ⟨queued, late⟩)) ?_
      fun _ _ quiet => quiet
    rintro _ after (rfl | ⟨late, spoke⟩)
    · exact .unchanged found
    · exact .told (Bool.and_eq_true_iff.mpr ⟨queued, late⟩) spoke
  | refuses code detail =>
    refine wp_whenever found (fun queued => ?_) fun _ => .unchanged found
    refine wp_mono (fail_announces (hook queued) found code detail) ?_ fun _ _ quiet => quiet
    rintro _ after ⟨told, _⟩
    exact .told queued ⟨_, told.found, told.ended, told.book, fun _ => rfl⟩
  | reports body =>
    refine wp_whenever found (fun polled => ?_) fun _ => .unchanged found
    have announces (tells : Section.tells body = true) : Section.announces world task (.reports body) = true :=
      Bool.and_eq_true_iff.mpr ⟨polled, tells⟩
    refine wp_mono (report_speaks found below (fun tells => hook (announces tells)) fun success => ?_) ?_ fun _ _ quiet => quiet
    · have lasts := lasting (announces (by simp [Section.tells, success]))
      simp only [Section.lasts, success, Bool.not_true, Bool.false_or, Bool.and_eq_true] at lasts
      exact lasts.2
    · rintro _ after (⟨rfl, _⟩ | ⟨tells, spoke⟩)
      · exact .unchanged found
      · exact .told (announces tells) spoke
  -- the dispatch is flushed before the report is read
  | accepts node body =>
    refine wp_whenever found (fun queued => ?_) fun _ => .unchanged found
    have announces (tells : Section.tells body = true) : Section.announces world task (.accepts node body) = true :=
      Bool.and_eq_true_iff.mpr ⟨queued, tells⟩
    rw [wp_bind]
    refine wp_quietly ?_
    rw [wp_modifyTask]
    have row : (s.working.modifyTask id (dispatched node (reportedTaskId world.python body))).tasks.find id =
        some (dispatched node (reportedTaskId world.python body) task) := by simp [found]
    refine wp_mono (report_speaks row below (fun tells => hook (announces tells)) fun success => ?_) ?_ fun _ _ quiet => quiet
    · exact lasts_report (lasting (announces (by simp [Section.tells, success]))) success
    · rintro _ after (⟨rfl, _⟩ | ⟨tells, spoke⟩)
      · exact .quiet _ row rfl (.inr rfl)
      · exact .told (announces tells) spoke
  | fails code extra =>
    refine wp_whenever found (fun ingest => ?_) fun _ => .unchanged found
    exact wp_mono (failTask_speaks found (hook ingest) code extra) (fun _ _ spoke => .told ingest spoke) fun _ _ quiet => quiet
  | imports fields result =>
    refine wp_whenever found (fun ingest => ?_) fun _ => .unchanged found
    refine wp_mono (ingested_speaks found below (hook ingest) (fun _ => rfl) (fun _ => rfl) (fun _ => Nat.le_succ _)
      (fun _ => rfl) ?_) (fun _ _ spoke => .told ingest spoke) fun _ _ quiet => quiet
    have lasts := (Bool.and_eq_true_iff.mp (lasting ingest)).2
    exact fun hub same audioId => (followed_congr same rfl rfl).trans lasts
  | captures filename fields duration =>
    refine wp_whenever found (fun ingest => ?_) fun _ => .unchanged found
    refine wp_mono (ingested_speaks found below (hook ingest) (fun _ => rfl) (fun _ => rfl) (fun _ => Nat.le_succ _)
      (fun _ => rfl) ?_) (fun _ _ spoke => .told ingest spoke) fun _ _ quiet => quiet
    have lasts := (Bool.and_eq_true_iff.mp (lasting ingest)).2
    exact fun hub same audioId => (followed_congr same rfl rfl).trans lasts
  | moves move =>
    rw [Section.program]
    refine wp_quietly ?_
    rw [wp_modifyTask]
    have row : (s.working.modifyTask id fun task => move.apply task).tasks.find id = some (move.apply task) := by simp [found]
    exact .quiet _ row rfl (move.apply_status task)
  -- a request does not announce the outcome of a task
  | asks request => exact absurd own (source_asks request)

/-- A request never makes a run succeed, and a retry leaves the task in the queue. -/
theorem request_edits {hub : Hub} (request : System.Request) (found : hub.tasks.find id = some task) (below : id < hub.nextId) :
    ∃ row, (request.rows hub).tasks.find id = some row ∧ (row.status = task.status ∨ row.status ≠ .success) ∧
      ((Section.asks request).source id = .retry → row.status = task.status ∨ row.status = .queued) := by
  have edited : ∃ row, (request.rows hub).tasks.find id = some row ∧
      (row.status = task.status ∨ row.status ≠ .success) := by
    rcases System.rows_effect request hub with edited | ⟨added, same, _⟩
    · rcases edited.rows id with ⟨missing, _⟩ | ⟨before, row, here, after, edit⟩
      · rw [found] at missing
        contradiction
      · obtain rfl : task = before := Option.some.inj (found.symm.trans here)
        exact ⟨row, after, edit.status.imp_right And.right⟩
    · exact ⟨task, by rw [same, Hub.addTask, Table.find_put, if_neg below.ne, found], .inl rfl⟩
  cases request with
  | retry other orgId now =>
    by_cases its : other = id
    · subst its
      obtain ⟨row, after, status⟩ := edited
      refine ⟨row, after, status, fun _ => ?_⟩
      rw [System.Request.rows, Tasks.retryTask] at after
      split at after
      · rw [find_modifyTask, if_pos rfl, found, Option.map_some] at after
        obtain rfl := Option.some.inj after
        exact .inr rfl
      · exact .inl (by rw [Option.some.inj (after.symm.trans found)])
    · obtain ⟨row, after, status⟩ := edited
      refine ⟨row, after, status, fun retries => ?_⟩
      rw [Section.source, if_neg its] at retries
      contradiction
  | _ =>
    obtain ⟨row, after, status⟩ := edited
    refine ⟨row, after, status, fun retries => ?_⟩
    exact absurd retries (by decide : Source.request ≠ .retry)

end Sections

end Rules

end IdigestHub.Announcing
