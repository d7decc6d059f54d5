import IdigestHub.Capture.Stops
import IdigestHub.System.Recordings

/-! A stop request among everything that writes the row of its capture: the thread, a tick, the recovery after a
restart, and the request itself. -/

set_option autoImplicit false

namespace IdigestHub.System

open Foundation Foundation.Runs Foundation.UnitOfWork Dispatcher Capture

/-- A hub with the drivers of one capture, and the rows that stop requests have read and will commit. `stopped` says
that a stop has been committed, `closed` that the task has been over, or a driver has seen its file, and `overwritten` that a
session has written fields over a request that were older than it. -/
structure Stopping where
  drivers : Drivers
  recovery : Driver
  stops : List Task
  stopped : Bool
  closed : Bool
  overwritten : Bool

inductive StopEvent where
  | turn (turn : Turn)
  | recover (world : World)
  | request
  | commit (n : Nat) (python : Python)
  | restart

namespace Stopping

def opened (capture : RunningCapture) (process : Process) : Stopping :=
  ⟨capture.opened process, ⟨capture.task, capture.task, .idle⟩, [], false, false, false⟩

def listed (s : Stopping) : List Nat := s.drivers.hub.nodes.entries.map Sigma.fst

/-- `stop_capture_task` marks the process with `request`, and writes the row with `commit`. -/
def react (id : Nat) (s : Stopping) : StopEvent → Stopping
  | .turn turn => { s with
    drivers := s.drivers.step id turn
    overwritten := s.overwritten || MarkedRow id s.drivers.hub && (s.drivers.driver turn.role).Overwrites turn.role }
  | .recover world =>
    let (hub, process, recovery) := s.recovery.run id s.drivers.hub s.drivers.process
      (recoverySection world id s.listed s.recovery.phase)
    { s with
      drivers := { s.drivers with hub, process }
      recovery
      overwritten := s.overwritten || MarkedRow id s.drivers.hub && s.recovery.RecoveryOverwrites }
  | .request =>
    match s.drivers.hub.tasks.find id with
    | none => s
    | some task =>
      if Tasks.stoppable task then { s with
        drivers := { s.drivers with process := Tasks.stopSignal id s.drivers.hub s.drivers.process }
        stops := s.stops ++ [task] }
      else s
  | .commit n python =>
    match s.stops[n]? with
    | none => s
    | some task => { s with
      drivers := { s.drivers with
        hub := s.drivers.hub.modifyTask id (Task.merged task (Tasks.stopMarked python task)) }
      stops := s.stops.eraseIdx n
      stopped := true
      overwritten := s.overwritten && (Tasks.stopMarked python task).metaJson == task.metaJson }
  -- Memory and sessions are gone; the recovery begins.
  | .restart => { s with
    drivers := { s.drivers with
      process := Process.fresh
      driver := fun role => { s.drivers.driver role with phase := .idle } }
    recovery := { s.recovery with phase := .loaded }
    stops := [] }

def closes (id : Nat) (s : Stopping) : Bool :=
  (s.drivers.hub.tasks.find id).all (fun task => !task.active) ||
    (s.drivers.driver .thread).phase.shown || (s.drivers.driver .tick).phase.shown

def step (id : Nat) (s : Stopping) (event : StopEvent) : Stopping :=
  let after := s.react id event
  { after with closed := s.closed || after.closes id }

end Stopping

/-- A stop has been committed, and nothing has settled the task since. -/
def Stopping.Due (s : Stopping) : Prop := s.stopped = true ∧ s.closed = false

instance Stopping.due_decidable (s : Stopping) : Decidable s.Due := inferInstanceAs (Decidable (_ ∧ _))

/-- While a stop is due, `capture_stop_pending` is true of the task, and of the object of every driver that has polled. -/
def StopPending (id : Nat) (s : Stopping) : Prop :=
  s.Due →
    (∃ task, s.drivers.hub.tasks.find id = some task ∧ captureStopPending s.drivers.process id task = true) ∧
    (∀ role, (s.drivers.driver role).phase.isDeciding = true →
      captureStopPending s.drivers.process id (s.drivers.driver role).own = true) ∧
    (s.recovery.phase.isDeciding = true → captureStopPending s.drivers.process id s.recovery.own = true)

/-- No session has read anything that it may write over a request. -/
structure Spared (s : Stopping) : Prop where
  driver : ∀ role, (s.drivers.driver role).Spares
  recovery : s.recovery.phase.recovers = true → s.recovery.Marks

/-- A process forgets its stops when it restarts, and a thread its own when it ends: no session may have written over a due stop
then, and none may be about to. A request that comes after that must not have read one that has been written over. -/
def Heeds (id : Nat) (s : Stopping) : StopEvent → Prop
  | .restart => s.Due → s.overwritten = false
  | .turn turn => s.Due → (s.drivers.driver turn.role).phase.isLeaving = true → s.overwritten = false ∧ Spared s
  | .commit n _ => s.closed = false → id ∉ s.drivers.process.stopRequested →
    ∀ task, s.stops[n]? = some task → (Marked task → s.overwritten = false) ∧ Spared s
  | .recover _ | .request => True

instance Spared.decidable (s : Stopping) : Decidable (Spared s) :=
  decidable_of_iff ((s.drivers.driver .thread).Spares ∧ (s.drivers.driver .tick).Spares ∧
    (s.recovery.phase.recovers = true → s.recovery.Marks))
    ⟨fun ⟨thread, tick, recovery⟩ => ⟨fun role => match role with
      | .thread => thread
      | .tick => tick, recovery⟩,
    fun spared => ⟨spared.driver .thread, spared.driver .tick, spared.recovery⟩⟩

instance Heeds.decidable (id : Nat) (s : Stopping) : ∀ event, Decidable (Heeds id s event)
  | .restart => inferInstanceAs (Decidable (_ → _))
  | .turn _ => inferInstanceAs (Decidable (_ → _ → _ ∧ _))
  | .commit n _ => inferInstanceAs (Decidable (_ → _ → ∀ task ∈ s.stops[n]?, _ ∧ _))
  | .recover _ | .request => .isTrue trivial

section Heeding

variable {id : Nat} {s : Stopping}

def Stopping.Asked (s : Stopping) : Prop := s.stopped = true ∨ ∃ task ∈ s.stops, Marked task

/-- The row is there, and shows every request that has been committed or read unless one has been written over. No session is
about to write over a due one that the process does not remember. -/
structure Heeded (id : Nat) (s : Stopping) : Prop where
  present : Present id s.drivers.hub
  shown : ∀ role, (s.drivers.driver role).phase.shown = true → s.closed = true
  kept : s.closed = false → s.overwritten = false → s.Asked → MarkedRow id s.drivers.hub
  known : s.Due → id ∉ s.drivers.process.stopRequested → s.overwritten = false ∧ Spared s

theorem Heeded.opened (capture : RunningCapture) (process : Process) : Heeded capture.id (Stopping.opened capture process) where
  present := by simp [Present, Stopping.opened, RunningCapture.opened, Drivers.opened, capture.stored]
  shown role seen := by contradiction
  kept _ _ asked := by simp [Stopping.Asked, Stopping.opened] at asked
  known due := by simp [Stopping.Due, Stopping.opened] at due

theorem Heeded.row (heeded : Heeded id s) (due : s.Due) (whole : s.overwritten = false) : MarkedRow id s.drivers.hub :=
  heeded.kept due.2 whole (.inl due.1)

theorem Heeded.pending (heeded : Heeded id s) : StopPending id s := by
  intro due
  obtain ⟨task, found⟩ := Option.isSome_iff_exists.mp heeded.present
  by_cases remembered : id ∈ s.drivers.process.stopRequested
  · have always (task : Task) : captureStopPending s.drivers.process id task = true := by
      simp [captureStopPending, remembered]
    exact ⟨⟨task, found, always task⟩, fun _ _ => always _, fun _ => always _⟩
  · obtain ⟨whole, spared⟩ := heeded.known due remembered
    obtain ⟨row, its, marked⟩ := heeded.row due whole
    have asks {task : Task} (marked : Marked task) : captureStopPending s.drivers.process id task = true := by
      rw [captureStopPending, show Dispatcher.isTrue _ = true from marked, Bool.or_true]
    refine ⟨⟨row, its, asks marked⟩, fun role deciding => ?_, fun deciding => ?_⟩
    · rcases spared.driver role with begins | marks | ⟨leaving, _⟩
      · cases phase : (s.drivers.driver role).phase <;> simp_all [Phase.isDeciding, Phase.begins]
      · exact asks marks.2
      · cases phase : (s.drivers.driver role).phase <;> simp_all [Phase.isDeciding, Phase.isLeaving]
    · refine asks (spared.recovery ?_).2
      cases phase : s.recovery.phase <;> simp_all [Phase.isDeciding, Phase.recovers]

theorem Heeded.of_react {event : StopEvent} (present : Present id (s.react id event).drivers.hub)
    (kept : s.closed = false → (s.react id event).overwritten = false → (s.react id event).Asked →
      MarkedRow id (s.react id event).drivers.hub)
    (known : (s.react id event).stopped = true → s.closed = false →
      (∀ role, ((s.react id event).drivers.driver role).phase.shown = false) →
      id ∉ (s.react id event).drivers.process.stopRequested →
      (s.react id event).overwritten = false ∧ Spared (s.react id event)) : Heeded id (s.step id event) := by
  have closing (role : Role) (seen : ((s.react id event).drivers.driver role).phase.shown = true) :
      (s.step id event).closed = true := by
    cases role with
    | thread => simp [Stopping.step, Stopping.closes, seen]
    | tick => simp [Stopping.step, Stopping.closes, seen]
  have opened (still : (s.step id event).closed = false) : s.closed = false := by
    simp only [Stopping.step, Bool.or_eq_false_iff] at still
    exact still.1
  refine ⟨present, closing, fun still whole asked => kept (opened still) whole asked, fun due forgotten => ?_⟩
  have unshown (role : Role) : ((s.react id event).drivers.driver role).phase.shown = false := by
    by_contra seen
    have closed := closing role (by simpa using seen)
    rw [due.2] at closed
    exact Bool.noConfusion closed
  obtain ⟨whole, spared⟩ := known due.1 (opened due.2) unshown forgotten
  exact ⟨whole, spared.driver, spared.recovery⟩

theorem Heeded.still (heeded : Heeded id s) {event : StopEvent} (same : s.react id event = s) : Heeded id (s.step id event) := by
  refine .of_react (same.symm ▸ heeded.present) ?_ ?_
  · rw [same]
    exact heeded.kept
  · rw [same]
    exact fun stopped still _ => heeded.known ⟨stopped, still⟩

theorem Spared.turned {driver : Driver} (spared : Spared s) {after : Stopping} {role : Role}
    (drivers : after.drivers.driver = Function.update s.drivers.driver role driver) (recovery : after.recovery = s.recovery)
    (its : driver.Spares) : Spared after := by
  refine ⟨fun other => ?_, recovery ▸ spared.recovery⟩
  rw [drivers]
  by_cases same : other = role
  · subst same
    simpa using its
  · simpa [Function.update_of_ne same] using spared.driver other

theorem Spared.not_overwrites (spared : Spared s) (role : Role) : ¬(s.drivers.driver role).Overwrites role := by
  rintro ⟨begins, marks, writes⟩
  rcases spared.driver role with anew | read | ⟨leaving, same⟩
  · rw [begins] at anew
    contradiction
  · exact marks read
  · cases phase : (s.drivers.driver role).phase <;> simp_all [Driver.writes, Phase.isLeaving]

theorem Heeded.turn (heeded : Heeded id s) {turn : Turn} (heeds : Heeds id s (.turn turn)) :
    Heeded id (s.step id (.turn turn)) := by
  obtain ⟨stored, found⟩ := Option.isSome_iff_exists.mp heeded.present
  let ran := (s.drivers.driver turn.role).run id s.drivers.hub s.drivers.process
    (sectionOf turn.world id turn.detail turn.role (s.drivers.driver turn.role).phase)
  have acts (waits : s.drivers.blocked turn.role = false) : (s.react id (.turn turn)).drivers =
      ⟨ran.1, ran.2.1, Function.update s.drivers.driver turn.role ran.2.2,
        s.drivers.first.or ((ran.1.tasks.find id).filter fun task => task.audioId.isSome)⟩ := by
    simp [Stopping.react, Drivers.step, waits, ran]
  have whole_before (whole : (s.react id (.turn turn)).overwritten = false) :
      s.overwritten = false ∧ (MarkedRow id s.drivers.hub → ¬(s.drivers.driver turn.role).Overwrites turn.role) := by
    simpa [Stopping.react] using whole
  have whole_after (whole : s.overwritten = false) (spared : Spared s) : (s.react id (.turn turn)).overwritten = false := by
    simp [Stopping.react, whole, spared.not_overwrites turn.role]
  by_cases shown : (s.drivers.driver turn.role).phase.shown = true
  -- The file has been seen: nothing is due any more.
  · have closed := heeded.shown turn.role shown
    refine .of_react ?_ (fun still => ?_) fun _ still => ?_
    · by_cases waits : s.drivers.blocked turn.role = true
      · simpa [Stopping.react, Drivers.step, waits] using heeded.present
      · rw [acts (by simpa using waits)]
        exact (run_present _ _ found (stores_of_lasts (fun _ => true) (section_present turn.world turn.detail turn.role shown))).1
    · rw [closed] at still
      contradiction
    · rw [closed] at still
      contradiction
  have unshown : (s.drivers.driver turn.role).phase.shown = false := by simpa using shown
  have waits : s.drivers.blocked turn.role = false := by
    cases phase : (s.drivers.driver turn.role).phase <;> simp_all [Drivers.blocked, Phase.isPersisting, Phase.shown]
  have kept (still : s.closed = false) (whole : (s.react id (.turn turn)).overwritten = false)
      (asked : (s.react id (.turn turn)).Asked) : MarkedRow id ran.1 := by
    obtain ⟨before, spares⟩ := whole_before whole
    obtain ⟨row, its, marked⟩ := heeded.kept still before asked
    obtain rfl : row = stored := Option.some.inj (its.symm.trans found)
    exact section_spares turn.world turn.detail turn.role s.drivers.process found marked unshown (spares ⟨row, its, marked⟩)
  by_cases leaves : (s.drivers.driver turn.role).phase.isLeaving = true
  · have left := leaves_present s.drivers.process turn.world turn.detail turn.role found leaves
    refine .of_react ?_ ?_ fun stopped still _ _ => ?_
    · rw [acts waits]
      exact left.1
    · rw [acts waits]
      exact kept
    · obtain ⟨whole, spared⟩ := heeds ⟨stopped, still⟩ leaves
      exact ⟨whole_after whole spared, spared.turned (congrArg Drivers.driver (acts waits)) rfl
        (.inl (congrArg Phase.begins left.2))⟩
  · have stays : (s.drivers.driver turn.role).phase.isLeaving = false := by simpa using leaves
    have remembers := run_present (s.drivers.driver turn.role) s.drivers.process found
      (section_stores turn.world (present_regular id) turn.detail turn.role unshown stays)
    refine .of_react ?_ ?_ fun stopped still unseen forgotten => ?_
    · rw [acts waits]
      exact remembers.1
    · rw [acts waits]
      exact kept
    · rw [acts waits] at unseen forgotten
      obtain ⟨whole, spared⟩ := heeded.known ⟨stopped, still⟩ (remembers.2 ▸ forgotten)
      obtain ⟨row, its, marked⟩ := heeded.row ⟨stopped, still⟩ whole
      obtain rfl : row = stored := Option.some.inj (its.symm.trans found)
      have marks := run_marks s.drivers.process found marked
        (section_stores turn.world (markedRow_regular id) turn.detail turn.role unshown stays)
        (reader_marks turn.world turn.detail turn.role marked (spared.driver turn.role) unshown stays)
      refine ⟨whole_after whole spared, spared.turned (congrArg Drivers.driver (acts waits)) rfl (.inr (.inl (marks.2 ?_)))⟩
      simpa using unseen turn.role

theorem Heeded.recovers (heeded : Heeded id s) (world : World) : Heeded id (s.step id (.recover world)) := by
  obtain ⟨stored, found⟩ := Option.isSome_iff_exists.mp heeded.present
  have lasts {P : Hub → Prop} (regular : Regular id P) (keeping : Phase → Bool) :
      Stores P s.drivers.process.stopRequested keeping (recoverySection world id s.listed s.recovery.phase).program :=
    stores_of_lasts keeping (recoverySection_lasts world regular s.listed s.recovery.phase)
  have remembers := run_present s.recovery s.drivers.process found (lasts (present_regular id) fun _ => true)
  refine .of_react remembers.1 (fun still whole asked => ?_) fun stopped still unseen forgotten => ?_
  · obtain ⟨before, spares⟩ : s.overwritten = false ∧ (MarkedRow id s.drivers.hub → ¬s.recovery.RecoveryOverwrites) := by
      simpa [Stopping.react] using whole
    obtain ⟨row, its, marked⟩ := heeded.kept still before asked
    obtain rfl : row = stored := Option.some.inj (its.symm.trans found)
    exact recovery_spares world s.listed s.drivers.process found marked (spares ⟨row, its, marked⟩)
  · obtain ⟨whole, spared⟩ := heeded.known ⟨stopped, still⟩ (remembers.2 ▸ forgotten)
    obtain ⟨row, its, marked⟩ := heeded.row ⟨stopped, still⟩ whole
    obtain rfl : row = stored := Option.some.inj (its.symm.trans found)
    have reads : (s.recovery.read row (recoverySection world id s.listed s.recovery.phase).reading).Marks := by
      cases phase : s.recovery.phase with
      | asked node salvage => exact spared.recovery (by rw [phase]; rfl)
      | replied node salvage reply => exact spared.recovery (by rw [phase]; rfl)
      | committing => exact spared.recovery (by rw [phase]; rfl)
      | _ => exact ⟨marked, marked⟩
    have marks := run_marks s.drivers.process found marked (lasts (markedRow_regular id) _) reads
    refine ⟨?_, spared.driver, fun recovers => marks.2 ?_⟩
    · have spares : ¬s.recovery.RecoveryOverwrites := fun ⟨recovers, unread, _⟩ => unread (spared.recovery recovers)
      simp [Stopping.react, whole, spares]
    · cases phase : (s.recovery.run id s.drivers.hub s.drivers.process
        (recoverySection world id s.listed s.recovery.phase)).2.2.phase <;> simp_all [Phase.shown, Phase.recovers, Stopping.react]

theorem Heeded.requests (heeded : Heeded id s) : Heeded id (s.step id .request) := by
  obtain ⟨stored, found⟩ := Option.isSome_iff_exists.mp heeded.present
  by_cases stoppable : Tasks.stoppable stored = true
  · have acts : s.react id .request = { s with
        drivers := { s.drivers with process := Tasks.stopSignal id s.drivers.hub s.drivers.process }
        stops := s.stops ++ [stored] } := by
      simp [Stopping.react, found, stoppable]
    refine .of_react ?_ ?_ ?_
    · rw [acts]
      exact heeded.present
    · rw [acts]
      rintro still whole (stopped | ⟨task, member, marked⟩)
      · exact heeded.kept still whole (.inl stopped)
      · rcases List.mem_append.mp member with before | last
        · exact heeded.kept still whole (.inr ⟨task, before, marked⟩)
        · exact ⟨stored, found, List.mem_singleton.mp last ▸ marked⟩
    · rw [acts]
      exact fun _ _ _ forgotten => absurd forgotten (by simp [Tasks.stopSignal, found, stoppable])
  · exact heeded.still (by simp [Stopping.react, found, stoppable])

theorem Heeded.commits (heeded : Heeded id s) {n : Nat} {python : Python} (heeds : Heeds id s (.commit n python)) :
    Heeded id (s.step id (.commit n python)) := by
  obtain ⟨stored, found⟩ := Option.isSome_iff_exists.mp heeded.present
  cases listed : s.stops[n]? with
  | none => exact heeded.still (by simp [Stopping.react, listed])
  | some task =>
    have acts : s.react id (.commit n python) = { s with
        drivers := { s.drivers with hub := s.drivers.hub.modifyTask id (Task.merged task (Tasks.stopMarked python task)) }
        stops := s.stops.eraseIdx n
        stopped := true
        overwritten := s.overwritten && (Tasks.stopMarked python task).metaJson == task.metaJson } := by
      simp [Stopping.react, listed]
    -- The request changes the fields, or it has read one that is in the row.
    have marks (still : s.closed = false) (read : Marked task → s.overwritten = false) :
        Marked (Task.merged task (Tasks.stopMarked python task) stored) := by
      refine (marked_stop python task).merged fun marked => ?_
      obtain ⟨row, its, asks⟩ := heeded.kept still (read marked) (.inr ⟨task, List.mem_of_getElem? listed, marked⟩)
      exact Option.some.inj (its.symm.trans found) ▸ asks
    refine .of_react ?_ ?_ ?_
    · rw [acts]
      exact heeded.present.modified _
    · rw [acts]
      intro still whole _
      refine ⟨_, find_modifyTask found _, ?_⟩
      by_cases same : (Tasks.stopMarked python task).metaJson = task.metaJson
      · exact marks still fun _ => by simpa [same] using whole
      · have written : (Task.merged task (Tasks.stopMarked python task) stored).metaJson =
          (Tasks.stopMarked python task).metaJson :=
          if_neg same
        rw [Marked, Task.metaDict, written]
        exact marked_stop python task
    · rw [acts]
      intro _ still _ forgotten
      obtain ⟨read, spared⟩ := heeds still forgotten task listed
      refine ⟨?_, spared.driver, spared.recovery⟩
      by_cases same : (Tasks.stopMarked python task).metaJson = task.metaJson
      · have marked : Marked task := by
          have asks := marked_stop python task
          rwa [Marked, Task.metaDict, same] at asks
        simp [read marked]
      · simp [same]

theorem Heeded.restarts (heeded : Heeded id s) (heeds : Heeds id s .restart) : Heeded id (s.step id .restart) := by
  refine .of_react heeded.present (fun still whole asked => heeded.kept still whole (.inl ?_)) fun stopped still _ _ => ?_
  · exact asked.resolve_right (by simp [Stopping.react])
  · refine ⟨heeds ⟨stopped, still⟩, fun _ => .inl rfl, fun recovers => ?_⟩
    contradiction

theorem Heeded.step (heeded : Heeded id s) {event : StopEvent} (heeds : Heeds id s event) : Heeded id (s.step id event) := by
  cases event with
  | turn turn => exact heeded.turn heeds
  | recover world => exact heeded.recovers world
  | request => exact heeded.requests
  | commit n python => exact heeded.commits heeds
  | restart => exact heeded.restarts heeds

/-- A stop that is committed stays pending until the task is over or its file has been seen, as long as no process
forgets one that the row does not show. -/
theorem stop_stays_pending (capture : RunningCapture) (process : Process) {events : List StopEvent}
    (heeds : Along (Stopping.step capture.id) (Heeds capture.id) (.opened capture process) events) :
    Always (Stopping.step capture.id) (StopPending capture.id) (.opened capture process) events := by
  have always := always_of_along (fun _ _ heeded now => heeded.step now) (Heeded.opened capture process) heeds
  exact fun done rest same => (always done rest same).pending

end Heeding

section Samples

def recordingWorld : World := { silentWorld with
  getTask := fun _ => .answer 200 [("status", .str "capturing")] }

def rounds (n : Nat) : List StopEvent := List.replicate n (.turn ⟨.thread, recordingWorld, ""⟩)

/-- The thread reads the row again after the stop; the hub restarts, and the recovery asks the worker. -/
def reread : List StopEvent :=
  rounds 4 ++ [.request, .commit 0 plainPython] ++ rounds 3 ++ [.restart] ++ List.replicate 4 (.recover recordingWorld)

theorem reread_stop_stays :
    Always (Stopping.step meeting.id) (StopPending meeting.id) (.opened meeting spawned) reread :=
  stop_stays_pending meeting spawned (by decide +kernel)

/-- The thread asks the worker, a stop is committed, and the thread writes the fields that it had read before. -/
def overwritten : List StopEvent := rounds 3 ++ [.request, .commit 0 plainPython] ++ rounds 1 ++ [.restart]

theorem overwritten_stop_is_lost :
    ¬ Always (Stopping.step meeting.id) (StopPending meeting.id) (.opened meeting spawned) overwritten := by
  intro always
  obtain ⟨task, found, pending⟩ := (always _ [] (List.append_nil _).symm (by decide +kernel)).1
  have lost : ((run (Stopping.step meeting.id) (.opened meeting spawned) overwritten).drivers.hub.tasks.find meeting.id).all
      (fun task => !captureStopPending (run (Stopping.step meeting.id) (.opened meeting spawned) overwritten).drivers.process
        meeting.id task) = true := by
    decide +kernel
  rw [found, Option.all_some, pending] at lost
  contradiction

end Samples

end IdigestHub.System
