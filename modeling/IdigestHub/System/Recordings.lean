import IdigestHub.Capture.Sections
import IdigestHub.System.Failures

/-! A capture task that its thread and the dispatcher's ticks finish at the same time: it gets one file
and one follow-up, and keeps the row that the first of them committed as long as the other one does not
write to it outside the lock. -/

set_option autoImplicit false

namespace IdigestHub.System

open Foundation Foundation.Runs Foundation.UnitOfWork Capture

structure RunningCapture where
  hub : Hub
  id : Nat
  task : Task
  stored : hub.tasks.find id = some task
  capture : task.type = .capture
  running : stillRunning task = true
  numbered : id < hub.nextId

def RunningCapture.opened (capture : RunningCapture) (process : Process) : Drivers :=
  .opened capture.hub process capture.task

def IsNew {R : Type} (before after : Table Nat R) (key : Nat) : Prop :=
  before.find key = none ∧ (after.find key).isSome

structure OneRecording (start hub : Hub) : Prop where
  audios : ∀ first second, IsNew start.audios hub.audios first → IsNew start.audios hub.audios second → first = second
  tasks : ∀ first second, IsNew start.tasks hub.tasks first → IsNew start.tasks hub.tasks second → first = second

def Settled (id : Nat) (s : Drivers) : Prop := ∀ row, s.first = some row → s.hub.tasks.find id = some row

/-- The next section of a driver writes nothing over a row that has its file: the thread does not act
on an answer that came after the file, unless to salvage it, its exception handler does not run, and
nothing unsaved is left to commit. -/
def Leaves (id : Nat) (turn : Turn) (driver : Driver) : Prop :=
  match driver.phase with
  | .posting node => turn.world.post id node = .raises
  | .replied _ salvage (.answer code poll) =>
    turn.role = .thread → salvage = true ∧ code = 200 ∧ artifactReadyInPoll turn.world.python poll = true
  | .raised => False
  | .starting => driver.own = driver.base ∧ driver.own.status ≠ .queued
  | .loaded | .polling _ | .leaving _ | .committing => driver.own = driver.base
  | _ => True

def Careful (id : Nat) (s : Drivers) (turn : Turn) : Prop :=
  s.first.isSome → Leaves id turn (s.driver turn.role)

section Saving

variable {id : Nat} {allowed : ErrorCode → Prop}

/-- The last section of a persist: it stores the file with the row, or keeps the store level. -/
theorem persistSaved_outcome {hub : Hub} (ordinary : ∀ code, code ≠ .canceled → allowed code) (below : id < hub.nextId)
    (world : World) (fields : Dict) (duration : Option Decimal) {s : Session Hub Process}
    (levels : Levels hub id (Fits none allowed) s) :
    wp (persistSaved world id fields duration)
      (fun _ after =>
        Levels hub id (Fits none allowed) after ∧ ((world.artifact id).downloaded = true → Over id after.working) ∧
            (∀ filename, world.artifact id ≠ .stored filename) ∨
          Recorded hub id after.committed ∧ after.working = after.committed)
      (fun _ after => Level hub id (Fits none allowed) after.committed) s := by
  by_cases stored : ∃ filename, world.artifact id = .stored filename
  · obtain ⟨filename, stored⟩ := stored
    exact wp_mono (persistSaved_records fields duration stored below levels) (fun _ _ held => .inr held) fun _ _ held => held
  · have keeps := persistSaved_over ordinary fields duration
      (fun filename is_stored => stored ⟨filename, is_stored⟩) s levels
    exact wp_mono keeps (fun _ _ held => .inl ⟨held.1, held.2, fun filename is_stored => stored ⟨filename, is_stored⟩⟩)
      fun _ _ held => held.committed

inductive Saved (hub : Hub) (id : Nat) (allowed : ErrorCode → Prop) (role : Role) (node : Nat) (artifact : Artifact)
    (after : Hub) (driver : Driver) : Prop where
  | recorded (stored : Recorded hub id after) (clean : driver.own = driver.base)
      (same : ∀ row, after.tasks.find id = some row → driver.base.audioId = row.audioId)
      (phase : driver.phase = role.afterPersist node)
  | failed (level : Level hub id (Fits none allowed) after) (base : Fits none allowed driver.base)
      (phase : driver.phase = role.failure ∨ driver.phase = role.afterPersist node ∧
        Fits none allowed driver.own ∧ (artifact.downloaded = true → stillRunning driver.own = false) ∧
        ∀ filename, artifact ≠ .stored filename)

theorem run_saving (world : World) (detail : String) (role : Role) (node : Nat) (fields : Dict) (duration : Option Decimal)
    (artifact : Artifact) (ordinary : ∀ code, code ≠ .canceled → allowed code) {driver : Driver} {hub : Hub} {task : Task}
    (found : hub.tasks.find id = some task) (below : id < hub.nextId) (stored : Fits none allowed task)
    (base : Fits none allowed driver.base) (own : Fits none allowed driver.own) (process : Process) :
    let result := driver.run id hub process (sectionOf world id detail role (.saving node fields duration artifact))
    Saved hub id allowed role node artifact result.1 result.2.2 := by
  have held : wp (sectionOf world id detail role (.saving node fields duration artifact)).program
      (fun next after => next = role.afterPersist node ∧
        (Levels hub id (Fits none allowed) after ∧ (artifact.downloaded = true → Over id after.working) ∧
            (∀ filename, artifact ≠ .stored filename) ∨
          Recorded hub id after.committed ∧ after.working = after.committed))
      (fun _ after => Level hub id (Fits none allowed) after.committed) (driver.session id hub process) := by
    rw [sectionOf, wp_bind]
    exact wp_mono (persistSaved_outcome ordinary below _ fields duration (session_levels found base own process))
      (fun _ _ held => ⟨rfl, held⟩) fun _ _ held => held
  have kept (after : Hub) (level : Level hub id (Fits none allowed) after) :
      Level hub id (Fits none allowed) (after.modifyTask id fun row => Task.merged driver.base row task) := by
    refine level.modify fun written fit => ?_
    exact fit.merged (fit.audioId.trans base.audioId.symm) stored
  simp only [Driver.run, found, Option.getD_some, Tx.run]
  -- the section that saves does not read the row again
  have stale : driver.read task (sectionOf world id detail role (.saving node fields duration artifact)).reading = driver := rfl
  rw [stale]
  simp only [wp] at held
  generalize (sectionOf world id detail role (.saving node fields duration artifact)).program
    (driver.session id hub process) = ran at held
  obtain ⟨outcome, after⟩ := ran
  cases outcome with
  | error fault =>
    obtain ⟨written, here, fit⟩ := held.row
    refine .failed (kept _ held) ?_ (.inl rfl)
    simpa [here] using fit
  | ok next =>
    obtain ⟨rfl, ⟨levels, ended, unstored⟩ | ⟨recorded, same⟩⟩ := held
    · obtain ⟨written, here, fit⟩ := levels.committed.row
      obtain ⟨object, shown, object_fit⟩ := levels.working.row
      refine .failed (kept _ levels.committed) ?_ (.inr ⟨rfl, ?_, fun downloaded => ?_, unstored⟩)
      · simpa [here] using fit
      · simpa [shown] using object_fit
      · simpa [shown] using ended downloaded object shown
    · obtain ⟨written, here, file⟩ := recorded.row
      -- the commit writes the columns that have changed, and the file is one of them
      have merged_row : (after.committed.modifyTask id fun row => Task.merged driver.base row task).tasks.find id =
          some (Task.merged driver.base written task) := by
        simp [Hub.modifyTask, Table.find_modify, here]
      have merged_file : (Task.merged driver.base written task).audioId = written.audioId := by
        simp [Task.merged, column, base.audioId, file]
      refine .recorded ⟨recorded.audios, ⟨_, merged_row, merged_file.trans file⟩, ?_⟩ ?_ ?_ rfl
      · have same_others (other : Nat) (different : other ≠ id) :
            (after.committed.modifyTask id fun row => Task.merged driver.base row task).tasks.find other =
              after.committed.tasks.find other := by
          simp [Hub.modifyTask, Table.find_modify, different]
        rcases recorded.tasks with none_added | ⟨followUp, added⟩
        · exact .inl fun other different => (same_others other different).trans (none_added other different)
        · exact .inr ⟨followUp, fun other different => (same_others other different).trans (added other different)⟩
      · simp [same, here]
      · intro row stored
        obtain rfl := Option.some.inj (merged_row.symm.trans stored)
        simpa [here] using merged_file.symm

end Saving

section Single

variable {capture : RunningCapture}

/-- What has been stored so far: nothing, or one file with its row. -/
inductive Library (capture : RunningCapture) (hub : Hub) : Prop where
  | unrecorded (level : Level capture.hub capture.id (fun task => task.audioId = none) hub)
  | recorded (recorded : Recorded capture.hub capture.id hub)

theorem Library.row {hub : Hub} (library : Library capture hub) : ∃ task, hub.tasks.find capture.id = some task := by
  cases library with
  | unrecorded level => exact level.row.imp fun _ found => found.1
  | recorded recorded => exact recorded.row.imp fun _ found => found.1

theorem Library.one {hub : Hub} (library : Library capture hub) : OneRecording capture.hub hub := by
  have added_task (key : Nat) (new : IsNew capture.hub.tasks hub.tasks key) : key ≠ capture.id := by
    rintro rfl
    exact absurd (capture.stored.symm.trans new.1) (by simp)
  have others_only (others : ∀ other, other ≠ capture.id → hub.tasks.find other = capture.hub.tasks.find other)
      (key : Nat) : ¬ IsNew capture.hub.tasks hub.tasks key := by
    intro new
    have same := others key (added_task key new)
    rw [IsNew, same, new.1] at new
    exact absurd new.2 (by simp)
  cases library with
  | unrecorded level =>
    refine ⟨fun key _ new => ?_, fun key _ new => absurd new (others_only level.others key)⟩
    rw [IsNew, level.audios] at new
    rw [new.1] at new
    exact absurd new.2 (by simp)
  | recorded recorded =>
    obtain ⟨audio, audios⟩ := recorded.audios
    have file (key : Nat) (new : IsNew capture.hub.audios hub.audios key) : key = capture.hub.nextId := by
      by_contra different
      rw [IsNew, audios, Table.find_put, if_neg different] at new
      rw [new.1] at new
      exact absurd new.2 (by simp)
    refine ⟨fun key key' new new' => (file key new).trans (file key' new').symm, fun key key' new new' => ?_⟩
    rcases recorded.tasks with others | ⟨followUp, others⟩
    · exact absurd new (others_only others key)
    · have follow_up (key : Nat) (new : IsNew capture.hub.tasks hub.tasks key) : key = capture.hub.nextId + 1 := by
        by_contra different
        have same := others key (added_task key new)
        rw [if_neg different] at same
        rw [IsNew, same, new.1] at new
        exact absurd new.2 (by simp)
      exact (follow_up key new).trans (follow_up key' new').symm

theorem Library.level {hub after : Hub} (library : Library capture hub) {task row : Task}
    (found : hub.tasks.find capture.id = some task) (audios : after.audios = hub.audios) (nextId : after.nextId = hub.nextId)
    (others : ∀ other, other ≠ capture.id → after.tasks.find other = hub.tasks.find other)
    (stored : after.tasks.find capture.id = some row) (file : row.audioId = task.audioId) : Library capture after := by
  cases library with
  | unrecorded level =>
    obtain ⟨its, here, none_file⟩ := level.row
    obtain rfl : task = its := Option.some.inj (found.symm.trans here)
    exact .unrecorded ⟨audios.trans level.audios, nextId.trans level.nextId,
      fun other different => (others other different).trans (level.others other different), row, stored,
      file.trans none_file⟩
  | recorded recorded =>
    obtain ⟨its, here, some_file⟩ := recorded.row
    obtain rfl : task = its := Option.some.inj (found.symm.trans here)
    obtain ⟨audio, put⟩ := recorded.audios
    refine .recorded ⟨⟨audio, audios.trans put⟩, ⟨row, stored, file.trans some_file⟩, ?_⟩
    rcases recorded.tasks with same | ⟨followUp, added⟩
    · exact .inl fun other different => (others other different).trans (same other different)
    · exact .inr ⟨followUp, fun other different => (others other different).trans (added other different)⟩

theorem Library.open {hub : Hub} (library : Library capture hub) {task : Task}
    (found : hub.tasks.find capture.id = some task) (file : task.audioId = none) :
    Level capture.hub capture.id (fun task => task.audioId = none) hub := by
  cases library with
  | unrecorded level => exact level
  | recorded recorded =>
    obtain ⟨its, here, some_file⟩ := recorded.row
    obtain rfl : task = its := Option.some.inj (found.symm.trans here)
    rw [file] at some_file
    contradiction

theorem recorded_of_level {hub after : Hub} (level : Level capture.hub capture.id (fun task => task.audioId = none) hub)
    (recorded : Recorded hub capture.id after) : Recorded capture.hub capture.id after := by
  obtain ⟨audio, audios⟩ := recorded.audios
  obtain ⟨row, here, file⟩ := recorded.row
  refine ⟨⟨audio, by rw [audios, level.audios, level.nextId]⟩, ⟨row, here, by rw [file, level.nextId]⟩, ?_⟩
  rcases recorded.tasks with same | ⟨followUp, added⟩
  · exact .inl fun other different => (same other different).trans (level.others other different)
  · refine .inr ⟨followUp, fun other different => ?_⟩
    rw [added other different, level.nextId, level.others other different]

/-- A driver whose object is one that its session has read. -/
def Phase.known : Phase → Bool
  | .idle | .raised => false
  | _ => true

structure Tidy (hub : Hub) (id : Nat) (driver : Driver) : Prop where
  object : Phase.known driver.phase = true → driver.own.audioId = driver.base.audioId
  holder : driver.phase.locks = true →
    driver.own.audioId = none ∧ ∀ task, hub.tasks.find id = some task → task.audioId = none
  sound : driver.phase.sound = true

theorem reading_fresh {world : World} {id : Nat} {detail : String} {role : Role} {phase : Phase}
    (unknown : Phase.known phase = false) : (sectionOf world id detail role phase).reading = .fresh := by
  cases phase <;> first | contradiction | rfl | (cases role <;> rfl)

theorem Tidy.reader {hub : Hub} {id : Nat} {driver : Driver} (tidy : Tidy hub id driver) (world : World) (detail : String)
    (role : Role) (task : Task) :
    let reader := driver.read task (sectionOf world id detail role driver.phase).reading
    reader.own.audioId = reader.base.audioId := by
  dsimp only
  cases known : Phase.known driver.phase with
  | false => rw [reading_fresh known]; rfl
  | true =>
    have same := tidy.object known
    cases (sectionOf world id detail role driver.phase).reading with
    | stale => exact same
    | refreshed => simp [Driver.read, Task.merged, same]
    | fresh => rfl

theorem reader_current {driver : Driver} {task : Task} {world : World} {id : Nat} {detail : String} {role : Role}
    {phase : Phase} (agrees : Phase.known phase = true → driver.base.audioId = task.audioId) :
    (driver.read task (sectionOf world id detail role phase).reading).base.audioId = task.audioId := by
  cases known : Phase.known phase with
  | false => rw [reading_fresh known]; rfl
  | true =>
    cases (sectionOf world id detail role phase).reading with
    | stale => exact agrees known
    | refreshed => rfl
    | fresh => rfl

structure Advanced (capture : RunningCapture) (task : Task) (before : Driver) (after : Hub) (driver : Driver) : Prop where
  library : Library capture after
  tidy : Tidy after capture.id driver
  enters : driver.phase.locks = true → (before.phase.isPersisting || before.phase.locks) = true
  file : before.phase.locks = false → ∀ row, after.tasks.find capture.id = some row → row.audioId = task.audioId
  current : (Phase.known before.phase = true → before.base.audioId = task.audioId) → Phase.known driver.phase = true →
    ∀ row, after.tasks.find capture.id = some row → driver.base.audioId = row.audioId

section Advancing

variable {hub : Hub} {driver : Driver} {task : Task} (library : Library capture hub) (tidy : Tidy hub capture.id driver)
  (found : hub.tasks.find capture.id = some task)

include library tidy found

theorem run_advanced_saving (world : World) (detail : String) (role : Role) (process : Process) {node : Nat} {fields : Dict}
    {duration : Option Decimal} {artifact : Artifact} (phase : driver.phase = .saving node fields duration artifact) :
    let result := driver.run capture.id hub process
      (sectionOf world capture.id detail role (.saving node fields duration artifact))
    Advanced capture task driver result.1 result.2.2 := by
  have inside : driver.phase.locks = true := by rw [phase]; rfl
  obtain ⟨none_own, none_stored⟩ := tidy.holder inside
  have none_base : driver.base.audioId = none := by
    rw [← tidy.object (by rw [phase]; rfl)]
    exact none_own
  have level := library.open found (none_stored task found)
  have below : capture.id < hub.nextId := level.nextId ▸ capture.numbered
  have fits (row : Task) (file : row.audioId = none) : Fits none (fun _ => True) row := ⟨file, fun _ _ => trivial⟩
  have saved := run_saving world detail role node fields duration artifact (fun _ _ => trivial) found below
    (fits _ (none_stored task found)) (fits _ none_base) (fits _ none_own) process
  dsimp only at saved ⊢
  generalize driver.run capture.id hub process _ = result at saved ⊢
  -- Both drivers leave the persist lock with this section, whether or not the save goes through.
  have left (its : result.2.2.phase = role.failure ∨ result.2.2.phase = role.afterPersist node) :
      result.2.2.phase.locks = false ∧ result.2.2.phase.sound = true := by
    rcases its with failure | after
    · rw [failure]
      cases role <;> exact ⟨rfl, rfl⟩
    · rw [after]
      cases role <;> exact ⟨rfl, rfl⟩
  have advanced (library : Library capture result.1)
      (its : result.2.2.phase = role.failure ∨ result.2.2.phase = role.afterPersist node)
      (object : Phase.known result.2.2.phase = true → result.2.2.own.audioId = result.2.2.base.audioId)
      (same : ∀ row, result.1.tasks.find capture.id = some row → result.2.2.base.audioId = row.audioId) :
      Advanced capture task driver result.1 result.2.2 := by
    obtain ⟨outside, sound⟩ := left its
    refine ⟨library, ⟨object, fun locks => ?_, sound⟩, fun locks => ?_, fun unlocked => ?_, fun _ _ => same⟩
    · rw [outside] at locks
      contradiction
    · rw [outside] at locks
      contradiction
    · rw [inside] at unlocked
      contradiction
  cases saved with
  | recorded stored clean same phase =>
    exact advanced (.recorded (recorded_of_level level stored)) (.inr phase) (fun _ => by rw [clean]) same
  | failed stored base phase =>
    obtain ⟨row, here, fit⟩ := stored.row
    have same (its : Task) (found : result.1.tasks.find capture.id = some its) :
        result.2.2.base.audioId = its.audioId := by
      obtain rfl : row = its := Option.some.inj (here.symm.trans found)
      exact base.audioId.trans fit.audioId.symm
    have library := library.level found stored.audios stored.nextId stored.others here
      (fit.audioId.trans (none_stored task found).symm)
    refine advanced library (phase.imp_right fun left => left.1) ?_ same
    rcases phase with raised | ⟨_, own, _⟩
    · rw [raised]
      cases role <;> exact fun known => by contradiction
    · exact fun _ => own.audioId.trans base.audioId.symm

theorem run_advanced_other (world : World) (detail : String) (role : Role) (process : Process)
    (other : ∀ node fields duration artifact, driver.phase ≠ .saving node fields duration artifact) :
    let result := driver.run capture.id hub process (sectionOf world capture.id detail role driver.phase)
    Advanced capture task driver result.1 result.2.2 := by
  have same_object := tidy.reader world detail role task
  dsimp only at same_object ⊢
  generalize phase : driver.phase = now at same_object other
  have fits (row : Task)
      (file : row.audioId = (driver.read task (sectionOf world capture.id detail role now).reading).base.audioId) :
      Fits (driver.read task (sectionOf world capture.id detail role now).reading).base.audioId (fun _ => True) row :=
    ⟨file, fun _ _ => trivial⟩
  have ran : Ran hub capture.id task _ _ (Locking capture.id now) _ _ := Driver.run_level found <|
    wp_mono (section_stays (fun _ => trivial) detail role now other _
      (session_levels found (fits _ rfl) (fits _ same_object) process))
      (fun _ _ held => held) fun _ _ levels => ⟨levels, unlocked (failure_unlocked detail role now) _⟩
  generalize driver.run capture.id hub process _ = result at ran ⊢
  have file : (Task.merged (driver.read task (sectionOf world capture.id detail role now).reading).base
      result.2.2.base task).audioId = task.audioId := by
    simp [Task.merged, ran.base.audioId]
  obtain ⟨working, shown, sound, locking⟩ := ran.phase
  have stored (row : Task) (here : result.1.tasks.find capture.id = some row) : row.audioId = task.audioId := by
    obtain rfl := Option.some.inj (ran.row.symm.trans here)
    exact file
  refine ⟨library.level found ran.audios ran.nextId ran.others ran.row file,
    ⟨fun _ => ran.own.audioId.trans ran.base.audioId.symm, fun locks => ?_, sound⟩,
    fun locks => phase ▸ (locking locks).1, fun _ => stored, fun agrees _ row here => ?_⟩
  case refine_2 => exact ran.base.audioId.trans ((reader_current (phase ▸ agrees)).trans (stored row here).symm)
  obtain ⟨entered, running⟩ := locking locks
  have none_own : result.2.2.own.audioId = none := by
    have running := running _ shown
    simp only [stillRunning, Bool.and_eq_true, Option.isNone_iff_eq_none] at running
    exact running.1
  refine ⟨none_own, fun row here => (stored row here).trans ?_⟩
  rcases Bool.or_eq_true_iff.mp entered with waiting | inside
  · -- the row was read again inside the lock
    have own := ran.own.audioId
    cases now <;> simp only [Phase.isPersisting, Bool.false_eq_true] at waiting
    exact own.symm.trans none_own
  · exact (tidy.holder (phase ▸ inside)).2 task found

theorem run_advanced (world : World) (detail : String) (role : Role) (process : Process) :
    let result := driver.run capture.id hub process (sectionOf world capture.id detail role driver.phase)
    Advanced capture task driver result.1 result.2.2 := by
  by_cases saving : ∃ node fields duration artifact, driver.phase = .saving node fields duration artifact
  · obtain ⟨node, fields, duration, artifact, phase⟩ := saving
    have saved := run_advanced_saving library tidy found world detail role process phase
    rwa [← phase] at saved
  · exact run_advanced_other library tidy found world detail role process fun node fields duration artifact phase =>
      saving ⟨node, fields, duration, artifact, phase⟩

end Advancing

/-- What holds all along a run, whatever its turns. -/
structure Single (capture : RunningCapture) (s : Drivers) : Prop where
  library : Library capture s.hub
  tidy : ∀ role, Tidy s.hub capture.id (s.driver role)
  exclusive : ∀ role, (s.driver role).phase.locks = true → (s.driver role.other).phase.locks = false
  first : ∀ task, s.hub.tasks.find capture.id = some task → s.first.isSome = task.audioId.isSome

theorem RunningCapture.fileless (capture : RunningCapture) : capture.task.audioId = none := by
  have running := capture.running
  simp only [stillRunning, Bool.and_eq_true, Option.isNone_iff_eq_none] at running
  exact running.1

theorem Library.opened (capture : RunningCapture) : Library capture capture.hub :=
  .unrecorded ⟨rfl, rfl, fun _ _ => rfl, capture.task, capture.stored, capture.fileless⟩

theorem Single.opened (capture : RunningCapture) (process : Process) : Single capture (capture.opened process) := by
  refine ⟨.opened capture, fun _ => ⟨fun _ => rfl, fun locks => by contradiction, rfl⟩, fun _ _ => rfl, fun task found => ?_⟩
  obtain rfl : capture.task = task := Option.some.inj (capture.stored.symm.trans found)
  simp [RunningCapture.opened, Drivers.opened, capture.fileless]

theorem Role.eq_other {role its : Role} (different : its ≠ role) : its = role.other := by
  cases its <;> cases role <;> simp [Role.other] at different ⊢

@[simp] theorem Role.other_other (role : Role) : role.other.other = role := by cases role <;> rfl

theorem Role.other_ne (role : Role) : role.other ≠ role := by cases role <;> simp [Role.other]

theorem Single.step {s : Drivers} (single : Single capture s) (turn : Turn) :
    Single capture (Drivers.step capture.id s turn) := by
  rw [Drivers.step]
  split
  · exact single
  rename_i free
  obtain ⟨task, found⟩ := single.library.row
  have advanced := run_advanced single.library (single.tidy turn.role) found turn.world turn.detail turn.role s.process
  dsimp only at advanced ⊢
  generalize (s.driver turn.role).run capture.id s.hub s.process _ = result at advanced ⊢
  obtain ⟨hub, process, driver⟩ := result
  dsimp only at advanced ⊢
  have here : Function.update s.driver turn.role driver turn.role = driver := Function.update_self ..
  have there : Function.update s.driver turn.role driver turn.role.other = s.driver turn.role.other :=
    Function.update_of_ne (Role.other_ne turn.role) ..
  have both (p : Role → Prop) (own : p turn.role) (others : p turn.role.other) : ∀ its, p its := by
    intro its
    by_cases same : its = turn.role
    · exact same ▸ own
    · exact Role.eq_other same ▸ others
  -- while the other driver is inside, this one cannot be
  have outside (locks : (s.driver turn.role.other).phase.locks = true) : (s.driver turn.role).phase.locks = false := by
    have exclusive := single.exclusive _ locks
    rwa [Role.other_other] at exclusive
  -- and a driver enters only when the lock is free
  have waits (locks : driver.phase.locks = true) : (s.driver turn.role.other).phase.locks = false := by
    rcases Bool.or_eq_true_iff.mp (advanced.enters locks) with waiting | inside
    · rw [Drivers.blocked, waiting, Bool.true_and] at free
      exact Bool.eq_false_iff.mpr free
    · exact single.exclusive _ inside
  generalize Function.update s.driver turn.role driver = drivers at here there
  refine ⟨advanced.library, both _ ?_ ?_, both _ ?_ ?_, fun row stored => ?_⟩ <;> dsimp only
  · rw [here]
    exact advanced.tidy
  · rw [there]
    obtain ⟨object, holder, sound⟩ := single.tidy turn.role.other
    exact ⟨object, fun locks => ⟨(holder locks).1, fun row stored =>
      (advanced.file (outside locks) row stored).trans ((holder locks).2 task found)⟩, sound⟩
  · rw [here, there]
    exact waits
  · rw [there, Role.other_other, here]
    intro locks
    by_contra inside
    rw [waits (Bool.eq_true_of_not_eq_false inside)] at locks
    contradiction
  -- the first recording stays: outside the lock no step changes the file
  · dsimp only at stored
    have before := single.first task found
    cases first : s.first with
    | none => simp [stored, Option.filter_some, apply_ite Option.isSome]
    | some its =>
      have recorded : task.audioId.isSome = true := by rw [← before, first]; rfl
      have unlocked : (s.driver turn.role).phase.locks = false := by
        by_contra inside
        have none_file := ((single.tidy turn.role).holder (by simpa using inside)).2 task found
        simp [none_file] at recorded
      rw [advanced.file unlocked row stored, recorded]
      rfl

end Single

section Quiet

variable {A B : Type} {id : Nat} {row : Task} {I J : Session Hub Process → Prop}

/-- From `I`, a program ends in `J`, whether or not it raises. -/
def Leads (I J : Session Hub Process → Prop) (program : Program A) : Prop :=
  ∀ s, I s → wp program (fun _ => J) (fun _ => J) s

def Unwritten (id : Nat) (row : Task) (s : Session Hub Process) : Prop := s.committed.tasks.find id = some row

structure Clean (id : Nat) (row : Task) (s : Session Hub Process) : Prop where
  committed : Unwritten id row s
  flushed : s.flushed.tasks.find id = some row
  working : s.working.tasks.find id = some row

theorem Leads.pure (a : A) : Leads I I (Pure.pure a : Program A) := fun _ holds => holds

theorem Leads.raise (fault : Fault) : Leads I I (Tx.raise fault : Program A) := fun _ holds => holds

theorem Leads.ite {c : Prop} [Decidable c] {first second : Program A} (yes : c → Leads I J first)
    (no : ¬c → Leads I J second) : Leads I J (if c then first else second) := by
  split
  · exact yes ‹_›
  · exact no ‹_›

theorem Leads.bind {program : Program A} {next : A → Program B} (first : Leads I I program)
    (second : ∀ a, Leads I I (next a)) : Leads I I (program >>= next) := by
  intro s holds
  rw [wp_bind]
  exact wp_mono (first s holds) (fun a after held => second a after held) fun _ _ held => held

/-- The last part of a clean program may leave something uncommitted. -/
theorem Leads.bind_clean {program : Program A} {next : A → Program B} (first : Leads (Clean id row) (Clean id row) program)
    (second : ∀ a, Leads (Clean id row) (Unwritten id row) (next a)) :
    Leads (Clean id row) (Unwritten id row) (program >>= next) := by
  intro s holds
  rw [wp_bind]
  exact wp_mono (first s holds) (fun a after held => second a after held) fun _ _ held => held.committed

theorem Leads.of_unwritten {program : Program A} (leads : Leads (Unwritten id row) (Unwritten id row) program) :
    Leads (Clean id row) (Unwritten id row) program := fun s holds => leads s holds.committed

theorem Leads.of_clean {program : Program A} (leads : Leads (Clean id row) (Clean id row) program) :
    Leads (Clean id row) (Unwritten id row) program :=
  fun s holds => wp_mono (leads s holds) (fun _ _ held => held.committed) fun _ _ held => held.committed

theorem leads_read : Leads I I (Tx.read : Program Hub) := fun _ holds => holds

theorem leads_query : Leads I I (Tx.query : Program Hub) := fun _ holds => holds

theorem leads_recollect : Leads I I (Tx.recollect : Program Process) := fun _ holds => holds

theorem leads_loaded (other : Nat) : Leads I I (loaded other) := fun _ holds => wp_loaded (fun _ _ => holds) holds

theorem leads_guardSite (world : World) (site : Site) : Leads I I (guardSite world site) :=
  fun _ holds => wp_guardSite holds holds

theorem leads_remember (f : Process → Process) : Leads (Clean id row) (Clean id row) (Tx.remember f : Program Unit) :=
  fun _ holds => ⟨holds.committed, holds.flushed, holds.working⟩

theorem leads_modify (f : Task → Task) : Leads (Unwritten id row) (Unwritten id row) (modifyTask id f) :=
  fun _ holds => holds

theorem leads_flush : Leads (Unwritten id row) (Unwritten id row) (Tx.flush : Program Unit) := fun _ holds => holds

theorem leads_commitAt (world : World) (site : Site) : Leads (Clean id row) (Clean id row) (commitAt world site) :=
  fun _ holds => wp_commitAt ⟨holds.working, holds.working, holds.working⟩ holds

theorem leads_callWorker (world : World) (node : Nat) : Leads (Clean id row) (Clean id row) (callWorker world id node) :=
  Leads.bind (leads_guardSite world _) fun _ => leads_commitAt world _

theorem leads_attempt {program : Program A} (leads : Leads I I program) : Leads I I (Tx.attempt program) := by
  intro s holds
  rw [wp_attempt]
  exact leads s holds

theorem refresh_unwritten : Leads (Unwritten id row) (Unwritten id row) (refreshTask id) := by
  refine Leads.bind leads_query fun stored => ?_
  split
  · exact leads_modify _
  · exact .raise _

theorem refresh_clean : Leads (Clean id row) (Clean id row) (refreshTask id) := by
  intro s holds
  rw [refreshTask, wp_bind, wp_query, holds.flushed]
  refine ⟨holds.committed, holds.flushed, ?_⟩
  simp [Hub.modifyTask, Table.find_modify, holds.working]

variable {world : World}

theorem failTask_unwritten (code : ErrorCode) (extra : Dict) :
    Leads (Unwritten id row) (Unwritten id row) (Ingest.failTask world id code extra) :=
  Leads.bind (leads_modify _) fun _ => Leads.bind leads_flush fun _ => leads_guardSite world _

theorem tickAsk_clean : Leads (Clean id row) (Clean id row) (tickAsk world id) := by
  refine Leads.bind (leads_loaded id) fun task => .ite (fun _ => .pure _) fun _ => ?_
  split
  · refine Leads.bind leads_read fun hub => .ite (fun _ => .pure _) fun _ => ?_
    exact Leads.bind (leads_callWorker world _) fun _ => .pure _
  · exact .pure _

theorem tickReplied_unwritten (reply : Reply) :
    Leads (Unwritten id row) (Unwritten id row) (tickReplied world id reply) := by
  cases reply with
  | raises => exact .raise _
  | unreachable => exact .pure _
  | answer code poll =>
    refine .ite (fun _ => .pure _) fun _ => .ite (fun _ => .pure _) fun _ => .ite (fun _ => ?_) fun _ => .pure _
    exact Leads.bind (Leads.bind (leads_modify _) fun _ => leads_flush) fun _ => .pure _

theorem threadAsk_clean (node : Nat) : Leads (Clean id row) (Clean id row) (threadAsk world id node) :=
  Leads.bind refresh_clean fun _ => Leads.bind leads_recollect fun _ =>
    Leads.bind (leads_callWorker world node) fun _ => .pure _

theorem threadLeaves_clean (node : Option Nat) : Leads (Clean id row) (Clean id row) (threadLeaves world id node) := by
  have ends : Leads (Clean id row) (Clean id row) (do Tx.remember (threadFinished id); pure .idle : Program Phase) :=
    Leads.bind (leads_remember _) fun _ => .pure _
  refine Leads.bind leads_read fun hub => ?_
  cases node with
  | none => exact ends
  | some node =>
    refine .ite (fun _ => ?_) fun _ => ends
    exact Leads.bind (leads_attempt (leads_callWorker world node)) fun _ => ends

theorem threadBegins_unwritten (ended : stillRunning row = false) :
    Leads (Clean id row) (Unwritten id row) (threadBegins world id) := by
  intro s clean
  rw [threadBegins, wp_bind, wp_recollect, wp_ite]
  split
  · rw [wp_bind, threadStart, wp_bind, wp_read, wp_bind, wp_recollect, clean.working]
    simp only [ended, Bool.not_false, Bool.or_true, if_true, wp_pure]
    exact clean.committed
  · exact clean.committed

theorem threadReplied_unwritten {node code : Nat} {salvage : Bool} {poll : Dict} (salvages : salvage = true)
    (answered : code = 200) (ready : artifactReadyInPoll world.python poll = true) :
    Leads (Unwritten id row) (Unwritten id row) (threadReplied world id node salvage (.answer code poll)) := by
  intro s unwritten
  rw [threadReplied, wp_bind, wp_recollect, salvages, answered, if_pos rfl, wp_ite, if_pos (by simp [ready])]
  exact unwritten

/-- A tick that has no queued copy of the row starts a thread, or fails its own copy. -/
theorem maybeStartCapture_unwritten (status : row.status ≠ .queued) :
    Leads (Clean id row) (Unwritten id row) (maybeStartCapture world id) := by
  have capacity : Leads (Clean id row) (Clean id row) (capacityAvailable world id) := by
    refine Leads.bind (leads_loaded id) fun task => Leads.bind leads_recollect fun process => ?_
    refine Leads.bind leads_query fun stored => Leads.bind leads_read fun working => ?_
    split
    · exact .raise _
    · exact .pure _
  intro s clean
  rw [maybeStartCapture, wp_bind]
  refine wp_loaded_of clean.working ?_
  rw [wp_bind, wp_recollect]
  refine Leads.ite (J := Unwritten id row) (fun _ => .of_clean (.pure _)) (fun _ => ?_) s clean
  refine .ite (fun _ => .of_clean (.pure _)) fun _ => Leads.bind_clean (leads_remember _) fun _ => ?_
  refine Leads.bind_clean capacity fun available => .ite (fun _ => ?_) fun _ => .of_unwritten (failTask_unwritten _ _)
  refine Leads.bind_clean (leads_remember _) fun _ => ?_
  rw [if_neg status]
  exact .of_clean (Leads.bind (leads_commitAt world _) fun _ => leads_remember _)

end Quiet

section Settled

variable {capture : RunningCapture}

theorem session_clean {id : Nat} {hub : Hub} (driver : Driver) {task : Task} (found : hub.tasks.find id = some task)
    (same : driver.own = driver.base) (process : Process) : Clean id driver.base (driver.session id hub process) := by
  have view (row : Task) : (hub.modifyTask id fun _ => row).tasks.find id = some row := by
    simp [Hub.modifyTask, Table.find_modify, found]
  refine ⟨view _, ?_, ?_⟩
  · exact same ▸ view driver.own
  · exact same ▸ view driver.own

def Unwriting (id : Nat) (hub : Hub) (process : Process) (part : Section) (reader : Driver) : Prop :=
  wp part.program (fun _ => Unwritten id reader.base) (fun _ => Unwritten id reader.base) (reader.session id hub process)

theorem run_unwritten {id : Nat} {hub : Hub} {driver : Driver} {task : Task} {part : Section} {process : Process}
    (found : hub.tasks.find id = some task)
    (unwriting : Unwriting id hub process part (driver.read task part.reading)) :
    (driver.run id hub process part).1.tasks.find id = some task := by
  simp only [Driver.run, found, Option.getD_some, Tx.run]
  simp only [Unwriting, wp] at unwriting
  generalize part.program ((driver.read task part.reading).session id hub process) = ran at unwriting
  obtain ⟨outcome, after⟩ := ran
  have stored : after.committed.tasks.find id = some (driver.read task part.reading).base := by
    cases outcome with
    | ok _ => exact unwriting
    | error _ => exact unwriting
  simp [Hub.modifyTask, Table.find_modify, stored]

/-- A driver that finds the file when it reads the row again. -/
theorem checks_unwritten {id : Nat} {base own : Task} {s : Session Hub Process} (unwritten : Unwritten id base s)
    (flushed : s.flushed.tasks.find id = some own) (working : s.working.tasks.find id = some own)
    (ended : stillRunning own = false) (world : World) (node : Nat) :
    wp (persistAsk world id node) (fun begun after => begun = none ∧ Unwritten id base after)
      (fun _ => Unwritten id base) s := by
  have shown : (s.working.modifyTask id fun _ => own).tasks.find id = some own := by
    simp [Hub.modifyTask, Table.find_modify, working]
  rw [persistAsk, wp_bind, persistBegin, wp_bind, refreshTask, wp_bind, wp_query, flushed]
  show wp (loaded id >>= _) _ _ (s.edit (s.working.modifyTask id fun _ => own))
  rw [wp_bind]
  refine wp_loaded_of shown ?_
  rw [wp_ite, if_pos (by rw [ended]; rfl)]
  exact ⟨rfl, unwritten⟩

theorem section_unwritten {hub : Hub} {task : Task} {turn : Turn} {driver : Driver} {file id : Nat}
    (found : hub.tasks.find id = some task) (recorded : task.audioId = some file)
    (leaves : Leaves id turn driver) (outside : driver.phase.locks = false) (process : Process)
    (object : (driver.read task (sectionOf turn.world id turn.detail turn.role driver.phase).reading).own.audioId =
      (driver.read task (sectionOf turn.world id turn.detail turn.role driver.phase).reading).base.audioId) :
    Unwriting id hub process (sectionOf turn.world id turn.detail turn.role driver.phase)
      (driver.read task (sectionOf turn.world id turn.detail turn.role driver.phase).reading) := by
  -- a row with a recording is not running any more
  have settled (row : Task) (its : row.audioId = some file) : stillRunning row = false := by simp [stillRunning, its]
  have view (row : Task) : (hub.modifyTask id fun _ => row).tasks.find id = some row := by
    simp [Hub.modifyTask, Table.find_modify, found]
  have unwritten (reader : Driver) : Unwritten id reader.base (reader.session id hub process) := view _
  -- the phases that lock cannot write: they are excluded by `outside`
  obtain ⟨base, own, phase⟩ := driver
  cases phase with
  | idle =>
    have clean := session_clean ⟨task, task, .idle⟩ found rfl process
    cases turn.role with
    | thread => exact threadBegins_unwritten (settled task recorded) _ clean
    | tick => exact Leads.bind (leads_loaded id) (fun _ => .pure _) _ clean.committed
  | loaded =>
    refine Leads.of_clean (Leads.bind tickAsk_clean fun node => ?_) _ (session_clean _ found leaves process)
    cases node with
    | none => exact .pure _
    | some node => exact .pure _
  | posting node =>
    show wp (threadPosted turn.world id node >>= _) _ _ _
    rw [wp_bind, threadPosted, show turn.world.post id node = .raises from leaves]
    exact unwritten _
  | polling node =>
    obtain rfl : own = base := leaves
    exact Leads.of_clean (Leads.bind (threadAsk_clean node) fun _ => .pure _) _
      (session_clean _ found (Task.merged_unchanged own task) process)
  | asked node salvage => exact unwritten _
  | replied node salvage reply =>
    cases role : turn.role with
    | thread =>
      refine Leads.bind ?_ (fun waiting => .pure _) _ (unwritten _)
      cases reply with
      | raises => exact .raise _
      | unreachable => exact .raise _
      | answer code poll =>
        obtain ⟨salvages, answered, ready⟩ := leaves role
        exact threadReplied_unwritten salvages answered ready
    | tick =>
      refine Leads.bind (tickReplied_unwritten reply) (fun poll => ?_) _ (unwritten _)
      cases poll with
      | none => exact .pure _
      | some poll => exact .pure _
  | fetched node poll =>
    exact Leads.bind (Leads.bind refresh_unwritten fun _ => Leads.bind (leads_loaded id) fun _ => .pure _)
      (fun _ => .pure _) _ (unwritten _)
  | persisting node poll =>
    show wp (persistAsk turn.world id node >>= _) _ _ _
    rw [wp_bind]
    refine wp_mono (checks_unwritten (unwritten _) (view _) (view _) (settled _ (object.trans recorded)) turn.world node) ?_
      fun _ _ held => held
    rintro _ after ⟨rfl, held⟩
    exact held
  | downloading node poll fields => contradiction
  | saving node fields duration artifact => contradiction
  | raised => exact leaves.elim
  | leaving node => exact (threadLeaves_clean node).of_clean _ (session_clean _ found leaves process)
  | starting =>
    obtain ⟨same, status⟩ := leaves
    show wp (maybeStartCapture turn.world id >>= _) _ _ _
    rw [wp_bind]
    exact wp_mono (maybeStartCapture_unwritten (same ▸ status) _ (session_clean _ found same process))
      (fun _ _ held => held) fun _ _ held => held
  | committing =>
    exact Leads.of_clean (Leads.bind (leads_commitAt turn.world _) fun _ => .pure _) _ (session_clean _ found leaves process)

/-- What holds all along a run of careful turns. -/
structure Guarded (capture : RunningCapture) (s : Drivers) : Prop where
  single : Single capture s
  settled : Settled capture.id s

theorem Guarded.step {s : Drivers} (guarded : Guarded capture s) {turn : Turn} (careful : Careful capture.id s turn) :
    Guarded capture (Drivers.step capture.id s turn) := by
  refine ⟨guarded.single.step turn, ?_⟩
  obtain ⟨task, found⟩ := guarded.single.library.row
  have object := (guarded.single.tidy turn.role).reader turn.world turn.detail turn.role task
  rw [Drivers.step]
  split
  · exact guarded.settled
  intro row first
  cases before : s.first with
  | none =>
    simp only [before, Option.none_or, Option.filter_eq_some_iff] at first
    exact first.1
  | some its =>
    have some_first : s.first.isSome := by simp [before]
    obtain ⟨file, recorded⟩ := Option.isSome_iff_exists.mp ((guarded.single.first task found).symm.trans some_first)
    have outside : (s.driver turn.role).phase.locks = false := by
      by_contra inside
      rw [((guarded.single.tidy turn.role).holder (by simpa using inside)).2 task found] at recorded
      contradiction
    simp only [before, Option.some_or, Option.some.injEq] at first
    subst first
    have here : task = its := Option.some.inj (found.symm.trans (guarded.settled its before))
    rw [← here]
    exact run_unwritten found (section_unwritten found recorded (careful some_first) outside s.process object)

/-- Whatever the order of the sections of the two drivers, the task gets at most one file and one
follow-up; and its row stays as the first recording left it, as long as no section writes over it. -/
theorem recordings_are_single (capture : RunningCapture) (process : Process) (turns : List Turn) :
    Always (Drivers.step capture.id) (fun s => OneRecording capture.hub s.hub) (capture.opened process) turns ∧
      (Along (Drivers.step capture.id) (Careful capture.id) (capture.opened process) turns →
        Always (Drivers.step capture.id) (Settled capture.id) (capture.opened process) turns) := by
  have single := Single.opened capture process
  constructor
  · intro done _ _
    have always : Single capture (run (Drivers.step capture.id) (capture.opened process) done) :=
      run_induction (I := fun _ s => Single capture s) single (fun _ turn _ now => now.step turn) done
    exact always.library.one
  · intro careful
    have always : Always (Drivers.step capture.id) (Guarded capture) (capture.opened process) turns :=
      always_of_along (fun _ _ now good => now.step good) ⟨single, fun row first => by contradiction⟩ careful
    exact fun done rest same => (always done rest same).settled

end Settled

section Samples

def meeting : RunningCapture where
  hub := { smallHub with
    tasks := Table.put ∅ 5 {
      Tasks.newTask .capture smallSubmission (some [
        ("meeting_url", .str "https://meet.example.com/room1"),
        ("stage", .str "capturing"),
        ("pipeline_transcribe", .bool true)]) with
      status := .running
      workerId := some 1
      workerTaskId := some "w1" }
    nodes := Table.put ∅ 1 {
      type := .capture
      weight := 1
      enabled := true
      lastHealth := some [("_http", idJson 200), ("connectors", .obj [("jitsi", .str "loaded")])]
      lastHealthAt := none
      lastSeenVersion := .null
      asrModels := none
      diarizationModels := none
      captureConnectors := none } }
  id := 5
  task := {
    Tasks.newTask .capture smallSubmission (some [
      ("meeting_url", .str "https://meet.example.com/room1"),
      ("stage", .str "capturing"),
      ("pipeline_transcribe", .bool true)]) with
    status := .running
    workerId := some 1
    workerTaskId := some "w1" }
  stored := rfl
  capture := rfl
  running := rfl
  numbered := by decide

def readyWorld : World := { silentWorld with
  getTask := fun _ => .answer 200 [("status", .str "success")]
  artifact := fun _ => .stored "call.mp3" }

def turns (roles : List Role) : List Turn := roles.map fun role => ⟨role, readyWorld, ""⟩

def spawned : Process := { Process.fresh with threads := [5] }

/-- The tick finishes the task while the thread waits for the answer to its poll. -/
def overtaken : List Turn := turns [
  .thread, .thread, .tick, .tick, .tick, .tick, .tick, .tick, .tick, .thread, .thread]

theorem recordings_are_overwritten :
    ¬ Always (Drivers.step meeting.id) (Settled meeting.id) (meeting.opened spawned) overtaken := by
  intro always
  have settled := always overtaken [] (List.append_nil _).symm
  have stages : let last := run (Drivers.step meeting.id) (meeting.opened spawned) overtaken
      (last.first.any Task.isDone && !(last.hub.tasks.find meeting.id).any Task.isDone) = true := by
    decide +kernel
  simp only [Bool.and_eq_true, Bool.not_eq_true', Option.any_eq_true] at stages
  obtain ⟨⟨row, first, done⟩, undone⟩ := stages
  rw [settled row first, Option.any_some, done] at undone
  contradiction

/-- Turns that come before the first recording, or wait for the lock. -/
def calm (id : Nat) (s : Drivers) : List Turn → Bool
  | [] => true
  | turn :: rest =>
    (s.first.isNone || (s.driver turn.role).phase.isPersisting) && calm id (Drivers.step id s turn) rest

theorem careful_of_calm {id : Nat} {s : Drivers} {turns : List Turn} (is_calm : calm id s turns = true) :
    Along (Drivers.step id) (Careful id) s turns := by
  induction turns generalizing s with
  | nil => trivial
  | cons turn rest ih =>
    simp only [calm, Bool.and_eq_true, Bool.or_eq_true, Option.isNone_iff_eq_none] at is_calm
    refine ⟨fun some_first => ?_, ih is_calm.2⟩
    rcases is_calm.1 with none_first | waits
    · simp [none_first] at some_first
    · unfold Leaves
      cases phase : (s.driver turn.role).phase <;> simp_all [Phase.isPersisting]

/-- The tick has the file as well, but waits for the lock while the thread stores it. -/
def second : List Turn := turns [
  .thread, .thread, .tick, .tick, .tick, .tick, .thread, .thread, .thread, .thread, .tick, .thread, .thread, .tick]

theorem recordings_are_single_second :
    Always (Drivers.step meeting.id) (Settled meeting.id) (meeting.opened spawned) second :=
  (recordings_are_single meeting spawned second).2 (careful_of_calm (by decide +kernel))

example : (run (Drivers.step meeting.id) (meeting.opened spawned) second).first.isSome = true := by decide +kernel

end Samples

end IdigestHub.System
