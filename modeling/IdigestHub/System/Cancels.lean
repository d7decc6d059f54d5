import IdigestHub.Capture.Salvage
import IdigestHub.System.Recordings

/-! A user cancels a running capture while its thread waits for the recording: the request marks the
task for the thread, and a moment later commits the row. -/

set_option autoImplicit false

namespace IdigestHub.System

open Foundation Foundation.Runs Foundation.UnitOfWork Capture

/-- A hub with the thread of one capture, the rows that cancel requests have read and will commit, and
whether the worker has the file ready. `late` says that a cancel was under way with the file ready, `failed` that
the download or the save was tried and failed, and `ended` that the thread has come to its end. -/
structure Canceling where
  hub : Hub
  process : Process
  thread : Driver
  cancels : List Task
  ready : Bool
  late : Bool
  failed : Bool
  ended : Bool

inductive CancelEvent where
  | finish
  | thread (world : World) (detail : String)
  | request
  | commit (n : Nat)

def Phase.hasRaised : Phase → Bool
  | .raised => true
  | _ => false

def Artifact.isStored : Artifact → Bool
  | .stored _ => true
  | _ => false

def fetchFails (world : World) (id : Nat) (before after : Phase) : Bool :=
  match before with
  | .downloading .. => Phase.hasRaised after || !(world.artifact id).downloaded
  | .saving _ _ _ artifact => Phase.hasRaised after || !Artifact.isStored artifact
  | _ => false

namespace Canceling

def opened (capture : RunningCapture) (process : Process) : Canceling :=
  ⟨capture.hub, process, ⟨capture.task, capture.task, .idle⟩, [], false, false, false, false⟩

/-- `cancel_task` asks the thread with `request` and writes the row with `commit`. -/
def step (id : Nat) (s : Canceling) : CancelEvent → Canceling
  | .finish => { s with ready := true, late := s.late || !s.cancels.isEmpty }
  | .thread world detail =>
    let (hub, process, thread) := s.thread.run id s.hub s.process (sectionOf world id detail .thread s.thread.phase)
    { s with
      hub, process, thread
      failed := s.failed || fetchFails world id s.thread.phase thread.phase
      ended := s.ended || thread.phase.isLeaving }
  | .request =>
    match s.hub.tasks.find id with
    | none => s
    | some task =>
      if Tasks.cancelable task then { s with
        process := Tasks.cancelSignal id s.hub s.process
        cancels := s.cancels ++ [task]
        late := s.late || s.ready }
      else s
  | .commit n =>
    match s.cancels[n]? with
    | none => s
    | some task => { s with
      hub := s.hub.modifyTask id (Task.merged task (Tasks.canceled .canceled task))
      cancels := s.cancels.eraseIdx n }

end Canceling

def Unmarked (task : Task) : Prop := task.errorCode ≠ some .canceled

def InLibrary (id : Nat) (hub : Hub) : Prop :=
  ∃ task file, hub.tasks.find id = some task ∧ task.audioId = some file ∧ (hub.audios.find file).isSome

/-- A recording that was ready when the user canceled is kept by the time that the task is canceled or
the thread ends, unless its download or its save has been tried and has failed. -/
def Salvaged (id : Nat) (s : Canceling) : Prop :=
  s.late = true →
    (s.ended = true ∨ ∃ task, s.hub.tasks.find id = some task ∧ task.status = .error ∧ ¬Unmarked task) →
    InLibrary id s.hub ∨ s.failed = true

/-- The thread waits for the file of a row that records, or fetches it, and so do its copies of the row. -/
structure AtWork (id : Nat) (s : Canceling) : Prop where
  follows : s.thread.phase.follows = true
  unended : s.ended = false
  stored : RecordingRow id s.hub
  base : Recording s.thread.base
  object : Recording s.thread.own

instance AtWork.decidable (id : Nat) (s : Canceling) : Decidable (AtWork id s) :=
  decidable_of_iff
    (s.thread.phase.follows = true ∧ s.ended = false ∧ RecordingRow id s.hub ∧ Recording s.thread.base ∧ Recording s.thread.own)
    ⟨fun ⟨follows, unended, stored, base, object⟩ => ⟨follows, unended, stored, base, object⟩, fun h => ⟨h.1, h.2, h.3, h.4, h.5⟩⟩

/-- The next section of the thread leads to the download, as far as calls, commits and the worker's answer go. -/
def Leading (world : World) (id : Nat) (s : Canceling) : Prop :=
  Undisturbed world id s.thread.own s.thread.phase ∧
    match s.thread.phase with
    | .replied _ salvage reply => Reply.LetsOn world s.process id s.thread.own salvage reply
    | _ => True

instance Leading.decidable (world : World) (id : Nat) (s : Canceling) : Decidable (Leading world id s) :=
  haveI : Decidable (match s.thread.phase with
      | .replied _ salvage reply => Reply.LetsOn world s.process id s.thread.own salvage reply
      | _ => True) :=
    match s.thread.phase with
    | .replied .. => inferInstance
    | .idle | .loaded | .posting _ | .polling _ | .asked .. | .fetched .. | .persisting .. | .downloading .. | .saving ..
    | .raised
    | .leaving _ | .starting | .committing => .isTrue trivial
  inferInstanceAs (Decidable (_ ∧ _))

/-- The user cancels a recording that is ready while the thread is at work, the cancel is committed after
the thread has ended, and nothing else keeps the thread from the download. -/
def Patient (id : Nat) (s : Canceling) : CancelEvent → Prop
  | .finish => s.cancels ≠ [] → AtWork id s
  | .request => s.ready = true → AtWork id s
  | .commit _ => s.late = true → s.ended = true
  | .thread world _ => s.late = true → s.ended = false → s.failed = false → Leading world id s

instance Patient.decidable (id : Nat) (s : Canceling) : ∀ event, Decidable (Patient id s event)
  | .finish | .request | .commit _ => inferInstanceAs (Decidable (_ → _))
  | .thread .. => inferInstanceAs (Decidable (_ → _ → _ → _))

structure Waiting (capture : RunningCapture) (s : Canceling) : Prop where
  library : Library capture s.hub
  tidy : Tidy s.hub capture.id s.thread
  files : Phase.known s.thread.phase = true →
    ∀ task, s.hub.tasks.find capture.id = some task → s.thread.base.audioId = task.audioId
  works : s.late = true → s.ended = false → s.failed = true ∨ AtWork capture.id s
  kept : s.late = true → s.ended = true → s.failed = true ∨ ∃ task, s.hub.tasks.find capture.id = some task ∧ task.audioId.isSome

variable {capture : RunningCapture}

theorem Library.inLibrary {hub : Hub} (library : Library capture hub) {task : Task}
    (found : hub.tasks.find capture.id = some task) (file : task.audioId.isSome) : InLibrary capture.id hub := by
  cases library with
  | unrecorded level =>
    obtain ⟨its, here, none_file⟩ := level.row
    obtain rfl : task = its := Option.some.inj (found.symm.trans here)
    simp [none_file] at file
  | recorded recorded =>
    obtain ⟨its, here, some_file⟩ := recorded.row
    obtain ⟨audio, audios⟩ := recorded.audios
    exact ⟨its, _, here, some_file, by simp [audios]⟩

theorem Waiting.salvaged {s : Canceling} (waiting : Waiting capture s) : Salvaged capture.id s := by
  intro late settled
  cases ended : s.ended with
  | false =>
    rcases settled with its | ⟨task, found, failed, _⟩
    · rw [ended] at its
      contradiction
    · refine .inr ((waiting.works late ended).resolve_right fun works => ?_)
      obtain ⟨row, here, recording⟩ := works.stored
      obtain rfl : task = row := Option.some.inj (found.symm.trans here)
      have running := recording.running
      simp [stillRunning, failed] at running
  | true =>
    rcases waiting.kept late ended with failed | ⟨task, found, file⟩
    · exact .inr failed
    · exact .inl (waiting.library.inLibrary found file)

theorem Waiting.opened (capture : RunningCapture) (process : Process) :
    Waiting capture (.opened capture process) := by
  refine ⟨.opened capture, ⟨fun _ => rfl, fun locks => by contradiction, rfl⟩, fun known => by contradiction,
    fun late => by contradiction, fun late => by contradiction⟩

theorem Waiting.becomes {s after : Canceling} (waiting : Waiting capture s) (hub : after.hub = s.hub)
    (thread : after.thread = s.thread) (ended : after.ended = s.ended) (failed : after.failed = s.failed)
    (late : after.late = true → s.late = true ∨ AtWork capture.id s) : Waiting capture after := by
  have moved (works : AtWork capture.id s) : AtWork capture.id after := by
    obtain ⟨follows, unended, stored, base, object⟩ := works
    exact ⟨thread ▸ follows, ended.trans unended, hub ▸ stored, thread ▸ base, thread ▸ object⟩
  refine ⟨hub ▸ waiting.library, hub ▸ thread ▸ waiting.tidy, hub ▸ thread ▸ waiting.files, fun is_late unended => ?_,
    fun is_late is_over => ?_⟩
  · rcases late is_late with already | works
    · exact (waiting.works already (ended ▸ unended)).imp failed.trans moved
    · exact .inr (moved works)
  · rcases late is_late with already | works
    · rw [hub, failed]
      exact waiting.kept already (ended ▸ is_over)
    · rw [ended, works.unended] at is_over
      contradiction

theorem Waiting.finish {s : Canceling} (waiting : Waiting capture s) (at_work : s.cancels ≠ [] → AtWork capture.id s) :
    Waiting capture (s.step capture.id .finish) := by
  refine waiting.becomes rfl rfl rfl rfl fun late => ?_
  rcases Bool.or_eq_true_iff.mp late with already | canceling
  · exact .inl already
  · exact .inr (at_work (by simpa using canceling))

theorem Waiting.request {s : Canceling} (waiting : Waiting capture s) (at_work : s.ready = true → AtWork capture.id s) :
    Waiting capture (s.step capture.id .request) := by
  rw [Canceling.step]
  split
  · exact waiting
  split
  · exact waiting.becomes rfl rfl rfl rfl fun late => (Bool.or_eq_true_iff.mp late).imp_right at_work
  · exact waiting

/-- The columns of a canceled row leave its file alone. -/
theorem merged_canceled_audioId (read stored : Task) :
    (Task.merged read (Tasks.canceled .canceled read) stored).audioId = stored.audioId := column_unchanged ..

theorem Waiting.commit {s : Canceling} (waiting : Waiting capture s) (n : Nat)
    (is_over : s.late = true → s.ended = true) : Waiting capture (s.step capture.id (.commit n)) := by
  rw [Canceling.step]
  cases s.cancels[n]? with
  | none => exact waiting
  | some read =>
    obtain ⟨task, found⟩ := waiting.library.row
    have stored : (s.hub.modifyTask capture.id (Task.merged read (Tasks.canceled .canceled read))).tasks.find capture.id =
        some (Task.merged read (Tasks.canceled .canceled read) task) := by
      simp [Hub.modifyTask, Table.find_modify, found]
    have file := merged_canceled_audioId read task
    have same_file (row : Task) (here : (s.hub.modifyTask capture.id
        (Task.merged read (Tasks.canceled .canceled read))).tasks.find capture.id = some row) :
        row.audioId = task.audioId := by
      obtain rfl := Option.some.inj (stored.symm.trans here)
      exact file
    refine ⟨waiting.library.level found rfl rfl (fun other different => ?_) stored file,
      ⟨waiting.tidy.object, fun locks => ?_, waiting.tidy.sound⟩, fun known row here => ?_, fun late unended => ?_,
      fun late ended => ?_⟩
    · simp [Hub.modifyTask, Table.find_modify, different]
    · obtain ⟨object, holder⟩ := waiting.tidy.holder locks
      exact ⟨object, fun row here => (same_file row here).trans (holder task found)⟩
    · exact (waiting.files known task found).trans (same_file row here).symm
    · rw [show s.ended = false from unended] at is_over
      exact absurd (is_over late) (by decide)
    · refine (waiting.kept late ended).imp_right ?_
      rintro ⟨its, here, recorded⟩
      obtain rfl : task = its := Option.some.inj (found.symm.trans here)
      exact ⟨_, stored, by rw [file]; exact recorded⟩

section Working

variable {id : Nat} {hub : Hub} {thread : Driver} {task : Task}

inductive Worked (world : World) (id : Nat) (before : Phase) (hub : Hub) (thread : Driver) : Prop where
  | works (follows : thread.phase.follows = true) (stored : RecordingRow id hub) (base : Recording thread.base)
      (object : Recording thread.own)
  | recorded (leaves : thread.phase.isLeaving = true) (row : Task) (found : hub.tasks.find id = some row)
      (file : row.audioId.isSome)
  | failed (fails : fetchFails world id before thread.phase = true)

theorem worked_of_wp {world : World} {part : Section} {process : Process} {before : Phase} (found : hub.tasks.find id = some task)
    (stored : Recording task)
    (held : wp part.program (fun next after => next.follows = true ∧ Everywhere (RecordingRow id) after ∨
        fetchFails world id before next = true)
      (fun _ _ => fetchFails world id before part.failure = true) ((thread.read task part.reading).session id hub process)) :
    let result := thread.run id hub process part
    Worked world id before result.1 result.2.2 := by
  obtain ⟨next, after, holds, ran⟩ := @run_of_wp id hub process thread part task
    (fun next after => next.follows = true ∧ Everywhere (RecordingRow id) after ∨ fetchFails world id before next = true) found
    (wp_mono held (fun _ _ its => its) fun _ _ its => .inr its)
  dsimp only
  rw [ran]
  rcases holds with ⟨follows, rows⟩ | fails
  · obtain ⟨row, its, recording⟩ := rows.committed
    obtain ⟨object, shown, records⟩ := rows.working
    refine .works follows ⟨_, find_modifyTask its _, recording.merged stored⟩ ?_ ?_
    · rw [its]
      exact recording
    · rw [shown]
      exact records
  · exact .failed fails

theorem reader_works (found : hub.tasks.find id = some task) (stored : Recording task) (base : Recording thread.base)
    (object : Recording thread.own) (process : Process) (reading : Reading) :
    Works id (thread.read task reading).own process ((thread.read task reading).session id hub process) := by
  have view {row : Task} (recording : Recording row) : RecordingRow id (hub.modifyTask id fun _ => row) :=
    ⟨row, find_modifyTask found _, recording⟩
  have both : Recording (thread.read task reading).base ∧ Recording (thread.read task reading).own := by
    cases reading with
    | stale => exact ⟨base, object⟩
    | refreshed => exact ⟨stored, object.merged stored⟩
    | fresh => exact ⟨stored, stored⟩
  exact ⟨⟨view both.1, view both.2, view both.2⟩, find_modifyTask found _, rfl, both.2⟩

theorem fits_of_recording {row : Task} (recording : Recording row) : Fits none (fun _ => True) row := by
  have running := recording.running
  exact ⟨by simp [stillRunning] at running; exact running.1, fun _ _ => trivial⟩

theorem saving_worked (world : World) (detail : String) {node : Nat} {fields : Dict} {duration : Option Decimal}
    {artifact : Artifact}
    (found : hub.tasks.find id = some task) (below : id < hub.nextId) (stored : Recording task) (base : Recording thread.base)
    (object : Recording thread.own) (process : Process) :
    let result := thread.run id hub process (sectionOf world id detail .thread (.saving node fields duration artifact))
    Worked world id (.saving node fields duration artifact) result.1 result.2.2 := by
  have saved := run_saving world detail .thread node fields duration artifact (fun _ _ => trivial) found below
    (fits_of_recording stored) (fits_of_recording base) (fits_of_recording object) process
  dsimp only at saved ⊢
  cases saved with
  | recorded recorded clean same phase =>
    obtain ⟨row, here, file⟩ := recorded.row
    exact .recorded (by rw [phase]; rfl) row here (by simp [file])
  | failed level base phase =>
    refine .failed ?_
    rcases phase with raised | ⟨left, _, _, unstored⟩
    · simp [fetchFails, raised, Role.failure, Phase.hasRaised]
    · cases artifact with
      | stored filename => exact absurd rfl (unstored filename)
      | _ => simp [fetchFails, Artifact.isStored]

theorem run_worked (world : World) (detail : String) (found : hub.tasks.find id = some task) (below : id < hub.nextId)
    (stored : Recording task) (base : Recording thread.base) (object : Recording thread.own) (process : Process)
    (follows : thread.phase.follows = true) (undisturbed : Undisturbed world id thread.own thread.phase)
    (lets : ∀ node salvage reply, thread.phase = .replied node salvage reply →
      Reply.LetsOn world process id thread.own salvage reply) :
    let result := thread.run id hub process (sectionOf world id detail .thread thread.phase)
    Worked world id thread.phase result.1 result.2.2 := by
  have works := reader_works found stored base object process
  -- Each phase is handled by the lemma on its section; what is left is where the thread waits next.
  generalize phase : thread.phase = now at follows undisturbed lets
  cases now with
  | polling node =>
    refine worked_of_wp found stored ?_
    rw [sectionOf, wp_bind]
    refine wp_mono (threadAsk_follows (works .refreshed) undisturbed) (fun _ _ rows => .inl ⟨rfl, rows⟩) fun _ _ never =>
      never.elim
  | asked node salvage => exact worked_of_wp found stored (.inl ⟨rfl, (works .stale).rows⟩)
  | replied node salvage reply =>
    refine worked_of_wp found stored ?_
    rw [sectionOf, wp_bind]
    refine wp_mono (threadReplied_follows (works .stale) node salvage undisturbed (lets node salvage reply rfl)) ?_
      fun _ _ never => never.elim
    rintro next after ⟨leads, rows⟩
    refine .inl ⟨?_, rows⟩
    cases next with
    | poll | artifact => rfl
    | _ => contradiction
  | fetched node poll =>
    refine worked_of_wp found stored ?_
    rw [sectionOf, wp_bind]
    refine wp_mono (threadCheck_follows (works .refreshed)) ?_ fun _ _ never => never.elim
    rintro running after ⟨rfl, rows⟩
    exact .inl ⟨rfl, rows⟩
  | persisting node poll =>
    refine worked_of_wp found stored ?_
    rw [sectionOf, wp_bind]
    refine wp_mono (persistAsk_follows (works .refreshed) poll undisturbed) ?_ fun _ _ never => never.elim
    rintro begun after ⟨some_fields, rows⟩
    cases begun with
    | none => contradiction
    | some fields => exact .inl ⟨rfl, rows⟩
  | downloading node poll fields =>
    refine worked_of_wp found stored ?_
    rw [sectionOf, wp_bind]
    refine wp_mono (persistDownloaded_follows (works _) poll) ?_ fun _ _ _ => rfl
    intro duration after held
    cases duration with
    | none => exact .inr (by simpa [fetchFails] using .inr held)
    | some duration => exact .inl ⟨rfl, held⟩
  | saving node fields duration artifact => exact saving_worked world detail found below stored base object process
  | _ => contradiction

end Working

theorem Waiting.thread {s : Canceling} (waiting : Waiting capture s) (world : World) (detail : String)
    (patient : Patient capture.id s (.thread world detail)) : Waiting capture (s.step capture.id (.thread world detail)) := by
  obtain ⟨task, found⟩ := waiting.library.row
  have advanced := run_advanced waiting.library waiting.tidy found world detail .thread s.process
  have worked (late : s.late = true) (unended : s.ended = false) (unfailed : s.failed = false) :
      Worked world capture.id s.thread.phase
        (s.thread.run capture.id s.hub s.process (sectionOf world capture.id detail .thread s.thread.phase)).1
        (s.thread.run capture.id s.hub s.process (sectionOf world capture.id detail .thread s.thread.phase)).2.2 := by
    obtain ⟨follows, _, ⟨row, here, stored⟩, base, object⟩ :=
      (waiting.works late unended).resolve_left (by rw [unfailed]; exact Bool.false_ne_true)
    obtain rfl : task = row := Option.some.inj (found.symm.trans here)
    obtain ⟨undisturbed, lets⟩ := patient late unended unfailed
    have level := waiting.library.open found (fits_of_recording stored).audioId
    refine run_worked world detail found (level.nextId ▸ capture.numbered) stored base object s.process follows undisturbed ?_
    intro node salvage reply replied
    rw [replied] at lets
    exact lets
  rw [Canceling.step]
  dsimp only at advanced
  generalize s.thread.run capture.id s.hub s.process _ = result at advanced worked ⊢
  obtain ⟨hub, process, thread⟩ := result
  dsimp only at advanced worked ⊢
  refine ⟨advanced.library, advanced.tidy, advanced.current fun known => waiting.files known task found,
    fun late still => ?_, fun late is_over => ?_⟩
  · obtain ⟨unended, ongoing⟩ := Bool.or_eq_false_iff.mp still
    by_cases failed : s.failed = true
    · exact .inl (Bool.or_eq_true_iff.mpr (.inl failed))
    cases worked late unended (by simpa using failed) with
    | works follows stored base object => exact .inr ⟨follows, still, stored, base, object⟩
    | recorded leaves row here file =>
      rw [leaves] at ongoing
      contradiction
    | failed fails => exact .inl (Bool.or_eq_true_iff.mpr (.inr fails))
  · by_cases ended : s.ended = true
    · refine (waiting.kept late ended).imp (fun failed => Bool.or_eq_true_iff.mpr (.inl failed)) ?_
      rintro ⟨its, here, recorded⟩
      obtain rfl : task = its := Option.some.inj (found.symm.trans here)
      have outside : s.thread.phase.locks = false := by
        by_contra inside
        rw [(waiting.tidy.holder (by simpa using inside)).2 task found] at recorded
        contradiction
      obtain ⟨after, stored⟩ := advanced.library.row
      exact ⟨after, stored, by rw [advanced.file outside after stored]; exact recorded⟩
    · by_cases failed : s.failed = true
      · exact .inl (Bool.or_eq_true_iff.mpr (.inl failed))
      cases worked late (by simpa using ended) (by simpa using failed) with
      | works follows =>
        have leaves := (Bool.or_eq_true_iff.mp is_over).resolve_left ended
        cases phase : thread.phase <;> simp_all [Phase.follows, Phase.isLeaving]
      | recorded leaves row here file => exact .inr ⟨row, here, file⟩
      | failed fails => exact .inl (Bool.or_eq_true_iff.mpr (.inr fails))

theorem Waiting.step {s : Canceling} (waiting : Waiting capture s) {event : CancelEvent}
    (patient : Patient capture.id s event) : Waiting capture (s.step capture.id event) := by
  cases event with
  | finish => exact waiting.finish patient
  | request => exact waiting.request patient
  | commit n => exact waiting.commit n patient
  | thread world detail => exact waiting.thread world detail patient

section Samples

/-- The thread asks the worker; then the user cancels a meeting whose file is ready, and the commit of the cancel is number `step`
of the thread's sections that follow. -/
def canceled (step : Nat) : List CancelEvent :=
  [.thread readyWorld "", .thread readyWorld "", .finish, .request] ++
    List.replicate step (.thread readyWorld "") ++ [.commit 0] ++ List.replicate (8 - step) (.thread readyWorld "")

end Samples

end IdigestHub.System
