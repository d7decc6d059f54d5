import IdigestHub.Capture.Attached
import IdigestHub.Capture.Drivers
import IdigestHub.Tasks.Requests

/-! A stop request in the fields of a capture: which sections keep it there, and in the memory of the process. -/

set_option autoImplicit false

namespace IdigestHub.Capture

open Foundation Foundation.UnitOfWork Dispatcher Ingest

def Marked (task : Task) : Prop := isTrue (task.metaDict.get "stop_requested") = true

instance Marked.decidable (task : Task) : Decidable (Marked task) := inferInstanceAs (Decidable (_ = true))

def Present (id : Nat) (hub : Hub) : Prop := (hub.tasks.find id).isSome

def MarkedRow (id : Nat) (hub : Hub) : Prop := ∃ task, hub.tasks.find id = some task ∧ Marked task

instance MarkedRow.decidable (id : Nat) (hub : Hub) : Decidable (MarkedRow id hub) :=
  decidable_of_iff (∃ task ∈ hub.tasks.find id, Marked task) Iff.rfl

/-- A property of the row that changes of other fields keep. -/
structure Regular (id : Nat) (P : Hub → Prop) : Prop where
  refresh : ∀ stored hub task, P stored → P hub → stored.tasks.find id = some task → P (hub.modifyTask id fun _ => task)
  row : ∀ hub f, (∀ task, Marked task → Marked (f task)) → P hub → P (hub.modifyTask id f)

theorem Present.modified {id : Nat} {hub : Hub} (present : Present id hub) (f : Task → Task) :
    Present id (hub.modifyTask id f) := by
  obtain ⟨task, found⟩ := Option.isSome_iff_exists.mp present
  exact Option.isSome_iff_exists.mpr ⟨f task, find_modifyTask found f⟩

theorem present_regular (id : Nat) : Regular id (Present id) :=
  ⟨fun _ _ _ _ present _ => present.modified _, fun _ f _ present => present.modified f⟩

theorem markedRow_regular (id : Nat) : Regular id (MarkedRow id) := by
  constructor
  · rintro stored hub task ⟨its, here, marked⟩ ⟨row, found, _⟩ there
    obtain rfl : its = task := Option.some.inj (here.symm.trans there)
    exact ⟨its, find_modifyTask found _, marked⟩
  · rintro hub f kept ⟨task, found, marked⟩
    exact ⟨f task, find_modifyTask found f, kept task marked⟩

section Fields

variable {task : Task}

theorem Marked.fields (marked : Marked task) {fields : Dict}
    (same : fields.get "stop_requested" = task.metaDict.get "stop_requested") :
    Marked { task with metaJson := some fields } := by
  show isTrue (fields.get "stop_requested") = true
  rw [same]
  exact marked

theorem Marked.staged (marked : Marked task) (stage : String) {extra : Dict}
    (absent : ∀ field ∈ extra, field.1 ≠ "stop_requested") : Marked (staged stage extra task) := by
  refine marked.fields ?_
  rw [Dict.get_update_of_absent absent, Dict.get_set, if_neg (by decide)]

theorem Marked.failed (marked : Marked task) (code : ErrorCode) {extra : Dict}
    (absent : ∀ field ∈ extra, field.1 ≠ "stop_requested") : Marked (failed code extra task) := by
  show isTrue (((task.metaDict.update extra).set "stage" (.str "error")).get "stop_requested") = true
  rw [Dict.get_set, if_neg (by decide), Dict.get_update_of_absent absent]
  exact marked

theorem Marked.polled (marked : Marked task) (world : World) (status stage : String) :
    Marked { task with metaJson := some (polledFields world status stage task.metaDict) } := by
  refine marked.fields ?_
  unfold polledFields
  simp only [Dict.get_set, String.reduceEq, if_false]
  split
  · split
    · rfl
    · simp [Dict.get_set]
  · simp [Dict.get_pop]

theorem marked_stop (python : Python) (task : Task) : Marked (Tasks.stopMarked python task) := by
  show Dispatcher.isTrue ((if _ then _ else _ : Dict).get "stop_requested") = true
  split
  · simp [Dict.get_set, Dispatcher.isTrue]
  · simp [Dict.get_set, Dispatcher.isTrue]

end Fields

structure Remembering (P : Hub → Prop) (stops : List Nat) (s : Session Hub Process) : Prop where
  rows : Everywhere P s
  memory : s.memory.stopRequested = stops

section Programs

variable {A : Type} {id : Nat} {P : Hub → Prop} {stops : List Nat}

instance Remembering.transactional : Transactional (Remembering P stops) where
  flush s holds := ⟨Transactional.flush s holds.rows, holds.memory⟩
  commit s holds := ⟨Transactional.commit s holds.rows, holds.memory⟩
  rollback s holds := ⟨Transactional.rollback s holds.rows, holds.memory⟩

abbrev Lasts (P : Hub → Prop) (stops : List Nat) (program : Program A) : Prop := Maintains (Remembering P stops) program

theorem lasts_update {f : Hub → Hub} (kept : ∀ hub, P hub → P (f hub)) : Lasts P stops (Tx.update f : Program Unit) :=
  fun _ holds => ⟨⟨holds.rows.committed, holds.rows.flushed, kept _ holds.rows.working⟩, holds.memory⟩

theorem lasts_remember {f : Process → Process} (kept : ∀ process, (f process).stopRequested = process.stopRequested) :
    Lasts P stops (Tx.remember f : Program Unit) :=
  fun s holds => ⟨⟨holds.rows.committed, holds.rows.flushed, holds.rows.working⟩, (kept s.memory).trans holds.memory⟩

variable (world : World) (regular : Regular id P)
include regular

theorem lasts_modify {f : Task → Task} (kept : ∀ task, Marked task → Marked (f task)) :
    Lasts P stops (modifyTask id f) := lasts_update fun hub => regular.row hub f kept

theorem lasts_refresh : Lasts P stops (refreshTask id) := by
  intro s holds
  rw [refreshTask, wp_bind, wp_query]
  cases found : s.flushed.tasks.find id with
  | none => exact holds
  | some task =>
    exact ⟨⟨holds.rows.committed, holds.rows.flushed, regular.refresh _ _ _ holds.rows.flushed holds.rows.working found⟩,
      holds.memory⟩

theorem lasts_updateTaskMeta (stage : String) {extra : Dict} (absent : ∀ field ∈ extra, field.1 ≠ "stop_requested") :
    Lasts P stops (updateTaskMeta id stage extra) :=
  (lasts_modify regular fun _ marked => marked.staged stage absent).bind fun _ => maintains_flush

theorem lasts_failTask (code : ErrorCode) {extra : Dict} (absent : ∀ field ∈ extra, field.1 ≠ "stop_requested") :
    Lasts P stops (failTask world id code extra) :=
  (lasts_modify regular fun _ marked => marked.failed code absent).bind fun _ =>
    maintains_flush.bind fun _ => maintains_guardSite world _

theorem lasts_failAndCommit (code : ErrorCode) {extra : Dict} (step : Nat)
    (absent : ∀ field ∈ extra, field.1 ≠ "stop_requested") : Lasts P stops (failAndCommit world id code extra step) :=
  (lasts_failTask world regular code absent).bind fun _ => maintains_commitAt world _

theorem lasts_failAndReturn (code : ErrorCode) {extra : Dict} (step : Nat)
    (absent : ∀ field ∈ extra, field.1 ≠ "stop_requested") : Lasts P stops (failAndReturn world id code extra step) :=
  (lasts_failAndCommit world regular code step absent).bind fun _ => maintains_pure _

omit regular in
theorem lasts_capacityAvailable : Lasts P stops (capacityAvailable world id) := by
  refine (maintains_loaded id).bind fun task => maintains_recollect.bind fun process => ?_
  refine maintains_query.bind fun stored => maintains_read.bind fun working => ?_
  split
  · exact maintains_raise _
  · exact maintains_pure _

omit regular in
theorem lasts_boundWorker : Lasts P stops (boundWorker world id) := by
  refine (maintains_loaded id).bind fun task => maintains_read.bind fun hub => ?_
  split
  · exact maintains_pure _
  · refine .ite (fun _ => (lasts_capacityAvailable world).bind fun _ => ?_) fun _ => maintains_pure _
    exact .ite (fun _ => maintains_pure _) fun _ => maintains_pure _

theorem lasts_failMeeting (code : ErrorCode) : Lasts P stops (failCaptureMeetingError world id code) := by
  refine (maintains_loaded id).bind fun task => ?_
  split
  · exact lasts_failTask world regular _ (by simp)
  · exact lasts_failTask world regular _ (by simp)
  · exact lasts_failTask world regular _ (by simp)
  · dsimp only
    split
    · exact maintains_raise _
    · refine lasts_failTask world regular _ ?_
      split
      · simp
      · simp
  · exact lasts_failTask world regular _ (by simp)

omit regular in
theorem Marked.bound {task : Task} (marked : Marked task) (target : CaptureTarget) (displayName : String) :
    Marked (bound target displayName task) := by
  refine marked.fields ?_
  refine Dict.get_update_of_absent ?_ _
  cases nonEmpty target.jwt with
  | none => simp
  | some jwt => simp

theorem lasts_bind : Lasts P stops (bindCaptureWorker world id) := by
  refine (maintains_loaded id).bind fun task => .ite (fun _ => ?_) fun _ => (lasts_boundWorker world).bind fun worker => ?_
  · exact (lasts_failTask world regular _ (by simp)).bind fun _ => maintains_pure _
  · split
    · exact maintains_pure _
    · refine (lasts_modify regular fun task marked => ?_).bind fun _ => maintains_read.bind fun hub =>
        maintains_query.bind fun stored => ?_
      · split
        · exact marked
        · exact marked
      · split
        · exact (lasts_failTask world regular _ (by simp)).bind fun _ => maintains_pure _
        · split
          · exact maintains_raise _
          · exact (lasts_failMeeting world regular _).bind fun _ => maintains_pure _
          · refine (lasts_modify regular fun task marked => marked.bound _ _).bind fun _ => ?_
            exact maintains_flush.bind fun _ => maintains_pure _

theorem lasts_forwardEarlyStop (node : Nat) : Lasts P stops (forwardEarlyStop world id node) := by
  refine (maintains_loaded id).bind fun task => maintains_recollect.bind fun process => .ite (fun _ => ?_) fun _ =>
    maintains_pure _
  refine (maintains_forwardCaptureStop world).bind fun _ => (lasts_updateTaskMeta regular _ (by simp)).bind fun _ => ?_
  exact (maintains_commitAt world _).bind fun _ => maintains_pure _

theorem lasts_threadStart : Lasts P stops (threadStart world id) := by
  refine maintains_read.bind fun hub => maintains_recollect.bind fun process => ?_
  split
  · exact maintains_pure _
  · refine .ite (fun _ => maintains_pure _) fun _ => .ite (fun _ => lasts_failAndReturn world regular _ _ (by simp)) fun _ => ?_
    refine .ite (fun _ => lasts_failAndReturn world regular _ _ (by simp)) fun _ =>
      (lasts_bind world regular).bind fun worker => ?_
    split
    · exact (maintains_commitAt world _).bind fun _ => maintains_pure _
    · refine (maintains_loaded id).bind fun task => .ite (fun _ => ?_) fun _ => ?_
      · exact (maintains_commitAt world _).bind fun _ => lasts_forwardEarlyStop world regular _
      · refine (lasts_updateTaskMeta regular _ (by simp)).bind fun _ => (maintains_commitAt world _).bind fun _ => ?_
        refine .ite (fun _ => lasts_failAndReturn world regular _ _ (by simp)) fun _ => ?_
        exact (maintains_callWorker world _ _).bind fun _ => maintains_pure _

theorem lasts_threadPosted (node : Nat) : Lasts P stops (threadPosted world id node) := by
  unfold threadPosted
  split
  · exact maintains_raise _
  · split
    · exact maintains_raise _
    · exact lasts_failAndReturn world regular _ _ (by simp)
  · refine .ite (fun _ => lasts_failAndReturn world regular _ _ (by simp)) fun _ => (maintains_loaded id).bind fun task => ?_
    refine Maintains.bind (lasts_modify regular ?_) fun _ => (maintains_commitAt world _).bind fun _ => ?_
    · exact fun _ marked => marked
    · refine .ite (fun _ => lasts_failAndReturn world regular _ _ (by simp)) fun _ => ?_
      refine (lasts_updateTaskMeta regular _ ?_).bind fun _ => (maintains_commitAt world _).bind fun _ => ?_
      · simp [postedFields]
      · exact lasts_forwardEarlyStop world regular node

theorem lasts_threadAsk (node : Nat) : Lasts P stops (threadAsk world id node) :=
  (lasts_refresh regular).bind fun _ => maintains_recollect.bind fun _ =>
    (maintains_callWorker world id node).bind fun _ => maintains_pure _

theorem lasts_threadFailed (detail : String) : Lasts P stops (threadFailed world id detail) := by
  refine maintains_rollback.bind fun _ => maintains_read.bind fun hub => .ite (fun _ => ?_) fun _ => maintains_pure _
  refine lasts_failAndCommit world regular _ _ ?_
  split
  · simp
  · simp

theorem lasts_maybeStart : Lasts P stops (maybeStartCapture world id) := by
  have spawns : Lasts P stops (do
      commitAt world (.spawn id)
      Tx.remember fun process => { process with threads := id :: process.threads } : Program Unit) :=
    (maintains_commitAt world _).bind fun _ => lasts_remember fun _ => rfl
  refine (maintains_loaded id).bind fun task => maintains_recollect.bind fun process =>
    .ite (fun _ => maintains_pure _) fun _ => ?_
  refine .ite (fun _ => maintains_pure _) fun _ => Maintains.bind (lasts_remember ?_) fun _ => ?_
  · exact fun _ => rfl
  · refine (lasts_capacityAvailable world).bind fun available => .ite (fun _ => ?_) fun _ =>
      lasts_failTask world regular _ (by simp)
    refine Maintains.bind (lasts_remember ?_) fun _ => .ite (fun _ => ?_) fun _ => spawns
    · exact fun _ => rfl
    · refine Maintains.bind (lasts_modify regular ?_) fun _ => maintains_flush.bind fun _ => spawns
      exact fun task marked => marked.fields (by rw [Dict.get_set, if_neg (by decide)])

theorem lasts_tickReplied (reply : Reply) : Lasts P stops (tickReplied world id reply) := by
  cases reply with
  | raises => exact maintains_raise _
  | unreachable => exact maintains_pure _
  | answer code poll =>
    refine .ite (fun _ => maintains_pure _) fun _ => .ite (fun _ => maintains_pure _) fun _ => ?_
    exact .ite (fun _ => (lasts_updateTaskMeta regular _ (by simp)).bind fun _ => maintains_pure _) fun _ => maintains_pure _

omit regular in
theorem lasts_tickAsk : Lasts P stops (tickAsk world id) := by
  refine (maintains_loaded id).bind fun task => .ite (fun _ => maintains_pure _) fun _ => ?_
  split
  · refine maintains_read.bind fun hub => .ite (fun _ => maintains_pure _) fun _ => ?_
    exact (maintains_callWorker world _ _).bind fun _ => maintains_pure _
  · exact maintains_pure _

end Programs

section Replies

variable {id : Nat} {P : Hub → Prop} {stops : List Nat} (world : World) (regular : Regular id P)

structure Storing (P : Hub → Prop) (stops : List Nat) (s : Session Hub Process) : Prop where
  stored : P s.committed
  memory : s.memory.stopRequested = stops

theorem Remembering.storing {s : Session Hub Process} (holds : Remembering P stops s) : Storing P stops s :=
  ⟨holds.rows.committed, holds.memory⟩

/-- A program that leaves the property stored, from a session that has it, and in the object after the values in
`keeping`. -/
def Stores {A : Type} (P : Hub → Prop) (stops : List Nat) (keeping : A → Bool) (program : Program A) : Prop :=
  ∀ s, Remembering P stops s →
    wp program (fun a after => Storing P stops after ∧ (keeping a = true → P after.working)) (fun _ => Remembering P stops) s

theorem stores_of_lasts {A : Type} {program : Program A} (keeping : A → Bool) (lasts : Lasts P stops program) :
    Stores P stops keeping program :=
  fun s holds => wp_mono (lasts s holds) (fun _ _ held => ⟨held.storing, fun _ => held.rows.working⟩) fun _ _ held => held

theorem stores_bind {A B : Type} {program : Program A} {next : A → Program B} {keeping : B → Bool}
    (first : Lasts P stops program) (second : ∀ a, Stores P stops keeping (next a)) :
      Stores P stops keeping (program >>= next) := by
  intro s holds
  rw [wp_bind]
  exact wp_mono (first s holds) (fun a after held => second a after held) fun _ _ held => held

theorem stores_ite {A : Type} {c : Prop} [Decidable c] {first second : Program A} {keeping : A → Bool}
    (yes : c → Stores P stops keeping first) (no : ¬c → Stores P stops keeping second) :
    Stores P stops keeping (if c then first else second) := by
  split
  · exact yes ‹_›
  · exact no ‹_›

theorem stores_value {A B : Type} {program : Program A} (f : A → B) (keeping : B → Bool)
    (stores : Stores P stops (fun a => keeping (f a)) program) : Stores P stops keeping (do let a ← program; pure (f a)) := by
  intro s holds
  rw [wp_bind]
  exact wp_mono (stores s holds) (fun _ _ held => held) fun _ _ held => held

/-- The thread does not come back from its poll with a file. -/
def Awaiting.isUnready : Awaiting → Bool
  | .artifact .. => false
  | _ => true

include regular

/-- The request that a poll takes back from the object, when it shows the file, is still stored. -/
theorem afterPoll_stores (node : Nat) (status : String) (poll : Dict) :
    Stores P stops Awaiting.isUnready (afterPoll world id node status poll) := by
  refine stores_bind (maintains_loaded id) fun task => stores_bind maintains_recollect fun process => ?_
  have fails (code : ErrorCode) {extra : Dict} (step : Nat) (absent : ∀ field ∈ extra, field.1 ≠ "stop_requested") :
      Stores P stops Awaiting.isUnready (failAndReturn world id code extra step) :=
    stores_of_lasts _ (lasts_failAndReturn world regular code step absent)
  refine stores_ite (fun _ => fails _ _ (by simp)) fun _ => stores_ite (fun _ => stores_ite (fun _ => ?_) fun _ => ?_) fun _ => ?_
  · exact stores_of_lasts _ (maintains_pure _)
  · exact fun s holds => ⟨⟨holds.rows.committed, holds.memory⟩, fun unready => by contradiction⟩
  · refine stores_ite (fun _ => fails _ _ (by simp)) fun _ => stores_ite (fun _ => fails _ _ (by simp)) fun _ => ?_
    exact stores_of_lasts _ (maintains_pure _)

theorem threadReplied_stores (node : Nat) (salvage : Bool) (reply : Reply) :
    Stores P stops Awaiting.isUnready (threadReplied world id node salvage reply) := by
  cases reply with
  | raises => exact stores_of_lasts _ (maintains_raise _)
  | unreachable => exact stores_of_lasts _ (maintains_raise _)
  | answer code poll =>
    have fails (code : ErrorCode) (step : Nat) : Stores P stops Awaiting.isUnready (failAndReturn world id code [] step) :=
      stores_of_lasts _ (lasts_failAndReturn world regular code step (by simp))
    refine stores_bind maintains_recollect fun process => stores_ite (fun _ => ?_) fun _ => ?_
    · refine stores_ite (fun _ => stores_of_lasts _ (maintains_pure _)) fun _ => ?_
      exact stores_bind (maintains_forwardCaptureCancel world) fun _ => fails _ _
    · refine stores_ite (fun _ => fails _ _) fun _ => stores_bind (maintains_loaded id) fun task => ?_
      -- What follows the call to the worker, whether or not a stop is forwarded.
      have rest (status stage : String) : Stores P stops Awaiting.isUnready (do
          modifyTask id fun task => { task with metaJson := some (polledFields world status stage task.metaDict) }
          Tx.flush
          commitAt world (.runner id 27)
          afterPoll world id node status poll) :=
        stores_bind (lasts_modify regular fun _ marked => marked.polled world status stage) fun _ =>
          stores_bind maintains_flush fun _ => stores_bind (maintains_commitAt world _) fun _ =>
            afterPoll_stores world regular node status poll
      exact stores_ite (fun _ => stores_bind (maintains_forwardCaptureStop world) fun _ => rest _ _) fun _ => rest _ _

end Replies

section Files

variable {id : Nat} {stops : List Nat} (world : World)

/-- The row stays, whatever becomes of the file. -/
theorem present_modify (f : Task → Task) : Lasts (Present id) stops (modifyTask id f) :=
  lasts_update fun _ present => present.modified f

theorem present_failAndCommit (code : ErrorCode) (extra : Dict) (step : Nat) :
    Lasts (Present id) stops (failAndCommit world id code extra step) :=
  ((present_modify _).bind fun _ => maintains_flush.bind fun _ => maintains_guardSite world _).bind fun _ =>
    maintains_commitAt world _

theorem present_check : Lasts (Present id) stops (threadCheck id) :=
  (lasts_refresh (present_regular id)).bind fun _ => (maintains_loaded id).bind fun _ => maintains_pure _

theorem present_persistAsk (node : Nat) : Lasts (Present id) stops (persistAsk world id node) := by
  have begins : Lasts (Present id) stops (persistBegin world id) := by
    refine (lasts_refresh (present_regular id)).bind fun _ => (maintains_loaded id).bind fun task => ?_
    refine .ite (fun _ => maintains_pure _) fun _ => .ite (fun _ => ?_) fun _ => ?_
    · exact (present_failAndCommit world _ _ _).bind fun _ => maintains_pure _
    · exact ((present_modify _).bind fun _ => maintains_flush).bind fun _ => (maintains_commitAt world _).bind fun _ =>
        maintains_pure _
  refine begins.bind fun begun => ?_
  split
  · exact maintains_pure _
  · exact (maintains_callWorker world id node).bind fun _ => maintains_pure _

theorem present_persistDownloaded (poll : Dict) : Lasts (Present id) stops (persistDownloaded world id poll) := by
  refine (maintains_guardSite world _).bind fun _ => ?_
  split
  · exact (present_failAndCommit world _ _ _).bind fun _ => maintains_pure _
  · exact (present_failAndCommit world _ _ _).bind fun _ => maintains_pure _
  · split
    · exact maintains_raise _
    · refine (lasts_refresh (present_regular id)).bind fun _ => (maintains_loaded id).bind fun task => ?_
      exact .ite (fun _ => maintains_pure _) fun _ => (maintains_commitAt world _).bind fun _ => maintains_pure _

theorem present_persistSaved (fields : Dict) (duration : Option Decimal) :
    Lasts (Present id) stops (persistSaved world id fields duration) := by
  have added (hub : Hub) (task : Task) (present : Present id hub) : Present id (hub.addTask task) := by
    simp only [Present, Hub.addTask, Table.find_put]
    split
    · rfl
    · exact present
  have enqueues : Lasts (Present id) stops (enqueueTranscribeAfterIngest world id) := by
    refine (maintains_loaded id).bind fun task => maintains_read.bind fun hub => ?_
    refine .ite (fun _ => maintains_pure _) fun _ => .ite (fun _ => maintains_pure _) fun _ => ?_
    split
    · exact maintains_pure _
    · split
      · exact maintains_raise _
      · exact maintains_pure _
      · refine (maintains_guardSite world _).bind fun _ => (lasts_update fun hub present => added hub _ present).bind fun _ => ?_
        exact maintains_flush.bind fun _ => present_modify _
  unfold persistSaved
  split
  · exact present_failAndCommit world _ _ _
  · exact present_failAndCommit world _ _ _
  · exact present_failAndCommit world _ _ _
  · refine (maintains_loaded id).bind fun task => maintains_read.bind fun hub => ?_
    refine Maintains.bind (lasts_update ?_) fun _ => maintains_flush.bind fun _ => (maintains_guardSite world _).bind fun _ => ?_
    · exact fun _ present => present
    · exact (present_modify _).bind fun _ => (maintains_guardSite world _).bind fun _ => enqueues.bind fun _ =>
        maintains_commitAt world _
  · exact maintains_pure _
  · exact maintains_pure _

end Files

section Sections

variable {id : Nat} {P : Hub → Prop} {stops : List Nat} (world : World)

def Phase.shown : Phase → Bool
  | .fetched .. | .persisting .. | .downloading .. | .saving .. => true
  | _ => false

def Phase.isLeaving : Phase → Bool
  | .leaving _ => true
  | _ => false

theorem section_stores (regular : Regular id P) (detail : String) (role : Role) {phase : Phase}
    (unshown : phase.shown = false) (stays : phase.isLeaving = false) :
    Stores P stops (fun phase => !phase.shown) (sectionOf world id detail role phase).program := by
  cases phase with
  | idle =>
    refine stores_of_lasts _ ?_
    cases role with
    | thread =>
      refine maintains_recollect.bind fun process => .ite (fun _ => ?_) fun _ => maintains_pure _
      exact (lasts_threadStart world regular).bind fun _ => maintains_pure _
    | tick => exact (maintains_loaded id).bind fun _ => maintains_pure _
  | loaded =>
    refine stores_of_lasts _ ((lasts_tickAsk world).bind fun node => ?_)
    split
    · exact maintains_pure _
    · exact maintains_pure _
  | posting node => exact stores_of_lasts _ ((lasts_threadPosted world regular node).bind fun _ => maintains_pure _)
  | polling node => exact stores_of_lasts _ ((lasts_threadAsk world regular node).bind fun _ => maintains_pure _)
  | asked node salvage => exact stores_of_lasts _ (maintains_pure _)
  | replied node salvage reply =>
    cases role with
    | thread =>
      have values : (fun waiting : Awaiting => !(waiting.phase (some node)).shown) = Awaiting.isUnready := by
        funext waiting
        cases waiting <;> rfl
      refine stores_value (Awaiting.phase (some node)) (fun phase => !phase.shown) ?_
      rw [values]
      exact threadReplied_stores world regular node salvage reply
    | tick =>
      refine stores_of_lasts _ ((lasts_tickReplied world regular reply).bind fun next => ?_)
      split
      · exact maintains_pure _
      · exact maintains_pure _
  | fetched node poll => contradiction
  | persisting node poll => contradiction
  | downloading node poll fields => contradiction
  | saving node fields duration artifact => contradiction
  | raised => exact stores_of_lasts _ ((lasts_threadFailed world regular detail).bind fun _ => maintains_pure _)
  | leaving node => contradiction
  | starting => exact stores_of_lasts _ ((lasts_maybeStart world regular).bind fun _ => maintains_pure _)
  | committing => exact stores_of_lasts _ ((maintains_commitAt world _).bind fun _ => maintains_pure _)

/-- A driver that has seen the file keeps the row. -/
theorem section_present (detail : String) (role : Role) {phase : Phase} (shown : phase.shown = true) :
    Lasts (Present id) stops (sectionOf world id detail role phase).program := by
  cases phase with
  | fetched node poll => exact (present_check).bind fun _ => maintains_pure _
  | persisting node poll =>
    refine (present_persistAsk world node).bind fun begun => ?_
    split
    · exact maintains_pure _
    · exact maintains_pure _
  | downloading node poll fields =>
    refine (present_persistDownloaded world poll).bind fun downloaded => ?_
    split
    · exact maintains_pure _
    · exact maintains_pure _
  | saving node fields duration artifact =>
    exact (present_persistSaved { world with artifact := fun _ => artifact } fields duration).bind fun _ => maintains_pure _
  | _ => contradiction

theorem threadLeaves_preserves (node : Option Nat) : Preserves P (threadLeaves world id node) := by
  have forgets : Preserves P (do Tx.remember (threadFinished id); pure .idle : Program Phase) := by
    refine Maintains.bind ?_ fun _ => maintains_pure _
    exact fun _ holds => ⟨holds.committed, holds.flushed, holds.working⟩
  refine maintains_read.bind fun hub => ?_
  split
  · exact forgets
  · refine .ite (fun _ => ?_) fun _ => forgets
    exact (maintains_callWorker world id _).attempt.bind fun _ => forgets

end Sections

section Recovery

variable (world : World)

/-- `recover_capture_task` up to the question to the worker. -/
def recoverAsk (id : Nat) (nodes : List Nat) : Program (Option Nat) := do
  let task ← loaded id
  if task.type != .capture || task.status != .running then pure none
  else
    match nonEmpty (task.workerTaskId.map Text.strip), task.workerId with
    | some _, some node =>
      if !nodes.contains node then do
        loseCaptureWorkerLink world id "worker node missing"
        pure none
      else do
        callWorker world id node
        pure (some node)
    | _, _ => do
      loseCaptureWorkerLink world id "no worker_task_id"
      pure none

/-- `recover_capture_task` from the answer on. -/
def recoverReplied (id : Nat) : Reply → Program Unit
  | .raises => Tx.raise .raised
  | .unreachable => pure ()
  | .answer status poll => do
    let task ← loaded id
    if status = 404 then loseCaptureWorkerLink world id "worker 404"
    else if 500 ≤ status then pure ()
    else recoverCaptureTask.reattach world id task poll

/-- The sections of the recovery of one capture; the session began when the hub did. -/
def recoverySection (id : Nat) (nodes : List Nat) : Phase → Section
  | .loaded => ⟨.fresh, do
      match ← recoverAsk world id nodes with
      | none => pure .committing
      | some node => pure (.asked node false), .idle⟩
  | .asked node salvage => ⟨.stale, pure (.replied node salvage (world.getTask id)), .idle⟩
  | .replied _ _ reply => ⟨.stale, do
      recoverReplied world id reply
      pure .committing, .idle⟩
  | .committing => ⟨.stale, do
      commitAt world (.tick 1)
      pure .idle, .idle⟩
  | phase => ⟨.fresh, pure phase, phase⟩

theorem loaded_run {id : Nat} {s : Session Hub Process} {task : Task} (found : s.working.tasks.find id = some task) :
    (loaded id : Program Task) s = (.ok task, s) := by
  simp [loaded, bind, Tx.bind, Tx.read, found, pure, Tx.pure]

theorem reload_callWorker {A : Type} {id : Nat} {s : Session Hub Process} {task : Task}
    (found : s.working.tasks.find id = some task) (node : Nat) (next : Task → Program A) :
    (callWorker world id node >>= fun _ => next task) s = (callWorker world id node >>= fun _ => loaded id >>= next) s := by
  have called : callWorker world id node s = (.ok (), s.commit) ∨ callWorker world id node s = (.error .raised, s) := by
    simp only [callWorker, guardSite, commitAt]
    split
    · exact .inr rfl
    · split
      · exact .inr rfl
      · exact .inl rfl
  simp only [bind, Tx.bind]
  rcases called with done | raised
  · simp only [done]
    rw [loaded_run (s := s.commit) found]
  · simp only [raised]

theorem loaded_bind {A : Type} {id : Nat} {s : Session Hub Process} {task : Task}
    (found : s.working.tasks.find id = some task) (next : Task → Program A) : (loaded id >>= next) s = next task s := by
  simp only [bind, Tx.bind, loaded_run found]

theorem recoverCaptureTask_eq (id : Nat) (nodes : List Nat) :
    recoverCaptureTask world id nodes = (do
      match ← recoverAsk world id nodes with
      | none => pure ()
      | some _ => recoverReplied world id (world.getTask id)) := by
  funext s
  rw [recoverCaptureTask, recoverAsk, bind_assoc]
  cases found : s.working.tasks.find id with
  | none => simp [loaded, bind, Tx.bind, Tx.read, found, Tx.raise]
  | some task =>
    rw [loaded_bind found, loaded_bind found]
    split
    · rfl
    · cases nonEmpty (task.workerTaskId.map Text.strip) with
      | none => simp
      | some job =>
        cases task.workerId with
        | none => simp
        | some node =>
          dsimp only
          split
          · simp
          · simp only [bind_assoc, pure_bind, pollWorker]
            cases world.getTask id with
            | raises => rfl
            | unreachable => rfl
            | answer status poll =>
              simp only [pure_bind, recoverReplied]
              exact reload_callWorker world found node fun task =>
                if status = 404 then loseCaptureWorkerLink world id "worker 404"
                else if 500 ≤ status then pure () else recoverCaptureTask.reattach world id task poll

variable {id : Nat} {P : Hub → Prop} {stops : List Nat} (regular : Regular id P)
include regular

theorem lasts_loseLink (reason : String) : Lasts P stops (loseCaptureWorkerLink world id reason) := by
  refine (maintains_loaded id).bind fun task => .ite (fun _ => lasts_failTask world regular _ (by simp)) fun _ => ?_
  exact lasts_modify regular fun task marked => marked.fields (by rw [Dict.get_set, if_neg (by decide)])

theorem recoverySection_lasts (nodes : List Nat) (phase : Phase) :
    Lasts P stops (recoverySection world id nodes phase).program := by
  have staged (stage : String) (status : Json) : Lasts P stops (updateTaskMeta id stage [("worker_capture_status", status)]) :=
    lasts_updateTaskMeta regular stage (by simp)
  have reattach (task : Task) (poll : Dict) : Lasts P stops (recoverCaptureTask.reattach world id task poll) := by
    refine maintains_recollect.bind fun process => .ite (fun _ => lasts_failTask world regular _ (by simp)) fun _ => ?_
    refine .ite (fun _ => .ite (fun _ => staged _ _) fun _ => lasts_failTask world regular _ (by simp)) fun _ => ?_
    refine .ite (fun _ => lasts_loseLink world regular _) fun _ => (staged _ _).bind fun _ =>
      (maintains_loaded id).bind fun task => ?_
    exact .ite (fun _ => (maintains_forwardCaptureStop world).bind fun _ => staged _ _) fun _ => maintains_pure _
  unfold recoverySection
  split
  · have asks : Lasts P stops (recoverAsk world id nodes) := by
      refine (maintains_loaded id).bind fun task => .ite (fun _ => maintains_pure _) fun _ => ?_
      split
      · refine .ite (fun _ => (lasts_loseLink world regular _).bind fun _ => maintains_pure _) fun _ => ?_
        exact (maintains_callWorker world id _).bind fun _ => maintains_pure _
      · exact (lasts_loseLink world regular _).bind fun _ => maintains_pure _
    refine asks.bind fun node => ?_
    split
    · exact maintains_pure _
    · exact maintains_pure _
  · exact maintains_pure _
  · refine Maintains.bind ?_ fun _ => maintains_pure _
    unfold recoverReplied
    split
    · exact maintains_raise _
    · exact maintains_pure _
    · refine (maintains_loaded id).bind fun task => .ite (fun _ => lasts_loseLink world regular _) fun _ => ?_
      exact .ite (fun _ => maintains_pure _) fun _ => reattach _ _
  · exact (maintains_commitAt world _).bind fun _ => maintains_pure _
  · exact maintains_pure _

end Recovery

section Sessions

/-- The worker has answered the driver, which decides what to do with the answer. -/
def Phase.isDeciding : Phase → Bool
  | .replied .. => true
  | _ => false

/-- The next section of the driver loads the row anew. -/
def Phase.begins : Phase → Bool
  | .idle | .raised => true
  | _ => false

def Phase.recovers : Phase → Bool
  | .asked .. | .replied .. | .committing => true
  | _ => false

/-- What the driver has read, and its object, ask for a stop. -/
def Driver.Marks (driver : Driver) : Prop := Marked driver.base ∧ Marked driver.own

/-- Nothing that the driver has read takes a request out of the row. -/
def Driver.Spares (driver : Driver) : Prop :=
  driver.phase.begins = true ∨ driver.Marks ∨ driver.phase.isLeaving = true ∧ driver.own.metaJson = driver.base.metaJson

instance Driver.marks_decidable (driver : Driver) : Decidable driver.Marks := inferInstanceAs (Decidable (_ ∧ _))

instance Driver.spares_decidable (driver : Driver) : Decidable driver.Spares :=
  inferInstanceAs (Decidable (_ ∨ _ ∨ _ ∧ _))

variable {id : Nat} {hub : Hub} {process : Process} {driver : Driver} {part : Section} {stored : Task}

theorem Present.session (present : Present id hub) (driver : Driver) (process : Process) :
    Remembering (Present id) process.stopRequested (driver.session id hub process) :=
  ⟨⟨present.modified _, present.modified _, present.modified _⟩, rfl⟩

theorem Driver.Marks.session (marks : driver.Marks) (present : Present id hub) (process : Process) :
    Remembering (MarkedRow id) process.stopRequested (driver.session id hub process) := by
  obtain ⟨task, found⟩ := Option.isSome_iff_exists.mp present
  have base : MarkedRow id (hub.modifyTask id fun _ => driver.base) := ⟨_, find_modifyTask found _, marks.1⟩
  have own : MarkedRow id (hub.modifyTask id fun _ => driver.own) := ⟨_, find_modifyTask found _, marks.2⟩
  exact ⟨⟨base, own, own⟩, rfl⟩

theorem run_of_wp {Q : Phase → Session Hub Process → Prop} (found : hub.tasks.find id = some stored)
    (holds : wp part.program Q (fun _ => Q part.failure) ((driver.read stored part.reading).session id hub process)) :
    let reader := driver.read stored part.reading
    ∃ (next : Phase) (after : Session Hub Process), Q next after ∧
      driver.run id hub process part =
        (after.committed.modifyTask id fun row => Task.merged reader.base row stored, after.memory,
          ⟨(after.committed.tasks.find id).getD reader.base, (after.working.tasks.find id).getD reader.own, next⟩) := by
  simp only [Driver.run, found, Option.getD_some, Tx.run]
  simp only [wp] at holds
  generalize part.program ((driver.read stored part.reading).session id hub process) = ran at holds
  obtain ⟨outcome, after⟩ := ran
  cases outcome with
  | ok next => exact ⟨next, after, holds, rfl⟩
  | error fault => exact ⟨part.failure, after, holds, rfl⟩

/-- A request that a session writes over the row, unless it has read it there. -/
theorem Marked.merged {base own : Task} (marked : Marked own) (kept : Marked base → Marked stored) :
    Marked (Task.merged base own stored) := by
  show isTrue (Dict.get ((column base.metaJson own.metaJson stored.metaJson).getD []) "stop_requested") = true
  unfold column
  split
  · rename_i same
    refine kept ?_
    rw [Marked, Task.metaDict, ← same]
    exact marked
  · exact marked

theorem Marked.spared {base own : Task} (same : own.metaJson = base.metaJson) (kept : Marked stored) :
    Marked (Task.merged base own stored) := by
  show isTrue (Dict.get ((column base.metaJson own.metaJson stored.metaJson).getD []) "stop_requested") = true
  rw [same, column_unchanged]
  exact kept

theorem run_present (driver : Driver) (process : Process) {keeping : Phase → Bool} (found : hub.tasks.find id = some stored)
    (stores : Stores (Present id) process.stopRequested keeping part.program) :
    Present id (driver.run id hub process part).1 ∧
      (driver.run id hub process part).2.1.stopRequested = process.stopRequested := by
  have present : Present id hub := by simp [Present, found]
  obtain ⟨next, after, storing, ran⟩ := run_of_wp found
    (Q := fun _ after => Storing (Present id) process.stopRequested after)
    (wp_mono (stores _ (present.session _ process)) (fun _ _ held => held.1) fun _ _ held => held.storing)
  rw [ran]
  exact ⟨storing.stored.modified _, storing.memory⟩

theorem run_marks (process : Process) (found : hub.tasks.find id = some stored) (kept : Marked stored)
    (stores : Stores (MarkedRow id) process.stopRequested (fun phase => !phase.shown) part.program)
    (marks : (driver.read stored part.reading).Marks) :
    MarkedRow id (driver.run id hub process part).1 ∧
      ((driver.run id hub process part).2.2.phase.shown = false → (driver.run id hub process part).2.2.Marks) := by
  have present : Present id hub := by simp [Present, found]
  obtain ⟨next, after, ⟨storing, keeps⟩, ran⟩ := run_of_wp found
    (Q := fun next after => Storing (MarkedRow id) process.stopRequested after ∧
      ((!next.shown) = true → MarkedRow id after.working))
    (wp_mono (stores _ (marks.session present process)) (fun _ _ held => held) fun _ _ held =>
      ⟨held.storing, fun _ => held.rows.working⟩)
  obtain ⟨row, its, marked⟩ := storing.stored
  rw [ran]
  refine ⟨⟨_, find_modifyTask its _, marked.merged fun _ => kept⟩, fun unshown => ?_⟩
  obtain ⟨object, shows, asks⟩ := keeps (by rw [unshown]; rfl)
  exact ⟨by rw [its]; exact marked, by rw [shows]; exact asks⟩

/-- The thread ends: it writes what it has not saved yet, or nothing. -/
theorem leaves_run (driver : Driver) (process : Process) (world : World) (node : Option Nat) {P : Hub → Prop} {failure : Phase}
    (found : hub.tasks.find id = some stored) (ends : failure = .idle)
    (base : P (hub.modifyTask id fun _ => driver.base)) (own : P (hub.modifyTask id fun _ => driver.own)) :
    let ran := driver.run id hub process ⟨.stale, threadLeaves world id node, failure⟩
    ran.2.2.phase = .idle ∧ ∃ committed, P committed ∧
      ran.1 = committed.modifyTask id fun row => Task.merged driver.base row stored := by
  have leaves : wp (threadLeaves world id node) (fun next _ => next = .idle) (fun _ _ => True)
    (driver.session id hub process) := by
    have forgets (s : Session Hub Process) :
        wp (do Tx.remember (threadFinished id); pure .idle : Program Phase) (fun next _ => next = .idle)
          (fun _ _ => True) s := rfl
    rw [threadLeaves, wp_bind, wp_read]
    cases node with
    | none => exact forgets _
    | some node =>
      refine wp_cases (fun _ => ?_) fun _ => forgets _
      simp only [wp_bind]
      exact wp_mono (wp_trivial _ _) (fun _ after _ => forgets after) fun _ _ _ => trivial
  let part : Section := ⟨.stale, threadLeaves world id node, failure⟩
  obtain ⟨next, after, ⟨done, holds⟩, ran⟩ := @run_of_wp id hub process driver part stored
    (fun next after => next = .idle ∧ P after.committed) found
    (wp_mono (wp_and leaves (threadLeaves_preserves world node (driver.session id hub process) ⟨base, own, own⟩))
      (fun _ _ held => ⟨held.1, held.2.committed⟩) fun _ _ held => ⟨ends, held.2.committed⟩)
  intro ran'
  rw [show ran' = _ from ran]
  exact ⟨done, after.committed, holds, rfl⟩

theorem leaves_present (process : Process) (world : World) (detail : String) (role : Role)
    (found : hub.tasks.find id = some stored) (leaving : driver.phase.isLeaving = true) :
    Present id (driver.run id hub process (sectionOf world id detail role driver.phase)).1 ∧
      (driver.run id hub process (sectionOf world id detail role driver.phase)).2.2.phase = .idle := by
  have present : Present id hub := by simp [Present, found]
  obtain ⟨base, own, phase⟩ := driver
  cases phase with
  | leaving node =>
    obtain ⟨idle, committed, held, ran⟩ := leaves_run ⟨base, own, .leaving node⟩ process world node (P := Present id) found rfl
      (present.modified _) (present.modified _)
    exact ⟨ran ▸ held.modified _, idle⟩
  | _ => contradiction

theorem leaves_marks {world : World} {detail : String} {role : Role} (found : hub.tasks.find id = some stored)
    (kept : Marked stored) (leaving : driver.phase.isLeaving = true) (spares : driver.Spares) :
    MarkedRow id (driver.run id hub process (sectionOf world id detail role driver.phase)).1 := by
  have present : Present id hub := by simp [Present, found]
  obtain ⟨base, own, phase⟩ := driver
  cases phase with
  | leaving node =>
    have ended {P : Hub → Prop} := leaves_run ⟨base, own, .leaving node⟩ process world node (P := P) found rfl
    rcases spares with begins | marks | ⟨_, unsaved⟩
    · contradiction
    · have start := marks.session present process
      obtain ⟨_, committed, ⟨object, its, asks⟩, ran⟩ := ended start.rows.committed start.rows.working
      exact ran ▸ ⟨_, find_modifyTask its _, asks.merged fun _ => kept⟩
    · obtain ⟨_, committed, ⟨object, its, same⟩, ran⟩ := ended
        (P := fun hub => ∃ object, hub.tasks.find id = some object ∧ object.metaJson = base.metaJson)
        ⟨_, find_modifyTask found _, rfl⟩ ⟨_, find_modifyTask found _, unsaved⟩
      exact ran ▸ ⟨_, find_modifyTask its _, kept.spared same⟩
  | _ => contradiction

theorem reader_marks (world : World) (detail : String) (role : Role) (kept : Marked stored) (spares : driver.Spares)
    (unshown : driver.phase.shown = false) (stays : driver.phase.isLeaving = false) :
    (driver.read stored (sectionOf world id detail role driver.phase).reading).Marks := by
  rcases spares with begins | marks | ⟨leaving, _⟩
  · obtain ⟨base, own, phase⟩ := driver
    cases phase with
    | idle =>
      cases role with
      | thread => exact ⟨kept, kept⟩
      | tick => exact ⟨kept, kept⟩
    | raised => exact ⟨kept, kept⟩
    | _ => contradiction
  · cases (sectionOf world id detail role driver.phase).reading with
    | stale => exact marks
    | refreshed => exact ⟨kept, marks.2.merged fun _ => kept⟩
    | fresh => exact ⟨kept, kept⟩
  · rw [stays] at leaving
    contradiction

/-- The next section writes the fields of the row as the driver has read them, unless it reads them anew. -/
def Driver.writes (role : Role) (driver : Driver) : Bool :=
  driver.own.metaJson != driver.base.metaJson ||
    match driver.phase with
    | .posting _ => true
    | .replied _ _ (.answer ..) => role == .thread
    | .starting => driver.own.status == .queued
    | _ => false

def Driver.recovers (recovery : Driver) : Bool :=
  recovery.own.metaJson != recovery.base.metaJson ||
    match recovery.phase with
    | .replied _ _ (.answer ..) => true
    | _ => false

/-- The driver has not read the request, and writes its fields back without it. -/
def Driver.Overwrites (role : Role) (driver : Driver) : Prop :=
  driver.phase.begins = false ∧ ¬driver.Marks ∧ driver.writes role = true

def Driver.RecoveryOverwrites (recovery : Driver) : Prop :=
  recovery.phase.recovers = true ∧ ¬recovery.Marks ∧ recovery.recovers = true

instance Driver.overwrites_decidable (role : Role) (driver : Driver) : Decidable (driver.Overwrites role) :=
  inferInstanceAs (Decidable (_ ∧ _ ∧ _))

instance Driver.recoveryOverwrites_decidable (recovery : Driver) : Decidable recovery.RecoveryOverwrites :=
  inferInstanceAs (Decidable (_ ∧ _ ∧ _))

def RowFields (id : Nat) (fields : Option Dict) (hub : Hub) : Prop :=
  ∃ task, hub.tasks.find id = some task ∧ task.metaJson = fields

theorem run_unsaved (process : Process) (found : hub.tasks.find id = some stored) (kept : Marked stored)
    (stale : part.reading = .stale) {fields : Option Dict} (base : driver.base.metaJson = fields)
    (unsaved : wp part.program (fun _ after => RowFields id fields after.committed)
      (fun _ after => RowFields id fields after.committed) (driver.session id hub process)) :
    MarkedRow id (driver.run id hub process part).1 := by
  have reader : driver.read stored part.reading = driver := by rw [stale, Driver.read]
  obtain ⟨_, _, ⟨object, its, same⟩, ran⟩ := @run_of_wp id hub process driver part stored
    (fun _ after => RowFields id fields after.committed) found (reader.symm ▸ unsaved)
  rw [ran, reader]
  exact ⟨_, find_modifyTask its _, kept.spared (same.trans base.symm)⟩

theorem Driver.rowFields (driver : Driver) (present : Present id hub) (process : Process) {fields : Option Dict}
    (base : driver.base.metaJson = fields) (own : driver.own.metaJson = fields) :
    Remembering (RowFields id fields) process.stopRequested (driver.session id hub process) := by
  obtain ⟨task, found⟩ := Option.isSome_iff_exists.mp present
  have row {its : Task} (same : its.metaJson = fields) : RowFields id fields (hub.modifyTask id fun _ => its) :=
    ⟨its, find_modifyTask found _, same⟩
  exact ⟨⟨row base, row own, row own⟩, rfl⟩

/-- A program that stores no change of the fields, from a session that has made none. -/
def Unsaved {A : Type} (id : Nat) (fields : Option Dict) (stops : List Nat) (program : Program A) : Prop :=
  ∀ s, Remembering (RowFields id fields) stops s →
    wp program (fun _ after => RowFields id fields after.committed) (fun _ after => RowFields id fields after.committed) s

variable {A B : Type} {fields : Option Dict} {stops : List Nat} {program : Program A} {next : A → Program B}

theorem unsaved_of_lasts (lasts : Lasts (RowFields id fields) stops program) : Unsaved id fields stops program :=
  fun s holds => wp_mono (lasts s holds) (fun _ _ held => held.rows.committed) fun _ _ held => held.rows.committed

theorem unsaved_of_silent (silent : Silent program) : Unsaved id fields stops program := by
  intro s holds
  have kept := holds.rows.committed
  exact wp_mono (silent s) (fun _ _ same => same.symm ▸ kept) fun _ _ same => same.symm ▸ kept

theorem unsaved_bind (first : Lasts (RowFields id fields) stops program) (second : ∀ a, Unsaved id fields stops (next a)) :
    Unsaved id fields stops (program >>= next) := by
  intro s holds
  rw [wp_bind]
  exact wp_mono (first s holds) (fun a after held => second a after held) fun _ _ held => held.rows.committed

theorem Unsaved.ite {c : Prop} [Decidable c] {other : Program A} (yes : c → Unsaved id fields stops program)
    (no : ¬c → Unsaved id fields stops other) : Unsaved id fields stops (if c then program else other) := by
  split
  · exact yes ‹_›
  · exact no ‹_›

theorem silent_tickReplied (world : World) (reply : Reply) : Silent (tickReplied world id reply) := by
  have staged (stage : String) (extra : Dict) : Silent (updateTaskMeta id stage extra) :=
    (silent_update _).bind fun _ => silent_flush
  cases reply with
  | raises => exact silent_raise _
  | unreachable => exact silent_pure _
  | answer code poll =>
    refine .ite (fun _ => silent_pure _) fun _ => .ite (fun _ => silent_pure _) fun _ => ?_
    exact .ite (fun _ => (staged _ _).bind fun _ => silent_pure _) fun _ => silent_pure _

/-- A tick that starts the thread of a running capture leaves the fields alone. -/
theorem maybeStart_unsaved (world : World) {s : Session Hub Process} (holds : Remembering (RowFields id fields) stops s)
    (started : ∀ task, s.working.tasks.find id = some task → task.status ≠ .queued) :
    wp (maybeStartCapture world id) (fun _ after => RowFields id fields after.committed)
      (fun _ after => RowFields id fields after.committed) s := by
  obtain ⟨task, found, _⟩ := holds.rows.working
  have remembers (f : Process → Process) (same : ∀ process, (f process).stopRequested = process.stopRequested) :
      Lasts (RowFields id fields) stops (Tx.remember f : Program Unit) := lasts_remember same
  rw [maybeStartCapture, wp_bind]
  refine wp_loaded_of found ?_
  refine unsaved_bind maintains_recollect (fun process => .ite (fun _ => unsaved_of_lasts (maintains_pure _)) fun _ => ?_) s holds
  refine .ite (fun _ => unsaved_of_lasts (maintains_pure _)) fun _ => unsaved_bind (remembers _ fun _ => rfl) fun _ => ?_
  refine unsaved_bind (lasts_capacityAvailable world) fun available => .ite (fun _ => unsaved_of_lasts ?_) fun _ => ?_
  · refine Maintains.bind (remembers _ ?_) fun _ => Maintains.ite (fun queued => absurd queued (started task found)) fun _ => ?_
    · exact fun _ => rfl
    · exact (maintains_commitAt world _).bind fun _ => remembers _ fun _ => rfl
  · exact unsaved_of_silent ((silent_update _).bind fun _ => silent_flush.bind fun _ => silent_guardSite world _)

theorem section_spares (world : World) (detail : String) (role : Role) (process : Process)
    (found : hub.tasks.find id = some stored)
    (kept : Marked stored) (unshown : driver.phase.shown = false) (spares : ¬driver.Overwrites role) :
    MarkedRow id (driver.run id hub process (sectionOf world id detail role driver.phase)).1 := by
  have present : Present id hub := by simp [Present, found]
  -- A driver that has read the request, or reads the row anew, keeps it.
  by_cases reads : driver.Spares
  · by_cases leaves : driver.phase.isLeaving = true
    · exact leaves_marks found kept leaves reads
    · have stays : driver.phase.isLeaving = false := by simpa using leaves
      exact (run_marks process found kept (section_stores world (markedRow_regular id) detail role unshown stays)
        (reader_marks world detail role kept reads unshown stays)).1
  have unwritten : driver.writes role = false := by
    by_contra writes
    exact spares ⟨by simpa using fun begins => reads (.inl begins), fun marks => reads (.inr (.inl marks)), by simpa using writes⟩
  obtain ⟨base, own, phase⟩ := driver
  simp only [Driver.writes, Bool.or_eq_false_iff, bne_eq_false_iff_eq] at unwritten
  obtain ⟨same, writes⟩ := unwritten
  have holds := Driver.rowFields ⟨base, own, phase⟩ present process rfl same
  cases phase with
  | loaded =>
    refine run_unsaved process found kept rfl rfl (unsaved_of_lasts ((lasts_tickAsk world).bind fun node => ?_) _ holds)
    split
    · exact maintains_pure _
    · exact maintains_pure _
  | asked node salvage => exact run_unsaved process found kept rfl rfl (unsaved_of_lasts (maintains_pure _) _ holds)
  | polling node =>
    refine (run_marks process found kept (section_stores world (markedRow_regular id) detail role unshown rfl) ⟨kept, ?_⟩).1
    exact kept.spared same
  | replied node salvage reply =>
    cases role with
    | thread =>
      refine run_unsaved process found kept rfl rfl (unsaved_of_lasts (Maintains.bind ?_ fun _ => maintains_pure _) _ holds)
      cases reply with
      | raises => exact maintains_raise _
      | unreachable => exact maintains_raise _
      | answer code poll => contradiction
    | tick =>
      refine run_unsaved process found kept rfl rfl (unsaved_of_silent
        ((silent_tickReplied world reply).bind fun next => ?_) _ holds)
      split
      · exact silent_pure _
      · exact silent_pure _
  | starting =>
    refine run_unsaved process found kept rfl rfl ?_
    have started := maybeStart_unsaved world holds fun task its => by
      obtain rfl : own = task := Option.some.inj ((find_modifyTask found fun _ => own).symm.trans its)
      simpa using writes
    exact (wp_bind ..).mpr (wp_mono started (fun _ _ held => held) fun _ _ held => held)
  | committing =>
    exact run_unsaved process found kept rfl rfl
      (unsaved_of_lasts ((maintains_commitAt world _).bind fun _ => maintains_pure _) _ holds)
  | leaving node => exact absurd (.inr (.inr ⟨rfl, same⟩)) reads
  | idle => exact absurd (.inl rfl) reads
  | raised => exact absurd (.inl rfl) reads
  | posting node => contradiction
  | _ => contradiction

theorem recovery_spares (world : World) (nodes : List Nat) (process : Process) (found : hub.tasks.find id = some stored)
    (kept : Marked stored) (spares : ¬driver.RecoveryOverwrites) :
    MarkedRow id (driver.run id hub process (recoverySection world id nodes driver.phase)).1 := by
  have present : Present id hub := by simp [Present, found]
  have lasts : Lasts (MarkedRow id) process.stopRequested (recoverySection world id nodes driver.phase).program :=
    recoverySection_lasts world (markedRow_regular id) nodes driver.phase
  have marked (reads : (driver.read stored (recoverySection world id nodes driver.phase).reading).Marks) :=
    (run_marks process found kept (stores_of_lasts _ lasts) reads).1
  by_cases marks : driver.Marks
  · refine marked ?_
    cases (recoverySection world id nodes driver.phase).reading with
    | stale => exact marks
    | refreshed => exact ⟨kept, marks.2.merged fun _ => kept⟩
    | fresh => exact ⟨kept, kept⟩
  by_cases anew : driver.phase.recovers = false
  · refine marked ?_
    obtain ⟨base, own, phase⟩ := driver
    cases phase with
    | asked | replied | committing => contradiction
    | _ => exact ⟨kept, kept⟩
  have unwritten : driver.recovers = false := by
    by_contra writes
    exact spares ⟨by simpa using anew, marks, by simpa using writes⟩
  obtain ⟨base, own, phase⟩ := driver
  simp only [Driver.recovers, Bool.or_eq_false_iff, bne_eq_false_iff_eq] at unwritten
  obtain ⟨same, writes⟩ := unwritten
  have holds := Driver.rowFields ⟨base, own, phase⟩ present process rfl same
  cases phase with
  | asked node salvage => exact run_unsaved process found kept rfl rfl (unsaved_of_lasts (maintains_pure _) _ holds)
  | replied node salvage reply =>
    refine run_unsaved process found kept rfl rfl (unsaved_of_lasts (Maintains.bind ?_ fun _ => maintains_pure _) _ holds)
    cases reply with
    | raises => exact maintains_raise _
    | unreachable => exact maintains_pure _
    | answer code poll => contradiction
  | committing =>
    exact run_unsaved process found kept rfl rfl
      (unsaved_of_lasts ((maintains_commitAt world _).bind fun _ => maintains_pure _) _ holds)
  | _ => exact absurd rfl anew

end Sessions

end IdigestHub.Capture
