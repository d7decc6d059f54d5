import IdigestHub.Dispatcher.Rounds
import IdigestHub.Dispatcher.Timeouts
import IdigestHub.System.Failures

/-! Timeouts over whole runs: when a task fails for want of a worker, and how long a mark against it lasts. -/

set_option autoImplicit false

namespace IdigestHub.System

open Foundation Foundation.Runs Foundation.UnitOfWork Dispatcher Tasks Relation

section Threads

variable {world : World} {server : Server} {id : Nat} {task : Task} {A : Type}

theorem perform_within {scope : Nat → Prop} {program : Program A}
    (safe : wp program (fun _ => Follows (Move world scope) server.hub)
      (fun _ after => Path world scope server.hub after.committed) (.start server.hub server.process)) :
    Path world scope server.hub (perform program server).2.hub := committed_path safe

theorem tends_within {program : Program A} {origin : Hub} (bounded : Bounded server.hub)
    (inside : ingesting origin id) (found : server.hub.tasks.find id = some task) (ingest : task.onWorker = false)
    (tends : Ingest.Tends world (ingesting origin) server.hub id program) :
    Path world (ingesting origin) server.hub (perform program server).2.hub := by
  refine perform_within (wp_mono (tends _ ?_) (fun _ _ held => held.follows) fun _ _ saved => saved)
  exact ⟨bounded, ⟨inside⟩, ⟨task, found, ingest⟩, .start ..⟩

theorem renews_within {program : Program A} {origin : Hub} (bounded : Bounded server.hub)
    (inside : ingesting origin id) (found : server.hub.tasks.find id = some task) (ingest : task.onWorker = false)
    (renews : Capture.Renews world (ingesting origin) server.hub id program) :
    Path world (ingesting origin) server.hub (perform program server).2.hub := by
  refine perform_within (wp_mono (renews _ ?_) (fun _ _ held => held.follows) fun _ _ saved => saved)
  exact ⟨⟨bounded, ⟨inside⟩, ⟨task, found, ingest⟩, .start ..⟩, rfl⟩

theorem afterSection_within {wait : A → Server → Server} {handler : Program Unit} {program : Program A} {returned : A}
    (bounded : Bounded server.hub) (found : server.hub.tasks.find id = some task) (ingest : task.onWorker = false)
    (keeps : ∀ awaiting server, (wait awaiting server).hub = server.hub)
    (path : Path world (ingesting server.hub) server.hub (perform program server).2.hub)
    (handles : ∀ hub, Ingest.Tends world (ingesting server.hub) hub id handler) :
    Path world (ingesting server.hub) server.hub (afterSection wait handler returned (perform program server)).hub := by
  -- A section that raises has left what it committed, and the handler of its thread goes on from there.
  cases ran : perform program server with
  | mk outcome after =>
    rw [ran] at path
    cases outcome with
    | ok awaiting =>
      rw [afterSection, keeps]
      exact path
    | error fault =>
      obtain ⟨row, here, type⟩ := Path.type path bounded found
      have row_ingest : row.onWorker = false := (onWorker_of_type_eq type).trans ingest
      rw [afterSection, keeps]
      exact path.trans (tends_within (Path.bounded path bounded) ⟨task, found, ingest⟩ here row_ingest (handles after.hub))

theorem captureSection_within {detail : String} (bounded : Bounded server.hub)
    (found : server.hub.tasks.find id = some task) (ingest : task.onWorker = false) :
    Path world (ingesting server.hub) server.hub (captureSection world id detail server).hub := by
  have inside : ingesting server.hub id := ⟨task, found, ingest⟩
  have resumes {program : Program Capture.Awaiting}
      (path : Path world (ingesting server.hub) server.hub (perform program server).2.hub) :
      Path world (ingesting server.hub) server.hub (afterSection (Server.captureAt id) (Capture.threadFailed world id detail)
        .returned (perform program server)).hub :=
    afterSection_within bounded found ingest (fun _ _ => rfl) path fun _ => Capture.threadFailed_tends detail
  unfold captureSection
  cases server.captures id with
  | start => exact resumes (tends_within bounded inside found ingest Capture.threadStart_tends)
  | post node => exact resumes (tends_within bounded inside found ingest (Capture.threadPosted_tends node))
  | poll node => exact resumes (renews_within bounded inside found ingest (Capture.threadPoll_renews node))
  | artifact node poll => exact resumes (renews_within bounded inside found ingest (Capture.threadPersist_renews node poll))
  | returned => exact .refl

theorem importSection_within {detail : String} (bounded : Bounded server.hub)
    (found : server.hub.tasks.find id = some task) (ingest : task.onWorker = false) :
    Path world (ingesting server.hub) server.hub (importSection world id detail server).hub := by
  have resumes {program : Program Ingest.Importing}
      (tends : Ingest.Tends world (ingesting server.hub) server.hub id program) :
      Path world (ingesting server.hub) server.hub (afterSection (Server.importAt id) (Ingest.importFailed world id detail)
        .returned (perform program server)).hub :=
    afterSection_within bounded found ingest (fun _ _ => rfl) (tends_within bounded ⟨task, found, ingest⟩ found ingest tends)
      fun _ => Ingest.importFailed_tends detail
  unfold importSection
  cases server.imports id with
  | start => exact resumes Ingest.importStart_tends
  | download fields => exact resumes (Ingest.importDownloaded_tends fields)
  | save fields result => exact resumes ((Ingest.importSaved_tends fields result).bind fun _ => .pure _)
  | returned => exact .refl

end Threads

section Jobs

variable {server : Server}

theorem perform_amid {expires : Nat → Task → Prop} {program : Program Unit}
    (ends : wp program (fun _ after => Amid expires server.hub after.committed)
      (fun _ after => Amid expires server.hub after.committed) (.start server.hub server.process)) :
    Amid expires server.hub (perform_ program server).hub := by
  rw [wp] at ends
  show Amid expires server.hub (program.run (.start server.hub server.process)).2.committed
  rw [Tx.run]
  cases ran : program (.start server.hub server.process) with
  | mk outcome after =>
    rw [ran] at ends
    cases outcome with
    | ok _ => exact ends
    | error _ => exact ends

def Lapses (world : World) (hub : Hub) : Job → Nat → Task → Prop
  | .tick taskId refreshHealth, id, task => Expired world hub taskId refreshHealth id task
  | _, _, _ => False

theorem work_amid (world : World) (excused : Excused server.hub) (bounded : Bounded server.hub) (job : Job) :
    Amid (Lapses world server.hub job) server.hub (work world server job).hub := by
  have idle : Amid (fun _ _ => False) server.hub server.hub := .start bounded rfl
  cases job with
  | tick taskId refreshHealth => exact perform_amid (tickJob_amid excused bounded server.process taskId refreshHealth)
  | restart =>
    have recovers := @recoverOrphanedTasks_amid world _ excused bounded .fresh
    exact @perform_amid (.fresh server.hub) _ _ (wp_mono recovers (fun _ _ held => held.committed) fun _ _ held => held.committed)
  | captureThread id detail =>
    rw [work]
    split
    · obtain ⟨task, found, type⟩ := alive_row ‹_›
      exact idle.path (captureSection_within bounded found (by rw [Task.onWorker, type]; rfl))
    · exact idle
  | importThread id detail =>
    rw [work]
    split
    · obtain ⟨task, found, type⟩ := alive_row ‹_›
      exact idle.path (importSection_within bounded found (by rw [Task.onWorker, type]; rfl))
    · exact idle
  | importProgress id progress =>
    rw [work]
    split
    · obtain ⟨task, found, type⟩ := alive_row ‹_›
      have ingest : task.onWorker = false := by rw [Task.onWorker, type]; rfl
      exact idle.path (tends_within bounded ⟨task, found, ingest⟩ found ingest (Ingest.onProgress_tends progress))
    · exact idle

end Jobs

def Request.clears (id : Nat) : Request → Prop
  | .retry other _ _ => other = id
  | .deleteWorker _ _ remediation => remediation.isSome = true
  | _ => False

structure Asked (clears : Prop) (task row : Task) : Prop where
  type : row.type = task.type
  timedOut : isTimedOut row = true → isTimedOut task = true
  reason : row.skipReason = some .dispatchTimeout → task.skipReason = some .dispatchTimeout
  skips : row.skipPersist = true → task.skipPersist = true ∨ row.skipReason ≠ some .dispatchTimeout
  marked : task.onWorker = true → task.retryWithoutTimeout = true → row.retryWithoutTimeout = true ∨ clears

structure Served (clears : Nat → Prop) (hub after : Hub) : Prop where
  rows : ∀ id task, hub.tasks.find id = some task → ∃ row, after.tasks.find id = some row ∧ Asked (clears id) task row
  added : ∀ id row, hub.tasks.find id = none → after.tasks.find id = some row →
    isTimedOut row = false ∧ (row.skipPersist = true → row.skipReason ≠ some .dispatchTimeout)

section Requests

variable {clears : Prop} {allowed : Nat → Prop} {task row : Task} {hub middle after : Hub}

theorem Asked.refl (task : Task) : Asked clears task task := ⟨rfl, id, id, .inl, fun _ => .inl⟩

theorem Asked.trans {first second third : Task} (one : Asked clears first second) (two : Asked clears second third) :
    Asked clears first third where
  type := two.type.trans one.type
  timedOut late := one.timedOut (two.timedOut late)
  reason same := one.reason (two.reason same)
  skips skips := by
    -- A later step may leave an earlier reason as it is, but it gives none of a timeout.
    rcases two.skips skips with before | other
    · rcases one.skips before with first | other
      · exact .inl first
      · exact .inr fun same => other (two.reason same)
    · exact .inr other
  marked onWorker marked := by
    rcases one.marked onWorker marked with still | cleared
    · exact two.marked ((onWorker_of_type_eq one.type).trans onWorker) still
    · exact .inr cleared

theorem Asked.ite {c : Prop} [Decidable c] (asked : c → Asked clears task row) : Asked clears task (if c then row else task) := by
  split
  · exact asked ‹_›
  · exact .refl task

theorem canceled_asked {code : ErrorCode} (other : code ≠ .dispatchTimeout) (task : Task) :
    Asked clears task (Tasks.canceled code task) := by
  refine ⟨rfl, fun late => ?_, id, .inl, fun _ => .inl⟩
  exact absurd (Option.some.inj (beq_iff_eq.mp (Bool.and_eq_true_iff.mp late).2)) other

theorem withdrawn_asked {code reason : ErrorCode} (other : code ≠ .dispatchTimeout) (its : reason ≠ .dispatchTimeout)
    (task : Task) : Asked clears task (withdrawn code reason task) := by
  have kept : some reason ≠ some ErrorCode.dispatchTimeout := fun same => its (Option.some.inj same)
  unfold withdrawn
  split
  · exact canceled_asked other task
  · exact ⟨rfl, id, fun same => absurd same kept, fun _ => .inr kept, fun _ => .inl⟩

/-- Columns that neither a timeout nor a mark depends on. -/
theorem asked_of_links (type : row.type = task.type) (timedOut : isTimedOut row = true → isTimedOut task = true)
    (reason : row.skipReason = task.skipReason) (skips : row.skipPersist = task.skipPersist)
    (marked : task.onWorker = true → task.retryWithoutTimeout = true → row.retryWithoutTimeout = true ∨ clears) :
    Asked clears task row :=
  ⟨type, timedOut, fun same => reason ▸ same, fun now => .inl (skips ▸ now), marked⟩

theorem queued_not_timedOut (queued : row.status = .queued) : isTimedOut row = true → isTimedOut task = true := by
  rw [isTimedOut, queued]
  intro late
  cases late

theorem detached_asked (task : Task) : Asked clears task (detached task) := by
  unfold detached
  split
  · rename_i capture
    refine asked_of_links rfl (queued_not_timedOut rfl) rfl rfl fun onWorker => ?_
    rw [Bool.and_eq_true, decide_eq_true_eq] at capture
    rw [Task.onWorker, capture.1] at onWorker
    cases onWorker
  · exact asked_of_links rfl id rfl rfl fun _ => .inl

theorem modelRemediated_asked (cleared : clears) (snap : Snapshot) (task : Task) :
    Asked clears task (modelRemediated snap task) := by
  unfold modelRemediated
  dsimp only
  split
  · exact asked_of_links rfl (queued_not_timedOut rfl) rfl rfl fun _ _ => .inr cleared
  · exact asked_of_links rfl id rfl rfl fun _ _ => .inr cleared

theorem captureRemediated_asked (cleared : clears) (replacement : Nat) (task : Task) :
    Asked clears task (captureRemediated replacement task) := by
  unfold captureRemediated
  dsimp only
  split
  · exact asked_of_links rfl (queued_not_timedOut rfl) rfl rfl fun _ _ => .inr cleared
  · exact asked_of_links rfl id rfl rfl fun _ _ => .inr cleared

theorem served_of_same (same : after.tasks = hub.tasks) : Served allowed hub after := by
  refine ⟨fun id task found => ⟨task, by rw [same, found], .refl task⟩, fun id row absent found => ?_⟩
  rw [same, absent] at found
  contradiction

theorem Served.refl (hub : Hub) : Served allowed hub hub := served_of_same rfl

theorem served_of_mapRows {f : Nat → Task → Task} (tasks : after.tasks = hub.tasks.mapRows f)
    (asked : ∀ id task, Asked (allowed id) task (f id task)) : Served allowed hub after := by
  refine ⟨fun id task found => ⟨f id task, by rw [tasks, Table.find_mapRows, found]; rfl, asked id task⟩, ?_⟩
  intro id row absent found
  rw [tasks, Table.find_mapRows, absent] at found
  contradiction

theorem Served.mapRows (served : Served allowed hub middle) {f : Nat → Task → Task}
    (tasks : after.tasks = middle.tasks.mapRows f) (asked : ∀ id task, Asked (allowed id) task (f id task)) :
    Served allowed hub after := by
  refine ⟨fun id task found => ?_, fun id row absent found => ?_⟩
  · obtain ⟨row, here, one⟩ := served.rows id task found
    exact ⟨f id row, by rw [tasks, Table.find_mapRows, here]; rfl, one.trans (asked id row)⟩
  · rw [tasks, Table.find_mapRows, Option.map_eq_some_iff] at found
    obtain ⟨first, here, rfl⟩ := found
    obtain ⟨waits, excused⟩ := served.added id first absent here
    have kept := asked id first
    refine ⟨Bool.eq_false_iff.mpr fun late => ?_, fun skips same => ?_⟩
    · rw [kept.timedOut late] at waits
      cases waits
    · rcases kept.skips skips with before | other
      · exact excused before (kept.reason same)
      · exact other same

theorem Served.modify (served : Served allowed hub middle) {f : Task → Task} (id : Nat)
    (asked : ∀ task, Asked (allowed id) task (f task)) : Served allowed hub (middle.modifyTask id f) := by
  refine @Served.mapRows allowed hub middle _ served (fun other task => if other = id then f task else task) rfl ?_
  intro other task
  exact Asked.ite fun same => same ▸ asked task

theorem served_of_request {f : Task → Task} (id : Nat) (accepts : Task → Bool)
    (asked : ∀ task, Asked (allowed id) task (f task)) :
    Served allowed hub (if (hub.tasks.find id).any accepts then hub.modifyTask id f else hub) := by
  split
  · exact (Served.refl hub).modify id asked
  · exact .refl hub

theorem served_of_create (row : Task) (patient : isTimedOut row = false) (stored : row.skipPersist = false)
    (bounded : Bounded hub) : Served allowed hub (hub.addTask row) := by
  have find (other : Nat) : (hub.addTask row).tasks.find other = if other = hub.nextId then some row else hub.tasks.find other :=
    Table.find_put ..
  refine ⟨fun id task found => ⟨task, by rw [find, if_neg (bounded id task found).ne, found], .refl task⟩, ?_⟩
  intro id its absent found
  rw [find] at found
  split at found
  · obtain rfl := Option.some.inj found
    exact ⟨patient, fun skips => by rw [stored] at skips; cases skips⟩
  · rw [absent] at found
    contradiction

theorem withdraw_served {code reason : ErrorCode} (other : code ≠ .dispatchTimeout) (its : reason ≠ .dispatchTimeout)
    (condition : Task → Bool) : Served allowed hub (withdraw code reason condition hub) :=
  served_of_mapRows (f := fun _ task => if task.active && condition task then withdrawn code reason task else task) rfl
    fun _ task => .ite fun _ => withdrawn_asked other its task

theorem remediate_served {python : Python} {workerId : Nat} {node : WorkerNode} {remediation : Option WorkerRemediation}
    (cleared : remediation.isSome = true → ∀ id, allowed id)
    (remediated : remediate python workerId node remediation hub = some after) : Served allowed hub after := by
  cases remediation with
  | none =>
    obtain rfl := Option.some.inj remediated
    exact .refl hub
  | some body =>
    have cleared := cleared rfl
    have of_rows {f : Task → Task} (same : some { hub with tasks := hub.tasks.mapRows fun _ => f } = some after)
        (asked : ∀ id task, Asked (allowed id) task (f task)) : Served allowed hub after := by
      obtain rfl := Option.some.inj same
      exact @served_of_mapRows allowed hub _ (fun _ => f) rfl asked
    rw [remediate] at remediated
    cases type : node.type with
    | transcribe =>
      simp only [applyWorkerRemediation, type, applyTranscribeRemediation] at remediated
      split at remediated
      · exact of_rows remediated fun id task => .ite fun _ => modelRemediated_asked (cleared id) _ task
      · contradiction
    | summarize =>
      simp only [applyWorkerRemediation, type, Option.bind_eq_some_iff, applySummarizeRemediation] at remediated
      obtain ⟨model, _, applied⟩ := remediated
      split at applied
      · exact of_rows applied fun id task => .ite fun _ => modelRemediated_asked (cleared id) _ task
      · contradiction
    | capture =>
      simp only [applyWorkerRemediation, type, Option.bind_eq_some_iff, applyCaptureRemediation] at remediated
      obtain ⟨replacement, _, applied⟩ := remediated
      split at applied
      · exact of_rows applied fun id task => .ite fun _ => captureRemediated_asked (cleared id) replacement task
      · contradiction

theorem rows_served (request : Request) (bounded : Bounded hub) : Served (request.clears ·) hub (request.rows hub) := by
  -- the reason of a row depends on six columns, and these requests write none of them
  have links {clears : Prop} {row task : Task} (type : row.type = task.type) (status : row.status = task.status)
      (errorCode : row.errorCode = task.errorCode) (reason : row.skipReason = task.skipReason)
      (skips : row.skipPersist = task.skipPersist) (marked : row.retryWithoutTimeout = task.retryWithoutTimeout) :
      Asked clears task row :=
    asked_of_links type (by rw [isTimedOut, status, errorCode]; exact id) reason skips fun _ now => .inl (marked.trans now)
  cases request with
  | createTranscribe audioId submission =>
    rw [Request.rows]
    unfold createTranscribe
    dsimp only
    split
    · exact served_of_create _ rfl rfl bounded
    · exact .refl hub
  | createSummarize transcriptId submission =>
    rw [Request.rows]
    unfold createSummarize
    dsimp only
    split
    · exact served_of_create _ rfl rfl bounded
    · exact .refl hub
  | createImport url pipeline submission =>
    rw [Request.rows]
    unfold createImport
    split
    · exact served_of_create _ rfl rfl bounded
    · exact .refl hub
  | createCapture target meetingUrl displayName pipeline submission =>
    rw [Request.rows]
    unfold createCapture
    split
    · exact served_of_create _ rfl rfl bounded
    · exact .refl hub
  -- a retry empties the columns: a queued row is no timeout
  | retry id orgId now =>
    refine served_of_request id _ fun task => ⟨rfl, queued_not_timedOut rfl, ?_, ?_, fun _ _ => .inr rfl⟩
    · exact fun same => by cases same
    · exact fun skips => by cases skips
  | cancel id => exact served_of_request id _ fun task => canceled_asked (by decide) task
  | stop python id => exact served_of_request id _ fun task => by apply links <;> rfl
  | deleteWorker python workerId remediation =>
    rw [Request.rows, deleteWorker]
    split
    · exact .refl hub
    · split
      · exact .refl hub
      · rename_i remediated
        refine (remediate_served (fun given _ => given) remediated).mapRows (f := fun _ task =>
          if task.workerId = some workerId then detached task else task) rfl fun _ task => .ite fun _ => detached_asked task
  | saveWorker workerId node => exact served_of_same rfl
  | setTariff orgId unlimited => exact served_of_same rfl
  | deleteAudio audioId =>
    exact (withdraw_served (by decide) (by decide) _).mapRows
      (f := fun _ task => { task with audioId := cleared audioId task.audioId }) rfl
      fun _ task => by apply links <;> rfl
  | deleteTranscript transcriptId =>
    exact (withdraw_served (by decide) (by decide) _).mapRows
      (f := fun _ task => { task with
        transcriptId := cleared transcriptId task.transcriptId
        producedTranscriptId := cleared transcriptId task.producedTranscriptId }) rfl
      fun _ task => by apply links <;> rfl
  | deleteOrg orgId => exact withdraw_served (by decide) (by decide) _
  | wipeUser userId => exact withdraw_served (by decide) (by decide) _

end Requests

/-- The transcribe or summarize task has failed with `dispatch_timeout`. -/
def timedOut (id : Nat) (server : Server) : Bool :=
  (server.hub.tasks.find id).any fun task => task.onWorker && isTimedOut task

/-- A transcribe or summarize task that does not time out any more. -/
def Unhurried (id : Nat) (server : Server) : Prop :=
  ∃ task, server.hub.tasks.find id = some task ∧ task.onWorker = true ∧ task.retryWithoutTimeout = true

/-- The task times out in this event: a tick that lists it finds it unmarked, its pool empty, and its time over. -/
def TimesOut (id : Nat) (server : Server) : Event → Prop
  | .work world job => ∃ task, server.hub.tasks.find id = some task ∧ task.onWorker = true ∧ Lapses world server.hub job id task
  | .request _ => False

def Event.clears (id : Nat) : Event → Prop
  | .request asked => asked.clears id
  | .work _ _ => False

structure Punctual (server : Server) : Prop where
  bounded : Bounded server.hub
  excused : Excused server.hub

section Runs

variable {server : Server} {id : Nat}

theorem timedOut_iff : timedOut id server = true ↔
    ∃ task, server.hub.tasks.find id = some task ∧ task.onWorker = true ∧ isTimedOut task = true := by
  simp [timedOut, Option.any_eq_true]

theorem not_lapses_of_marked {world : World} {hub : Hub} {job : Job} {id : Nat} {task : Task}
    (marked : task.retryWithoutTimeout = true) :
    ¬ Lapses world hub job id task := by
  cases job with
  | tick taskId refreshHealth =>
    intro lapses
    rw [Lapses, Expired, expired, marked] at lapses
    cases lapses.2
  | _ => exact not_false

theorem bounded_step (bounded : Bounded server.hub) (event : Event) : Bounded (step server event).hub := by
  cases event with
  | work world job =>
    have path : Path world anywhere server.hub (work world server job).hub := work_path bounded job
    exact path.bounded bounded
  | request asked =>
    show Bounded (asked.rows server.hub)
    intro id row found
    rcases rows_effect asked server.hub with edited | ⟨new, same, _⟩
    · rcases edited.rows id with ⟨_, absent⟩ | ⟨task, _, first, _⟩
      · rw [absent] at found
        contradiction
      · rw [edited.nextId]
        exact bounded id task first
    · rw [same] at found ⊢
      show id < server.hub.nextId + 1
      rw [Hub.addTask, Table.find_put] at found
      split at found
      · omega
      · exact Nat.lt_succ_of_lt (bounded id row found)

theorem Punctual.step (punctual : Punctual server) (event : Event) : Punctual (step server event) := by
  refine ⟨bounded_step punctual.bounded event, fun id row found onWorker skips => ?_⟩
  cases event with
  | request asked =>
    have served := rows_served asked punctual.bounded
    -- A row that was not there is a new one, whose result is not to be dropped.
    cases first : server.hub.tasks.find id with
    | none => exact (served.added id row first found).2 skips
    | some task =>
      obtain ⟨now, here, kept⟩ := served.rows id task first
      obtain rfl : row = now := Option.some.inj (found.symm.trans here)
      rcases kept.skips skips with before | other
      · have old : task.onWorker = true := (onWorker_of_type_eq kept.type).symm.trans onWorker
        exact fun same => punctual.excused id task first old before (kept.reason same)
      · exact other
  | work world job =>
    have amid := work_amid world punctual.excused punctual.bounded job
    cases first : server.hub.tasks.find id with
    | none =>
      have stored := (amid.added id row first found).2
      rw [skips] at stored
      contradiction
    | some task =>
      obtain ⟨now, here, type, kept⟩ := amid.rows id task first
      obtain rfl : row = now := Option.some.inj (found.symm.trans here)
      have old : task.onWorker = true := (onWorker_of_type_eq type).symm.trans onWorker
      obtain ⟨sofar, _⟩ := kept old
      rw [sofar.skipReason]
      exact punctual.excused id task first old (sofar.skipPersist.symm.trans skips)

theorem timed_out_step (punctual : Punctual server) (event : Event) (late : timedOut id (step server event) = true) :
    timedOut id server = true ∨ TimesOut id server event := by
  obtain ⟨row, found, onWorker, failed⟩ := timedOut_iff.mp late
  -- A request times nothing out; of the work of the hub only a tick does, where the task expires.
  cases event with
  | request asked =>
    have served := rows_served asked punctual.bounded
    cases first : server.hub.tasks.find id with
    | none =>
      rw [(served.added id row first found).1] at failed
      cases failed
    | some task =>
      obtain ⟨now, here, kept⟩ := served.rows id task first
      obtain rfl : row = now := Option.some.inj (found.symm.trans here)
      exact .inl (timedOut_iff.mpr ⟨task, first, (onWorker_of_type_eq kept.type).symm.trans onWorker, kept.timedOut failed⟩)
  | work world job =>
    have amid := work_amid world punctual.excused punctual.bounded job
    cases first : server.hub.tasks.find id with
    | none =>
      rw [(amid.added id row first found).1] at failed
      cases failed
    | some task =>
      obtain ⟨now, here, type, kept⟩ := amid.rows id task first
      obtain rfl : row = now := Option.some.inj (found.symm.trans here)
      have old : task.onWorker = true := (onWorker_of_type_eq type).symm.trans onWorker
      rcases (kept old).2 failed with before | lapses
      · exact .inl (timedOut_iff.mpr ⟨task, first, old, before⟩)
      · exact .inr ⟨task, first, old, lapses⟩

theorem Unhurried.step (unhurried : Unhurried id server) (punctual : Punctual server) (event : Event)
    (uncleared : ¬ event.clears id) :
    Unhurried id (step server event) := by
  obtain ⟨task, first, onWorker, marked⟩ := unhurried
  cases event with
  | request asked =>
    obtain ⟨row, found, kept⟩ := (rows_served asked punctual.bounded).rows id task first
    rcases kept.marked onWorker marked with still | cleared
    · exact ⟨row, found, (onWorker_of_type_eq kept.type).trans onWorker, still⟩
    · exact absurd cleared uncleared
  | work world job =>
    obtain ⟨row, found, type, kept⟩ := (work_amid world punctual.excused punctual.bounded job).rows id task first
    exact ⟨row, found, (onWorker_of_type_eq type).trans onWorker, (kept onWorker).1.patient marked⟩

theorem Unhurried.not_timesOut (unhurried : Unhurried id server) (event : Event) : ¬ TimesOut id server event := by
  obtain ⟨task, first, _, marked⟩ := unhurried
  cases event with
  | request asked => exact not_false
  | work world job =>
    rintro ⟨its, found, _, lapses⟩
    obtain rfl : task = its := Option.some.inj (first.symm.trans found)
    exact not_lapses_of_marked marked lapses

theorem punctual_opening (opening : Opening) : Punctual (.fresh opening.hub) := by
  have none (id : Nat) : (Server.fresh opening.hub).hub.tasks.find id = none := opening.tasks id
  refine ⟨fun id task found => ?_, fun id task found => ?_⟩
  · rw [none] at found
    contradiction
  · rw [none] at found
    contradiction

theorem punctual_run (opening : Opening) (events : List Event) : Punctual (run step (.fresh opening.hub) events) :=
  run_induction (I := fun _ server => Punctual server) (punctual_opening opening) (fun _ event _ now => now.step event) events

/-- A marked task stays marked, and it does not time out, until something clears its mark. -/
theorem unhurried_run (unhurried : Unhurried id server) (punctual : Punctual server) {events : List Event}
    (uncleared : ∀ event ∈ events, ¬ event.clears id) :
    Unhurried id (run step server events) ∧ (timedOut id (run step server events) = true → timedOut id server = true) := by
  -- The mark and the invariant go on together, one event at a time.
  induction events generalizing server with
  | nil => exact ⟨unhurried, fun late => late⟩
  | cons event rest ih =>
    have next := unhurried.step punctual event (uncleared event List.mem_cons_self)
    obtain ⟨still, earlier⟩ := ih next (punctual.step event) fun other member => uncleared other (List.mem_cons_of_mem _ member)
    refine ⟨still, fun late => ?_⟩
    exact (timed_out_step punctual event (earlier late)).resolve_right (unhurried.not_timesOut event)

end Runs

structure TimeoutsReasoned (id : Nat) (start : Server) (events : List Event) : Prop where
  -- only a tick with an empty pool fails the task so, once it has waited and if it is unmarked
  reasoned : Along step (fun server event => timedOut id (step server event) = true →
    timedOut id server = true ∨ TimesOut id server event) start events
  -- a task that a dispatch, a contention or a recovery has marked does not time out until its mark is cleared
  lasting : ∀ done later rest, events = done ++ later ++ rest → Unhurried id (run step start done) →
    (∀ event ∈ later, ¬ event.clears id) →
      Unhurried id (run step start (done ++ later)) ∧
        (timedOut id (run step start (done ++ later)) = true → timedOut id (run step start done) = true)

theorem timeouts_reasoned (opening : Opening) (id : Nat) (events : List Event) :
    TimeoutsReasoned id (.fresh opening.hub) events where
  reasoned := @along_of_kept _ _ step Punctual _ (fun _ event now => now.step event) (fun _ event now => timed_out_step now event)
    _ (punctual_opening opening) events
  lasting done later rest _ unhurried uncleared := by
    rw [run_append]
    exact unhurried_run unhurried (punctual_run opening done) uncleared

section Samples

/-- Ten minutes later, with a limit of five. -/
def laterWorld : World := { silentWorld with now := 600000000, dispatchNoCandidateSec := 300 }

def gone (node : WorkerNode) : Event := .request (.saveWorker 1 { node with enabled := false })

def waitsInVain : List Event :=
  [.request (.createTranscribe 3 smallSubmission)] ++ (smallHub.nodes.find 1).toList.map gone ++
    [.work laterWorld (.tick none false)]

example : timedOut 10 (run step (.fresh small.hub) waitsInVain) = true := by decide +kernel

-- a worker that was there once: the task waits for it
example : timedOut 10 (run step (.fresh small.hub) ([.request (.createTranscribe 3 smallSubmission),
    .work acceptingWorld (.tick none false), .work laterWorld (.tick none false)])) = false := by decide +kernel

def secondNode (node : WorkerNode) : Event := .request (.saveWorker 5 { node with weight := 2 })

def twoNodeHub : Hub :=
  (run step (.fresh small.hub) ([.request (.createTranscribe 3 smallSubmission)] ++
    (smallHub.nodes.find 1).toList.map secondNode)).hub

def busyWorld : World := { silentWorld with
  post := fun _ node => if node = 5 then .refused .queueFull [] else acceptingWorld.post 10 node }

theorem busyWorld_calm : busyWorld.Calm := by
  refine ⟨fun _ _ => rfl, fun _ => by simp [busyWorld, silentWorld], fun _ node => ?_⟩
  dsimp only [busyWorld, acceptingWorld]
  split <;> simp

def twoNodes : Attempt where
  world := busyWorld
  calm := busyWorld_calm
  dispatchFollowUp := dispatchFollowUpTask busyWorld
  spares := spares_dispatchFollowUpTask
  id := 10
  task := (twoNodeHub.tasks.find 10).get (by decide +kernel)
  onWorker := by decide +kernel
  queued := by decide +kernel
  s := .start twoNodeHub .fresh
  found := (Option.some_get _).symm
  bounded := (punctual_run small _).bounded
  nodes := twoNodeHub.nodeList
  distinct := by decide +kernel
  ready := by decide +kernel

theorem two_nodes_concluded : twoNodes.posted.map Prod.fst = [5, 1] ∧ twoNodes.Concluded :=
  ⟨by decide +kernel, twoNodes.concluded⟩

end Samples

end IdigestHub.System
