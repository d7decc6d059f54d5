import IdigestHub.Dispatcher.Ticking
import IdigestHub.Foundation.Runs
import IdigestHub.Tasks.Requests
import IdigestHub.Tasks.Workers

/-! The hub as one system: what users and administrators request, and what the dispatcher
and the background threads do, one after the other. -/

set_option autoImplicit false

namespace IdigestHub.System

open Foundation Foundation.UnitOfWork Dispatcher Tasks

/-- The stored rows, the memory of the process, and where each background thread waits. -/
structure Server where
  hub : Hub
  process : Process
  captures : Nat → Capture.Awaiting
  imports : Nat → Ingest.Importing

def Server.fresh (hub : Hub) : Server := ⟨hub, .fresh, fun _ => .start, fun _ => .start⟩

inductive Request where
  | createTranscribe (audioId : Nat) (submission : Submission)
  | createSummarize (transcriptId : Nat) (submission : Submission)
  | createImport (url : String) (pipeline : Pipeline) (submission : Submission)
  | createCapture (target : Capture.CaptureTarget) (meetingUrl displayName : String) (pipeline : Pipeline)
      (submission : Submission)
  | retry (id orgId now : Nat)
  | cancel (id : Nat)
  | stop (python : Python) (id : Nat)
  | deleteWorker (python : Python) (workerId : Nat) (remediation : Option WorkerRemediation)
  | saveWorker (workerId : Nat) (node : WorkerNode)
  | setTariff (orgId : Nat) (unlimited : Bool)
  | deleteAudio (audioId : Nat)
  | deleteTranscript (transcriptId : Nat)
  | deleteOrg (orgId : Nat)
  | wipeUser (userId : Nat)

namespace Request

def rows (hub : Hub) : Request → Hub
  | .createTranscribe audioId submission => Tasks.createTranscribe audioId submission hub
  | .createSummarize transcriptId submission => Tasks.createSummarize transcriptId submission hub
  | .createImport url pipeline submission => Tasks.createImport url pipeline submission hub
  | .createCapture target meetingUrl displayName pipeline submission =>
    Tasks.createCapture target meetingUrl displayName pipeline submission hub
  | .retry id orgId now => retryTask id orgId now hub
  | .cancel id => cancelTask id hub
  | .stop python id => stopTask python id hub
  | .deleteWorker python workerId remediation => Tasks.deleteWorker python workerId remediation hub
  | .saveWorker workerId node => { hub with nodes := hub.nodes.put workerId node }
  | .setTariff orgId unlimited =>
    { hub with orgs := hub.orgs.modify orgId fun org => { org with tariffUnlimited := unlimited } }
  | .deleteAudio audioId => hardDeleteAudio audioId hub
  | .deleteTranscript transcriptId => hardDeleteTranscript transcriptId hub
  | .deleteOrg orgId => cancelActiveOrgTasks orgId hub
  | .wipeUser userId => wipeUserTasks userId hub

def signal (hub : Hub) (process : Process) : Request → Process
  | .cancel id => cancelSignal id hub process
  | .stop _ id => stopSignal id hub process
  | _ => process

end Request

/-- What the process does by itself. `detail` is the text of an exception, if one ends a section. -/
inductive Job where
  | tick (taskId : Option Nat) (refreshHealth : Bool)
  | restart
  | captureThread (id : Nat) (detail : String)
  | importThread (id : Nat) (detail : String)
  | importProgress (id : Nat) (progress : Ingest.Progress)

inductive Event where
  | request (request : Request)
  | work (world : World) (job : Job)

/-- A program in a session of its own. What it has not committed is lost. -/
def perform {A : Type} (program : Program A) (server : Server) : Except Fault A × Server :=
  let (outcome, after) := program.run (.start server.hub server.process)
  (outcome, { server with hub := after.committed, process := after.memory })

def perform_ (program : Program Unit) (server : Server) : Server := (perform program server).2

def alive (type : TaskType) (threads : List Nat) (hub : Hub) (id : Nat) : Bool :=
  threads.contains id && (hub.tasks.find id).any fun task => task.type == type

/-- Where a section leaves its thread; the handler runs when it raises. -/
def afterSection {A : Type} (wait : A → Server → Server) (handler : Program Unit) (returned : A) :
    Except Fault A × Server → Server
  | (.ok awaiting, server) => wait awaiting server
  | (.error _, server) => wait returned (perform_ handler server)

def Server.captureAt (id : Nat) (awaiting : Capture.Awaiting) (server : Server) : Server :=
  { server with captures := Function.update server.captures id awaiting }

def Server.importAt (id : Nat) (importing : Ingest.Importing) (server : Server) : Server :=
  { server with imports := Function.update server.imports id importing }

def captureSection (world : World) (id : Nat) (detail : String) (server : Server) : Server :=
  let resume (program : Program Capture.Awaiting) : Server :=
    afterSection (Server.captureAt id) (Capture.threadFailed world id detail) .returned (perform program server)
  match server.captures id with
  | .start => resume (Capture.threadStart world id)
  | .post node => resume (Capture.threadPosted world id node)
  | .poll node => resume (Capture.threadPoll world id node)
  | .artifact node poll => resume (Capture.threadPersist world id node poll)
  | .returned => { server with process := Capture.threadFinished id server.process }.captureAt id .start

def importSection (world : World) (id : Nat) (detail : String) (server : Server) : Server :=
  let resume (program : Program Ingest.Importing) : Server :=
    afterSection (Server.importAt id) (Ingest.importFailed world id detail) .returned (perform program server)
  match server.imports id with
  | .start => resume (Ingest.importStart world id)
  | .download fields => resume (Ingest.importDownloaded world id fields)
  | .save fields result => resume (do Ingest.importSaved world id fields result; pure .returned)
  | .returned => { server with process := Ingest.importFinished id server.process }.importAt id .start

def work (world : World) (server : Server) : Job → Server
  | .tick taskId refreshHealth => perform_ (tickJob world taskId refreshHealth) server
  | .restart => perform_ (recoverOrphanedTasks world) (.fresh server.hub)
  | .captureThread id detail =>
    if alive .capture server.process.threads server.hub id then captureSection world id detail server else server
  | .importThread id detail =>
    if alive .importUrl server.process.importThreads server.hub id then importSection world id detail server
    else server
  | .importProgress id progress =>
    if alive .importUrl server.process.importThreads server.hub id then
      perform_ (Ingest.onProgress world id progress) server
    else server

def step (server : Server) : Event → Server
  | .request request => { server with
      hub := request.rows server.hub
      process := request.signal server.hub server.process }
  | .work world job => work world server job

/-- A store to start from: no task yet, and no charge. -/
structure Opening where
  hub : Hub
  tasks : ∀ id, hub.tasks.find id = none
  usage : hub.usage = []

section Paths

variable {world : World} {A : Type}

theorem perform_path {program : Program A} {server : Server}
    (safe : wp program (fun _ => Follows (Move world anywhere) server.hub)
      (fun _ after => Path world anywhere server.hub after.committed) (.start server.hub server.process)) :
    Path world anywhere server.hub (perform program server).2.hub := committed_path safe

theorem perform_tends {program : Program A} {server : Server} {id : Nat} {task : Task} (bounded : Bounded server.hub)
    (found : server.hub.tasks.find id = some task) (ingest : task.onWorker = false)
    (tends : Ingest.Tends world anywhere server.hub id program) :
    Path world anywhere server.hub (perform program server).2.hub := by
  refine perform_path (wp_mono (tends _ ?_) (fun _ _ held => held.follows) fun _ _ saved => saved)
  exact ⟨bounded, inferInstance, ⟨task, found, ingest⟩, .start ..⟩

theorem perform_renews {program : Program A} {server : Server} {id : Nat} {task : Task} (bounded : Bounded server.hub)
    (found : server.hub.tasks.find id = some task) (ingest : task.onWorker = false)
    (renews : Capture.Renews world anywhere server.hub id program) :
    Path world anywhere server.hub (perform program server).2.hub := by
  refine perform_path (wp_mono (renews _ ?_) (fun _ _ held => held.follows) fun _ _ saved => saved)
  exact ⟨⟨bounded, inferInstance, ⟨task, found, ingest⟩, .start ..⟩, rfl⟩

variable {server : Server} {id : Nat} {task : Task}

theorem alive_row {type : TaskType} {threads : List Nat} {hub : Hub} (live : alive type threads hub id = true) :
    ∃ task, hub.tasks.find id = some task ∧ task.type = type := by
  obtain ⟨_, typed⟩ := Bool.and_eq_true_iff.mp live
  obtain ⟨task, found, same⟩ := Option.any_eq_true _ _ |>.mp typed
  exact ⟨task, found, by simpa using same⟩

theorem afterSection_path {wait : A → Server → Server} {handler : Program Unit} {program : Program A} {returned : A}
    (bounded : Bounded server.hub) (found : server.hub.tasks.find id = some task) (ingest : task.onWorker = false)
    (keeps : ∀ awaiting server, (wait awaiting server).hub = server.hub)
    (path : Path world anywhere server.hub (perform program server).2.hub)
    (handles : ∀ hub, Ingest.Tends world anywhere hub id handler) :
    Path world anywhere server.hub (afterSection wait handler returned (perform program server)).hub := by
  cases ran : perform program server with
  | mk outcome after =>
    rw [ran] at path
    cases outcome with
    | ok awaiting =>
      rw [afterSection, keeps]
      exact path
    | error fault =>
      obtain ⟨row, here, type⟩ := Path.type path bounded found
      have row_ingest : row.onWorker = false := by rw [Task.onWorker, type]; exact ingest
      rw [afterSection, keeps]
      exact path.trans (perform_tends (Path.bounded path bounded) here row_ingest (handles after.hub))

theorem captureSection_path {detail : String} (bounded : Bounded server.hub)
    (found : server.hub.tasks.find id = some task) (ingest : task.onWorker = false) :
    Path world anywhere server.hub (captureSection world id detail server).hub := by
  have resumes {program : Program Capture.Awaiting}
      (path : Path world anywhere server.hub (perform program server).2.hub) :
      Path world anywhere server.hub (afterSection (Server.captureAt id) (Capture.threadFailed world id detail)
        .returned (perform program server)).hub :=
    afterSection_path bounded found ingest (fun _ _ => rfl) path fun _ => Capture.threadFailed_tends detail
  unfold captureSection
  cases server.captures id with
  | start => exact resumes (perform_tends bounded found ingest Capture.threadStart_tends)
  | post node => exact resumes (perform_tends bounded found ingest (Capture.threadPosted_tends node))
  | poll node => exact resumes (perform_renews bounded found ingest (Capture.threadPoll_renews node))
  | artifact node poll => exact resumes (perform_renews bounded found ingest (Capture.threadPersist_renews node poll))
  | returned => exact .refl

theorem importSection_path {detail : String} (bounded : Bounded server.hub)
    (found : server.hub.tasks.find id = some task) (ingest : task.onWorker = false) :
    Path world anywhere server.hub (importSection world id detail server).hub := by
  have resumes {program : Program Ingest.Importing} (tends : Ingest.Tends world anywhere server.hub id program) :
      Path world anywhere server.hub (afterSection (Server.importAt id) (Ingest.importFailed world id detail)
        .returned (perform program server)).hub :=
    afterSection_path bounded found ingest (fun _ _ => rfl)
      (perform_tends bounded found ingest tends) fun _ => Ingest.importFailed_tends detail
  unfold importSection
  cases server.imports id with
  | start => exact resumes Ingest.importStart_tends
  | download fields => exact resumes (Ingest.importDownloaded_tends fields)
  | save fields result => exact resumes ((Ingest.importSaved_tends fields result).bind fun _ => .pure _)
  | returned => exact .refl

/-- Whatever the process does, it takes the store along moves. -/
theorem work_path (bounded : Bounded server.hub) (job : Job) :
    Path world anywhere server.hub (work world server job).hub := by
  cases job with
  | tick taskId refreshHealth => exact perform_path (tickJob_safe (.start ..) bounded taskId refreshHealth)
  | restart =>
    have recovers : Path world anywhere (Server.fresh server.hub).hub _ :=
      perform_path (recoverOrphanedTasks_safe bounded .fresh)
    exact recovers
  | captureThread id detail =>
    rw [work]
    split
    · obtain ⟨task, found, type⟩ := alive_row ‹_›
      exact captureSection_path bounded found (by rw [Task.onWorker, type]; rfl)
    · exact .refl
  | importThread id detail =>
    rw [work]
    split
    · obtain ⟨task, found, type⟩ := alive_row ‹_›
      exact importSection_path bounded found (by rw [Task.onWorker, type]; rfl)
    · exact .refl
  | importProgress id progress =>
    rw [work]
    split
    · obtain ⟨task, found, type⟩ := alive_row ‹_›
      exact perform_tends bounded found (by rw [Task.onWorker, type]; rfl) (Ingest.onProgress_tends progress)
    · exact .refl

end Paths

end IdigestHub.System
