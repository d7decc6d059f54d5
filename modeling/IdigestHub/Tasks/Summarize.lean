import IdigestHub.Dispatcher.Dispatching
import IdigestHub.Foundation.Words
import IdigestHub.System.Failures
import IdigestHub.Tasks.Remediation
import IdigestHub.Tasks.Requests
import Mathlib.Data.List.Dedup

/-! How a summarize task comes by its model, at each place that creates one, and the nodes that it is sent to. -/

set_option autoImplicit false

namespace IdigestHub.Tasks

open Foundation Foundation.UnitOfWork
open Dispatcher

structure ResolvedModel where
  summarizeModel : Option String
  source : ModelSource
  instanceSummarizeModel : Option String

def resolveSummarizeModels (user instance_ : Option String) (available : List String) : ResolvedModel where
  summarizeModel := ((stripped (user.getD "")).or (stripped (instance_.getD ""))).or available.head?
  source := if (stripped (user.getD "")).isSome then .user else .instanceDefaults
  instanceSummarizeModel := stripped (instance_.getD "")

def dispatchableSummarizeModels (nodes : List Node) : List String :=
  (Dispatcher.summarizeModels nodes).dedup.mergeSort fun a b => a ≤ b

def hasOfferingSummarizeWorker (nodes : List Node) (model : String) : Bool :=
  (enabledNodes nodes .summarize).any fun node => workerOffersSummarizeModel node.2 model

structure ModelSettings where
  user : Nat → Option String
  instance_ : Option String

def ModelSettings.resolve (settings : ModelSettings) (hub : Hub) (userId : Nat) : Option String :=
  (resolveSummarizeModels (settings.user userId) settings.instance_ (dispatchableSummarizeModels hub.nodeList)).summarizeModel

structure Tariff where
  unlimited : Bool
  pricePerAudioSec : Fixed
  pricePer1kSummaryChars : Fixed
  maxUploadBytes : Nat

def snapshotFields (tariff : Tariff) (asrModel diarizationModel summarizeModel : Option String) (toneAnalytics : Bool) :
    Snapshot where
  unlimited := tariff.unlimited
  pricePerAudioSec := tariff.pricePerAudioSec
  pricePer1kSummaryChars := tariff.pricePer1kSummaryChars
  maxUploadBytes := tariff.maxUploadBytes
  asrModel
  diarizationModel
  summarizeModel
  toneAnalytics

inductive ApiCode where
  | forbidden | notFound | validationError | insufficientBalance
  deriving DecidableEq

inductive SummarizeRefusal where
  | api (code : ApiCode)
  | valueError (text : String)
  | permissionError (text : String)
  deriving DecidableEq

/-- Who asks for a summary: the organization, the transcripts that `can_use_transcript` grants, and what
`_validate_summarize_skills` answers. -/
structure Caller where
  userId : Nat
  orgId : Option Nat
  tariff : Tariff
  canUse : Nat → Bool
  skillsRefused : List Nat → Option ApiCode

/-- What `POST /tasks/summarize` and `create_summary` ask for. -/
structure SummaryRequest where
  transcriptId : Nat
  skillIds : List Nat
  now : Nat

section Creating

variable (settings : ModelSettings) (hub : Hub)

def usable (caller : Caller) (orgId transcriptId : Nat) : Bool :=
  (hub.transcripts.find transcriptId).any (·.orgId == orgId) && caller.canUse transcriptId

def newSummarize (caller : Caller) (orgId : Nat) (model : Option String) (request : SummaryRequest) : Task :=
  let snapshot := snapshotFields caller.tariff none none model false
  { newTask .summarize ⟨orgId, caller.userId, request.skillIds, snapshot, request.now⟩ none with
    transcriptId := some request.transcriptId }

/-- The task that `create_summarize` adds. -/
def createSummarizeTask (caller : Caller) (request : SummaryRequest) : Except SummarizeRefusal Task :=
  match caller.orgId with
  | none => .error (.api .forbidden)
  | some orgId =>
    if !usable hub caller orgId request.transcriptId then .error (.api .notFound)
    else
      match caller.skillsRefused request.skillIds with
      | some code => .error (.api code)
      | none =>
        if !canAccept hub orgId then .error (.api .insufficientBalance)
        else
          let model := settings.resolve hub caller.userId
          if model.any fun model => !hasOfferingSummarizeWorker hub.nodeList model then .error (.api .validationError)
          else .ok (newSummarize caller orgId model request)

def createSummaryPayload (caller : Caller) (request : SummaryRequest) : Except SummarizeRefusal Task :=
  match caller.orgId with
  | none => .error (.permissionError "organization required")
  | some orgId =>
    if !usable hub caller orgId request.transcriptId then .error (.valueError "not found")
    else if request.skillIds = [] then .error (.valueError "skill_ids required")
    else
      match caller.skillsRefused request.skillIds with
      | some code => .error (.api code)
      | none =>
        let model := settings.resolve hub caller.userId
        if model.any fun model => !hasOfferingSummarizeWorker hub.nodeList model then
          .error (.valueError "summarize model unavailable")
        else if !canAccept hub orgId then .error (.api .insufficientBalance)
        else .ok (newSummarize caller orgId model request)

/-- Every way in which a summarize task comes into being: an endpoint, a tool, or the end of a transcribe task that has
skills. -/
inductive Origin where
  | rest (caller : Caller) (request : SummaryRequest)
  | mcp (caller : Caller) (request : SummaryRequest)
  | chained (world : World) (parent : Task)

def Origin.task : Origin → Option Task
  | .rest caller request => (createSummarizeTask settings hub caller request).toOption
  | .mcp caller request => (createSummaryPayload settings hub caller request).toOption
  | .chained world parent =>
    if parent.skillIds = [] || parent.producedTranscriptId.isNone then none
    else some (chainedTask world.now (telegramNotifyMeta world parent.metaDict) parent)

/-- A dispatch of the task makes no difference between answers of nodes that do not offer the model: it posts to none of them. -/
def SentOnlyTo (model : String) (task : Task) : Prop :=
  ∀ world dispatchFollowUp id (nodes : List Node) (post : Nat → Nat → PostReply) (s : Session Hub Process),
    s.working.tasks.find id = some task →
    (∀ node ∈ nodes, workerOffersSummarizeModel node.2 model = true → post id node.1 = world.post id node.1) →
    dispatchQueuedTask { world with post } dispatchFollowUp id nodes s = dispatchQueuedTask world dispatchFollowUp id nodes s

/-- The task carries the model that is resolved for its user, and goes only to nodes that offer it. -/
def ModelSnapshotted (task : Task) : Prop :=
  task.snap.summarizeModel = settings.resolve hub task.userId ∧
    ∀ model, settings.resolve hub task.userId = some model → SentOnlyTo model task

def Origin.Modelless : Origin → Prop
  | .chained _ parent => settings.resolve hub parent.userId = none
  | _ => True

end Creating

section Dispatching

variable {world : World} {post : Nat → Nat → PostReply} {dispatchFollowUp : Nat → Program Unit} {id : Nat}

/-- Nothing but the post itself depends on the answers to posts. -/
theorem answerTask_post (node : Nat) (reply : PostReply) :
    answerTask { world with post } dispatchFollowUp id node reply = answerTask world dispatchFollowUp id node reply := rfl

theorem offerTask_post (node : Nat) : offerTask { world with post } id node = offerTask world id node := rfl

theorem candidatesToTry_post (nodes : List Node) :
    candidatesToTry { world with post } id nodes = candidatesToTry world id nodes := rfl

theorem giveUp_post (total tooLarge : Nat) :
    tryNodes.giveUp { world with post } id total tooLarge = tryNodes.giveUp world id total tooLarge := rfl

/-- The loop depends on the answers of the nodes that it can pick, by induction on its rounds. -/
theorem tryNodes_post (total rounds : Nat) {remaining : List Node} (tooLarge : Nat)
    (same : ∀ node ∈ remaining, post id node.1 = world.post id node.1) :
    tryNodes { world with post } dispatchFollowUp id total rounds remaining tooLarge =
      tryNodes world dispatchFollowUp id total rounds remaining tooLarge := by
  induction rounds generalizing remaining tooLarge with
  | zero => exact giveUp_post ..
  | succ rounds ih =>
    rw [tryNodes, tryNodes]
    refine bind_congr fun stored => ?_
    cases picked : pickNode stored remaining with
    | none => exact giveUp_post ..
    | some node =>
      simp only [offerTask_post, answerTask_post, same node (pickNode_mem picked)]
      refine bind_congr fun posts => ?_
      split
      · refine bind_congr fun verdict => ?_
        cases verdict with
        | settled => rfl
        | next large => exact ih _ fun other member => same other (List.mem_of_mem_filter member)
      · rfl

theorem candidatesToTry_subset {s : Session Hub Process} {task : Task} (found : s.working.tasks.find id = some task)
    (nodes : List Node) :
    wp (candidatesToTry world id nodes) (fun candidates _ => candidates ⊆ (poolOf task nodes).2) (fun _ _ => True) s := by
  rw [candidatesToTry, wp_bind]
  refine wp_loaded_of found ?_
  generalize poolOf task nodes = choice
  obtain ⟨pool, candidates⟩ := choice
  refine wp_cases (fun _ => ?_) fun _ => ?_
  · rw [wp_bind, wp_modifyTask]
    exact List.nil_subset _
  · rw [wp_bind]
    refine wp_mono (wp_trivial _ _) (fun timedOut after _ => ?_) fun _ _ _ => trivial
    refine wp_cases (fun _ => List.nil_subset _) fun _ => wp_cases (fun _ => ?_) fun _ => List.Subset.refl _
    rw [wp_bind, wp_modifyTask]
    exact List.nil_subset _

theorem sentOnlyTo_of_model {task : Task} {model : String} (summarizes : task.type = .summarize)
    (carries : summarizeModelOf task = some model) : SentOnlyTo model task := by
  intro world dispatchFollowUp id nodes post s found same
  have offering : ∀ node ∈ (poolOf task nodes).2, post id node.1 = world.post id node.1 := by
    intro node member
    rw [poolOf, if_neg (by rw [summarizes]; decide), carries] at member
    have candidate := List.mem_filter.mp member
    simp only [Option.all_some, Bool.and_eq_true] at candidate
    exact same node (List.mem_of_mem_filter candidate.1) candidate.2.1
  have subset := @candidatesToTry_subset world id s task found nodes
  show Tx.bind (candidatesToTry { world with post } id nodes) _ s = Tx.bind (candidatesToTry world id nodes) _ s
  rw [candidatesToTry_post]
  unfold Tx.bind
  rw [wp] at subset
  cases result : candidatesToTry world id nodes s with
  | mk outcome after =>
    rw [result] at subset
    cases outcome with
    | error fault => rfl
    | ok candidates =>
      dsimp only
      split
      · rfl
      · rw [tryNodes_post candidates.length candidates.length 0 fun node member => offering node (subset member)]

end Dispatching

section Resolving

theorem nonEmpty_eq_some {value : Option String} {text : String} :
    nonEmpty value = some text ↔ value = some text ∧ text ≠ "" := by
  unfold nonEmpty
  split
  · simp
  · rename_i given
    constructor
    · rintro rfl
      exact ⟨rfl, fun empty => given (congrArg some empty)⟩
    · exact And.left

theorem stripped_of_strip {raw text : String} (its : nonEmpty (some (Text.strip raw)) = some text) :
    stripped text = some text := by
  obtain ⟨same, present⟩ := nonEmpty_eq_some.mp its
  obtain rfl := Option.some.inj same
  exact stripped_name ⟨Text.strip_strip raw, present⟩

theorem stripped_healthText {report : Dict} {key text : String} (its : healthText report key = some text) :
    stripped text = some text := by
  rw [healthText] at its
  split at its
  · exact stripped_of_strip its
  · contradiction

theorem stripped_resolved {user instance_ : Option String} {nodes : List Node} {model : String}
    (resolved : (resolveSummarizeModels user instance_ (dispatchableSummarizeModels nodes)).summarizeModel = some model) :
    stripped model = some model := by
  simp only [resolveSummarizeModels, Option.or_eq_some_iff] at resolved
  rcases resolved with (its | ⟨_, its⟩) | ⟨_, first⟩
  · exact stripped_of_strip its
  · exact stripped_of_strip its
  · have member := List.mem_of_head? first
    rw [dispatchableSummarizeModels, List.mem_mergeSort, List.mem_dedup, summarizeModels, List.mem_filterMap] at member
    obtain ⟨node, _, reported⟩ := member
    simp only [summarizeModelFromHealth, Option.or_eq_some_iff] at reported
    rcases reported with its | ⟨_, its | ⟨_, its⟩⟩
    · exact stripped_healthText its
    · exact stripped_healthText its
    · exact stripped_healthText (Option.filter_eq_some_iff.mp its).1

variable {settings : ModelSettings} {hub : Hub} {caller : Caller} {request : SummaryRequest} {task : Task}

theorem newSummarize_type (orgId : Nat) (model : Option String) :
    (newSummarize caller orgId model request).type = .summarize := rfl

theorem newSummarize_userId (orgId : Nat) (model : Option String) :
    (newSummarize caller orgId model request).userId = caller.userId := rfl

theorem newSummarize_model (orgId : Nat) (model : Option String) :
    (newSummarize caller orgId model request).snap.summarizeModel = model := rfl

theorem createSummarizeTask_ok (created : createSummarizeTask settings hub caller request = .ok task) :
    ∃ orgId, task = newSummarize caller orgId (settings.resolve hub caller.userId) request := by
  unfold createSummarizeTask at created
  split at created
  · cases created
  · rename_i orgId _
    split at created
    · cases created
    · split at created
      · cases created
      · split at created
        · cases created
        · dsimp only at created
          split at created
          · cases created
          · exact ⟨orgId, (Except.ok.inj created).symm⟩

theorem createSummaryPayload_ok (created : createSummaryPayload settings hub caller request = .ok task) :
    ∃ orgId, task = newSummarize caller orgId (settings.resolve hub caller.userId) request := by
  unfold createSummaryPayload at created
  split at created
  · cases created
  · rename_i orgId _
    split at created
    · cases created
    · split at created
      · cases created
      · split at created
        · cases created
        · dsimp only at created
          split at created
          · cases created
          · split at created
            · cases created
            · exact ⟨orgId, (Except.ok.inj created).symm⟩

/-- What an endpoint and a tool create alike. -/
theorem newSummarize_snapshotted (orgId : Nat) :
    ModelSnapshotted settings hub (newSummarize caller orgId (settings.resolve hub caller.userId) request) := by
  rw [ModelSnapshotted, newSummarize_userId, newSummarize_model]
  constructor
  · rfl
  · intro model resolved
    have carries : summarizeModelOf (newSummarize caller orgId (settings.resolve hub caller.userId) request) = some model := by
      rw [summarizeModelOf, newSummarize_model, resolved]
      exact stripped_resolved resolved
    exact sentOnlyTo_of_model (newSummarize_type ..) carries

end Resolving

section Chaining

variable (now : Nat) (notifyMeta : Dict) (parent : Task)

theorem chainedTask_userId : (chainedTask now notifyMeta parent).userId = parent.userId := rfl

theorem chainedTask_model : (chainedTask now notifyMeta parent).snap.summarizeModel = none := rfl

theorem enqueue_adds {settings : ModelSettings} {world : World} {id : Nat} {s : Session Hub Process} {parent : Task}
    (found : s.working.tasks.find id = some parent) (before : id < s.working.nextId) :
    wp (enqueueSummarizeAfterTranscribe world id)
      (fun followUp after => followUp.bind after.working.tasks.find = (Origin.chained world parent).task settings s.working)
      (fun _ _ => True) s := by
  rw [enqueueSummarizeAfterTranscribe, Origin.task, wp_bind]
  refine wp_loaded_of found ?_
  rw [wp_ite]
  split
  · trivial
  · rw [wp_bind]
    refine wp_guardSite ?_ trivial
    simp only [wp_bind, wp_read, wp_update, wp_flush, wp_modifyTask, wp_pure]
    have other_id : s.working.nextId ≠ id := before.ne'
    simp [Hub.addTask, other_id]

end Chaining

/-- A summarize task snapshots its model, and goes only where it is offered, exactly when it is not a chained task of a user
who has a model. -/
theorem model_snapshotted_iff (settings : ModelSettings) (hub : Hub) (origin : Origin) {task : Task}
    (created : origin.task settings hub = some task) : ModelSnapshotted settings hub task ↔ origin.Modelless settings hub := by
  cases origin with
  | rest caller request =>
    cases outcome : createSummarizeTask settings hub caller request with
    | error refusal => simp [Origin.task, outcome, Except.toOption] at created
    | ok made =>
      obtain rfl : made = task := by simpa [Origin.task, outcome, Except.toOption] using created
      obtain ⟨orgId, rfl⟩ := createSummarizeTask_ok outcome
      exact iff_of_true (newSummarize_snapshotted orgId) trivial
  | mcp caller request =>
    cases outcome : createSummaryPayload settings hub caller request with
    | error refusal => simp [Origin.task, outcome, Except.toOption] at created
    | ok made =>
      obtain rfl : made = task := by simpa [Origin.task, outcome, Except.toOption] using created
      obtain ⟨orgId, rfl⟩ := createSummaryPayload_ok outcome
      exact iff_of_true (newSummarize_snapshotted orgId) trivial
  | chained world parent =>
    rw [Origin.task] at created
    split at created
    · contradiction
    · obtain rfl := Option.some.inj created
      rw [ModelSnapshotted, chainedTask_userId, chainedTask_model, Origin.Modelless]
      -- The chained row has no model, so it has the resolved one only if there is none.
      constructor
      · exact fun snapshotted => snapshotted.1.symm
      · intro modelless
        rw [modelless]
        exact ⟨rfl, fun model resolved => by cases resolved⟩

def summarizingHub : Hub := { System.smallHub with
  nodes := Table.put ∅ 1 {
    type := .summarize
    weight := 1
    enabled := true
    lastHealth := some [("_http", idJson 200), ("model", .str "llm-a")]
    lastHealthAt := none
    lastSeenVersion := .null
    asrModels := none
    diarizationModels := none
    captureConnectors := none }
  transcripts := Table.put ∅ 5 ⟨2, 4, none, .arr [], false⟩ }

def instanceModel : ModelSettings := ⟨fun _ => none, some "llm-a"⟩

def smallCaller : Caller := ⟨4, some 2, ⟨false, (1000 : Int), (1000 : Int), 0⟩, fun _ => true, fun _ => none⟩

/-- The endpoint stores the model of the instance. -/
theorem model_snapshotted_llm :
    ∃ task, (Origin.rest smallCaller ⟨5, [6], 0⟩).task instanceModel summarizingHub = some task ∧
      ModelSnapshotted instanceModel summarizingHub task := by
  have accepted : ((Origin.rest smallCaller ⟨5, [6], 0⟩).task instanceModel summarizingHub).isSome = true := by decide +kernel
  obtain ⟨task, created⟩ := Option.isSome_iff_exists.mp accepted
  exact ⟨task, created, (model_snapshotted_iff instanceModel summarizingHub _ created).mpr trivial⟩

def transcribed : Task :=
  { newTask .transcribe ⟨2, 4, [6], snapshotFields smallCaller.tariff (some "whisper") none none false, 0⟩ none with
    producedTranscriptId := some 5 }

/-- The task that is chained to it has no model, while the instance has one. -/
theorem chained_without_model :
    ∃ task, (Origin.chained System.silentWorld transcribed).task instanceModel summarizingHub = some task ∧
      instanceModel.resolve summarizingHub task.userId = some "llm-a" ∧
      ¬ModelSnapshotted instanceModel summarizingHub task := by
  have resolved : instanceModel.resolve summarizingHub 4 = some "llm-a" := by decide +kernel
  refine ⟨_, rfl, resolved, fun snapshotted => ?_⟩
  have stored : none = instanceModel.resolve summarizingHub 4 := snapshotted.1
  rw [resolved] at stored
  cases stored

end IdigestHub.Tasks
