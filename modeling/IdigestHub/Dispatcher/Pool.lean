import IdigestHub.Foundation.Text
import IdigestHub.Hub.Records

/-! Which worker nodes can take a task, as their last health report tells it. -/

set_option autoImplicit false

namespace IdigestHub.Dispatcher

open Foundation

/-- `value == 200` for a JSON number. -/
def isOk : Json → Bool
  | .num (.finite coefficient exponent) =>
    if 0 ≤ exponent then coefficient * 10 ^ exponent.toNat == 200
    else coefficient == 200 * 10 ^ (-exponent).toNat
  | _ => false

def health (node : WorkerNode) : Dict := node.lastHealth.getD []

def healthy (node : WorkerNode) : Bool := isOk ((health node).get "_http")

def readyHealthy (node : WorkerNode) : Bool := isOk ((health node).get "_ready_http")

def engines (node : WorkerNode) : Dict := ((health node).get "engines").asDict.getD []

/-- `engines.get(name, default) == status`. -/
def engineIs (node : WorkerNode) (name default status : String) : Bool :=
  (((engines node).find name).getD (.str default)).isText status

/-- `list(models or []) or None`. -/
def modelList (models : Option (List String)) : Option (List String) :=
  match models.getD [] with
  | [] => none
  | models => some models

def workerOffersModel (node : WorkerNode) (asr : String) (diar : Option String) : Bool :=
  ((modelList node.asrModels).all fun models => models.contains asr) &&
    (nonEmpty diar).all fun diar => (modelList node.diarizationModels).all fun models => models.contains diar

def asrEngineIds : List String := ["whisper", "gigaam", "parakeet"]

def diarizationEngineIds : List String := ["nemo", "pyannote"]

def selectableEngineStatuses : List String := ["loaded", "unavailable"]

def selectableEngineIds (node : WorkerNode) (kind : List String) : List String :=
  (engines node).filterMap fun field =>
    if kind.contains field.1 && selectableEngineStatuses.any fun status => field.2.isText status then some field.1
    else none

/-- The first list of `_node_model_lists`. -/
def nodeAsrModels (node : WorkerNode) : List String :=
  (modelList node.asrModels).getD (selectableEngineIds node asrEngineIds)

/-- The second list of `_node_model_lists`. -/
def nodeDiarizationModels (node : WorkerNode) : List String :=
  (modelList node.diarizationModels).getD (selectableEngineIds node diarizationEngineIds)

/-- The pairs that one node adds to `dispatchable_pairs`. -/
def nodePairs (node : WorkerNode) : List (String × Option String) :=
  (nodeAsrModels node).flatMap fun asr =>
    match nodeDiarizationModels node with
    | [] => [(asr, none)]
    | diars => diars.map fun diar => (asr, some diar)

def llmStatus : List String := ["ready", "not_ready", "unavailable"]

def healthText (report : Dict) (key : String) : Option String :=
  match report.get key with
  | .str raw => nonEmpty (some (Text.strip raw))
  | _ => none

def summarizeModelFromHealth (report : Dict) : Option String :=
  (healthText report "model").or ((healthText report "llm_model").or
    -- only ASCII letters can turn into one of the status words
    ((healthText report "llm").filter fun name => !llmStatus.contains name.toLower))

def workerOffersSummarizeModel (node : WorkerNode) (model : String) : Bool :=
  (summarizeModelFromHealth (health node)).all fun offered => offered == model

/-- `task.snap_asr_model or "whisper"`. -/
def asrModelOf (task : Task) : String := (nonEmpty task.snap.asrModel).getD "whisper"

/-- `(task.snap_summarize_model or "").strip() or None`. -/
def summarizeModelOf (task : Task) : Option String :=
  nonEmpty (some (Text.strip (task.snap.summarizeModel.getD "")))

abbrev Node : Type := Nat × WorkerNode

inductive PoolState where
  | empty | waiting | ready
  deriving DecidableEq

def enabledNodes (nodes : List Node) (type : WorkerType) : List Node :=
  nodes.filter fun node => node.2.enabled && node.2.type == type

def dispatchablePairs (nodes : List Node) : List (String × Option String) :=
  (enabledNodes nodes .transcribe).flatMap fun node => nodePairs node.2

/-- `_summarize_models_set`. -/
def summarizeModels (nodes : List Node) : List String :=
  (enabledNodes nodes .summarize).filterMap fun node => summarizeModelFromHealth (health node.2)

/-- Both engines of the pair are loaded; without diarization the second one counts as loaded. -/
def engineLoaded (asr : String) (diar : Option String) (node : Node) : Bool :=
  engineIs node.2 asr "disabled" "loaded" &&
    (nonEmpty diar).all fun diar => engineIs node.2 diar "loaded" "loaded"

def engineUnavailable (asr : String) (diar : Option String) (node : Node) : Bool :=
  engineIs node.2 asr "disabled" "unavailable" ||
    (nonEmpty diar).any fun diar => engineIs node.2 diar "loaded" "unavailable"

def transcribePoolState (nodes : List Node) (asr : String) (diar : Option String) : PoolState :=
  let offering := (enabledNodes nodes .transcribe).filter fun node => workerOffersModel node.2 asr diar
  if offering.any fun node => healthy node.2 && engineLoaded asr diar node then .ready
  else if offering.any fun node => !healthy node.2 || engineUnavailable asr diar node then .waiting
  else .empty

def summarizePoolState (nodes : List Node) (model : Option String) : PoolState :=
  let offering := (enabledNodes nodes .summarize).filter fun node =>
    model.all fun model => workerOffersSummarizeModel node.2 model
  if offering.any fun node => readyHealthy node.2 then .ready else .empty

def transcribeCandidates (nodes : List Node) (asr : String) (diar : Option String) : List Node :=
  (enabledNodes nodes .transcribe).filter fun node =>
    workerOffersModel node.2 asr diar && engineLoaded asr diar node

def summarizeCandidates (nodes : List Node) (model : Option String) : List Node :=
  (enabledNodes nodes .summarize).filter fun node =>
    (model.all fun model => workerOffersSummarizeModel node.2 model) && readyHealthy node.2

/-- The active tasks that hold a slot of this node, as a query sees them. -/
def inFlight (stored : Hub) (nodeId : Nat) : Nat :=
  stored.tasks.count fun _ task => task.workerId == some nodeId && task.active && task.workerTaskId.isSome

def weightOf (node : Node) : Nat := (max node.2.weight 1).toNat

/-- `(in_flight / weight, -weight)` of the first is below that of the second. -/
def scoreBelow (stored : Hub) (a b : Node) : Bool :=
  let left := inFlight stored a.1 * weightOf b
  let right := inFlight stored b.1 * weightOf a
  left < right || (left == right && weightOf b < weightOf a)

def pickNode (stored : Hub) : List Node → Option Node
  | [] => none
  | node :: rest =>
    some (rest.foldl (fun best other => if scoreBelow stored other best then other else best) node)

theorem foldl_choice_mem {A : Type} (prefer : A → A → Bool) (items : List A) (first : A) :
    items.foldl (fun best other => if prefer other best then other else best) first ∈ first :: items := by
  induction items generalizing first with
  | nil => simp
  | cons other rest ih =>
    rw [List.foldl_cons]
    split
    · exact List.mem_cons_of_mem _ (ih other)
    · have kept := ih first
      rcases List.mem_cons.mp kept with same | later
      · rw [same]; simp
      · exact List.mem_cons_of_mem _ (List.mem_cons_of_mem _ later)

theorem pickNode_mem {stored : Hub} {nodes : List Node} {node : Node}
    (picked : pickNode stored nodes = some node) : node ∈ nodes := by
  cases nodes with
  | nil => simp [pickNode] at picked
  | cons first rest =>
    obtain rfl := Option.some.inj picked
    exact foldl_choice_mem (scoreBelow stored) rest first

theorem transcribeCandidates_subset (nodes : List Node) (asr : String) (diar : Option String) :
    transcribeCandidates nodes asr diar ⊆ nodes := fun _ member =>
  List.mem_of_mem_filter (List.mem_of_mem_filter member)

theorem summarizeCandidates_subset (nodes : List Node) (model : Option String) :
    summarizeCandidates nodes model ⊆ nodes := fun _ member =>
  List.mem_of_mem_filter (List.mem_of_mem_filter member)

end IdigestHub.Dispatcher
