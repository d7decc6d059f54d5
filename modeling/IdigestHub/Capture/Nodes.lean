import IdigestHub.Dispatcher.Pool

/-! Capture nodes: the connectors a node offers and the capacity it reports. -/

set_option autoImplicit false

namespace IdigestHub.Capture

open Foundation Dispatcher

def defaultAllowedConnectors : List String := ["jitsi"]

/-- The trimmed non-empty ids, each once, in their first order. -/
def uniqueConnectorIds (raw : List String) : List String :=
  raw.foldl (fun out item =>
    let key := Text.strip item
    if key != "" && !out.contains key then out ++ [key] else out) []

def allowedConnectors (settings : InstanceSettings) : List String :=
  match settings.captureAllowedConnectors with
  | none => defaultAllowedConnectors
  | some raw =>
    match uniqueConnectorIds raw with
    | [] => defaultAllowedConnectors
    | out => out

/-- `parse_worker_connectors`: connector ids with their status; a later entry of the same
trimmed id replaces an earlier one. -/
def parseWorkerConnectors (python : Python) (report : Dict) : List (String × String) :=
  let connectors := (report.get "connectors").asDict.getD []
  connectors.foldl (fun out field =>
    let id := Text.strip field.1
    if id = "" then out
    else
      match field.2 with
      | .obj value => (id, python.orEmpty (Dict.get value "status")) :: out
      | .str value => (id, Text.strip value) :: out
      | _ => out) []

def workerOffersConnector (python : Python) (node : WorkerNode) (connectorId : String) : Bool :=
  node.type == .capture && node.enabled &&
    let selected := node.captureConnectors.getD []
    if !selected.isEmpty && !selected.contains connectorId then false
    else
      match nonEmpty ((parseWorkerConnectors python (health node)).lookup connectorId) with
      | some status => status == "loaded"
      | none => selected.contains connectorId

def transcribeReady (node : WorkerNode) : Bool :=
  (nodeAsrModels node).any fun asr => engineIs node asr "disabled" "loaded" &&
    ((nodeDiarizationModels node).isEmpty ||
      (nodeDiarizationModels node).any fun diar => engineIs node diar "loaded" "loaded")

/-- `worker_is_dispatch_available`. -/
def dispatchAvailable (python : Python) (connectors : List String) (node : WorkerNode) : Bool :=
  node.enabled &&
    match node.type with
    | .transcribe => healthy node && transcribeReady node
    | .summarize => readyHealthy node
    | .capture => healthy node && connectors.any fun connector => workerOffersConnector python node connector

structure Pool where
  max : Nat
  active : Nat
  available : Nat
  deriving DecidableEq

/-- `int(raw.get(key) or 0)`. -/
def poolField (python : Python) (raw : Dict) (key : String) : IntResult :=
  let value := raw.get key
  if value.truthy then python.int value else .value 0

/-- `parse_health_worker_pool`. The outer option is empty when an infinite number raises. -/
def parseHealthWorkerPool (python : Python) (node : WorkerNode) : Option (Option Pool) :=
  if !healthy node then some none
  else
    match ((health node).get "workers").asDict with
    | none => some none
    | some raw =>
      match poolField python raw "max", poolField python raw "active", poolField python raw "available" with
      | .value max, .value active, .value available => some (some ⟨max.toNat, active.toNat, available.toNat⟩)
      | .overflow, _, _ => none
      | .value _, .overflow, _ => none
      | .value _, .value _, .overflow => none
      | _, _, _ => some none

def captureWorkerCandidates (python : Python) (stored : Hub) (connectorId : String) : List Node :=
  (stored.nodeList.filter fun node => node.2.type == .capture && node.2.enabled).filter fun node =>
    workerOffersConnector python node.2 connectorId

def pickCaptureWorker (python : Python) (stored : Hub) (connectorId : String) : Option Node :=
  pickNode stored (captureWorkerCandidates python stored connectorId)

end IdigestHub.Capture
