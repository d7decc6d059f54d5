import IdigestHub.Dispatcher.Tick

/-! What one step of the dispatcher or of a runner can do to the stored rows. The programs
are compositions of these moves, and every invariant is a fact about them. -/

set_option autoImplicit false

namespace IdigestHub.Dispatcher

open Foundation Foundation.UnitOfWork Relation

/-- What a write of the import or the capture runner keeps of its row. -/
structure IngestRow (task after : Task) : Prop where
  type : after.type = task.type
  orgId : after.orgId = task.orgId
  billed : after.billed = task.billed
  snap : after.snap = task.snap
  skipPersist : after.skipPersist = task.skipPersist
  stage : after.isDone = true → after.status = .success ∨ (task.isDone = true ∧ after.status = task.status)

theorem IngestRow.refl (task : Task) : IngestRow task task :=
  ⟨rfl, rfl, rfl, rfl, rfl, fun done => .inr ⟨done, rfl⟩⟩

def Reports (world : World) (id : Nat) (body : Dict) : Prop :=
  (∃ code, world.getTask id = .answer code body) ∨ ∃ node, world.post id node = .accepted body

/-- An accepted post that neither succeeds nor fails at once. -/
def Accepts (world : World) (id node : Nat) (body : Dict) : Prop :=
  world.post id node = .accepted body ∧ reportsSuccess body = false ∧ reportsError body = false

inductive RowMove (world : World) (hub : Hub) (id : Nat) (task : Task) : Task → Prop where
  | waits (retry : Bool) (metaJson : Option Dict) (onWorker : task.onWorker = true)
      (queued : task.status = .queued)
      (stage : { task with metaJson }.isDone = true → task.isDone = true) :
      RowMove world hub id task { task with retryWithoutTimeout := retry, metaJson }
  | fails (code : ErrorCode) (detail : Option String) (onWorker : task.onWorker = true)
      (active : task.active = true) : RowMove world hub id task (failedTask code detail task)
  | requeues (workerTaskId : Option String) (onWorker : task.onWorker = true)
      (running : task.status = .running) :
      RowMove world hub id task { task with workerId := none, workerTaskId, status := .queued }
  | unlinks (onWorker : task.onWorker = true) (running : task.status = .running)
      (produced : hasProduced task = true) : RowMove world hub id task (unlinked task)
  | links (node : Nat) (body : Dict) (onWorker : task.onWorker = true) (queued : task.status = .queued)
      (accepts : Accepts world id node body) (exists_node : (hub.nodes.find node).isSome) :
      RowMove world hub id task (dispatched node (reportedTaskId world.python body) task)
  | goesOn (status : Json) (onWorker : task.onWorker = true) (running : task.status = .running)
      (notDone : status.isText "done" = false) : RowMove world hub id task (stillActive status task)
  | ingests (after : Task) (ingest : task.onWorker = false) (row : IngestRow task after) :
      RowMove world hub id task after

structure SamePrice (task after : Task) : Prop where
  type : after.type = task.type
  audio : after.snap.pricePerAudioSec = task.snap.pricePerAudioSec
  summary : after.snap.pricePer1kSummaryChars = task.snap.pricePer1kSummaryChars
  unlimited : after.snap.unlimited = task.snap.unlimited

theorem SamePrice.refl (task : Task) : SamePrice task task := ⟨rfl, rfl, rfl, rfl⟩

theorem SamePrice.trans {first second third : Task} (one : SamePrice first second) (two : SamePrice second third) :
    SamePrice first third :=
  ⟨two.type.trans one.type, two.audio.trans one.audio, two.summary.trans one.summary,
    two.unlimited.trans one.unlimited⟩

section RowMove

variable {world : World} {hub : Hub} {id : Nat} {task after : Task}

theorem RowMove.type (change : RowMove world hub id task after) : after.type = task.type := by
  cases change with
  | ingests _ _ row => exact row.type
  | _ => rfl

theorem RowMove.orgId (change : RowMove world hub id task after) : after.orgId = task.orgId := by
  cases change with
  | ingests _ _ row => exact row.orgId
  | _ => rfl

theorem RowMove.billed (change : RowMove world hub id task after) : after.billed = task.billed := by
  cases change with
  | ingests _ _ row => exact row.billed
  | _ => rfl

theorem RowMove.price (change : RowMove world hub id task after) : SamePrice task after := by
  cases change with
  | ingests _ _ row => exact ⟨row.type, by rw [row.snap], by rw [row.snap], by rw [row.snap]⟩
  | _ => exact ⟨rfl, rfl, rfl, rfl⟩

/-- By itself the row of a worker task never succeeds. -/
theorem RowMove.not_success (change : RowMove world hub id task after) (onWorker : after.onWorker = true) :
    after.status ≠ .success := by
  cases change with
  | waits retry metaJson _ queued => simp [queued]
  | unlinks _ running => simp [unlinked, running]
  | ingests _ ingest row =>
    rw [Task.onWorker, row.type, ← Task.onWorker, ingest] at onWorker
    contradiction
  | fails => simp [failedTask, Task.mergeMeta]
  | requeues => simp
  | links => simp [dispatched, Task.mergeMeta]
  | goesOn => simp [stillActive, Task.mergeMeta]

end RowMove

structure Chained (parent row : Task) : Prop where
  onWorker : row.onWorker = true
  status : row.status = .queued
  orgId : row.orgId = parent.orgId
  billed : row.billed = false
  skipPersist : row.skipPersist = false
  produced : hasProduced row = false
  notDone : row.isDone = false

/-- A move on one row leaves the others alone; it may add a chained task under a new id. -/
structure Frame (id : Nat) (task : Task) (hub after : Hub) : Prop where
  others : ∀ other, other ≠ id → after.tasks.find other = hub.tasks.find other ∨
    (hub.nextId ≤ other ∧ other < after.nextId ∧ ∃ row, after.tasks.find other = some row ∧ Chained task row)
  nodes : ∀ node, (after.nodes.find node).isSome = (hub.nodes.find node).isSome
  nextId : hub.nextId ≤ after.nextId

structure Finished (task : Task) (hasOrg : Bool) (after : Task) : Prop where
  type : after.type = task.type
  orgId : after.orgId = task.orgId
  snap : after.snap = task.snap
  skipPersist : after.skipPersist = task.skipPersist
  status : after.status = if task.skipPersist then .error else .success
  billed : after.billed = (task.billed || hasOrg)
  done : after.isDone = true

def Priced (world : World) (task : Task) (body : Dict) (audioSec : Option Decimal) (chars : Option Nat)
    (amount : Int) : Prop :=
  match task.type with
  | .transcribe => ∃ seconds, reportedSeconds world body = some seconds ∧ audioSec = some seconds ∧
      chars = none ∧ Billing.transcribeAmount task seconds = some amount
  | _ => audioSec = none ∧ chars = some (reportedSummary body).length ∧
      Billing.summarizeAmount task (reportedSummary body) = some amount

/-- The amount reads the prices of the row and nothing else of it. -/
theorem Priced.of_price {world : World} {task after : Task} (price : SamePrice task after) {body : Dict}
    {audioSec : Option Decimal} {chars : Option Nat} {amount : Int}
    (priced : Priced world task body audioSec chars amount) : Priced world after body audioSec chars amount := by
  simpa only [Priced, price.type, Billing.transcribeAmount, price.audio, Billing.summarizeAmount,
    price.summary] using priced

def chargeEvent (id : Nat) (task : Task) (audioSec : Option Decimal) (chars : Option Nat) (amount : Int) :
    UsageEvent :=
  ⟨task.orgId, task.userId, id, task.type, audioSec, chars, amount, task.snap.unlimited⟩

/-- The charge is in the ledger and in the balance as the database keeps them, unless the task is billed already or
has no organization. -/
def Entered (database : Database) (id : Nat) (task : Task) (audioSec : Option Decimal) (chars : Option Nat) (amount : Int)
    (hub after : Hub) : Prop :=
  if task.billed = true ∨ hub.orgs.find task.orgId = none then
    after.usage = hub.usage ∧ ∀ org, after.orgs.find org = hub.orgs.find org
  else ∃ row balance stored, hub.orgs.find task.orgId = some row ∧
    Billing.chargedBalance database task amount row.balance = some balance ∧ database.numeric amount = some stored ∧
    after.usage = hub.usage ++ [chargeEvent id task audioSec chars stored] ∧
    ∀ org, after.orgs.find org = if org = task.orgId then some { row with balance } else hub.orgs.find org

structure Settlement (world : World) (id : Nat) (body : Dict) (task : Task) (hub after : Hub) : Prop where
  frame : Frame id task hub after
  row : ∃ final, after.tasks.find id = some final ∧ Finished task (hub.orgs.find task.orgId).isSome final
  entry : ∃ audioSec chars amount, Priced world task body audioSec chars amount ∧
    Entered world.database id task audioSec chars amount hub after

inductive Move (world : World) (scope : Nat → Prop) (hub after : Hub) : Prop where
  | row (id : Nat) (task final : Task) (inside : scope id) (before : hub.tasks.find id = some task)
      (found : after.tasks.find id = some final) (change : RowMove world hub id task final)
      (frame : Frame id task hub after) (usage : after.usage = hub.usage) (orgs : after.orgs = hub.orgs)
  | settled (id : Nat) (task : Task) (body : Dict) (inside : scope id) (before : hub.tasks.find id = some task)
      (onWorker : task.onWorker = true) (active : task.active = true) (reports : Reports world id body)
      (success : reportsSuccess body = true) (settlement : Settlement world id body task hub after)
  | aside (tasks : after.tasks = hub.tasks) (nodes : ∀ node, (after.nodes.find node).isSome = (hub.nodes.find node).isSome)
      (nextId : after.nextId = hub.nextId) (usage : after.usage = hub.usage) (orgs : after.orgs = hub.orgs)

abbrev Path (world : World) (scope : Nat → Prop) : Hub → Hub → Prop := ReflTransGen (Move world scope)

/-- The rows that a group of results is about. -/
class InScope (scope : Nat → Prop) (id : Nat) : Prop where
  mem : scope id

abbrev anywhere : Nat → Prop := fun _ => True

instance (id : Nat) : InScope anywhere id := ⟨trivial⟩

section Stage

theorem isDone_mergeMeta (task : Task) (stage : Json) {rest : Dict}
    (absent : ∀ field ∈ rest, field.1 ≠ "stage") :
    (task.mergeMeta (("stage", stage) :: rest)).isDone = stage.isText "done" := by
  have shown : (task.mergeMeta (("stage", stage) :: rest)).stage = stage := by
    show ((task.metaDict.set "stage" stage).update rest).get "stage" = stage
    rw [Dict.get_update_of_absent absent, Dict.get_set, if_pos rfl]
  rw [Task.isDone, shown]

theorem failedTask_not_done (code : ErrorCode) (detail : Option String) (task : Task) :
    (failedTask code detail task).isDone = false := by
  unfold failedTask
  rw [isDone_mergeMeta]
  · rfl
  · cases nonEmpty detail with
    | none => simp
    | some text => simp

theorem doneTask_done {fields : Dict} (absent : ∀ field ∈ fields, field.1 ≠ "stage") (task : Task) :
    (doneTask fields task).isDone = true := by
  have shown := isDone_mergeMeta task (.str "done") absent
  exact shown

end Stage

section Frame

variable {world : World} {scope : Nat → Prop} {hub after : Hub} {id : Nat} {task : Task}

@[simp] theorem find_modifyTask (f : Task → Task) (other : Nat) :
    (hub.modifyTask id f).tasks.find other = if other = id then (hub.tasks.find id).map f else hub.tasks.find other :=
  Table.find_modify ..

theorem Frame.refl : Frame id task hub hub := ⟨fun _ _ => .inl rfl, fun _ => rfl, le_rfl⟩

theorem Frame.modify (f : Task → Task) : Frame id task hub (hub.modifyTask id f) where
  others other different := .inl (by rw [find_modifyTask, if_neg different])
  nodes _ := rfl
  nextId := le_rfl

theorem Move.modify [inside : InScope scope id] {f : Task → Task} (before : hub.tasks.find id = some task)
    (change : RowMove world hub id task (f task)) : Move world scope hub (hub.modifyTask id f) :=
  .row id task (f task) inside.mem before (by simp [before]) change (.modify f) rfl rfl

theorem Move.nodes (move : Move world scope hub after) (node : Nat) :
    (after.nodes.find node).isSome = (hub.nodes.find node).isSome := by
  cases move with
  | row id task final inside before found change frame usage orgs => exact frame.nodes node
  | settled id task body inside before onWorker active reports success settlement =>
    exact settlement.frame.nodes node
  | aside tasks nodes nextId usage orgs => exact nodes node

theorem Path.nodes (path : Path world scope hub after) (node : Nat) :
    (after.nodes.find node).isSome = (hub.nodes.find node).isSome := by
  induction path with
  | refl => rfl
  | tail _ move ih => rw [move.nodes, ih]

/-- Ids are given out in order. -/
theorem Move.nextId (move : Move world scope hub after) : hub.nextId ≤ after.nextId := by
  cases move with
  | row id task final inside before found change frame usage orgs => exact frame.nextId
  | settled id task body inside before onWorker active reports success settlement => exact settlement.frame.nextId
  | aside tasks nodes nextId usage orgs => exact nextId.ge

theorem Path.nextId (path : Path world scope hub after) : hub.nextId ≤ after.nextId := by
  induction path with
  | refl => exact le_rfl
  | tail _ move ih => exact ih.trans move.nextId

theorem Settlement.of_dispatched {body : Dict} {node : Nat} {workerTaskId : Option String}
    (settlement : Settlement world id body (dispatched node workerTaskId task)
      (hub.modifyTask id (dispatched node workerTaskId)) after) :
    Settlement world id body task hub after where
  frame :=
    { others := fun other different => by
        rcases settlement.frame.others other different with same | ⟨above, below, row, found, chained⟩
        · left
          rw [same, find_modifyTask, if_neg different]
        · exact .inr ⟨above, below, row, found, chained.onWorker, chained.status, chained.orgId,
            chained.billed, chained.skipPersist, chained.produced, chained.notDone⟩
      nodes := settlement.frame.nodes
      nextId := settlement.frame.nextId }
  row := by
    obtain ⟨final, found, finished⟩ := settlement.row
    exact ⟨final, found, finished.type, finished.orgId, finished.snap, finished.skipPersist,
      finished.status, finished.billed, finished.done⟩
  entry := settlement.entry

end Frame

end IdigestHub.Dispatcher
