import IdigestHub.Dispatcher.Moves

/-! Handling a success report, statement by statement, up to its commit. -/

set_option autoImplicit false

namespace IdigestHub

open Foundation Foundation.UnitOfWork

section Rules

variable {world : World} {A : Type} {s : Session Hub Process} {R : Fault → Session Hub Process → Prop}

theorem wp_guardSite {site : Site} {Q : Unit → Session Hub Process → Prop} (value : Q () s)
    (raised : R .raised s) : wp (guardSite world site) Q R s := by
  unfold guardSite
  split
  · exact raised
  · exact value

theorem wp_commitAt {site : Site} {Q : Unit → Session Hub Process → Prop} (value : Q () s.commit)
    (raised : R .raised s) : wp (commitAt world site) Q R s := by
  unfold commitAt
  split
  · exact raised
  · exact value

theorem wp_loaded {id : Nat} {Q : Task → Session Hub Process → Prop}
    (value : ∀ task, s.working.tasks.find id = some task → Q task s) (missing : R .raised s) :
    wp (loaded id) Q R s := by
  rw [loaded, wp_bind, wp_read]
  cases found : s.working.tasks.find id with
  | none => exact missing
  | some task => exact value task found

@[simp] theorem wp_modifyTask (id : Nat) (f : Task → Task) (Q : Unit → Session Hub Process → Prop) :
    wp (modifyTask id f) Q R s = Q () (s.edit (s.working.modifyTask id f)) := rfl

theorem wp_loaded_of {id : Nat} {task : Task} {Q : Task → Session Hub Process → Prop}
    (found : s.working.tasks.find id = some task) (value : Q task s) : wp (loaded id) Q R s := by
  rw [loaded, wp_bind, wp_read, found]
  exact value

end Rules

section Calls

variable {I : Session Hub Process → Prop} [Transactional I] (world : World)

omit [Transactional I] in
theorem maintains_guardSite (site : Site) : Maintains I (guardSite world site) :=
  .ite (fun _ => maintains_raise _) fun _ => maintains_pure _

theorem maintains_commitAt (site : Site) : Maintains I (commitAt world site) :=
  .ite (fun _ => maintains_raise _) fun _ => maintains_commit

theorem maintains_callWorker (task node : Nat) : Maintains I (callWorker world task node) :=
  (maintains_guardSite world _).bind fun _ => maintains_commitAt world _

omit [Transactional I] in
theorem maintains_loaded (id : Nat) : Maintains I (loaded id) := by
  refine maintains_read.bind fun hub => ?_
  split
  · exact maintains_pure _
  · exact maintains_raise _

theorem silent_guardSite (site : Site) : Silent (guardSite world site) := .ite (fun _ => silent_raise _) fun _ => silent_pure _

theorem all_commitAt (site : Site) : AllOrNothing (commitAt world site) := fun _ => wp_commitAt trivial rfl

theorem silent_loaded (id : Nat) : Silent (loaded id) := by
  refine silent_read.bind fun hub => ?_
  split
  · exact silent_pure _
  · exact silent_raise _

end Calls

namespace Dispatcher

abbrev Uncommitted (s : Session Hub Process) : Fault → Session Hub Process → Prop :=
  fun _ after => after.committed = s.committed

def Bounded (hub : Hub) : Prop := ∀ id task, hub.tasks.find id = some task → id < hub.nextId

variable {world : World} {id : Nat} {task : Task} {s : Session Hub Process}

structure Persisted (id : Nat) (task : Task) (hub after : Hub) : Prop where
  others : ∀ other, other ≠ id → after.tasks.find other = hub.tasks.find other
  nodes : after.nodes = hub.nodes
  nextId : hub.nextId ≤ after.nextId
  usage : after.usage = hub.usage
  orgs : after.orgs = hub.orgs
  row : ∃ row, after.tasks.find id = some row ∧ row.type = task.type ∧ row.orgId = task.orgId ∧
    row.userId = task.userId ∧ row.snap = task.snap ∧ row.skipPersist = task.skipPersist ∧
    row.billed = task.billed ∧ row.status = if task.skipPersist then .error else .success

theorem persisted_of_skip (found : s.working.tasks.find id = some task) (skip : task.skipPersist = true)
    (code : ErrorCode) :
    wp (fail world id code none)
      (fun _ after => Persisted id task s.working after.working ∧ after.committed = s.committed)
      (Uncommitted s) s := by
  rw [fail, wp_bind, wp_modifyTask]
  refine wp_guardSite ⟨?_, rfl⟩ rfl
  refine ⟨fun other different => ?_, rfl, le_rfl, rfl, rfl, failedTask code none task, ?_, ?_⟩
  · simp [different]
  · simp [found]
  · simp [failedTask, Task.mergeMeta, skip]

theorem persistTranscript_persisted (found : s.working.tasks.find id = some task) (payload : Json) :
    wp (persistTranscript world id payload)
      (fun _ after => Persisted id task s.working after.working ∧ after.committed = s.committed)
      (Uncommitted s) s := by
  rw [persistTranscript, wp_bind]
  refine wp_loaded_of found ?_
  cases skip : task.skipPersist with
  | true =>
    simp only [if_true]
    exact persisted_of_skip found skip _
  | false =>
    simp only [Bool.false_eq_true, if_false, wp_bind]
    refine wp_guardSite ?_ rfl
    simp only [wp_read, wp_update, wp_flush, wp_modifyTask]
    refine wp_guardSite ⟨?_, rfl⟩ rfl
    refine ⟨fun other different => ?_, rfl, Nat.le_succ _, rfl, rfl,
      succeededTask { task with producedTranscriptId := some s.working.nextId }, ?_, ?_⟩
    · simp [different, Hub.addTranscript]
    · simp [found, Hub.addTranscript]
    · simp [succeededTask, skip]

theorem persistSummary_persisted (found : s.working.tasks.find id = some task) (body : String) :
    wp (persistSummary world id body)
      (fun _ after => Persisted id task s.working after.working ∧ after.committed = s.committed)
      (Uncommitted s) s := by
  rw [persistSummary, wp_bind]
  refine wp_loaded_of found ?_
  cases skip : task.skipPersist with
  | true =>
    simp only [if_true]
    exact persisted_of_skip found skip _
  | false =>
    simp only [Bool.false_eq_true, if_false, wp_bind]
    refine wp_guardSite ?_ rfl
    simp only [wp_read, wp_update, wp_flush, wp_modifyTask]
    refine wp_guardSite ⟨?_, rfl⟩ rfl
    refine ⟨fun other different => ?_, rfl, Nat.le_succ _, rfl, rfl,
      succeededTask { task with producedSummaryId := some s.working.nextId }, ?_, ?_⟩
    · simp [different, Hub.addSummary]
    · simp [found, Hub.addSummary]
    · simp [succeededTask, skip]

structure Charging (database : Database) (id : Nat) (task : Task) (audioSec : Option Decimal) (chars : Option Nat) (amount : Int)
    (hub after : Hub) : Prop where
  others : ∀ other, other ≠ id → after.tasks.find other = hub.tasks.find other
  nodes : after.nodes = hub.nodes
  nextId : after.nextId = hub.nextId
  row : after.tasks.find id = some (task.withBilled (task.billed || (hub.orgs.find task.orgId).isSome))
  entry : Entered database id task audioSec chars amount hub after

theorem charge_charges (found : s.working.tasks.find id = some task) (audioSec : Option Decimal) (amount : Int)
    (chars : Option Nat) :
    wp (charge world id audioSec amount chars)
      (fun _ after => Charging world.database id task audioSec chars amount s.working after.working ∧
        after.committed = s.committed)
      (Uncommitted s) s := by
  rw [charge, wp_bind]
  refine wp_loaded_of found ?_
  rw [wp_bind, wp_read]
  cases org : s.working.orgs.find task.orgId with
  | none =>
    refine ⟨⟨fun _ _ => rfl, rfl, rfl, ?_, ?_⟩, rfl⟩
    · simp [found, org]
    · simp [Entered, org]
  | some row =>
    simp only
    cases computed : Billing.applySuccessCharge id audioSec amount chars task row with
    | none => exact rfl
    | some charged =>
      dsimp only
      cases kept : charged.stored world.database row with
      | none => exact rfl
      | some stored =>
        rw [wp_update]
        cases billed : task.billed with
        | true =>
          -- nothing is charged twice
          rw [Billing.applySuccessCharge_billed billed] at computed
          obtain rfl := Option.some.inj computed
          obtain rfl := Option.some.inj kept
          have same := task.withBilled_self
          rw [billed] at same
          refine ⟨⟨fun other different => ?_, rfl, rfl, ?_, (if_pos (.inl billed)).mpr ⟨by simp, fun other => ?_⟩⟩, rfl⟩
          · simp [Table.find_modify, different]
          · simp [Table.find_modify, found, same, billed]
          · by_cases its : other = task.orgId
            · simp [Table.find_modify, its, org]
            · simp [Table.find_modify, its]
        | false =>
          have both : (Billing.applySuccessCharge id audioSec amount chars task row).bind
              (Billing.Charged.stored world.database row) = some stored := by rw [computed, Option.bind_some, kept]
          rw [Billing.stored_of_charge _ billed, Option.bind_eq_some_iff] at both
          obtain ⟨balance, charges, amounts⟩ := both
          obtain ⟨amount', given, rfl⟩ := Option.map_eq_some_iff.mp amounts
          refine ⟨⟨fun other different => ?_, rfl, rfl, ?_, (if_neg (by simp [billed, org])).mpr
            ⟨row, balance, amount', org, charges, given, by simp [chargeEvent], fun other => ?_⟩⟩, rfl⟩
          · simp [Table.find_modify, different]
          · simp [Table.find_modify, found, org, Task.withBilled]
          · by_cases its : other = task.orgId
            · simp [Table.find_modify, its, org]
            · simp [Table.find_modify, its]

theorem telegramNotifyMeta_stage (world : World) (source : Dict) :
    ∀ field ∈ telegramNotifyMeta world source, field.1 ≠ "stage" := by
  simp only [telegramNotifyMeta]
  split <;> simp

theorem chainedTask_chained (world : World) (now : Nat) (source : Dict) (task : Task) :
    Chained task (chainedTask now (telegramNotifyMeta world source) task) where
  onWorker := rfl
  status := rfl
  orgId := rfl
  billed := rfl
  skipPersist := rfl
  produced := rfl
  notDone := by
    have absent := Dict.get_of_absent (telegramNotifyMeta_stage world source)
    simp only [Task.isDone, Task.stage, Task.metaDict, chainedTask]
    cases fields : telegramNotifyMeta world source with
    | nil => rfl
    | cons field rest =>
      rw [fields] at absent
      show (Dict.get (field :: rest) "stage").isText "done" = false
      rw [absent]
      rfl

structure Chaining (id : Nat) (task : Task) (hub after : Hub) : Prop where
  frame : Frame id task hub after
  usage : after.usage = hub.usage
  orgs : after.orgs = hub.orgs
  row : ∃ metaJson, after.tasks.find id = some (task.withMeta metaJson)

theorem enqueue_chains (found : s.working.tasks.find id = some task) (bounded : Bounded s.working) :
    wp (enqueueSummarizeAfterTranscribe world id)
      (fun followUp after => Chaining id task s.working after.working ∧
        (∀ new, followUp = some new → s.working.nextId ≤ new ∧ new ≠ id ∧ ∃ row, after.working.tasks.find new = some row ∧
          row.onWorker = true) ∧ after.committed = s.committed)
      (Uncommitted s) s := by
  have below : id < s.working.nextId := bounded id task found
  rw [enqueueSummarizeAfterTranscribe, wp_bind]
  refine wp_loaded_of found ?_
  rw [wp_ite]
  split
  · exact ⟨⟨.refl, rfl, rfl, task.metaJson, found⟩, by simp, rfl⟩
  · rw [wp_bind]
    refine wp_guardSite ?_ rfl
    simp only [wp_bind, wp_read, wp_update, wp_flush, wp_modifyTask, wp_pure]
    have other_id : s.working.nextId ≠ id := below.ne'
    refine ⟨⟨⟨fun other different => ?_, fun _ => rfl, Nat.le_succ _⟩, rfl, rfl, ?_⟩, ?_, rfl⟩
    · by_cases new : other = s.working.nextId
      · refine .inr ⟨new.ge, ?_, _, ?_, chainedTask_chained world world.now task.metaDict task⟩
        · simp [Hub.addTask, Hub.modifyTask, new]
        · simp [Hub.addTask, new, other_id]
      · left
        simp [Hub.addTask, Hub.modifyTask, Table.find_modify, Table.find_put, different, new]
    · refine ⟨(task.mergeMeta [("follow_up_task_id", idJson s.working.nextId)]).metaJson, ?_⟩
      simp only [Session.edit_working, find_modifyTask, if_true, Session.flush_working, Hub.addTask,
        Table.find_put, below.ne, if_false, found, Option.map_some, Task.mergeMeta, Task.withMeta]
    · rintro new ⟨⟩
      exact ⟨le_rfl, other_id, _, by simp [Hub.addTask, other_id]; rfl, rfl⟩

theorem reportedFields_stage (workerMeta : Dict) : ∀ field ∈ reportedFields workerMeta, field.1 ≠ "stage" := by
  intro field member
  obtain ⟨key, listed, shown⟩ := List.mem_filterMap.mp member
  have name : field.1 = key := by
    revert shown
    cases workerMeta.get key <;> simp +contextual [eq_comm]
  rw [name]
  rcases List.mem_cons.mp listed with rfl | listed
  · decide
  · obtain rfl := List.mem_singleton.mp listed
    decide

/-- Only transcripts, summaries, audios and skills may change. -/
structure Aside (hub after : Hub) : Prop where
  tasks : after.tasks = hub.tasks
  nodes : after.nodes = hub.nodes
  nextId : after.nextId = hub.nextId
  usage : after.usage = hub.usage
  orgs : after.orgs = hub.orgs

theorem fillDuration_aside (audioSec : Decimal) :
    wp (fillDuration task audioSec)
      (fun _ after => Aside s.working after.working ∧ after.committed = s.committed)
      (Uncommitted s) s := by
  unfold fillDuration
  split
  · split
    · exact ⟨⟨rfl, rfl, rfl, rfl, rfl⟩, rfl⟩
    · exact ⟨⟨rfl, rfl, rfl, rfl, rfl⟩, rfl⟩
  · exact ⟨⟨rfl, rfl, rfl, rfl, rfl⟩, rfl⟩

/-- Stored or refused, charged, chained, stamped: the success is handled. -/
theorem settlement_of_steps {hub stored charged chained : Hub} {body : Dict} {audioSec : Option Decimal}
    {chars : Option Nat} {amount : Int} {row : Task} (fields : Dict)
    (priced : Priced world task body audioSec chars amount) (persisted : Persisted id task hub stored)
    (found : stored.tasks.find id = some row)
    (charging : Charging world.database id row audioSec chars amount stored charged)
    (chaining : Chaining id (row.withBilled (row.billed || (stored.orgs.find row.orgId).isSome)) charged chained)
    (absent : ∀ field ∈ fields, field.1 ≠ "stage") :
    Settlement world id body task hub (chained.modifyTask id (doneTask fields)) := by
  obtain ⟨row', found', type, orgId, userId, snap, skipPersist, billed, status⟩ := persisted.row
  obtain rfl : row' = row := Option.some.inj (found'.symm.trans found)
  obtain ⟨metaJson, last⟩ := chaining.row
  let last_row := (row'.withBilled (row'.billed || (stored.orgs.find row'.orgId).isSome)).withMeta metaJson
  refine ⟨⟨fun other different => ?_, fun node => ?_, ?_⟩, ⟨doneTask fields last_row, ?_, ?_⟩,
    ⟨audioSec, chars, amount, priced, ?_⟩⟩
  · rw [find_modifyTask, if_neg different]
    rcases chaining.frame.others other different with same | ⟨above, below, new, here, made⟩
    · left
      rw [same, charging.others other different, persisted.others other different]
    · right
      rw [charging.nextId] at above
      exact ⟨persisted.nextId.trans above, below, new, here, made.onWorker, made.status,
        made.orgId.trans orgId, made.billed, made.skipPersist, made.produced, made.notDone⟩
  · exact (chaining.frame.nodes node).trans (by rw [charging.nodes, persisted.nodes])
  · have above := chaining.frame.nextId
    rw [charging.nextId] at above
    exact persisted.nextId.trans above
  · rw [find_modifyTask, if_pos rfl, last]
    rfl
  · exact ⟨type, orgId, snap, skipPersist, status,
      by simp [last_row, doneTask, Task.mergeMeta, Task.withMeta, Task.withBilled, billed, orgId, persisted.orgs],
      doneTask_done absent _⟩
  · have entry := charging.entry
    have event (stored : Int) : chargeEvent id row' audioSec chars stored = chargeEvent id task audioSec chars stored := by
      simp [chargeEvent, orgId, userId, type, snap]
    have balances (balance : Fixed) : Billing.chargedBalance world.database row' amount balance =
        Billing.chargedBalance world.database task amount balance := by
      simp [Billing.chargedBalance, snap]
    simpa only [Entered, Hub.modifyTask, chaining.usage, chaining.orgs, persisted.usage, persisted.orgs, billed,
      orgId, event, balances] using entry

theorem Persisted.of_aside {hub middle after : Hub} (aside : Aside hub middle)
    (persisted : Persisted id task middle after) : Persisted id task hub after where
  others other different := by rw [persisted.others other different, aside.tasks]
  nodes := persisted.nodes.trans aside.nodes
  nextId := aside.nextId ▸ persisted.nextId
  usage := persisted.usage.trans aside.usage
  orgs := persisted.orgs.trans aside.orgs
  row := persisted.row

theorem Persisted.bounded {hub after : Hub} (persisted : Persisted id task hub after) (bounded : Bounded hub)
    (below : id < hub.nextId) : Bounded after := by
  intro other row found
  by_cases same : other = id
  · rw [same]
    exact below.trans_le persisted.nextId
  · rw [persisted.others other same] at found
    exact (bounded other row found).trans_le persisted.nextId

theorem Charging.bounded {hub after : Hub} {audioSec : Option Decimal} {chars : Option Nat} {amount : Int}
    (charging : Charging world.database id task audioSec chars amount hub after) (found : hub.tasks.find id = some task)
    (bounded : Bounded hub) : Bounded after := by
  intro other row here
  rw [charging.nextId]
  by_cases same : other = id
  · rw [same]
    exact bounded id task found
  · rw [charging.others other same] at here
    exact bounded other row here

section Handlers

variable {hub : Hub} {body : Dict} {dispatchFollowUp : Nat → Program Unit}

abbrev Leaves (next : Session Hub Process → Prop) (saved : Hub → Prop) (program : Program Unit)
    (s : Session Hub Process) : Prop :=
  wp program (fun _ => next) (fun _ after => saved after.committed) s

/-- `_on_transcribe_success` up to the dispatch of the follow-up that it returns. -/
def storeTranscript (world : World) (id : Nat) (body : Dict) : Program (Option Nat) := do
  let task ← loaded id
  let utterances := match body.get "transcript" with | .arr items => items | _ => []
  let workerMeta := (body.get "meta").asDict.getD []
  match reportedSeconds world body with
  | none => Tx.raise .typeError
  | some audioSec => do
    fillDuration task audioSec
    match Billing.transcribeAmount task audioSec with
    | none => Tx.raise .invalidOperation
    | some amount => do
      persistTranscript world id (.obj (buildWorkerPayload body utterances))
      charge world id (some audioSec) amount none
      let followUp ← enqueueSummarizeAfterTranscribe world id
      modifyTask id (doneTask (reportedFields workerMeta))
      commitAt world (.commit id)
      finishWorkerCleanup world id task.workerTaskId
      pure followUp

def dispatchChained (dispatchFollowUp : Nat → Program Unit) : Option Nat → Program Unit
  | none => pure ()
  | some followUp => dispatchFollowUp followUp

theorem onTranscribeSuccess_eq (body : Dict) :
    onTranscribeSuccess world dispatchFollowUp id body = storeTranscript world id body >>= dispatchChained dispatchFollowUp := by
  simp only [onTranscribeSuccess, storeTranscript, bind_assoc]
  congr
  funext task
  cases reportedSeconds world body with
  | none => rfl
  | some audioSec =>
    simp only [bind_assoc]
    congr
    funext _
    cases Billing.transcribeAmount task audioSec with
    | none => rfl
    | some amount =>
      simp only [bind_assoc, pure_bind]
      rfl

def IsChained (hub after : Hub) (followUp : Nat) : Prop :=
  hub.nextId ≤ followUp ∧ ∃ row, after.tasks.find followUp = some row ∧ row.onWorker = true

theorem storeTranscript_settles {next : Session Hub Process → Prop} {saved : Hub → Prop}
    (found : s.working.tasks.find id = some task) (type : task.type = .transcribe)
    (bounded : Bounded s.working) (before : saved s.committed)
    (commits : ∀ after memory, Settlement world id body task s.working after →
      next (.start after memory) ∧ saved after) :
    wp (storeTranscript world id body)
      (fun followUp after => next after ∧ ∀ new, followUp = some new → IsChained s.working after.working new)
      (fun _ after => saved after.committed) s := by
  rw [storeTranscript, wp_bind]
  refine wp_loaded_of found ?_
  simp only
  cases reported : reportedSeconds world body with
  | none => exact before
  | some audioSec =>
    simp only [wp_bind]
    refine wp_mono (fillDuration_aside audioSec) ?_ fun _ after same => same ▸ before
    rintro - s1 ⟨aside, clean1⟩
    -- an amount that cannot be computed raises, with nothing committed
    cases amounts : Billing.transcribeAmount task audioSec with
    | none =>
      show saved s1.committed
      rw [clean1]
      exact before
    | some amount =>
      have found1 : s1.working.tasks.find id = some task := by rw [aside.tasks, found]
      have below : id < s.working.nextId := bounded id task found
      have bounded1 : Bounded s1.working := by
        intro other row here
        rw [aside.tasks] at here
        exact aside.nextId ▸ bounded other row here
      simp only [wp_bind]
      refine wp_mono (persistTranscript_persisted found1 _) ?_ fun _ after same => by rw [same, clean1]; exact before
      rintro - s2 ⟨persisted, clean2⟩
      obtain ⟨row, found2, fields⟩ := persisted.row
      have bounded2 := persisted.bounded bounded1 (aside.nextId.symm ▸ below)
      refine wp_mono (charge_charges found2 (some audioSec) amount none) ?_
        fun _ after same => by rw [same, clean2, clean1]; exact before
      rintro - s3 ⟨charging, clean3⟩
      refine wp_mono (enqueue_chains charging.row (charging.bounded found2 bounded2)) ?_
        fun _ after same => by rw [same, clean3, clean2, clean1]; exact before
      rintro followUp s4 ⟨chaining, linked, clean4⟩
      have priced : Priced world task body (some audioSec) none amount := by
        simp [Priced, type, reported, amounts]
      -- the four steps together are one settlement
      have settlement := settlement_of_steps _ priced (persisted.of_aside aside) found2 charging chaining
        (reportedFields_stage ((body.get "meta").asDict.getD []))
      rw [wp_modifyTask]
      obtain ⟨reached, stored⟩ := commits _ s4.memory settlement
      refine wp_commitAt ?_ (by rw [Session.edit_committed, clean4, clean3, clean2, clean1]; exact before)
      have chained (new : Nat) (its : followUp = some new) : IsChained s.working
          (s4.working.modifyTask id (doneTask (reportedFields ((body.get "meta").asDict.getD [])))) new := by
        obtain ⟨above, different, row, here, onWorker⟩ := linked new its
        rw [charging.nextId] at above
        exact ⟨aside.nextId ▸ persisted.nextId.trans above, row, by simpa [different] using here, onWorker⟩
      rw [finishWorkerCleanup]
      split
      · exact wp_guardSite ⟨reached, chained⟩ stored
      · exact ⟨reached, chained⟩

theorem onTranscribeSuccess_settles {next : Session Hub Process → Prop} {saved : Hub → Prop}
    (found : s.working.tasks.find id = some task) (type : task.type = .transcribe)
    (bounded : Bounded s.working) (before : saved s.committed)
    (commits : ∀ after memory, Settlement world id body task s.working after →
      next (.start after memory) ∧ saved after)
    (follows : ∀ followUp row s', s.working.nextId ≤ followUp → next s' →
      s'.working.tasks.find followUp = some row → row.onWorker = true →
      Leaves next saved (dispatchFollowUp followUp) s') :
    Leaves next saved (onTranscribeSuccess world dispatchFollowUp id body) s := by
  rw [Leaves, onTranscribeSuccess_eq, wp_bind]
  refine wp_mono (storeTranscript_settles found type bounded before commits) ?_ fun _ _ held => held
  rintro followUp after ⟨reached, chained⟩
  cases followUp with
  | none => exact reached
  | some new =>
    obtain ⟨fresh, row, here, onWorker⟩ := chained new rfl
    exact follows new row after fresh reached here onWorker

theorem onSummarizeSuccess_settles {next : Session Hub Process → Prop} {saved : Hub → Prop}
    (found : s.working.tasks.find id = some task) (type : task.type = .summarize) (before : saved s.committed)
    (commits : ∀ after memory, Settlement world id body task s.working after →
      next (.start after memory) ∧ saved after) :
    Leaves next saved (onSummarizeSuccess world id body) s := by
  rw [Leaves, onSummarizeSuccess, wp_bind]
  refine wp_loaded_of found ?_
  simp only
  cases amounts : Billing.summarizeAmount task (reportedSummary body) with
  | none => exact before
  | some amount =>
    simp only [wp_bind]
    refine wp_mono (persistSummary_persisted found _) ?_ fun _ after same => same ▸ before
    rintro - s1 ⟨persisted, clean1⟩
    obtain ⟨row, found1, fields⟩ := persisted.row
    refine wp_mono (charge_charges found1 none amount _) ?_ fun _ after same => by rw [same, clean1]; exact before
    rintro - s2 ⟨charging, clean2⟩
    have priced : Priced world task body none (some (reportedSummary body).length) amount := by
      simp [Priced, type, amounts]
    have chaining : Chaining id (row.withBilled (row.billed || (s1.working.orgs.find row.orgId).isSome))
        s2.working s2.working := ⟨.refl, rfl, rfl, _, charging.row⟩
    have settlement := settlement_of_steps [] priced persisted found1 charging chaining (by simp)
    rw [wp_modifyTask]
    obtain ⟨reached, stored⟩ := commits _ s2.memory settlement
    refine wp_commitAt ?_ (by rw [Session.edit_committed, clean2, clean1]; exact before)
    rw [finishWorkerCleanup]
    split
    · exact wp_guardSite reached stored
    · exact reached

theorem onSuccess_settles {next : Session Hub Process → Prop} {saved : Hub → Prop}
    (found : s.working.tasks.find id = some task) (onWorker : task.onWorker = true)
    (bounded : Bounded s.working) (before : saved s.committed)
    (commits : ∀ after memory, Settlement world id body task s.working after →
      next (.start after memory) ∧ saved after)
    (follows : ∀ followUp row s', s.working.nextId ≤ followUp → next s' →
      s'.working.tasks.find followUp = some row → row.onWorker = true →
      Leaves next saved (dispatchFollowUp followUp) s') :
    Leaves next saved (onSuccess world dispatchFollowUp id body) s := by
  rw [Leaves, onSuccess, wp_bind]
  refine wp_loaded_of found ?_
  rw [wp_ite]
  split
  · rename_i type
    exact onTranscribeSuccess_settles found type bounded before commits follows
  · rename_i type
    have summarize : task.type = .summarize := by
      simpa [Task.onWorker, type] using onWorker
    exact onSummarizeSuccess_settles found summarize before commits

theorem onWorkerTerminalError_fails {next : Session Hub Process → Prop} {saved : Hub → Prop}
    (found : s.working.tasks.find id = some task) (before : saved s.committed)
    (commits : ∀ code detail memory,
      next (.start (s.working.modifyTask id (failedTask code detail)) memory) ∧
        saved (s.working.modifyTask id (failedTask code detail))) :
    Leaves next saved (onWorkerTerminalError world id body) s := by
  rw [Leaves, onWorkerTerminalError, wp_bind]
  refine wp_loaded_of found ?_
  cases mapWorkerError (((body.get "error").asDict.getD []).get "code") with
  | none => exact before
  | some code =>
    obtain ⟨reached, stored⟩ := commits code (workerErrorDetail body) s.memory
    simp only [fail, wp_bind, wp_modifyTask]
    refine wp_guardSite ?_ before
    refine wp_commitAt ?_ before
    rw [finishWorkerCleanup]
    split
    · exact wp_guardSite reached stored
    · exact reached

end Handlers

end Dispatcher

end IdigestHub
