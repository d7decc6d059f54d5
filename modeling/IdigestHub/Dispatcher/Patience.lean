import IdigestHub.Dispatcher.Settling

/-! What the programs for transcribe and summarize tasks write to a row, as far as the timeout of a queued task depends
on it: only the time that a task has waited lets it time out, and a mark against the timeout stays. -/

set_option autoImplicit false

namespace Foundation.Table

theorem modify_congr {K R : Type} [DecidableEq K] {t : Table K R} {key : K} {f g : R → R}
    (same : ∀ row, t.find key = some row → f row = g row) : t.modify key f = t.modify key g := by
  apply AList.ext
  refine List.map_congr_left fun row member => ?_
  dsimp only
  by_cases its : row.1 = key
  · have found : t.find key = some row.2 := (mem_entries t key row.2).mp (its ▸ member)
    rw [if_pos its, if_pos its, same row.2 found]
  · rw [if_neg its, if_neg its]

end Foundation.Table

namespace IdigestHub.Dispatcher

open Foundation Foundation.UnitOfWork

/-- The row has failed with `dispatch_timeout`. -/
def isTimedOut (row : Task) : Bool := row.status == .error && row.errorCode == some .dispatchTimeout

/-- The columns that a timeout depends on; a mark against it stays. -/
structure Kept (task row : Task) : Prop where
  type : row.type = task.type
  snap : row.snap = task.snap
  queuedAt : row.queuedAt = task.queuedAt
  skipPersist : row.skipPersist = task.skipPersist
  skipReason : row.skipReason = task.skipReason
  patient : task.retryWithoutTimeout = true → row.retryWithoutTimeout = true

theorem Kept.refl (task : Task) : Kept task task := ⟨rfl, rfl, rfl, rfl, rfl, id⟩

theorem Kept.trans {first second third : Task} (one : Kept first second) (two : Kept second third) : Kept first third :=
  ⟨two.type.trans one.type, two.snap.trans one.snap, two.queuedAt.trans one.queuedAt,
    two.skipPersist.trans one.skipPersist, two.skipReason.trans one.skipReason, fun marked => two.patient (one.patient marked)⟩

structure Careful (f : Task → Task) : Prop where
  kept : ∀ row, Kept row (f row)
  timedOut : ∀ row, isTimedOut (f row) = true → isTimedOut row = true

section Writes

theorem careful_of_status {f : Task → Task} (kept : ∀ row, Kept row (f row)) (status : ∀ row, (f row).status ≠ .error) :
    Careful f := by
  refine ⟨kept, fun row timedOut => ?_⟩
  have failed := (Bool.and_eq_true_iff.mp timedOut).1
  exact absurd (beq_iff_eq.mp failed) (status row)

theorem careful_of_same {f : Task → Task} (kept : ∀ row, Kept row (f row)) (status : ∀ row, (f row).status = row.status)
    (errorCode : ∀ row, (f row).errorCode = row.errorCode) : Careful f := by
  refine ⟨kept, fun row timedOut => ?_⟩
  rwa [isTimedOut, status, errorCode] at timedOut

theorem careful_mergeMeta (fields : Task → Dict) : Careful fun row => row.mergeMeta (fields row) :=
  careful_of_same (fun _ => ⟨rfl, rfl, rfl, rfl, rfl, id⟩) (fun _ => rfl) fun _ => rfl

theorem careful_patient (stage : String) : Careful (patient stage) :=
  careful_of_same (fun _ => ⟨rfl, rfl, rfl, rfl, rfl, fun _ => rfl⟩) (fun _ => rfl) fun _ => rfl

theorem careful_withBilled (billed : Bool) : Careful fun row => row.withBilled billed :=
  careful_of_same (fun _ => ⟨rfl, rfl, rfl, rfl, rfl, id⟩) (fun _ => rfl) fun _ => rfl

theorem careful_marked : Careful fun row => { row with retryWithoutTimeout := true } :=
  careful_of_same (fun _ => ⟨rfl, rfl, rfl, rfl, rfl, fun _ => rfl⟩) (fun _ => rfl) fun _ => rfl

theorem careful_dispatched (node : Nat) (workerTaskId : Option String) : Careful (dispatched node workerTaskId) :=
  careful_of_status (fun _ => ⟨rfl, rfl, rfl, rfl, rfl, id⟩) fun _ status => by cases status

theorem careful_stillActive (status : Json) : Careful (stillActive status) :=
  careful_of_status (fun _ => ⟨rfl, rfl, rfl, rfl, rfl, id⟩) fun _ status => by cases status

theorem careful_unlinked : Careful unlinked :=
  careful_of_same (fun _ => ⟨rfl, rfl, rfl, rfl, rfl, id⟩) (fun _ => rfl) fun _ => rfl

/-- Back to the queue, whatever becomes of the worker link. -/
theorem careful_requeue {f : Task → Task} (kept : ∀ row, Kept row (f row)) (queued : ∀ row, (f row).status = .queued) :
    Careful f :=
  careful_of_status kept fun row status => by rw [queued] at status; cases status

theorem careful_unassigned : Careful unassigned := careful_requeue (fun _ => ⟨rfl, rfl, rfl, rfl, rfl, id⟩) fun _ => rfl

theorem kept_failedTask (code : ErrorCode) (detail : Option String) (row : Task) : Kept row (failedTask code detail row) :=
  ⟨rfl, rfl, rfl, rfl, rfl, id⟩

theorem careful_failedTask {code : ErrorCode} (other : code ≠ .dispatchTimeout) (detail : Option String) :
    Careful (failedTask code detail) := by
  refine ⟨kept_failedTask code detail, fun row timedOut => ?_⟩
  have its : some code = some .dispatchTimeout := beq_iff_eq.mp (Bool.and_eq_true_iff.mp timedOut).2
  exact absurd (Option.some.inj its) other

theorem mapWorkerError_ne_timeout {code : Json} {mapped : ErrorCode} (its : mapWorkerError code = some mapped) :
    mapped ≠ .dispatchTimeout := by
  have listed : ∀ entry ∈ workerErrorMap, entry.2 ≠ .dispatchTimeout := by decide
  have named (name : String) : (workerErrorMap.lookup name).getD .pipelineError ≠ .dispatchTimeout := by
    cases found : workerErrorMap.lookup name with
    | none => decide
    | some value =>
      obtain ⟨before, after, same, _⟩ := List.lookup_eq_some_iff.mp found
      exact listed (name, value) (same ▸ by simp)
  unfold mapWorkerError at its
  split at its
  · cases its
    decide
  · split at its
    · contradiction
    · split at its
      · cases its
        exact named _
      · cases its
        decide

end Writes

def expired (world : World) (pool : PoolState) (row : Task) : Bool :=
  !row.retryWithoutTimeout && pool == .empty && decide (0 < world.dispatchNoCandidateSec) &&
    decide (world.dispatchNoCandidateSec * 1000000 ≤ (world.now : Int) - row.queuedAt)

/-- An assertion that careful writes, new tasks and writes to other tables keep. Tasks from `base` on are new. -/
structure Steady (world : World) (base : Nat) (I : Session Hub Process → Prop) : Prop where
  numbered : ∀ s, I s → base ≤ s.working.nextId
  modify : ∀ id f s, Careful f → I s → I (s.edit (s.working.modifyTask id f))
  add : ∀ notifyMeta parent s, I s → I (s.edit (s.working.addTask (chainedTask world.now notifyMeta parent)))
  aside : ∀ hub s, hub.tasks = s.working.tasks → s.working.nextId ≤ hub.nextId → I s → I (s.edit hub)
  refuse : ∀ id row s, I s → s.working.tasks.find id = some row → row.skipPersist = true →
    I (s.edit (s.working.modifyTask id (failedTask (row.skipReason.getD .sourceDeleted) none)))
  flush : ∀ s, I s → I s.flush
  commit : ∀ s, I s → I s.commit

def Expires (world : World) (I : Session Hub Process → Prop) (nodes : List Node) (id : Nat) : Prop :=
  ∀ row s, I s → s.working.tasks.find id = some row → expired world (poolOf row nodes).1 row = true →
    I (s.edit (s.working.modifyTask id (failedTask .dispatchTimeout none)))

section Charges

variable {id : Nat} {audioSec : Option Decimal} {amount : Int} {chars : Option Nat} {task : Task} {org : Organization}
  {charged : Billing.Charged}

theorem charged_withBilled (computed : Billing.applySuccessCharge id audioSec amount chars task org = some charged) :
    ∃ billed, charged.task = task.withBilled billed := by
  cases billed : task.billed with
  | true =>
    rw [Billing.applySuccessCharge_billed billed] at computed
    obtain rfl := Option.some.inj computed
    exact ⟨task.billed, rfl⟩
  | false => exact ⟨true, (Billing.applySuccessCharge_fresh billed computed).1⟩

theorem careful_succeeded {f : Task → Task} (kept : ∀ row, Kept row (f row)) : Careful fun row => succeededTask (f row) :=
  careful_of_status (fun row => (kept row).trans ⟨rfl, rfl, rfl, rfl, rfl, fun marked => marked⟩) fun _ status => by cases status

theorem careful_doneTask (fields : Dict) : Careful (doneTask fields) :=
  careful_of_same (fun _ => ⟨rfl, rfl, rfl, rfl, rfl, fun marked => marked⟩) (fun _ => rfl) fun _ => rfl

theorem maintains_cleanup {I : Session Hub Process → Prop} (world : World) (workerTaskId : Option String) :
    Maintains I (finishWorkerCleanup world id workerTaskId) :=
  .ite (fun _ => maintains_guardSite world _) fun _ => maintains_pure _

end Charges

section Handlers

variable {world : World} {base : Nat} {I : Session Hub Process → Prop} (steady : Steady world base I) (id : Nat)

include steady

theorem Steady.modifies {f : Task → Task} (careful : Careful f) : Maintains I (modifyTask id f) :=
  fun s holds => steady.modify id f s careful holds

theorem Steady.commitAt (site : Site) : Maintains I (commitAt world site) :=
  .ite (fun _ => maintains_raise _) fun _ => steady.commit

theorem Steady.callWorker (node : Nat) : Maintains I (callWorker world id node) :=
  (maintains_guardSite world _).bind fun _ => steady.commitAt _

theorem Steady.fail {code : ErrorCode} (other : code ≠ .dispatchTimeout) (detail : Option String) :
    Maintains I (fail world id code detail) :=
  (steady.modifies id (careful_failedTask other detail)).bind fun _ => maintains_guardSite world _

theorem Steady.fail_skipped {task : Task} {s : Session Hub Process} (holds : I s)
    (found : s.working.tasks.find id = some task) (skips : task.skipPersist = true) :
    wp (Dispatcher.fail world id (task.skipReason.getD .sourceDeleted) none) (fun _ => I) (fun _ => I) s := by
  rw [Dispatcher.fail, wp_bind, wp_modifyTask]
  exact maintains_guardSite world _ _ (steady.refuse id task s holds found skips)

theorem Steady.stores {f : Hub → Hub} (tasks : ∀ hub, (f hub).tasks = hub.tasks) (nextId : ∀ hub, hub.nextId ≤ (f hub).nextId) :
    Maintains I (Tx.update f : Program Unit) := fun s holds => steady.aside _ s (tasks _) (nextId _) holds

theorem Steady.persistTranscript (payload : Json) : Maintains I (persistTranscript world id payload) := by
  intro s holds
  rw [Dispatcher.persistTranscript, wp_bind]
  refine wp_loaded (fun task found => wp_cases (steady.fail_skipped id holds found) fun _ => ?_) holds
  have stored : Maintains I (Tx.flush : Program Unit) := steady.flush
  have points (rowId : Nat) : Careful fun row => succeededTask { row with producedTranscriptId := some rowId } :=
    careful_succeeded fun _ => ⟨rfl, rfl, rfl, rfl, rfl, fun marked => marked⟩
  exact ((maintains_guardSite world _).bind fun _ => maintains_read.bind fun hub =>
    (steady.stores (fun _ => by rfl) fun _ => by exact Nat.le_succ _).bind fun _ => stored.bind fun _ =>
      (steady.modifies id (points hub.nextId)).bind fun _ => maintains_guardSite world _) s holds

theorem Steady.persistSummary (body : String) : Maintains I (persistSummary world id body) := by
  intro s holds
  rw [Dispatcher.persistSummary, wp_bind]
  refine wp_loaded (fun task found => wp_cases (steady.fail_skipped id holds found) fun _ => ?_) holds
  have stored : Maintains I (Tx.flush : Program Unit) := steady.flush
  have points (rowId : Nat) : Careful fun row => succeededTask { row with producedSummaryId := some rowId } :=
    careful_succeeded fun _ => ⟨rfl, rfl, rfl, rfl, rfl, fun marked => marked⟩
  exact ((maintains_guardSite world _).bind fun _ => maintains_read.bind fun hub =>
    (steady.stores (fun _ => by rfl) fun _ => by exact Nat.le_succ _).bind fun _ => stored.bind fun _ =>
      (steady.modifies id (points hub.nextId)).bind fun _ => maintains_guardSite world _) s holds

theorem Steady.charge (audioSec : Option Decimal) (amount : Int) (chars : Option Nat) :
    Maintains I (charge world id audioSec amount chars) := by
  intro s holds
  rw [Dispatcher.charge, wp_bind]
  refine wp_loaded (fun task found => ?_) holds
  rw [wp_bind, wp_read]
  cases s.working.orgs.find task.orgId with
  | none => exact holds
  | some org =>
    dsimp only
    cases computed : Billing.applySuccessCharge id audioSec amount chars task org with
    | none => exact holds
    | some charged =>
      obtain ⟨billed, same⟩ := charged_withBilled computed
      dsimp only
      cases kept : charged.stored world.database org with
      | none => exact holds
      | some stored =>
        have rows : (s.working.tasks.modify id fun _ => stored.task) = s.working.tasks.modify id fun row =>
          row.withBilled billed := by
          refine Table.modify_congr fun row its => ?_
          obtain rfl : task = row := Option.some.inj (found.symm.trans its)
          rw [Billing.stored_task kept]
          exact same
        exact steady.aside _ (s.edit (s.working.modifyTask id fun row => row.withBilled billed)) rows le_rfl
          (steady.modify id _ s (careful_withBilled billed) holds)

theorem Steady.fillDuration (task : Task) (audioSec : Decimal) : Maintains I (fillDuration task audioSec) := by
  refine .ite (fun _ => ?_) fun _ => maintains_pure _
  cases task.audioId with
  | none => exact maintains_pure _
  | some audioId => exact steady.stores (fun _ => rfl) fun _ => le_rfl

/-- A computation that keeps the assertion and returns a new task, if any. -/
abbrev Chains (base : Nat) (I : Session Hub Process → Prop) (program : Program (Option Nat)) : Prop :=
  ∀ s, I s → wp program (fun followUp after => I after ∧ ∀ new, followUp = some new → base ≤ new) (fun _ => I) s

omit steady in
theorem Chains.after {A : Type} {first : Program A} {rest : A → Program (Option Nat)} (kept : Maintains I first)
    (chains : ∀ a, Chains base I (rest a)) : Chains base I (first >>= rest) := by
  intro s holds
  rw [wp_bind]
  exact wp_mono (kept s holds) (fun a after held => chains a after held) fun _ _ held => held

omit steady in
theorem chains_pure {followUp : Option Nat} (fresh : ∀ new, followUp = some new → base ≤ new) :
    Chains base I (pure followUp) := fun _ holds => ⟨holds, fresh⟩

theorem Steady.enqueueSummarize : Chains base I (enqueueSummarizeAfterTranscribe world id) := by
  refine Chains.after (maintains_loaded id) fun task s holds => wp_cases
    (fun _ => ⟨holds, fun _ none => by contradiction⟩) fun _ => ?_
  rw [wp_bind]
  refine wp_guardSite ?_ holds
  simp only [wp_bind, wp_read, wp_update, wp_flush, wp_modifyTask, wp_pure]
  have added := steady.flush _ (steady.add (telegramNotifyMeta world task.metaDict) task s holds)
  refine ⟨steady.modify id _ _ (careful_mergeMeta fun _ => _) added, ?_⟩
  rintro new ⟨⟩
  exact steady.numbered s holds

theorem Steady.storeTranscript (body : Dict) : Chains base I (storeTranscript world id body) := by
  refine Chains.after (maintains_loaded id) fun task => ?_
  cases reportedSeconds world body with
  | none => exact fun s holds => holds
  | some audioSec =>
    refine Chains.after (steady.fillDuration task audioSec) fun _ => ?_
    cases Billing.transcribeAmount task audioSec with
    | none => exact fun s holds => holds
    | some amount =>
      refine Chains.after (steady.persistTranscript id _) fun _ => Chains.after (steady.charge id _ _ _) fun _ s holds => ?_
      rw [wp_bind]
      refine wp_mono (steady.enqueueSummarize id s holds) ?_ fun _ _ held => held
      rintro followUp after ⟨held, fresh⟩
      exact (Chains.after (steady.modifies id (careful_doneTask _)) fun _ => Chains.after (steady.commitAt _) fun _ =>
        Chains.after (maintains_cleanup world _) fun _ => chains_pure fresh) after held

theorem Steady.onSummarizeSuccess (body : Dict) : Maintains I (onSummarizeSuccess world id body) := by
  refine (maintains_loaded id).bind fun task => ?_
  dsimp only
  cases Billing.summarizeAmount task (reportedSummary body) with
  | none => exact maintains_raise _
  | some amount =>
    exact (steady.persistSummary id _).bind fun _ => (steady.charge id _ _ _).bind fun _ =>
      (steady.modifies id (careful_doneTask [])).bind fun _ => (steady.commitAt _).bind fun _ => maintains_cleanup world _

theorem Steady.onWorkerTerminalError (body : Dict) : Maintains I (onWorkerTerminalError world id body) := by
  refine (maintains_loaded id).bind fun task => ?_
  cases mapped : mapWorkerError (((body.get "error").asDict.getD []).get "code") with
  | none => exact maintains_raise _
  | some code =>
    exact (steady.fail id (mapWorkerError_ne_timeout mapped) _).bind fun _ => (steady.commitAt _).bind fun _ =>
      maintains_cleanup world _

variable {dispatchFollowUp : Nat → Program Unit} (followUps : ∀ new, base ≤ new → Maintains I (dispatchFollowUp new))

include followUps

theorem Steady.onSuccess (body : Dict) : Maintains I (onSuccess world dispatchFollowUp id body) := by
  refine (maintains_loaded id).bind fun task => .ite (fun _ => ?_) fun _ => steady.onSummarizeSuccess id body
  rw [onTranscribeSuccess_eq]
  intro s holds
  rw [wp_bind]
  refine wp_mono (steady.storeTranscript id body s holds) ?_ fun _ _ held => held
  rintro followUp after ⟨held, fresh⟩
  cases followUp with
  | none => exact held
  | some new => exact followUps new (fresh new rfl) after held

theorem Steady.answerTask (node : Nat) (reply : PostReply) : Maintains I (answerTask world dispatchFollowUp id node reply) := by
  cases reply with
  | raises => exact maintains_raise _
  | accepted body =>
    refine (steady.modifies id (careful_dispatched node _)).bind fun _ => ?_
    refine .ite (fun _ => ?_) fun _ => .ite (fun _ => ?_) fun _ => maintains_pure _
    · exact (steady.onSuccess id followUps body).bind fun _ => maintains_pure _
    · exact (steady.onWorkerTerminalError id body).bind fun _ => maintains_pure _
  | refused kind body =>
    cases kind with
    | http => exact maintains_pure _
    | timeout => exact maintains_pure _
    | payloadTooLarge => exact maintains_pure _
    | queueFull => exact (steady.modifies id (careful_patient _)).bind fun _ => maintains_pure _
    | errorStatus =>
      rw [Dispatcher.answerTask]
      split
      · exact maintains_raise _
      · exact (steady.modifies id careful_marked).bind fun _ => maintains_pure _
      · exact (steady.fail id (mapWorkerError_ne_timeout ‹_›) _).bind fun _ => maintains_pure _

omit followUps in
theorem Steady.offerTask (node : Nat) : Maintains I (offerTask world id node) := by
  have fails {code : ErrorCode} (other : code ≠ .dispatchTimeout) :
      Maintains I (do Dispatcher.fail world id code none; pure false) :=
    (steady.fail id other none).bind fun _ => maintains_pure _
  refine (maintains_loaded id).bind fun task => maintains_read.bind fun hub => .ite (fun _ => ?_) fun _ => ?_
  · exact .ite (fun _ => fails (by decide)) fun _ =>
      (steady.commitAt _).bind fun _ => (maintains_guardSite world _).bind fun _ => maintains_pure _
  · cases task.transcriptId.bind hub.transcripts.find with
    | none => exact fails (by decide)
    | some transcript =>
      refine (maintains_guardSite world _).bind fun _ => ?_
      cases task.skillIds.mapM hub.skills.find with
      | none => exact fails (by decide)
      | some skills =>
        dsimp only
        cases world.python.jsonBytes (payloadForSummarize transcript.payload) with
        | none => exact maintains_raise _
        | some bytes =>
          exact .ite (fun _ => fails (by decide)) fun _ => (steady.callWorker id node).bind fun _ => maintains_pure _

/-- The loop over the nodes, by induction on its rounds. -/
theorem Steady.tryNodes (total rounds : Nat) (remaining : List Node) (tooLarge : Nat) :
    Maintains I (tryNodes world dispatchFollowUp id total rounds remaining tooLarge) := by
  have gives_up (tooLarge : Nat) : Maintains I (tryNodes.giveUp world id total tooLarge) :=
    .ite (fun _ => steady.fail id (by decide) none) fun _ => maintains_pure _
  induction rounds generalizing remaining tooLarge with
  | zero => exact gives_up tooLarge
  | succ rounds ih =>
    refine maintains_query.bind fun stored => ?_
    cases pickNode stored remaining with
    | none => exact gives_up tooLarge
    | some node =>
      refine (steady.offerTask id node.1).bind fun posts => .ite (fun _ => ?_) fun _ => maintains_pure _
      refine (steady.answerTask id followUps node.1 _).bind fun verdict => ?_
      cases verdict with
      | settled => exact maintains_pure _
      | next large => exact ih _ _

variable {nodes : List Node} {id}

omit steady followUps in
theorem maybeTimeout_expires {task : Task} {s : Session Hub Process} (expires : Expires world I nodes id)
    (found : s.working.tasks.find id = some task) (holds : I s) :
    wp (maybeTimeout world id (poolOf task nodes).1) (fun _ => I) (fun _ => I) s := by
  rw [maybeTimeout, wp_bind]
  refine wp_loaded_of found (wp_cases (fun _ => holds) fun impatient => wp_cases (fun late => ?_) fun _ => holds)
  simp only [Bool.or_eq_true, decide_eq_true_eq, bne_iff_ne, not_or, Decidable.not_not, Bool.not_eq_true] at impatient
  have its : expired world (poolOf task nodes).1 task = true := by
    simp only [expired, Bool.and_eq_true, Bool.not_eq_true', beq_iff_eq, decide_eq_true_eq]
    exact ⟨⟨⟨impatient.1.1, impatient.1.2⟩, by omega⟩, late⟩
  rw [wp_bind, Dispatcher.fail, wp_bind, wp_modifyTask]
  exact maintains_guardSite world _ _ (expires task s holds found its)

omit followUps in
theorem Steady.candidatesToTry (expires : Expires world I nodes id) : Maintains I (candidatesToTry world id nodes) := by
  intro s holds
  rw [Dispatcher.candidatesToTry, wp_bind]
  refine wp_loaded (fun task found => wp_cases (fun _ => ?_) fun _ => ?_) holds
  · exact ((steady.modifies id (careful_patient _)).bind fun _ => maintains_pure _) s holds
  · rw [wp_bind]
    refine wp_mono (maybeTimeout_expires expires found holds) (fun timedOut after held => ?_) fun _ _ held => held
    refine wp_cases (fun _ => held) fun _ => wp_cases (fun _ => ?_) fun _ => held
    rw [wp_bind]
    exact steady.modify id _ after (careful_mergeMeta fun row => noCandidateFields row nodes) held

theorem Steady.dispatchQueuedTask (expires : Expires world I nodes id) :
    Maintains I (dispatchQueuedTask world dispatchFollowUp id nodes) :=
  (steady.candidatesToTry expires).bind fun _ => .ite (fun _ => maintains_pure _) fun _ => steady.tryNodes id followUps _ _ _ _

end Handlers

section Turns

variable {world : World} {base : Nat} {I : Session Hub Process → Prop} (steady : Steady world base I)
  (fresh : ∀ new, base ≤ new → ∀ nodes, Expires world I nodes new)

include steady fresh

theorem Steady.dispatchFollowUpTask (new : Nat) (above : base ≤ new) : Maintains I (dispatchFollowUpTask world new) := by
  refine maintains_read.bind fun hub => ?_
  cases hub.tasks.find new with
  | none => exact maintains_pure _
  | some task =>
    exact .ite (fun _ => steady.dispatchQueuedTask (fun _ _ => maintains_pure _) (fresh new above _)) fun _ => maintains_pure _

theorem Steady.applyReport (id : Nat) (body : Dict) {otherwise : Program Unit} (unknown : Maintains I otherwise) :
    Maintains I (applyReport world otherwise id body) := by
  refine .ite (fun _ => steady.onSuccess id (steady.dispatchFollowUpTask fresh) body) fun _ => .ite (fun _ => ?_) fun _ => ?_
  · exact steady.onWorkerTerminalError id body
  · cases (body.get "status").inTexts ["queued", "running"] with
    | none => exact maintains_raise _
    | some goes_on => cases goes_on with
      | false => exact unknown
      | true => exact steady.modifies id (careful_stillActive _)

omit fresh in
theorem Steady.pollWorker (id node : Nat) : Maintains I (pollWorker world id node) := by
  refine (steady.callWorker id node).bind fun _ => ?_
  cases world.getTask id with
  | answer code body => exact maintains_pure _
  | unreachable => exact maintains_pure _
  | raises => exact maintains_raise _

variable {nodes : List Node}

theorem Steady.pollRunningTask (id : Nat) : Maintains I (pollRunningTask world id nodes) := by
  have requeues : Maintains I (modifyTask id unassigned) := steady.modifies id careful_unassigned
  refine (maintains_loaded id).bind fun task => ?_
  cases linkedNode task nodes with
  | none => exact requeues
  | some node =>
    refine (steady.pollWorker id node).bind fun answer => ?_
    cases answer with
    | none => exact maintains_pure _
    | some reply =>
      refine .ite (fun _ => .ite (fun _ => steady.modifies id careful_unlinked) fun _ => requeues) fun _ => ?_
      exact .ite (fun _ => maintains_pure _) fun _ => steady.applyReport fresh id _ (maintains_pure _)

theorem Steady.recoverWorkerTask (id : Nat) : Maintains I (recoverWorkerTask world id nodes) := by
  have requeues : Maintains I (modifyTask id unassigned) := steady.modifies id careful_unassigned
  have unlinks : Maintains I (modifyTask id fun task => { task with workerId := none, status := .queued }) :=
    steady.modifies id (careful_requeue (fun _ => ⟨rfl, rfl, rfl, rfl, rfl, fun marked => marked⟩) fun _ => rfl)
  refine (maintains_loaded id).bind fun task => .ite (fun _ => maintains_pure _) fun _ => .ite (fun _ => unlinks) fun _ => ?_
  cases linkedNode task nodes with
  | none => exact requeues
  | some node =>
    refine (steady.pollWorker id node).bind fun answer => ?_
    cases answer with
    | none => exact requeues
    | some reply =>
      refine .ite (fun _ => .ite (fun _ => steady.modifies id careful_unlinked) fun _ => requeues) fun _ => ?_
      exact .ite (fun _ => requeues) fun _ => steady.applyReport fresh id _ requeues

theorem Steady.pollTurn (id : Nat) : Maintains I (pollTurn world nodes id) :=
  (maintains_loaded id).bind fun _ => .ite (fun _ => steady.pollRunningTask fresh id) fun _ => maintains_pure _

theorem Steady.dispatchTurn {id : Nat} (expires : Expires world I nodes id) : Maintains I (dispatchTurn world nodes id) :=
  (maintains_loaded id).bind fun _ =>
    .ite (fun _ => steady.dispatchQueuedTask (steady.dispatchFollowUpTask fresh) expires) fun _ => maintains_pure _

end Turns

end IdigestHub.Dispatcher
