import IdigestHub.Dispatcher.Ticking

/-! What a worker's reply has to be for the turn of its task to come to an end, in the state in which
the reply is handled. -/

set_option autoImplicit false

namespace IdigestHub

open Foundation Foundation.UnitOfWork

/-- The statements that store what a reply has left. -/
def Site.writes : Site → Bool
  | .store _ | .commit _ | .turn _ => true
  | _ => false

/-- Workers may answer anything; nothing else fails. -/
structure World.Calm (world : World) : Prop where
  sites : ∀ site, site.writes = false → world.raises site = false
  getTask : ∀ id, world.getTask id ≠ .raises
  post : ∀ id node, world.post id node ≠ .raises

section Rules

variable {world : World} {A : Type} {s : Session Hub Process} {R : Fault → Session Hub Process → Prop}

theorem wp_guardSite_eq (site : Site) (Q : Unit → Session Hub Process → Prop) :
    wp (guardSite world site) Q R s = if world.raises site then R .raised s else Q () s := by
  unfold guardSite
  split <;> rfl

theorem wp_commitAt_eq (site : Site) (Q : Unit → Session Hub Process → Prop) :
    wp (commitAt world site) Q R s = if world.raises site then R .raised s else Q () s.commit := by
  unfold commitAt
  split <;> rfl

theorem World.Calm.guardSite (calm : world.Calm) (site : Site) (quiet : site.writes = false) :
    guardSite world site = pure () := by simp [IdigestHub.guardSite, calm.sites site quiet]

theorem World.Calm.commitAt (calm : world.Calm) (site : Site) (quiet : site.writes = false) :
    commitAt world site = Tx.commit := by simp [IdigestHub.commitAt, calm.sites site quiet]

theorem finishes_loaded {id : Nat} {task : Task} {k : Task → Program A} (found : s.working.tasks.find id = some task) :
    Finishes (loaded id >>= k) s ↔ Finishes (k task) s := by
  rw [Finishes, wp_bind, loaded, wp_bind, wp_read, found]
  rfl

theorem finishes_read {k : Hub → Program A} : Finishes (Tx.read >>= k) s ↔ Finishes (k s.working) s := Iff.rfl

theorem finishes_query {k : Hub → Program A} : Finishes (Tx.query >>= k) s ↔ Finishes (k s.flushed) s := Iff.rfl

theorem finishes_commit {k : Unit → Program A} : Finishes (Tx.commit >>= k) s ↔ Finishes (k ()) s.commit := Iff.rfl

theorem finishes_modify {id : Nat} {f : Task → Task} {k : Unit → Program A} :
    Finishes (modifyTask id f >>= k) s ↔ Finishes (k ()) (s.edit (s.working.modifyTask id f)) := Iff.rfl

end Rules

namespace Dispatcher

variable (world : World)

section Readable

def codeReadable (body : Dict) : Bool :=
  let code := ((body.get "error").asDict.getD []).get "code"
  !code.truthy || code.hashable

def chargeable (hub : Hub) (task : Task) (amount : Int) : Bool :=
  (hub.orgs.find task.orgId).all fun org => task.billed ||
    (Billing.chargedBalance world.database task amount org.balance).isSome && (world.database.numeric amount).isSome

def resultStorable (id : Nat) (task : Task) : Bool := task.skipPersist || !world.raises (.store id)

def transcriptReadable (hub : Hub) (id : Nat) (task : Task) (body : Dict) : Bool :=
  (reportedSeconds world body).any fun audioSec =>
    (Billing.transcribeAmount task audioSec).any fun amount =>
      resultStorable world id task && (chargeable world hub task amount && !world.raises (.commit id))

def summaryReadable (hub : Hub) (id : Nat) (task : Task) (body : Dict) : Bool :=
  (Billing.summarizeAmount task (reportedSummary body)).any fun amount =>
    resultStorable world id task && (chargeable world hub task amount && !world.raises (.commit id))

def errorReadable (id : Nat) (body : Dict) : Bool := codeReadable body && !world.raises (.commit id)

/-- A success report; `FollowUp` is about the posts of a task that it chains. -/
def SuccessReadable (FollowUp : Nat → Session Hub Process → Prop) (id : Nat) (task : Task) (body : Dict)
    (s : Session Hub Process) : Prop :=
  if task.type = .transcribe then
    transcriptReadable world s.working id task body = true ∧
      Then (storeTranscript world id body) (fun followUp after => ∀ new, followUp = some new → FollowUp new after) s
  else summaryReadable world s.working id task body = true

def payloadReadable (hub : Hub) (task : Task) : Bool :=
  task.type == .transcribe ||
    match task.transcriptId.bind hub.transcripts.find with
    | none => true
    | some transcript =>
      (task.skillIds.mapM hub.skills.find).isNone ||
        (world.python.jsonBytes (payloadForSummarize transcript.payload)).isSome

def AnswerReadable (FollowUp : Nat → Session Hub Process → Prop) (id node : Nat) (task : Task)
    (s : Session Hub Process) : PostReply → Prop
  | .accepted body =>
    if reportsSuccess body then
      SuccessReadable world FollowUp id task body
        (s.edit (s.working.modifyTask id (dispatched node (reportedTaskId world.python body))))
    else if reportsError body then errorReadable world id body = true
    else True
  | .refused .errorStatus body => codeReadable body = true
  | _ => True

def RoundsReadable (dispatchFollowUp : Nat → Program Unit) (FollowUp : Nat → Session Hub Process → Prop) (id : Nat) :
    Nat → List Node → Session Hub Process → Prop
  | 0, _, _ => True
  | rounds + 1, remaining, s =>
    ∀ task, s.working.tasks.find id = some task → ∀ node, pickNode s.flushed remaining = some node →
      payloadReadable world s.working task = true ∧
        Then (offerTask world id node.1) (fun posts offered => posts = true →
          AnswerReadable world FollowUp id node.1 task offered (world.post id node.1) ∧
            Then (answerTask world dispatchFollowUp id node.1 (world.post id node.1)) (fun verdict after =>
              ∀ large, verdict = .next large → RoundsReadable dispatchFollowUp FollowUp id rounds
                (remaining.filter fun other => other.1 != node.1) after) offered) s

def DispatchReadable (dispatchFollowUp : Nat → Program Unit) (FollowUp : Nat → Session Hub Process → Prop) (id : Nat)
    (nodes : List Node) (s : Session Hub Process) : Prop :=
  Then (candidatesToTry world id nodes) (fun candidates after =>
    RoundsReadable world dispatchFollowUp FollowUp id candidates.length candidates after) s

def FollowUpReadable (id : Nat) (s : Session Hub Process) : Prop :=
  ∀ task, s.working.tasks.find id = some task → task.status = .queued →
    DispatchReadable world (fun _ => pure ()) (fun _ _ => True) id s.working.nodeList s

def ReportReadable (id : Nat) (task : Task) (body : Dict) (s : Session Hub Process) : Prop :=
  if reportsSuccess body then SuccessReadable world (FollowUpReadable world) id task body s
  else if reportsError body then errorReadable world id body = true
  else (body.get "status").hashable = true

def PollReadable (nodes : List Node) (id : Nat) (s : Session Hub Process) : Prop :=
  ∀ task, s.working.tasks.find id = some task → task.status = .running → (linkedNode task nodes).isSome →
    ∀ code body, world.getTask id = .answer code body → code ≠ 404 → code < 500 →
      ReportReadable world id task body s.commit

def TurnReadable (nodes : List Node) (id : Nat) (s : Session Hub Process) : Prop :=
  PollReadable world nodes id s ∧
    Then (pollTurn world nodes id) (fun _ polled =>
      (∀ task, polled.working.tasks.find id = some task → task.status = .queued →
        DispatchReadable world (dispatchFollowUpTask world) (FollowUpReadable world) id nodes polled) ∧
      world.raises (.turn id) = false) s

end Readable

variable {world} {id : Nat} {task : Task} {s : Session Hub Process}

section Handlers

theorem mapWorkerError_isSome (code : Json) : (mapWorkerError code).isSome = (!code.truthy || code.hashable) := by
  unfold mapWorkerError
  cases code.truthy with
  | false => rfl
  | true =>
    cases hashable : code.hashable with
    | false => rfl
    | true => cases code <;> rfl

theorem finishes_fail (calm : world.Calm) (code : ErrorCode) (detail : Option String) :
    Finishes (fail world id code detail) s := by
  rw [fail, calm.guardSite _ rfl]
  trivial

theorem finishes_cleanup (calm : world.Calm) (workerTaskId : Option String) :
    Finishes (finishWorkerCleanup world id workerTaskId) s := by
  rw [finishWorkerCleanup, calm.guardSite _ rfl]
  split <;> trivial

theorem finishes_stamped {A : Type} {rest : Program A} (ends : ∀ s, Finishes rest s) (f : Task → Task) :
    Finishes (do
      modifyTask id f
      commitAt world (.commit id)
      rest) s ↔ world.raises (.commit id) = false := by
  rw [Finishes, wp_bind, wp_modifyTask, wp_bind, wp_commitAt_eq]
  cases world.raises (.commit id) with
  | true => simp
  | false =>
    simp only [Bool.false_eq_true, if_false, iff_true]
    exact ends _

theorem charge_finishes (found : s.working.tasks.find id = some task) (audioSec : Option Decimal) (amount : Int)
    (chars : Option Nat) :
    Finishes (charge world id audioSec amount chars) s ↔ chargeable world s.working task amount = true := by
  rw [charge, finishes_loaded found, Finishes, wp_bind, wp_read, chargeable]
  cases s.working.orgs.find task.orgId with
  | none => simp
  | some org =>
    simp only [Option.all_some]
    cases billed : task.billed with
    | true =>
      rw [Billing.applySuccessCharge_billed billed, Bool.true_or]
      exact iff_of_true trivial rfl
    | false =>
      have both := @Billing.stored_of_charge id audioSec amount chars task org world.database billed
      rw [Bool.false_or, Bool.and_eq_true, Option.isSome_iff_exists, Option.isSome_iff_exists]
      cases computed : Billing.applySuccessCharge id audioSec amount chars task org with
      | none =>
        rw [computed, Option.bind_none] at both
        refine iff_of_false (fun raised => raised) ?_
        rintro ⟨⟨balance, charged⟩, stored, given⟩
        simp [charged, given] at both
      | some charged =>
        rw [computed, Option.bind_some] at both
        dsimp only
        rw [both]
        cases Billing.chargedBalance world.database task amount org.balance with
        | none => simp
        | some balance => cases world.database.numeric amount <;> simp

theorem chargeable_congr {hub after : Hub} {row : Task} (amount : Int) (orgs : after.orgs = hub.orgs)
    (orgId : row.orgId = task.orgId) (billed : row.billed = task.billed) (snap : row.snap = task.snap) :
    chargeable world after row amount = chargeable world hub task amount := by
  simp only [chargeable, Billing.chargedBalance, orgs, orgId, billed, snap]

theorem persistTranscript_finishes (calm : world.Calm) (found : s.working.tasks.find id = some task) (payload : Json) :
    Finishes (persistTranscript world id payload) s ↔ resultStorable world id task = true := by
  rw [persistTranscript, finishes_loaded found, resultStorable, calm.guardSite (.terminalHook id) rfl]
  cases task.skipPersist with
  | true => simpa using finishes_fail calm _ _
  | false =>
    simp only [Bool.false_eq_true, if_false, Finishes, wp_bind, wp_guardSite_eq]
    cases world.raises (.store id) <;> simp

theorem persistSummary_finishes (calm : world.Calm) (found : s.working.tasks.find id = some task) (body : String) :
    Finishes (persistSummary world id body) s ↔ resultStorable world id task = true := by
  rw [persistSummary, finishes_loaded found, resultStorable, calm.guardSite (.terminalHook id) rfl]
  cases task.skipPersist with
  | true => simpa using finishes_fail calm _ _
  | false =>
    simp only [Bool.false_eq_true, if_false, Finishes, wp_bind, wp_guardSite_eq]
    cases world.raises (.store id) <;> simp

theorem Persisted.chargeable {hub after : Hub} {row : Task} (persisted : Persisted id task hub after)
    (found : after.tasks.find id = some row) (amount : Int) : chargeable world after row amount =
      Dispatcher.chargeable world hub task amount := by
  obtain ⟨its, here, _, orgId, _, snap, _, billed, _⟩ := persisted.row
  obtain rfl : its = row := Option.some.inj (here.symm.trans found)
  exact chargeable_congr amount persisted.orgs orgId billed snap

theorem onSummarizeSuccess_finishes (calm : world.Calm) (found : s.working.tasks.find id = some task) (body : Dict) :
    Finishes (onSummarizeSuccess world id body) s ↔ summaryReadable world s.working id task body = true := by
  rw [onSummarizeSuccess, finishes_loaded found, summaryReadable]
  dsimp only
  cases amounts : Billing.summarizeAmount task (reportedSummary body) with
  | none => simp [Finishes]
  | some amount =>
    simp only [Option.any_some, Bool.and_eq_true, Bool.not_eq_true']
    rw [← persistSummary_finishes calm found]
    refine finishes_bind_of (then_of_wp (persistSummary_persisted found _)) ?_
    rintro _ stored ⟨persisted, _⟩
    obtain ⟨row, found, _⟩ := persisted.row
    rw [← persisted.chargeable found amount, ← charge_finishes found none amount (some (reportedSummary body).length)]
    exact finishes_bind_of (then_of_wp (charge_charges found none amount _)) fun _ _ _ =>
      finishes_stamped (fun _ => finishes_cleanup calm _) _

theorem finishes_fillDuration (audioSec : Decimal) : Finishes (fillDuration task audioSec) s := by
  unfold fillDuration
  split
  · split <;> trivial
  · trivial

theorem finishes_enqueue (calm : world.Calm) (found : s.working.tasks.find id = some task) :
    Finishes (enqueueSummarizeAfterTranscribe world id) s := by
  rw [enqueueSummarizeAfterTranscribe, finishes_loaded found, calm.guardSite _ rfl]
  split <;> trivial

theorem storeTranscript_finishes (calm : world.Calm) (found : s.working.tasks.find id = some task)
    (bounded : Bounded s.working) (body : Dict) :
    Finishes (storeTranscript world id body) s ↔ transcriptReadable world s.working id task body = true := by
  have below : id < s.working.nextId := bounded id task found
  rw [storeTranscript, finishes_loaded found, transcriptReadable]
  dsimp only
  cases reported : reportedSeconds world body with
  | none => simp [Finishes]
  | some audioSec =>
    simp only [Option.any_some]
    refine (finishes_bind_of (then_of_wp (fillDuration_aside audioSec)) (P := ((Billing.transcribeAmount task audioSec).any
      fun amount => resultStorable world id task && (chargeable world s.working task amount && !world.raises (.commit id))) =
        true) ?_).trans
      (and_iff_right (finishes_fillDuration audioSec))
    rintro _ filled ⟨aside, _⟩
    have found : filled.working.tasks.find id = some task := by rw [aside.tasks, found]
    have bounded : Bounded filled.working := by
      intro other row here
      rw [aside.tasks] at here
      exact aside.nextId ▸ bounded other row here
    cases amounts : Billing.transcribeAmount task audioSec with
    | none => simp [Finishes]
    | some amount =>
      simp only [Option.any_some, Bool.and_eq_true, Bool.not_eq_true']
      rw [← chargeable_congr amount aside.orgs rfl rfl rfl, ← persistTranscript_finishes calm found]
      refine finishes_bind_of (then_of_wp (persistTranscript_persisted found _)) ?_
      rintro _ stored ⟨persisted, _⟩
      have bounded := persisted.bounded bounded (bounded id task found)
      obtain ⟨row, found, _⟩ := persisted.row
      rw [← persisted.chargeable found amount, ← charge_finishes found (some audioSec) amount none]
      refine finishes_bind_of (then_of_wp (charge_charges found (some audioSec) amount none)) ?_
      rintro _ charged ⟨charging, _⟩
      refine (finishes_bind_of (then_of_wp (enqueue_chains charging.row (charging.bounded found bounded)))
        fun followUp _ _ => finishes_stamped (fun s => ?_) _).trans (and_iff_right (finishes_enqueue calm charging.row))
      exact finishes_bind.mpr ⟨finishes_cleanup calm _, (then_of_wp (finishes_cleanup calm _)).mono fun _ _ _ => trivial⟩

theorem onWorkerTerminalError_finishes (calm : world.Calm) (found : s.working.tasks.find id = some task) (body : Dict) :
    Finishes (onWorkerTerminalError world id body) s ↔ errorReadable world id body = true := by
  rw [onWorkerTerminalError, finishes_loaded found, errorReadable, codeReadable, ← mapWorkerError_isSome]
  cases mapWorkerError (((body.get "error").asDict.getD []).get "code") with
  | none => simp [Finishes]
  | some code =>
    simp only [Option.isSome_some, Bool.true_and, Bool.not_eq_true', fail, bind_assoc, calm.guardSite (.terminalHook id) rfl,
      pure_bind]
    exact finishes_stamped (fun _ => finishes_cleanup calm _) _

/-- The dispatch of a new task comes to an end exactly as `FollowUp` says. -/
def FollowUpExact (hub : Hub) (next : Session Hub Process → Prop) (dispatchFollowUp : Nat → Program Unit)
    (FollowUp : Nat → Session Hub Process → Prop) : Prop :=
  ∀ new after, next after → IsChained hub after.working new → (Finishes (dispatchFollowUp new) after ↔ FollowUp new after)

theorem onSuccess_finishes {next : Session Hub Process → Prop} {dispatchFollowUp : Nat → Program Unit}
    {FollowUp : Nat → Session Hub Process → Prop} {body : Dict} (calm : world.Calm)
    (found : s.working.tasks.find id = some task) (bounded : Bounded s.working)
    (commits : ∀ after memory, Settlement world id body task s.working after → next (.start after memory))
    (exactly : FollowUpExact s.working next dispatchFollowUp FollowUp) :
    Finishes (onSuccess world dispatchFollowUp id body) s ↔ SuccessReadable world FollowUp id task body s := by
  rw [onSuccess, finishes_loaded found, SuccessReadable]
  split
  · rename_i type
    rw [onTranscribeSuccess_eq, finishes_bind, storeTranscript_finishes calm found bounded]
    have settles := storeTranscript_settles found type bounded
      (show (fun _ : Hub => True) s.committed from trivial) fun after memory settlement =>
        ⟨commits after memory settlement, trivial⟩
    refine and_congr_right fun _ => Then.congr (then_of_wp settles) ?_
    rintro followUp after ⟨reached, chained⟩
    cases followUp with
    | none => simp [dispatchChained, Finishes]
    | some new =>
      rw [dispatchChained, exactly new after reached (chained new rfl)]
      simp
  · exact onSummarizeSuccess_finishes calm found body

end Handlers

section Dispatch

variable {scope : Nat → Prop} {origin : Hub} [inside : InScope scope id]

omit inside in
theorem finishes_then_pure {A B : Type} {program : Program A} (b : B) :
    Finishes (do let _ ← program; pure b) s ↔ Finishes program s := by
  have ends : Then program (fun _ after => Finishes (pure b : Program B) after) s := by
    simp only [Then, wp]
    split <;> trivial
  rw [finishes_bind, and_iff_left ends]

omit inside in
theorem candidatesToTry_finishes (calm : world.Calm) (found : s.working.tasks.find id = some task) (nodes : List Node) :
    Finishes (candidatesToTry world id nodes) s := by
  have times_out (pool : PoolState) : Finishes (maybeTimeout world id pool) s := by
    rw [maybeTimeout, finishes_loaded found]
    split
    · trivial
    · dsimp only
      split
      · exact (finishes_then_pure true).mpr (finishes_fail calm _ _)
      · trivial
  rw [candidatesToTry, finishes_loaded found]
  cases poolOf task nodes with
  | mk pool candidates =>
    dsimp only
    split
    · trivial
    · refine finishes_bind.mpr ⟨times_out pool, (then_of_wp (times_out pool)).mono fun timedOut after _ => ?_⟩
      split
      · trivial
      · split <;> trivial

omit inside in
theorem offerTask_finishes (calm : world.Calm) (found : s.working.tasks.find id = some task) (node : Nat) :
    Finishes (offerTask world id node) s ↔ payloadReadable world s.working task = true := by
  have fails (code : ErrorCode) : Finishes (do fail world id code none; pure false) s :=
    (finishes_then_pure false).mpr (finishes_fail calm code none)
  have calls : callWorker world id node = Tx.commit := by
    rw [callWorker, calm.guardSite _ rfl, calm.commitAt _ rfl]
    rfl
  rw [offerTask, finishes_loaded found, payloadReadable, calm.guardSite _ rfl, calm.guardSite _ rfl, calm.commitAt _ rfl, calls]
  rw [finishes_read]
  by_cases type : task.type = .transcribe
  · rw [if_pos type]
    refine iff_of_true ?_ (by simp [type])
    split
    · exact fails _
    · trivial
  · have other : (task.type == .transcribe) = false := by simpa using type
    rw [other, Bool.false_or, if_neg type]
    cases task.transcriptId.bind s.working.transcripts.find with
    | none => exact iff_of_true (fails _) rfl
    | some transcript =>
      simp only [pure_bind]
      cases task.skillIds.mapM s.working.skills.find with
      | none => exact iff_of_true (fails _) rfl
      | some skills =>
        simp only [Option.isNone_some, Bool.false_or]
        cases world.python.jsonBytes (payloadForSummarize transcript.payload) with
        | none => simp [Finishes]
        | some bytes =>
          refine iff_of_true ?_ rfl
          dsimp only
          split
          · exact fails _
          · trivial

variable {dispatchFollowUp : Nat → Program Unit} {FollowUp : Nat → Session Hub Process → Prop}

theorem answerTask_finishes (calm : world.Calm) (follows : Follows (Move world scope) origin s) (bounded : Bounded origin)
    (found : s.working.tasks.find id = some task) (onWorker : task.onWorker = true) (queued : task.status = .queued)
    (node : Nat) (exactly : FollowUpExact origin (Follows (Move world scope) origin) dispatchFollowUp FollowUp) :
    Finishes (answerTask world dispatchFollowUp id node (world.post id node)) s ↔
      AnswerReadable world FollowUp id node task s (world.post id node) := by
  have active := active_of_queued queued
  cases reply : world.post id node with
  | raises => exact absurd reply (calm.post id node)
  | refused kind body =>
    cases kind with
    | http => exact Iff.rfl
    | timeout => exact Iff.rfl
    | payloadTooLarge => exact Iff.rfl
    | queueFull => exact Iff.rfl
    | errorStatus =>
      rw [answerTask, AnswerReadable, codeReadable, ← mapWorkerError_isSome]
      cases mapWorkerError (((body.get "error").asDict.getD []).get "code") with
      | none => simp [Finishes]
      | some code =>
        refine iff_of_true ?_ rfl
        by_cases unavailable : code = .engineUnavailable
        · subst unavailable
          trivial
        · have fails : Finishes (do fail world id code (workerErrorDetail body); pure Verdict.settled) s :=
            (finishes_then_pure _).mpr (finishes_fail calm code _)
          simpa [unavailable] using fails
  | accepted body =>
    -- An accepted task is written as dispatched before its answer is looked at.
    have moved : (s.working.modifyTask id (dispatched node (reportedTaskId world.python body))).tasks.find id =
        some (dispatched node (reportedTaskId world.python body) task) := by simp [found]
    rw [answerTask, AnswerReadable]
    dsimp only
    rw [finishes_modify]
    split
    · rename_i success
      rw [finishes_then_pure]
      show _ ↔ SuccessReadable world FollowUp id (dispatched node (reportedTaskId world.python body) task) body _
      have commits (after : Hub) (memory : Process) (settlement : Settlement world id body
          (dispatched node (reportedTaskId world.python body) task)
          (s.working.modifyTask id (dispatched node (reportedTaskId world.python body))) after) :
          Follows (Move world scope) origin (.start after memory) :=
        follows_at (follows.whole.tail (.settled id task body inside.mem found onWorker active (.inr ⟨node, reply⟩)
          success settlement.of_dispatched))
      refine onSuccess_finishes calm moved (Frame.bounded (.modify _) found (Path.bounded follows.whole bounded)) commits ?_
      rintro new after reached ⟨fresh, chained⟩
      exact exactly new after reached ⟨(Path.nextId follows.whole).trans fresh, chained⟩
    · split
      · rw [finishes_then_pure]
        exact onWorkerTerminalError_finishes calm moved body
      · exact Iff.rfl

theorem tryNodes_finishes (calm : world.Calm) (bounded : Bounded origin)
    (followUp : FollowUpSafe world scope origin dispatchFollowUp)
    (exactly : FollowUpExact origin (Follows (Move world scope) origin) dispatchFollowUp FollowUp)
    (total rounds : Nat) (remaining : List Node) (tooLarge : Nat) (follows : Follows (Move world scope) origin s)
    (found : s.working.tasks.find id = some task) (onWorker : task.onWorker = true)
    (queued : task.status = .queued) (exist : ∀ node ∈ remaining, (origin.nodes.find node.1).isSome) :
    Finishes (tryNodes world dispatchFollowUp id total rounds remaining tooLarge) s ↔
      RoundsReadable world dispatchFollowUp FollowUp id rounds remaining s := by
  have gives_up {s : Session Hub Process} (tooLarge : Nat) : Finishes (tryNodes.giveUp world id total tooLarge) s := by
    rw [tryNodes.giveUp]
    split
    · exact finishes_fail calm _ _
    · trivial
  induction rounds generalizing s task remaining tooLarge with
  | zero => exact iff_of_true (gives_up tooLarge) trivial
  | succ rounds ih =>
    rw [tryNodes, RoundsReadable]
    cases picked : pickNode s.flushed remaining with
    | none =>
      refine iff_of_true ?_ fun _ _ _ none_picked => by contradiction
      rw [finishes_query, picked]
      exact gives_up tooLarge
    | some node =>
      have exists_node : (s.commit.working.nodes.find node.1).isSome := by
        rw [Session.commit_working, Path.nodes follows.whole]
        exact exist node (pickNode_mem picked)
      simp only [found, Option.some.injEq, forall_eq']
      rw [finishes_query, picked]
      dsimp only
      rw [finishes_bind, offerTask_finishes calm found]
      refine and_congr_right fun _ => Then.congr (then_of_wp (offerTask_keeps follows found onWorker queued node.1)) ?_
      rintro posts offered ⟨reached, unchanged⟩
      cases posts with
      | false => exact iff_of_true trivial fun posted => by contradiction
      | true =>
        obtain rfl := unchanged rfl
        simp only [if_true, forall_const]
        rw [finishes_bind, answerTask_finishes calm reached bounded found onWorker queued node.1 exactly]
        refine and_congr_right fun _ => Then.congr
          (then_of_wp (answerTask_keeps reached bounded found onWorker queued exists_node followUp)) ?_
        rintro verdict after ⟨reached, again⟩
        cases verdict with
        | settled => exact iff_of_true trivial fun _ next => by contradiction
        | next large =>
          obtain ⟨row, found, onWorker, queued⟩ := again large rfl
          have rest := ih (remaining.filter fun other => other.1 != node.1) (if large then tooLarge + 1 else tooLarge) reached
            found onWorker queued fun other member => exist other (List.mem_of_mem_filter member)
          exact rest.trans ⟨fun reads _ _ => reads, fun reads => reads large rfl⟩

theorem dispatchQueuedTask_finishes (calm : world.Calm) (bounded : Bounded origin)
    (followUp : FollowUpSafe world scope origin dispatchFollowUp)
    (exactly : FollowUpExact origin (Follows (Move world scope) origin) dispatchFollowUp FollowUp)
    (follows : Follows (Move world scope) origin s) (found : s.working.tasks.find id = some task)
    (onWorker : task.onWorker = true) (queued : task.status = .queued) (nodes : List Node)
    (exist : ∀ node ∈ nodes, (origin.nodes.find node.1).isSome) :
    Finishes (dispatchQueuedTask world dispatchFollowUp id nodes) s ↔
      DispatchReadable world dispatchFollowUp FollowUp id nodes s := by
  rw [dispatchQueuedTask, finishes_bind, and_iff_right (candidatesToTry_finishes calm found nodes), DispatchReadable]
  refine Then.congr (then_of_wp (candidatesToTry_keeps follows found onWorker queued nodes)) ?_
  rintro candidates after ⟨reached, subset, unchanged⟩
  split
  · rename_i none_left
    subst none_left
    exact Iff.rfl
  · rename_i some_candidate
    obtain rfl := unchanged some_candidate
    exact tryNodes_finishes calm bounded followUp exactly _ _ _ _ follows found onWorker queued
      fun node member => exist node (subset member)

omit inside in
theorem dispatchFollowUpTask_finishes (calm : world.Calm) (bounded : Bounded origin) (added : AddedInScope scope origin) :
    FollowUpExact origin (Follows (Move world scope) origin) (dispatchFollowUpTask world) (FollowUpReadable world) := by
  rintro new after follows ⟨fresh, row, found, onWorker⟩
  have inside : InScope scope new := ⟨added new fresh⟩
  rw [dispatchFollowUpTask, FollowUpReadable, finishes_read]
  simp only [found, Option.some.injEq, forall_eq']
  split
  · rename_i queued
    have chains_nothing : FollowUpSafe world scope origin fun _ => pure () := fun _ _ _ _ reached _ _ => reached
    have nothing : FollowUpExact origin (Follows (Move world scope) origin) (fun _ => pure ()) fun _ _ => True :=
      fun _ _ _ _ => Iff.rfl
    rw [dispatchQueuedTask_finishes calm bounded chains_nothing nothing follows found onWorker queued]
    · simp [queued]
    · intro node member
      rw [← Path.nodes follows.whole]
      exact mem_nodeList member
  · rename_i settled
    exact iff_of_true trivial fun queued => absurd queued settled

end Dispatch

section Turn

variable {scope : Nat → Prop} {origin : Hub} [inside : InScope scope id] {nodes : List Node}

theorem applyReport_finishes {body : Dict} (calm : world.Calm) (follows : Follows (Move world scope) origin s)
    (bounded : Bounded origin) (added : AddedInScope scope origin) (found : s.working.tasks.find id = some task)
    (onWorker : task.onWorker = true) (running : task.status = .running) (reports : Reports world id body) :
    Finishes (applyReport world (pure ()) id body) s ↔ ReportReadable world id task body s := by
  rw [applyReport, ReportReadable]
  split
  · rename_i success
    have commits (after : Hub) (memory : Process) (settlement : Settlement world id body task s.working after) :
        Follows (Move world scope) origin (.start after memory) :=
      follows_at (follows.whole.tail (.settled id task body inside.mem found onWorker (active_of_running running) reports
        success settlement))
    refine onSuccess_finishes calm found (Path.bounded follows.whole bounded) commits ?_
    rintro new after reached ⟨fresh, chained⟩
    exact dispatchFollowUpTask_finishes calm bounded added new after reached
      ⟨(Path.nextId follows.whole).trans fresh, chained⟩
  · split
    · exact onWorkerTerminalError_finishes calm found body
    · rw [Json.inTexts]
      cases (body.get "status").hashable with
      | false => simp [Finishes]
      | true =>
        refine iff_of_true ?_ rfl
        simp only [if_true]
        split
        · contradiction
        · trivial
        · trivial

theorem pollRunningTask_finishes (calm : world.Calm) (follows : Follows (Move world scope) origin s)
    (bounded : Bounded origin) (added : AddedInScope scope origin) (found : s.working.tasks.find id = some task)
    (onWorker : task.onWorker = true) (running : task.status = .running) :
    Finishes (pollRunningTask world id nodes) s ↔ ((linkedNode task nodes).isSome →
      ∀ code body, world.getTask id = .answer code body → code ≠ 404 → code < 500 →
        ReportReadable world id task body s.commit) := by
  rw [pollRunningTask, finishes_loaded found]
  cases linkedNode task nodes with
  | none => exact iff_of_true trivial fun linked => by contradiction
  | some node =>
    have calls : callWorker world id node = Tx.commit := by
      rw [callWorker, calm.guardSite _ rfl, calm.commitAt _ rfl]
      rfl
    simp only [Option.isSome_some, forall_const, pollWorker, calls, bind_assoc]
    rw [finishes_commit]
    cases reply : world.getTask id with
    | raises => exact absurd reply (calm.getTask id)
    | unreachable => exact iff_of_true trivial fun _ _ answered => by contradiction
    | answer code body =>
      have only : (∀ its_code its, Reply.answer code body = .answer its_code its → its_code ≠ 404 → its_code < 500 →
          ReportReadable world id task its s.commit) ↔
            (code ≠ 404 → code < 500 → ReportReadable world id task body s.commit) := by
        constructor
        · exact fun reads => reads code body rfl
        · rintro reads _ _ ⟨⟩
          exact reads
      rw [only, pure_bind]
      dsimp only
      by_cases missing : code = 404
      · rw [if_pos missing]
        refine iff_of_true ?_ fun known => absurd missing known
        split <;> trivial
      · rw [if_neg missing]
        by_cases broken : 500 ≤ code
        · rw [if_pos broken]
          exact iff_of_true trivial fun _ sound => absurd broken (by omega)
        · rw [if_neg broken, applyReport_finishes calm follows.commit bounded added found onWorker running
            (.inl ⟨code, reply⟩)]
          simp [missing, show code < 500 by omega]

theorem pollTurn_finishes (calm : world.Calm) (follows : Follows (Move world scope) origin s) (bounded : Bounded origin)
    (added : AddedInScope scope origin) (found : s.working.tasks.find id = some task) (onWorker : task.onWorker = true) :
    Finishes (pollTurn world nodes id) s ↔ PollReadable world nodes id s := by
  rw [pollTurn, finishes_loaded found, PollReadable]
  simp only [found, Option.some.injEq, forall_eq']
  split
  · rename_i polls
    obtain ⟨running, linked⟩ : task.status = .running ∧ task.linked = true := by simpa using polls
    rw [pollRunningTask_finishes calm follows bounded added found onWorker running]
    simp [running]
  · rename_i skipped
    refine iff_of_true trivial fun running linked => ?_
    have unlinked : task.linked = false := by simpa [running] using skipped
    simp [linkedNode, unlinked] at linked

theorem dispatchTurn_finishes (calm : world.Calm) (follows : Follows (Move world scope) origin s) (bounded : Bounded origin)
    (added : AddedInScope scope origin) (found : s.working.tasks.find id = some task) (onWorker : task.onWorker = true)
    (exist : ∀ node ∈ nodes, (origin.nodes.find node.1).isSome) :
    Finishes (dispatchTurn world nodes id) s ↔ ∀ task, s.working.tasks.find id = some task → task.status = .queued →
      DispatchReadable world (dispatchFollowUpTask world) (FollowUpReadable world) id nodes s := by
  rw [dispatchTurn, finishes_loaded found]
  simp only [found, Option.some.injEq, forall_eq']
  split
  · rename_i queued
    rw [dispatchQueuedTask_finishes calm bounded (dispatchFollowUpTask_safe bounded added)
      (dispatchFollowUpTask_finishes calm bounded added) follows found onWorker queued nodes exist]
    simp [queued]
  · rename_i settled
    exact iff_of_true trivial fun queued => absurd queued settled

/-- A turn comes to an end exactly when its replies can be read. -/
theorem tickTask_finishes {row : Task} (calm : world.Calm) (follows : Follows (Move world scope) origin s)
    (bounded : Bounded origin) (added : AddedInScope scope origin) (before : origin.tasks.find id = some row)
    (onWorker : row.onWorker = true) (exist : ∀ node ∈ nodes, (origin.nodes.find node.1).isSome) :
    Finishes (tickTask world nodes id) s ↔ TurnReadable world nodes id s := by
  have here {s : Session Hub Process} (follows : Follows (Move world scope) origin s) :
      ∃ task, s.working.tasks.find id = some task ∧ task.onWorker = true := by
    obtain ⟨task, found, type⟩ := Path.type follows.whole bounded before
    exact ⟨task, found, by rw [Task.onWorker, type]; exact onWorker⟩
  have worker : Finishes (do
      pollTurn world nodes id
      dispatchTurn world nodes id
      commitAt world (.turn id)) s ↔ TurnReadable world nodes id s := by
    obtain ⟨task, found, isWorker⟩ := here follows
    rw [finishes_bind, pollTurn_finishes calm follows bounded added found isWorker, TurnReadable]
    refine and_congr_right fun _ => Then.congr (then_of_wp (pollTurn_safe follows bounded added before onWorker)) ?_
    intro _ polled reached
    obtain ⟨task, found, isWorker⟩ := here reached
    rw [← dispatchTurn_finishes calm reached bounded added found isWorker exist]
    refine finishes_bind_of (then_of_wp (dispatchTurn_safe reached bounded added before onWorker exist)) fun _ after _ => ?_
    rw [Finishes, wp_commitAt_eq]
    simp
  obtain ⟨task, found, isWorker⟩ := here follows
  rw [tickTask, finishes_loaded found]
  cases type : task.type with
  | importUrl => simp [Task.onWorker, type] at isWorker
  | capture => simp [Task.onWorker, type] at isWorker
  | transcribe => exact worker
  | summarize => exact worker

end Turn

section Tick

/-- `tick_once` up to its loop: the rows of its query. -/
def tickBegins (world : World) (taskId : Option Nat) (refreshHealth : Bool) : Program Hub := do
  commitAt world (.tick 0)
  let hub ← Tx.read
  if refreshHealth then refreshNodesHealth world (healthNodes hub taskId) false else pure ()
  commitAt world (.tick 2)
  Tx.query

theorem tickOnce_eq (taskId : Option Nat) (refreshHealth : Bool) :
    tickOnce world taskId refreshHealth = (do
      let stored ← tickBegins world taskId refreshHealth
      Tx.forEach (stored.tasks.select (inTick taskId)) (tickTask world stored.nodeList)) := by
  simp only [tickOnce, tickBegins, bind_assoc]
  congr
  funext _
  congr
  funext hub
  split <;> simp only [bind_assoc]

def ProbesReadable (world : World) (taskId : Option Nat) (refreshHealth : Bool) (hub : Hub) : Prop :=
  refreshHealth = true → ∀ id node, hub.nodes.find id = some node → (healthNodes hub taskId).contains id = true →
    stale world false node = true → unwritable world id node = false

def TickReadable (world : World) (taskId : Option Nat) (refreshHealth : Bool) (s : Session Hub Process) : Prop :=
  ProbesReadable world taskId refreshHealth s.working ∧ Then (tickBegins world taskId refreshHealth) (fun stored =>
    Throughout (tickTask world stored.nodeList) (TurnReadable world stored.nodeList)
      (stored.tasks.select (inTick taskId))) s

structure Begun (hub stored : Hub) (s : Session Hub Process) : Prop where
  committed : s.committed = stored
  working : s.working = stored
  tasks : stored.tasks = hub.tasks
  nextId : stored.nextId = hub.nextId

theorem tickBegins_begins (calm : world.Calm) (taskId : Option Nat) (refreshHealth : Bool) :
    wp (tickBegins world taskId refreshHealth)
      (fun stored after => Begun s.working stored after ∧ ProbesReadable world taskId refreshHealth s.working)
      (fun _ _ => ¬ ProbesReadable world taskId refreshHealth s.working) s := by
  have queries {s : Session Hub Process} {hub : Hub} {P : Prop} (tasks : s.working.tasks = hub.tasks)
      (nextId : s.working.nextId = hub.nextId) (probes : P) :
      wp (do Tx.commit; Tx.query : Program Hub) (fun stored after => Begun hub stored after ∧ P) (fun _ _ => ¬ P) s :=
    ⟨⟨rfl, rfl, tasks, nextId⟩, probes⟩
  rw [tickBegins, calm.commitAt _ rfl, calm.commitAt _ rfl, wp_bind, wp_commit, wp_bind, wp_read]
  dsimp only
  cases refreshHealth with
  | false => exact queries rfl rfl nofun
  | true =>
    rw [if_pos rfl, wp_bind, refreshNodesHealth, wp_bind, wp_read, calm.commitAt _ rfl]
    dsimp only
    rw [wp_ite]
    split
    · rename_i none_due
      refine queries rfl rfl fun _ id node found listed old => ?_
      have due : ((healthNodes s.working taskId).contains id && stale world false node) = false :=
        (Table.count_eq_zero ..).mp none_due id node found
      rw [listed, old] at due
      contradiction
    · rw [wp_bind, wp_commit, wp_bind, wp_update, wp_ite]
      split
      · rename_i written
        refine queries rfl rfl fun _ id node found listed old => ?_
        have kept : ((healthNodes s.working taskId).contains id && stale world false node && unwritable world id node) = false :=
          (Table.count_eq_zero ..).mp written id node found
        rwa [listed, old, Bool.and_self, Bool.true_and] at kept
      · rename_i refused
        intro readable
        refine refused ((Table.count_eq_zero ..).mpr fun id node found => ?_)
        show ((healthNodes s.working taskId).contains id && stale world false node && unwritable world id node) = false
        cases listed : (healthNodes s.working taskId).contains id with
        | false => rfl
        | true =>
          cases old : stale world false node with
          | false => rfl
          | true => exact readable rfl id node found listed old

theorem tickBegins_finishes (calm : world.Calm) (taskId : Option Nat) (refreshHealth : Bool) :
    Finishes (tickBegins world taskId refreshHealth) s ↔ ProbesReadable world taskId refreshHealth s.working :=
  finishes_iff (wp_mono (tickBegins_begins calm taskId refreshHealth) (fun _ _ held => held.2) fun _ _ raised => raised)

/-- A tick over transcribe and summarize tasks gets through its list exactly when the replies that it
reads are readable. -/
theorem tickOnce_finishes (calm : world.Calm) (bounded : Bounded s.working) (taskId : Option Nat) (refreshHealth : Bool)
    (workers : ∀ id task, s.working.tasks.find id = some task → inTick taskId id task = true → task.onWorker = true) :
    Finishes (tickOnce world taskId refreshHealth) s ↔ TickReadable world taskId refreshHealth s := by
  have begins := @tickBegins_begins world s calm taskId refreshHealth
  rw [tickOnce_eq, finishes_bind, tickBegins_finishes calm, TickReadable]
  refine and_congr_right fun _ => Then.congr (then_of_wp begins) fun stored begun started => ?_
  obtain ⟨⟨committed, working, tasks, nextId⟩, _⟩ := started
  have bounded : Bounded stored := by
    intro id task found
    rw [tasks] at found
    exact nextId ▸ bounded id task found
  have entry : Follows (Move world anywhere) stored begun :=
    ⟨committed ▸ .refl, committed ▸ working ▸ .refl⟩
  refine finishes_forEach entry fun id member s' follows => ?_
  obtain ⟨row, before, listed⟩ := (Table.mem_select ..).mp member
  have exist : ∀ node ∈ stored.nodeList, (stored.nodes.find node.1).isSome := fun _ => mem_nodeList
  have onWorker := workers id row (tasks ▸ before) listed
  exact ⟨tickTask_finishes calm follows bounded (fun _ _ => trivial) before onWorker exist,
    then_of_wp (tickTask_safe follows bounded (fun _ _ => trivial) before exist)⟩

end Tick

end Dispatcher

end IdigestHub
