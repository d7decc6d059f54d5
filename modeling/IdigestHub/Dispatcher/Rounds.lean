import IdigestHub.Dispatcher.Readiness
import IdigestHub.Foundation.Choice
import IdigestHub.Foundation.Counts
import Mathlib.Algebra.Order.Field.Rat
import Mathlib.Data.Int.ConditionallyCompleteOrder
import Mathlib.Data.Prod.Lex

/-! The loop over the candidates: in which order it posts a task, and what the answers leave. -/

set_option autoImplicit false

namespace IdigestHub.Dispatcher

open Foundation Foundation.UnitOfWork Foundation.Choice

section Runs

variable {D M E A B : Type} {t : Tx D M E A} {k : A → Tx D M E B} {s after : Session D M}

theorem run_bind {a : A} (ran : t.run s = (.ok a, after)) : (t >>= k).run s = (k a).run after := by
  show Tx.bind t k s = _
  unfold Tx.bind
  rw [show t s = (.ok a, after) from ran]
  rfl

theorem run_bind_error {e : E} (ran : t.run s = (.error e, after)) : (t >>= k).run s = (.error e, after) := by
  show Tx.bind t k s = _
  unfold Tx.bind
  rw [show t s = (.error e, after) from ran]

theorem run_only {a : A} (only : wp t (fun b _ => b = a) (fun _ _ => True) s) :
    (∃ e last, t.run s = (.error e, last)) ∨ ∃ last, t.run s = (.ok a, last) := by
  rw [wp] at only
  cases ran : t s with
  | mk outcome last =>
    rw [ran] at only
    cases outcome with
    | error e => exact .inl ⟨e, last, ran⟩
    | ok b => exact .inr ⟨last, only ▸ ran⟩

/-- What would follow another value does not matter. -/
theorem run_bind_only {a : A} {k' : A → Tx D M E B} (only : wp t (fun b _ => b = a) (fun _ _ => True) s) (same : k a = k' a) :
    (t >>= k).run s = (t >>= k').run s := by
  rcases run_only only with ⟨e, last, ran⟩ | ⟨last, ran⟩
  · rw [run_bind_error ran, run_bind_error ran]
  · rw [run_bind ran, run_bind ran, same]

theorem run_of_wp {a : A} (ends : wp t (fun b last => b = a ∧ last = after) (fun _ _ => False) s) :
    t.run s = (.ok a, after) := by
  rw [wp] at ends
  rw [Tx.run]
  cases same : t s with
  | mk outcome last =>
    rw [same] at ends
    cases outcome with
    | ok b => rw [ends.1, ends.2]
    | error e => exact ends.elim

theorem wp_of_run {a : A} {Q : A → Session D M → Prop} {R : E → Session D M → Prop} (ran : t.run s = (.ok a, after)) :
    wp t Q R s = Q a after := by
  rw [wp, show t s = (.ok a, after) from ran]

theorem wp_congr {t' : Tx D M E A} {Q : A → Session D M → Prop} {R : E → Session D M → Prop} (same : t.run s = t'.run s) :
    wp t Q R s = wp t' Q R s := by
  rw [wp, wp, show t s = t' s from same]

end Runs

section Scores

/-- `(in_flight / weight, -weight)`. -/
def score (stored : Hub) (node : Node) : ℚ ×ₗ ℤ :=
  toLex ((inFlight stored node.1 : ℚ) / weightOf node, -(weightOf node : ℤ))

variable {stored other : Hub} {a b : Node}

theorem weightOf_pos (node : Node) : 0 < weightOf node := by
  rw [weightOf]
  omega

theorem scoreBelow_iff : scoreBelow stored a b = true ↔ score stored a < score stored b := by
  have a_pos : (0 : ℚ) < weightOf a := Nat.cast_pos.mpr (weightOf_pos a)
  have b_pos : (0 : ℚ) < weightOf b := Nat.cast_pos.mpr (weightOf_pos b)
  have less : (inFlight stored a.1 : ℚ) / weightOf a < inFlight stored b.1 / weightOf b ↔
      inFlight stored a.1 * weightOf b < inFlight stored b.1 * weightOf a := by
    rw [div_lt_div_iff₀ a_pos b_pos]
    exact_mod_cast Iff.rfl
  have same : (inFlight stored a.1 : ℚ) / weightOf a = inFlight stored b.1 / weightOf b ↔
      inFlight stored a.1 * weightOf b = inFlight stored b.1 * weightOf a := by
    rw [div_eq_div_iff a_pos.ne' b_pos.ne']
    exact_mod_cast Iff.rfl
  have weights : -(weightOf a : ℤ) < -(weightOf b : ℤ) ↔ weightOf b < weightOf a := by omega
  rw [score, score, Prod.Lex.toLex_lt_toLex, less, same, weights, scoreBelow]
  simp

theorem pickNode_eq (stored : Hub) (nodes : List Node) : pickNode stored nodes = nodes.argmin (score stored) := by
  cases nodes with
  | nil => rfl
  | cons first rest =>
    rw [pickNode]
    show _ = rest.foldl (List.argAux _) (some first)
    -- both folds keep the first of the nodes with the least score
    induction rest generalizing first with
    | nil => rfl
    | cons next rest ih =>
      rw [List.foldl_cons, List.foldl_cons]
      by_cases below : scoreBelow stored next first = true
      · have chosen : List.argAux (fun b c => score stored b < score stored c) (some first) next = some next :=
          if_pos (scoreBelow_iff.mp below)
        rw [if_pos below, chosen, ih]
      · have chosen : List.argAux (fun b c => score stored b < score stored c) (some first) next = some first :=
          if_neg fun less => below (scoreBelow_iff.mpr less)
        rw [if_neg below, chosen, ih]

def SameSlots (stored other : Hub) : Prop := ∀ nodeId, inFlight other nodeId = inFlight stored nodeId

theorem SameSlots.refl (stored : Hub) : SameSlots stored stored := fun _ => rfl

theorem SameSlots.score (slots : SameSlots stored other) : score other = score stored := by
  funext node
  rw [Dispatcher.score, Dispatcher.score, slots]

/-- A change that leaves the status and the worker columns of a row leaves the slots. -/
theorem sameSlots_modifyTask {id : Nat} {f : Task → Task} (status : ∀ task, (f task).status = task.status)
    (workerId : ∀ task, (f task).workerId = task.workerId)
    (workerTaskId : ∀ task, (f task).workerTaskId = task.workerTaskId) : SameSlots stored (stored.modifyTask id f) := by
  intro nodeId
  rw [inFlight, inFlight, Table.count_eq, Table.count_eq]
  show List.countP _ (stored.tasks.entries.map _) = _
  rw [List.countP_map]
  refine List.countP_congr fun row _ => ?_
  simp only [Function.comp_apply]
  split
  · rw [workerId, workerTaskId, Task.active, status, Task.active]
  · rfl

end Scores

section Sending

/-- What the source and the skills of a task come to before a post. -/
inductive Sending where
  | posts
  | fails (code : ErrorCode)
  | raises

def sendingOf (world : World) (hub : Hub) (task : Task) : Sending :=
  if task.type = .transcribe then
    if (task.audioId.bind hub.audios.find).isNone then .fails .sourceDeleted else .posts
  else
    match task.transcriptId.bind hub.transcripts.find with
    | none => .fails .sourceDeleted
    | some transcript =>
      match task.skillIds.mapM hub.skills.find with
      | none => .fails .notFound
      | some skills =>
        match world.python.jsonBytes (payloadForSummarize transcript.payload) with
        | none => .raises
        | some bytes =>
          if maxSummarizePayloadBytes < bytes + (combineSkills skills).utf8ByteSize then .fails .textTooLong else .posts

variable {world : World} {id : Nat} {task : Task} {s : Session Hub Process}

theorem wp_fail (calm : world.Calm) (code : ErrorCode) (detail : Option String) {Q : Unit → Session Hub Process → Prop}
    {R : Fault → Session Hub Process → Prop} :
    wp (fail world id code detail) Q R s = Q () (s.edit (s.working.modifyTask id (failedTask code detail))) := by
  rw [fail, calm.guardSite _ rfl]
  rfl

/-- In a calm world an attempt comes to its post, or to an end, by what the task is made of. -/
theorem wp_offerTask (calm : world.Calm) (found : s.working.tasks.find id = some task) (node : Nat)
    {Q : Bool → Session Hub Process → Prop} {R : Fault → Session Hub Process → Prop} :
    wp (offerTask world id node) Q R s ↔
      match sendingOf world s.working task with
      | .posts => Q true s.commit
      | .fails code => Q false (s.edit (s.working.modifyTask id (failedTask code none)))
      | .raises => R .raised s := by
  have called : callWorker world id node = Tx.commit := by
    rw [callWorker, calm.guardSite _ rfl, calm.commitAt _ rfl]
    rfl
  rw [offerTask, wp_bind, loaded, wp_bind, wp_read, found]
  simp only [wp_pure, wp_bind, wp_read, calm.guardSite (.decrypt id) rfl, calm.guardSite (.prepare id node) rfl,
    calm.commitAt (.release id node) rfl, called, sendingOf]
  split
  · split
    · rw [wp_bind, wp_fail calm]
      rfl
    · rfl
  · cases task.transcriptId.bind s.working.transcripts.find with
    | none =>
      dsimp only
      rw [wp_bind, wp_fail calm]
      rfl
    | some transcript =>
      dsimp only
      cases task.skillIds.mapM s.working.skills.find with
      | none =>
        dsimp only
        rw [wp_bind, wp_pure, wp_bind, wp_fail calm]
        rfl
      | some skills =>
        dsimp only
        cases world.python.jsonBytes (payloadForSummarize transcript.payload) with
        | none => rfl
        | some bytes =>
          dsimp only
          split
          · rw [wp_bind, wp_pure, wp_bind, wp_fail calm]
            rfl
          · rfl

end Sending

def refusal (body : Dict) : Option ErrorCode := mapWorkerError (((body.get "error").asDict.getD []).get "code")

section Answers

/-- After this answer the next node is tried. -/
def goesOn : PostReply → Bool
  | .refused .errorStatus body => refusal body == some .engineUnavailable
  | .refused _ _ => true
  | _ => false

def isTooLarge : PostReply → Bool
  | .refused .payloadTooLarge _ => true
  | _ => false

def isBusy : PostReply → Bool
  | .refused .queueFull _ => true
  | .refused .errorStatus body => refusal body == some .engineUnavailable
  | _ => false

def noted : PostReply → Task → Task
  | .refused .queueFull _, task => patient "queue_full" task
  | .refused .errorStatus _, task => { task with retryWithoutTimeout := true }
  | _, task => task

def noting (id : Nat) (reply : PostReply) (s : Session Hub Process) : Session Hub Process :=
  if isBusy reply then s.edit (s.working.modifyTask id (noted reply)) else s

variable {world : World} {dispatchFollowUp : Nat → Program Unit} {id : Nat} {s : Session Hub Process}

theorem answerTask_goesOn {reply : PostReply} (next : goesOn reply = true) (node : Nat) :
    (answerTask world dispatchFollowUp id node reply).run s = (.ok (.next (isTooLarge reply)), noting id reply s) := by
  cases reply with
  | accepted | raises => contradiction
  | refused kind body =>
    cases kind with
    | errorStatus =>
      have unavailable : refusal body = some .engineUnavailable := beq_iff_eq.mp next
      have busy : isBusy (.refused .errorStatus body) = true := next
      unfold refusal at unavailable
      rw [noting, if_pos busy, answerTask, unavailable]
      rfl
    | _ => rfl

theorem sameSlots_noting (reply : PostReply) : SameSlots s.working (noting id reply s).working := by
  unfold noting
  split
  · refine sameSlots_modifyTask ?_ ?_ ?_ <;> intro task <;> cases reply with
    | accepted | raises => rfl
    | refused kind => cases kind <;> rfl
  · exact SameSlots.refl _

theorem answerTask_ends {reply : PostReply} (ends : goesOn reply = false) (node : Nat) :
    wp (answerTask world dispatchFollowUp id node reply) (fun verdict _ => verdict = .settled) (fun _ _ => True) s := by
  have settles (program : Program Unit) (s : Session Hub Process) :
      wp (do program; pure Verdict.settled) (fun verdict _ => verdict = .settled) (fun _ _ => True) s := by
    rw [wp_bind]
    exact wp_mono (wp_trivial program s) (fun _ _ _ => rfl) fun _ _ _ => trivial
  cases reply with
  | raises => trivial
  | accepted body =>
    rw [answerTask, wp_bind, wp_modifyTask]
    simp only [wp_ite]
    split
    · exact settles _ _
    · split
      · exact settles _ _
      · exact rfl
  | refused kind body =>
    cases kind with
    | errorStatus =>
      have other : ¬ refusal body = some .engineUnavailable := beq_eq_false_iff_ne.mp ends
      unfold refusal at other
      rw [answerTask]
      split
      · trivial
      · exact absurd ‹_› other
      · exact settles _ _
    | _ => contradiction

theorem noting_flushed (reply : PostReply) : (noting id reply s).flushed = s.flushed := by
  unfold noting
  split <;> rfl

end Answers

section Loop

theorem filter_others (remaining : List Node) (node : Node) :
    (remaining.filter fun other => other.1 != node.1) = remaining.filter fun other => other.1 ≠ node.1 := by
  refine List.filter_congr fun other _ => ?_
  by_cases same : other.1 = node.1 <;> simp [same]

variable (world : World) (dispatchFollowUp : Nat → Program Unit) (id : Nat)

def posts : Nat → List Node → Session Hub Process → List Node
  | 0, _, _ => []
  | rounds + 1, remaining, s =>
    match pickNode s.flushed remaining with
    | none => []
    | some node =>
      match (offerTask world id node.1).run s with
      | (.ok true, offered) =>
        node :: match (answerTask world dispatchFollowUp id node.1 (world.post id node.1)).run offered with
          | (.ok (.next _), after) => posts rounds (remaining.filter fun other => other.1 != node.1) after
          | _ => []
      | _ => []

def along (total : Nat) : List Node → Nat → Program Unit
  | [], tooLarge => tryNodes.giveUp world id total tooLarge
  | node :: rest, tooLarge => do
    Tx.commit
    match ← answerTask world dispatchFollowUp id node.1 (world.post id node.1) with
    | .settled => pure ()
    | .next large => along total rest (if large then tooLarge + 1 else tooLarge)

variable {world dispatchFollowUp id} {task : Task} {s : Session Hub Process}

theorem sendingOf_noting {row : Task} {hub : Hub} (type : row.type = task.type) (audioId : row.audioId = task.audioId)
    (transcriptId : row.transcriptId = task.transcriptId) (skillIds : row.skillIds = task.skillIds)
    (f : Task → Task) : sendingOf world (hub.modifyTask id f) row = sendingOf world hub task := by
  unfold sendingOf
  rw [type, audioId, transcriptId, skillIds]
  rfl

def Sends (world : World) (id : Nat) (s : Session Hub Process) : Prop :=
  ∃ row, s.working.tasks.find id = some row ∧ sendingOf world s.working row = .posts

theorem Sends.noting (sends : Sends world id s) (reply : PostReply) : Sends world id (noting id reply s.commit) := by
  obtain ⟨row, found, posted⟩ := sends
  unfold Dispatcher.noting
  split
  · refine ⟨noted reply row, by simp [found], ?_⟩
    rw [← posted]
    refine sendingOf_noting ?_ ?_ ?_ ?_ _ <;> cases reply with
    | accepted | raises => rfl
    | refused kind => cases kind <;> rfl
  · exact ⟨row, found, posted⟩

theorem offerTask_run (calm : world.Calm) (sends : Sends world id s) (node : Nat) :
    (offerTask world id node).run s = (.ok true, s.commit) := by
  obtain ⟨row, found, posted⟩ := sends
  refine run_of_wp ((wp_offerTask calm found node).mpr ?_)
  rw [posted]
  exact ⟨rfl, rfl⟩

/-- The first node is picked by the slots that a query sees, the others by those of the loaded objects, which have been
committed by then. -/
def orderOf (s : Session Hub Process) (rounds : Nat) (nodes : List Node) : List Node :=
  rankingFrom (score s.flushed) (score s.working) Prod.fst rounds nodes

theorem orderOf_noting (reply : PostReply) (rounds : Nat) (nodes : List Node) :
    orderOf (noting id reply s.commit) rounds nodes = ranking (score s.working) Prod.fst rounds nodes := by
  have same : score (noting id reply s.commit).working = score s.working := (sameSlots_noting reply).score
  rw [orderOf, same, noting_flushed]
  exact rankingFrom_self

theorem tryNodes_along (calm : world.Calm) (total rounds : Nat) (remaining : List Node) (tooLarge : Nat)
    (sends : Sends world id s) :
    (tryNodes world dispatchFollowUp id total rounds remaining tooLarge).run s =
      (along world dispatchFollowUp id total (orderOf s rounds remaining) tooLarge).run s := by
  -- Both loops go through the same sessions: before a round these differ by the marks of the answers only.
  induction rounds generalizing remaining tooLarge s with
  | zero => rfl
  | succ rounds ih =>
    rw [tryNodes, orderOf, rankingFrom, run_bind (show Tx.query.run s = (.ok s.flushed, s) from rfl), pickNode_eq]
    cases List.argmin (score s.flushed) remaining with
    | none => rfl
    | some node =>
      dsimp only
      rw [run_bind (offerTask_run calm sends node.1), if_pos rfl, along,
        run_bind (show Tx.commit.run s = (.ok (), s.commit) from rfl)]
      cases goes : goesOn (world.post id node.1) with
      | true =>
        rw [run_bind (answerTask_goesOn goes node.1), run_bind (answerTask_goesOn goes node.1), filter_others]
        have next := ih (remaining.filter fun other => other.1 ≠ node.1)
          (if isTooLarge (world.post id node.1) then tooLarge + 1 else tooLarge) (sends.noting (world.post id node.1))
        rwa [orderOf_noting] at next
      | false => exact run_bind_only (answerTask_ends goes node.1) rfl

def upToEnd (world : World) (id : Nat) (order : List Node) : List Node :=
  order.takeWhile (fun node => goesOn (world.post id node.1)) ++
    (order.find? fun node => !goesOn (world.post id node.1)).toList

theorem upToEnd_goesOn {node : Node} (goes : goesOn (world.post id node.1) = true) (rest : List Node) :
    upToEnd world id (node :: rest) = node :: upToEnd world id rest := by
  simp [upToEnd, goes]

theorem upToEnd_ends {node : Node} (ends : goesOn (world.post id node.1) = false) (rest : List Node) :
    upToEnd world id (node :: rest) = [node] := by
  simp [upToEnd, ends]

theorem posts_along (calm : world.Calm) (rounds : Nat) (remaining : List Node) (sends : Sends world id s) :
    posts world dispatchFollowUp id rounds remaining s = upToEnd world id (orderOf s rounds remaining) := by
  induction rounds generalizing remaining s with
  | zero => rfl
  | succ rounds ih =>
    rw [posts, orderOf, rankingFrom, pickNode_eq]
    cases List.argmin (score s.flushed) remaining with
    | none => rfl
    | some node =>
      dsimp only
      rw [offerTask_run calm sends node.1]
      dsimp only
      cases goes : goesOn (world.post id node.1) with
      | true =>
        rw [answerTask_goesOn goes node.1, upToEnd_goesOn goes]
        dsimp only
        rw [filter_others, ih _ (sends.noting _), orderOf_noting]
      | false =>
        rw [upToEnd_ends goes]
        rcases run_only (answerTask_ends (s := s.commit) goes node.1) with ⟨fault, last, ran⟩ | ⟨last, ran⟩
        · rw [ran]
        · rw [ran]

end Loop

section Settled

variable {world : World} {dispatchFollowUp : Nat → Program Unit} {id : Nat} {task : Task} {s : Session Hub Process}

def Spares (dispatchFollowUp : Nat → Program Unit) : Prop :=
  ∀ (id followUp : Nat) (row : Task) (hub : Hub) (memory : Process), followUp ≠ id → Bounded hub →
    hub.tasks.find id = some row → (∃ new, hub.tasks.find followUp = some new ∧ new.onWorker = true) →
    Then (dispatchFollowUp followUp) (fun _ after => after.working.tasks.find id = some row) (.start hub memory)

theorem spares_dispatchFollowUpTask : Spares (dispatchFollowUpTask world) := by
  intro id followUp row hub memory different bounded found ⟨new, there, onWorker⟩
  -- The dispatch moves rows in the scope of all tasks but this one.
  have inside : InScope (· ≠ id) followUp := ⟨different⟩
  have follows : Follows (Move world (· ≠ id)) hub (.start hub memory) := .start ..
  have safe : Safe world (· ≠ id) hub (dispatchFollowUpTask world followUp) (.start hub memory) := by
    rw [Safe, Leaves, dispatchFollowUpTask, wp_bind, wp_read,
      show (Session.start hub memory).working.tasks.find followUp = some new from there]
    have chains_nothing : FollowUpSafe world (· ≠ id) hub fun _ => pure () := fun _ _ _ _ reached _ _ => reached
    refine wp_cases (fun queued => ?_) fun _ => follows
    exact dispatchQueuedTask_safe bounded chains_nothing follows there onWorker queued _ fun _ => mem_nodeList
  exact wp_mono safe (fun _ _ reached => Path.outside reached.whole bounded (fun inside => inside rfl) found) fun _ _ _ => trivial

def SettledAs (id : Nat) (task : Task) (s : Session Hub Process) : Prop :=
  ∃ row, s.working.tasks.find id = some row ∧ row.status = if task.skipPersist then .error else .success

theorem onSuccess_finished {body : Dict} (spares : Spares dispatchFollowUp) (found : s.working.tasks.find id = some task)
    (onWorker : task.onWorker = true) (bounded : Bounded s.working) :
    Then (onSuccess world dispatchFollowUp id body) (fun _ => SettledAs id task) s := by
  -- the report is stored and committed before a new task is dispatched
  let next (after : Session Hub Process) : Prop :=
    ∃ hub memory, after = .start hub memory ∧ Bounded hub ∧ SettledAs id task (.start hub memory)
  let anything : Hub → Prop := fun _ => True
  have before : anything s.committed := trivial
  have commits (after : Hub) (memory : Process) (settlement : Settlement world id body task s.working after) :
      next (.start after memory) ∧ anything after := by
    obtain ⟨row, there, finished⟩ := settlement.row
    exact ⟨⟨after, memory, rfl, settlement.frame.bounded found bounded, row, there, finished.status⟩, trivial⟩
  rw [Then, onSuccess, wp_bind]
  refine wp_loaded_of found (wp_cases (fun type => ?_) fun type => ?_)
  · rw [onTranscribeSuccess_eq, wp_bind]
    refine wp_mono (storeTranscript_settles found type bounded before commits) ?_ fun _ _ _ => trivial
    rintro followUp _ ⟨⟨hub, memory, rfl, bounded_after, row, there, status⟩, chained⟩
    cases followUp with
    | none => exact ⟨row, there, status⟩
    | some new =>
      obtain ⟨fresh, its, here, its_worker⟩ := chained new rfl
      have different : new ≠ id := (lt_of_lt_of_le (bounded id task found) fresh).ne'
      refine (spares id new row hub memory different bounded_after there ⟨its, here, its_worker⟩).mono fun _ after kept => ?_
      exact ⟨row, kept, status⟩
  · have summarize : task.type = .summarize := by simpa [Task.onWorker, type] using onWorker
    refine wp_mono (onSummarizeSuccess_settles found summarize before commits) ?_ fun _ _ _ => trivial
    rintro _ _ ⟨hub, memory, rfl, _, settled⟩
    exact settled

end Settled

section Outcome

variable (world : World) (id : Nat)

structure FailedWith (code : Option ErrorCode) (row : Task) : Prop where
  status : row.status = .error
  errorCode : row.errorCode = code
  workerId : row.workerId = none
  workerTaskId : row.workerTaskId = none

structure StaysQueued (busy : Bool) (task row : Task) : Prop where
  status : row.status = .queued
  workerId : row.workerId = task.workerId
  workerTaskId : row.workerTaskId = task.workerTaskId
  patient : row.retryWithoutTimeout = (task.retryWithoutTimeout || busy)

structure RunsOn (node : Nat) (workerTaskId : Option String) (row : Task) : Prop where
  status : row.status = .running
  workerId : row.workerId = some node
  workerTaskId : row.workerTaskId = workerTaskId

def Ending (node : Nat) (task row : Task) : PostReply → Prop
  | .accepted body =>
    if reportsSuccess body then row.status = if task.skipPersist then .error else .success
    else if reportsError body then FailedWith (refusal body) row
    else RunsOn node (reportedTaskId world.python body) row
  | .refused _ body => FailedWith (refusal body) row
  | .raises => False

/-- What the loop leaves of the row: the first answer that ends it decides. -/
def Outcome (order : List Node) (task row : Task) : Prop :=
  match order.find? fun node => !goesOn (world.post id node.1) with
  | some node => Ending world node.1 task row (world.post id node.1)
  | none =>
    if ∀ node ∈ order, isTooLarge (world.post id node.1) = true then FailedWith (some .payloadTooLarge) row
    else StaysQueued (order.any fun node => isBusy (world.post id node.1)) task row

/-- An answer that the hub cannot handle: its code cannot be looked up, or it is a report that is not stored. -/
def Unhandled : PostReply → Prop
  | .accepted body => reportsSuccess body = true ∨ reportsError body = true
  | .refused _ body => refusal body = none
  | .raises => False

variable {world id} {dispatchFollowUp : Nat → Program Unit} {task row : Task} {s : Session Hub Process}

structure Noted (busy : Bool) (task row : Task) : Prop where
  same : ∃ metaJson, row = { task with retryWithoutTimeout := task.retryWithoutTimeout || busy, metaJson }

theorem Noted.refl (task : Task) : Noted false task task := ⟨task.metaJson, by rw [Bool.or_false]⟩

theorem Noted.noted {busy : Bool} (sofar : Noted busy task row) {reply : PostReply} (marks : isBusy reply = true) :
    Noted true task (noted reply row) := by
  obtain ⟨metaJson, rfl⟩ := sofar.same
  cases reply with
  | accepted | raises => contradiction
  | refused kind body =>
    cases kind with
    | queueFull => exact ⟨_, by rw [Bool.or_true]; rfl⟩
    | errorStatus => exact ⟨_, by rw [Bool.or_true]; rfl⟩
    | _ => contradiction

theorem failedWith_failedTask (code : ErrorCode) (detail : Option String) (task : Task) :
    FailedWith (some code) (failedTask code detail task) := ⟨rfl, rfl, rfl, rfl⟩

theorem noting_row {busy : Bool} (found : s.working.tasks.find id = some row) (sofar : Noted busy task row) (reply : PostReply) :
    ∃ after, (noting id reply s.commit).working.tasks.find id = some after ∧ Noted (busy || isBusy reply) task after := by
  unfold noting
  split
  · rename_i marks
    refine ⟨noted reply row, by simp [found], ?_⟩
    rw [marks, Bool.or_true]
    exact sofar.noted marks
  · rename_i quiet
    exact ⟨row, found, by rwa [Bool.not_eq_true _ |>.mp quiet, Bool.or_false]⟩

theorem noting_bounded (found : s.working.tasks.find id = some row) (bounded : Bounded s.working) (reply : PostReply) :
    Bounded (noting id reply s.commit).working := by
  unfold noting
  split
  · exact Frame.bounded (.modify _) found bounded
  · exact bounded

theorem onWorkerTerminalError_failedWith (found : s.working.tasks.find id = some row) (body : Dict) :
    Then (onWorkerTerminalError world id body)
      (fun _ after => ∃ final, after.working.tasks.find id = some final ∧ FailedWith (refusal body) final) s := by
  rw [Then, onWorkerTerminalError, wp_bind]
  refine wp_loaded_of found ?_
  rw [refusal]
  cases mapWorkerError (((body.get "error").asDict.getD []).get "code") with
  | none => trivial
  | some code =>
    have failed : ((s.working.modifyTask id (failedTask code (workerErrorDetail body))).tasks.find id) =
        some (failedTask code (workerErrorDetail body) row) := by simp [found]
    simp only [fail, wp_bind, wp_modifyTask]
    refine wp_guardSite (wp_commitAt ?_ trivial) trivial
    -- The clean-up on the node may raise, but the failed row is committed by then.
    unfold finishWorkerCleanup
    split
    · exact wp_guardSite ⟨_, failed, failedWith_failedTask ..⟩ trivial
    · exact ⟨_, failed, failedWith_failedTask ..⟩

theorem answerTask_ending {busy : Bool} (calm : world.Calm) (spares : Spares dispatchFollowUp)
    (found : s.working.tasks.find id = some row) (sofar : Noted busy task row) (onWorker : task.onWorker = true)
    (bounded : Bounded s.working) {node : Nat} (ends : goesOn (world.post id node) = false) :
    wp (answerTask world dispatchFollowUp id node (world.post id node))
      (fun _ after => ∃ final, after.working.tasks.find id = some final ∧ Ending world node task final (world.post id node))
      (fun _ _ => Unhandled (world.post id node)) s := by
  obtain ⟨metaJson, rfl⟩ := sofar.same
  cases reply : world.post id node with
  | raises => exact absurd reply (calm.post id node)
  | accepted body =>
    -- An accepted task runs on its node before its report is looked at.
    have sent (before : Task) (here : s.working.tasks.find id = some before) :
        (s.edit (s.working.modifyTask id (dispatched node (reportedTaskId world.python body)))).working.tasks.find id =
          some (dispatched node (reportedTaskId world.python body) before) := by simp [here]
    rw [answerTask, wp_bind, wp_modifyTask]
    simp only [wp_ite]
    split
    · rename_i success
      have still_bounded : Bounded (s.working.modifyTask id (dispatched node (reportedTaskId world.python body))) :=
        Frame.bounded (.modify _) found bounded
      have finished : Then (onSuccess world dispatchFollowUp id body) (fun _ => SettledAs id _) _ :=
        onSuccess_finished spares (sent _ found) onWorker still_bounded
      rw [wp_bind]
      refine wp_mono finished ?_ fun _ _ _ => .inl success
      rintro _ after ⟨final, there, status⟩
      exact ⟨final, there, by rw [Ending, if_pos success]; exact status⟩
    · rename_i success
      split
      · rename_i error
        rw [wp_bind]
        refine wp_mono (onWorkerTerminalError_failedWith (sent _ found) body) ?_ fun _ _ _ => .inr error
        rintro _ after ⟨final, there, failed⟩
        exact ⟨final, there, by rw [Ending, if_neg success, if_pos error]; exact failed⟩
      · rename_i error
        exact ⟨_, sent _ found, by rw [Ending, if_neg success, if_neg error]; exact ⟨rfl, rfl, rfl⟩⟩
  | refused kind body =>
    rw [reply] at ends
    cases kind with
    | errorStatus =>
      have other : ¬ refusal body = some .engineUnavailable := beq_eq_false_iff_ne.mp ends
      cases mapped : refusal body with
      | none =>
        rw [answerTask, show mapWorkerError (((body.get "error").asDict.getD []).get "code") = none from mapped]
        exact mapped
      | some code =>
        rw [mapped] at other
        have fails : answerTask world dispatchFollowUp id node (.refused .errorStatus body) =
            (do fail world id code (workerErrorDetail body); pure .settled) := by
          rw [answerTask, show mapWorkerError (((body.get "error").asDict.getD []).get "code") = some code from mapped]
          -- One code lets the loop go on; each of the others fails the row.
          cases code <;> first | rfl | exact absurd rfl other
        rw [fails, wp_bind, wp_fail calm]
        refine ⟨failedTask code (workerErrorDetail body) _, by simp [found]; rfl, ?_⟩
        rw [Ending, mapped]
        exact failedWith_failedTask ..
    | _ => contradiction

/-- The loop along an order, after some of its nodes: by induction on the nodes that are left. -/
theorem along_outcome (calm : world.Calm) (spares : Spares dispatchFollowUp) (onWorker : task.onWorker = true)
    (queued : task.status = .queued) (done rest : List Node) (some_node : done ++ rest ≠ [])
    (gone : ∀ node ∈ done, goesOn (world.post id node.1) = true) (bounded : Bounded s.working)
    (found : s.working.tasks.find id = some row) (sofar : Noted (done.any fun node => isBusy (world.post id node.1)) task row) :
    wp (along world dispatchFollowUp id (done ++ rest).length rest (done.countP fun node => isTooLarge (world.post id node.1)))
      (fun _ after => ∃ final, after.working.tasks.find id = some final ∧ Outcome world id (done ++ rest) task final)
      (fun _ _ => ∃ node, (done ++ rest).find? (fun node => !goesOn (world.post id node.1)) = some node ∧
        Unhandled (world.post id node.1)) s := by
  have none_before : done.find? (fun node => !goesOn (world.post id node.1)) = none := by
    rw [List.find?_eq_none]
    intro node member
    simp [gone node member]
  induction rest generalizing done row s with
  | nil =>
    rw [List.append_nil] at some_node ⊢
    -- The loop compares counts: every node has refused the length of the task when their count is that of all nodes.
    have every : ((done.countP fun node => isTooLarge (world.post id node.1)) != 0 &&
        decide (done.length ≤ done.countP fun node => isTooLarge (world.post id node.1))) = true ↔
        ∀ node ∈ done, isTooLarge (world.post id node.1) = true := by
      rw [Bool.and_eq_true, decide_eq_true_eq, ← List.countP_eq_length]
      have most := List.countP_le_length (p := fun node : Node => isTooLarge (world.post id node.1)) (l := done)
      have positive := List.length_pos_iff.mpr some_node
      simp only [bne_iff_ne]
      omega
    obtain ⟨metaJson, rfl⟩ := sofar.same
    rw [along, tryNodes.giveUp]
    refine wp_cases (fun all => ?_) fun some_other => ?_
    · rw [wp_fail calm]
      refine ⟨failedTask .payloadTooLarge none _, by simp [found]; rfl, ?_⟩
      rw [Outcome, none_before]
      dsimp only
      rw [if_pos (every.mp all)]
      exact failedWith_failedTask ..
    · refine ⟨_, found, ?_⟩
      rw [Outcome, none_before]
      dsimp only
      rw [if_neg fun all => some_other (every.mpr all)]
      exact ⟨queued, rfl, rfl, rfl⟩
  | cons node rest ih =>
    rw [along, wp_bind, wp_commit, wp_bind]
    -- The first answer that ends the loop is this one, or it is among the rest.
    have first : (done ++ node :: rest).find? (fun node => !goesOn (world.post id node.1)) =
        if goesOn (world.post id node.1) then rest.find? (fun node => !goesOn (world.post id node.1)) else some node := by
      rw [List.find?_append, none_before, Option.none_or]
      cases goes : goesOn (world.post id node.1) with
      | true => rw [List.find?_cons_of_neg (by simp [goes])]; rfl
      | false => rw [List.find?_cons_of_pos (by simp [goes])]; rfl
    cases goes : goesOn (world.post id node.1) with
    | true =>
      rw [wp_of_run (answerTask_goesOn goes node.1)]
      obtain ⟨after, there, marked⟩ := noting_row found sofar (world.post id node.1)
      have gone_too : ∀ other ∈ done ++ [node], goesOn (world.post id other.1) = true := by
        intro other member
        rcases List.mem_append.mp member with earlier | last
        · exact gone other earlier
        · exact List.mem_singleton.mp last ▸ goes
      have none_yet : (done ++ [node]).find? (fun node => !goesOn (world.post id node.1)) = none := by
        rw [List.find?_eq_none]
        intro other member
        simp [gone_too other member]
      -- What the loop carries on: the count of refused lengths, and whether some node was busy.
      have large : (done ++ [node]).countP (fun node => isTooLarge (world.post id node.1)) =
          if isTooLarge (world.post id node.1) then (done.countP fun node => isTooLarge (world.post id node.1)) + 1
          else done.countP fun node => isTooLarge (world.post id node.1) := by
        rw [List.countP_append, List.countP_singleton]
        split <;> rfl
      have busy : (done ++ [node]).any (fun node => isBusy (world.post id node.1)) =
          (done.any (fun node => isBusy (world.post id node.1)) || isBusy (world.post id node.1)) := by
        rw [List.any_append, List.any_cons, List.any_nil, Bool.or_false]
      have step := ih (done ++ [node]) (by rwa [List.append_assoc]) gone_too (noting_bounded found bounded _) there
        (by rwa [busy]) none_yet
      rw [large, List.append_assoc] at step
      exact step
    | false =>
      rw [goes, if_neg Bool.false_ne_true] at first
      have settled := @answerTask_ends world dispatchFollowUp id s.commit _ goes node.1
      have ending := answerTask_ending (s := s.commit) calm spares found sofar onWorker bounded goes
      refine wp_mono (wp_and settled ending) ?_ fun _ _ both => ⟨node, first, both.2⟩
      rintro _ after ⟨rfl, final, there, its⟩
      refine ⟨final, there, ?_⟩
      rw [Outcome, first]
      exact its

end Outcome

theorem poolOf_sublist (task : Task) (nodes : List Node) : (poolOf task nodes).2.Sublist nodes := by
  unfold poolOf
  split
  · exact List.filter_sublist.trans List.filter_sublist
  · exact List.filter_sublist.trans List.filter_sublist

/-- `dispatch_queued_task` of a queued task whose pool is ready, in a world where only the answers of the nodes are open. -/
structure Attempt where
  world : World
  calm : world.Calm
  dispatchFollowUp : Nat → Program Unit
  spares : Spares dispatchFollowUp
  id : Nat
  task : Task
  onWorker : task.onWorker = true
  queued : task.status = .queued
  s : Session Hub Process
  found : s.working.tasks.find id = some task
  bounded : Bounded s.working
  nodes : List Node
  distinct : (nodes.map Prod.fst).Nodup
  ready : (poolOf task nodes).1 = .ready

namespace Attempt

variable (a : Attempt)

def candidates : List Node := (poolOf a.task a.nodes).2

def posted : List Node :=
  posts a.world a.dispatchFollowUp a.id a.candidates.length a.candidates a.s

/-- What the attempt leaves of the row, unless it raises. -/
def Leaves (row : Task → Prop) (raises : Prop) : Prop :=
  wp (dispatchQueuedTask a.world a.dispatchFollowUp a.id a.nodes)
    (fun _ after => ∃ final, after.working.tasks.find a.id = some final ∧ row final) (fun _ _ => raises) a.s

/-- An order of the candidates in which no node comes before one with a lower score. The first node is scored by the slots
that a query sees. -/
structure Ranked (order : List Node) : Prop where
  each : order.Perm a.candidates
  distinct : (order.map Prod.fst).Nodup
  first : ∀ node, order.head? = some node → ∀ other ∈ order, score a.s.flushed node ≤ score a.s.flushed other
  later : order.tail.Pairwise fun node other => score a.s.working node ≤ score a.s.working other
  sorted : SameSlots a.s.flushed a.s.working → order.Pairwise fun node other => score a.s.working node ≤ score a.s.working other

/-- The nodes are tried in their order up to the first answer that ends the loop, and the answers decide. -/
structure Tried (order : List Node) : Prop where
  ranked : a.Ranked order
  posted : a.posted = upToEnd a.world a.id order
  leaves : a.Leaves (Outcome a.world a.id order a.task)
    (∃ node, order.find? (fun node => !goesOn (a.world.post a.id node.1)) = some node ∧
      Unhandled (a.world.post a.id node.1))

/-- A task without its source or its skills, or with too long a text, fails before any post. -/
def Concluded : Prop :=
  match sendingOf a.world a.s.working a.task with
  | .posts => ∃ order, a.Tried order
  | .fails code => a.posted = [] ∧ a.Leaves (FailedWith (some code)) False
  | .raises => a.posted = [] ∧ a.Leaves (fun _ => False) True

theorem some_candidate : a.candidates ≠ [] := poolOf_ready a.task a.ready

theorem distinct_candidates : (a.candidates.map Prod.fst).Nodup :=
  a.distinct.sublist ((poolOf_sublist a.task a.nodes).map Prod.fst)

theorem order_perm : (orderOf a.s a.candidates.length a.candidates).Perm a.candidates :=
  rankingFrom_perm a.distinct_candidates le_rfl

theorem ranked : a.Ranked (orderOf a.s a.candidates.length a.candidates) where
  each := a.order_perm
  distinct := (a.order_perm.map Prod.fst).nodup_iff.mpr a.distinct_candidates
  first _ head other member := rankingFrom_head head other (a.order_perm.subset member)
  later := rankingFrom_tail
  sorted slots := by
    rw [orderOf, ← slots.score, rankingFrom_self]
    exact ranking_sorted _

theorem leaves_of_loop {row : Task → Prop} {raises : Prop}
    (loop : wp (tryNodes a.world a.dispatchFollowUp a.id a.candidates.length a.candidates.length a.candidates 0)
      (fun _ after => ∃ final, after.working.tasks.find a.id = some final ∧ row final) (fun _ _ => raises) a.s) :
    a.Leaves row raises := by
  rw [Leaves, dispatchQueuedTask, wp_bind]
  exact candidatesToTry_ready a.found a.ready (wp_cases (fun none_left => absurd none_left a.some_candidate) fun _ => loop)

/-- Before its first post the loop looks at the source of the task. -/
theorem first_round : ∃ node rounds, a.candidates.length = rounds + 1 ∧ pickNode a.s.flushed a.candidates = some node := by
  obtain ⟨rounds, length⟩ := Nat.exists_eq_succ_of_ne_zero (List.length_pos_iff.mpr a.some_candidate).ne'
  cases picked : pickNode a.s.flushed a.candidates with
  | some node => exact ⟨node, rounds, length, rfl⟩
  | none =>
    rw [pickNode_eq] at picked
    exact absurd (List.argmin_eq_none.mp picked) a.some_candidate

theorem tried (sends : sendingOf a.world a.s.working a.task = .posts) :
    a.Tried (orderOf a.s a.candidates.length a.candidates) := by
  have sends : Sends a.world a.id a.s := ⟨a.task, a.found, sends⟩
  refine ⟨a.ranked, posts_along a.calm _ _ sends, a.leaves_of_loop ?_⟩
  rw [wp_congr (tryNodes_along a.calm _ _ _ _ sends)]
  have some_node : [] ++ orderOf a.s a.candidates.length a.candidates ≠ [] := by
    rw [List.nil_append]
    exact fun none_left => a.some_candidate (List.nil_perm.mp (none_left ▸ a.order_perm))
  have goes := along_outcome a.calm a.spares a.onWorker a.queued [] _ some_node
    (fun _ none_yet => absurd none_yet List.not_mem_nil)
    a.bounded a.found (.refl a.task)
  rw [List.nil_append, a.order_perm.length_eq] at goes
  exact goes

theorem concluded : a.Concluded := by
  unfold Concluded
  obtain ⟨node, rounds, length, picked⟩ := a.first_round
  -- Without a post the loop ends in its first round, with what looking at the source has made of the row.
  cases sending : sendingOf a.world a.s.working a.task with
  | posts => exact ⟨_, a.tried sending⟩
  | fails code =>
    have offered : (offerTask a.world a.id node.1).run a.s =
      (.ok false, a.s.edit (a.s.working.modifyTask a.id (failedTask code none))) := by
      refine run_of_wp ((wp_offerTask a.calm a.found node.1).mpr ?_)
      rw [sending]
      exact ⟨rfl, rfl⟩
    constructor
    · rw [posted, length, posts, picked]
      dsimp only
      rw [offered]
    · refine a.leaves_of_loop ?_
      rw [length, tryNodes, wp_bind, wp_query, picked, wp_bind, wp_of_run offered]
      exact ⟨failedTask code none a.task, by simp [a.found], failedWith_failedTask ..⟩
  | raises =>
    have raised {Q : Bool → Session Hub Process → Prop} {R : Fault → Session Hub Process → Prop} (ends : R .raised a.s) :
        wp (offerTask a.world a.id node.1) Q R a.s := by
      rw [wp_offerTask a.calm a.found, sending]
      exact ends
    constructor
    · rw [posted, length, posts, picked]
      dsimp only
      have never : wp (offerTask a.world a.id node.1) (fun posts _ => posts = false) (fun _ _ => True) a.s := raised trivial
      rcases run_only never with ⟨fault, last, ran⟩ | ⟨last, ran⟩
      · rw [ran]
      · rw [ran]
    · refine a.leaves_of_loop ?_
      rw [length, tryNodes, wp_bind, wp_query, picked, wp_bind]
      exact raised trivial

end Attempt

end IdigestHub.Dispatcher
