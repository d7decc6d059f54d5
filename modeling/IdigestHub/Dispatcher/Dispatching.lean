import IdigestHub.Dispatcher.Settling

/-! Sending, polling and recovering a transcribe or summarize task take the store along
moves, wherever they are interrupted. -/

set_option autoImplicit false

namespace IdigestHub.Dispatcher

open Foundation Foundation.UnitOfWork Relation

section Bounded

variable {world : World} {scope : Nat → Prop} {hub after : Hub} {id : Nat} {task : Task}

theorem Frame.bounded (frame : Frame id task hub after) (before : hub.tasks.find id = some task)
    (bounded : Bounded hub) : Bounded after := by
  intro other row found
  by_cases same : other = id
  · rw [same]
    exact (bounded id task before).trans_le frame.nextId
  · rcases frame.others other same with kept | ⟨_, below, _⟩
    · rw [kept] at found
      exact (bounded other row found).trans_le frame.nextId
    · exact below

theorem Move.bounded (move : Move world scope hub after) (bounded : Bounded hub) : Bounded after := by
  cases move with
  | row id task final inside before found change frame usage orgs => exact frame.bounded before bounded
  | settled id task body inside before onWorker active reports success settlement =>
    exact settlement.frame.bounded before bounded
  | aside tasks nodes nextId usage orgs =>
    intro other row found
    rw [tasks] at found
    exact nextId ▸ bounded other row found

theorem Path.bounded (path : Path world scope hub after) (bounded : Bounded hub) : Bounded after := by
  induction path with
  | refl => exact bounded
  | tail _ move ih => exact move.bounded ih

theorem Frame.type {other : Nat} {row : Task} (frame : Frame id task hub after) (different : other ≠ id)
    (bounded : Bounded hub) (found : hub.tasks.find other = some row) :
    ∃ row', after.tasks.find other = some row' ∧ row'.type = row.type := by
  rcases frame.others other different with same | ⟨above, _⟩
  · exact ⟨row, same.trans found, rfl⟩
  · exact absurd (bounded other row found) above.not_gt

theorem Move.type {other : Nat} {row : Task} (move : Move world scope hub after) (bounded : Bounded hub)
    (found : hub.tasks.find other = some row) :
    ∃ row', after.tasks.find other = some row' ∧ row'.type = row.type := by
  cases move with
  | row id task final inside before here change frame usage orgs =>
    by_cases same : other = id
    · subst same
      obtain rfl : task = row := Option.some.inj (before.symm.trans found)
      exact ⟨final, here, change.type⟩
    · exact frame.type same bounded found
  | settled id task body inside before onWorker active reports success settlement =>
    by_cases same : other = id
    · subst same
      obtain rfl : task = row := Option.some.inj (before.symm.trans found)
      obtain ⟨final, here, finished⟩ := settlement.row
      exact ⟨final, here, finished.type⟩
    · exact settlement.frame.type same bounded found
  | aside tasks nodes nextId usage orgs => exact ⟨row, by rw [tasks, found], rfl⟩

theorem Path.type {other : Nat} {row : Task} (path : Path world scope hub after) (bounded : Bounded hub)
    (found : hub.tasks.find other = some row) :
    ∃ row', after.tasks.find other = some row' ∧ row'.type = row.type := by
  induction path with
  | refl => exact ⟨row, found, rfl⟩
  | tail before move ih =>
    obtain ⟨middle, here, type⟩ := ih
    obtain ⟨last, there, again⟩ := move.type (Path.bounded before bounded) here
    exact ⟨last, there, again.trans type⟩

end Bounded

section Rows

variable {world : World} {scope : Nat → Prop} {hub : Hub} {id : Nat} {task : Task}

theorem failedTask_dispatched (code : ErrorCode) (detail : Option String) (node : Nat)
    (workerTaskId : Option String) :
    failedTask code detail (dispatched node workerTaskId task) = failedTask code detail task := by
  simp only [failedTask, dispatched, Task.mergeMeta, Task.metaDict, Option.getD_some, Dict.update,
    List.foldl_cons, List.foldl_nil, Dict.set_set]

theorem Move.failed_after_dispatch [inside : InScope scope id] (node : Nat) (workerTaskId : Option String) (code : ErrorCode)
    (detail : Option String) (before : hub.tasks.find id = some task) (onWorker : task.onWorker = true)
    (active : task.active = true) :
    Move world scope hub
      ((hub.modifyTask id (dispatched node workerTaskId)).modifyTask id (failedTask code detail)) := by
  refine .row id task (failedTask code detail task) inside.mem before ?_ (.fails code detail onWorker active) ?_ rfl rfl
  · simp [before, failedTask_dispatched]
  · exact ⟨fun other different => .inl (by simp [different]), fun _ => rfl, le_rfl⟩

theorem mem_nodeList {node : Node} (member : node ∈ hub.nodeList) : (hub.nodes.find node.1).isSome := by
  obtain ⟨row, listed, same⟩ := List.mem_map.mp member
  obtain ⟨key, value⟩ := row
  rw [← same]
  simp [(Table.mem_entries hub.nodes key value).mp listed]

end Rows

variable {world : World} {scope : Nat → Prop} {origin : Hub} {s : Session Hub Process} {id : Nat} {task : Task}
  [inside : InScope scope id]

abbrev Keeps {A : Type} (world : World) (scope : Nat → Prop) (origin : Hub) (program : Program A)
    (result : A → Session Hub Process → Prop) (s : Session Hub Process) : Prop :=
  wp program (fun a after => Follows (Move world scope) origin after ∧ result a after)
    (fun _ after => Path world scope origin after.committed) s

abbrev Safe (world : World) (scope : Nat → Prop) (origin : Hub) (program : Program Unit) (s : Session Hub Process) : Prop :=
  Leaves (Follows (Move world scope) origin) (Path world scope origin) program s

omit inside in
theorem Safe.bind {first second : Program Unit} (safe : Safe world scope origin first s)
    (then_safe : ∀ s', Follows (Move world scope) origin s' → Safe world scope origin second s') :
    Safe world scope origin (do first; second) s := by
  rw [Safe, Leaves, wp_bind]
  exact wp_mono safe (fun _ s' follows => then_safe s' follows) fun _ _ saved => saved

omit inside in
theorem follows_at {hub : Hub} {memory : Process} (path : Path world scope origin hub) :
    Follows (Move world scope) origin (.start hub memory) := ⟨path, .refl⟩

theorem Follows.modify {f : Task → Task} (follows : Follows (Move world scope) origin s)
    (found : s.working.tasks.find id = some task) (change : RowMove world s.working id task (f task)) :
    Follows (Move world scope) origin (s.edit (s.working.modifyTask id f)) :=
  follows.edit (.single (.modify found change))

theorem fail_safe (follows : Follows (Move world scope) origin s) (found : s.working.tasks.find id = some task)
    (onWorker : task.onWorker = true) (active : task.active = true) (code : ErrorCode)
    (detail : Option String) : Safe world scope origin (fail world id code detail) s := by
  rw [Safe, Leaves, fail, wp_bind, wp_modifyTask]
  exact wp_guardSite (Follows.modify follows found (.fails code detail onWorker active)) follows.saved

omit inside in
theorem callWorker_keeps (follows : Follows (Move world scope) origin s) (node : Nat) :
    Keeps world scope origin (callWorker world id node) (fun _ after => after = s.commit) s := by
  rw [Keeps, callWorker, wp_bind]
  refine wp_guardSite ?_ follows.saved
  exact wp_commitAt ⟨follows.commit, rfl⟩ follows.saved

omit inside in
theorem pollWorker_keeps (follows : Follows (Move world scope) origin s) (node : Nat) :
    Keeps world scope origin (pollWorker world id node)
      (fun answer after => after = s.commit ∧
        ∀ code body, answer = some (code, body) → world.getTask id = .answer code body) s := by
  rw [Keeps, pollWorker, wp_bind]
  refine wp_mono (callWorker_keeps follows node) ?_ fun _ _ saved => saved
  rintro - _ ⟨reached, rfl⟩
  cases reply : world.getTask id with
  | answer code body => exact ⟨reached, rfl, by simp⟩
  | unreachable => exact ⟨reached, rfl, by simp⟩
  | raises => exact reached.saved

section Dispatch

theorem active_of_queued (queued : task.status = .queued) : task.active = true := by simp [Task.active, queued]

theorem active_of_running (running : task.status = .running) : task.active = true := by
  simp [Task.active, running]

theorem maybeTimeout_keeps (follows : Follows (Move world scope) origin s)
    (found : s.working.tasks.find id = some task) (onWorker : task.onWorker = true)
    (queued : task.status = .queued) (pool : PoolState) :
    Keeps world scope origin (maybeTimeout world id pool) (fun timedOut after => timedOut = false → after = s) s := by
  rw [Keeps, maybeTimeout, wp_bind]
  refine wp_loaded_of found ?_
  rw [wp_ite]
  split
  · exact ⟨follows, fun _ => rfl⟩
  · simp only [wp_ite]
    split
    · rw [wp_bind]
      refine wp_mono (fail_safe follows found onWorker (active_of_queued queued) _ _) ?_ fun _ _ saved => saved
      intro _ after reached
      exact ⟨reached, by simp⟩
    · exact ⟨follows, fun _ => rfl⟩

theorem patient_waits (stage : String) (notDone : stage ≠ "done") (onWorker : task.onWorker = true)
    (queued : task.status = .queued) : RowMove world s.working id task (patient stage task) := by
  refine .waits true (patient stage task).metaJson onWorker queued fun done => ?_
  have shown : (patient stage task).isDone = (Json.str stage).isText "done" :=
    isDone_mergeMeta { task with retryWithoutTimeout := true } (.str stage) (by simp)
  have stamped : (patient stage task).isDone = true := done
  rw [shown] at stamped
  simp [Json.isText, notDone] at stamped

theorem noCandidateFields_stage (task : Task) (nodes : List Node) :
    ∃ stage rest, noCandidateFields task nodes = ("stage", .str stage) :: rest ∧ stage ≠ "done" ∧
      ∀ field ∈ rest, field.1 ≠ "stage" := by
  simp only [noCandidateFields]
  split
  · split
    · exact ⟨_, _, rfl, by decide, by simp⟩
    · exact ⟨_, _, rfl, by decide, by simp⟩
  · cases summarizeModelOf task with
    | none => exact ⟨_, _, rfl, by decide, by simp⟩
    | some model =>
      simp only
      split
      · exact ⟨_, _, rfl, by decide, by simp⟩
      · exact ⟨_, _, rfl, by decide, by simp⟩

theorem noCandidate_waits (nodes : List Node) (onWorker : task.onWorker = true)
    (queued : task.status = .queued) :
    RowMove world s.working id task (task.mergeMeta (noCandidateFields task nodes)) := by
  obtain ⟨stage, rest, fields, notDone, absent⟩ := noCandidateFields_stage task nodes
  rw [fields]
  refine .waits task.retryWithoutTimeout (task.mergeMeta (("stage", .str stage) :: rest)).metaJson onWorker queued
    fun done => ?_
  have shown := isDone_mergeMeta task (.str stage) absent
  have stamped : (task.mergeMeta (("stage", .str stage) :: rest)).isDone = true := done
  rw [shown] at stamped
  simp [Json.isText, notDone] at stamped

theorem poolOf_subset (task : Task) (nodes : List Node) : (poolOf task nodes).2 ⊆ nodes := by
  unfold poolOf
  split
  · exact transcribeCandidates_subset ..
  · exact summarizeCandidates_subset ..

theorem candidatesToTry_keeps (follows : Follows (Move world scope) origin s) (found : s.working.tasks.find id = some task)
    (onWorker : task.onWorker = true) (queued : task.status = .queued) (nodes : List Node) :
    Keeps world scope origin (candidatesToTry world id nodes)
      (fun candidates after => candidates ⊆ nodes ∧ (candidates ≠ [] → after = s)) s := by
  have subset := poolOf_subset task nodes
  rw [Keeps, candidatesToTry, wp_bind]
  refine wp_loaded_of found ?_
  cases choice : poolOf task nodes with
  | mk pool candidates =>
    rw [choice] at subset
    simp only [wp_ite]
    split
    · rw [wp_bind, wp_modifyTask]
      exact ⟨Follows.modify follows found (patient_waits _ (by decide) onWorker queued), by simp, by simp⟩
    · rw [wp_bind]
      refine wp_mono (maybeTimeout_keeps follows found onWorker queued pool) ?_ fun _ _ saved => saved
      rintro timedOut after ⟨reached, unchanged⟩
      cases timedOut with
      | true => exact ⟨reached, by simp, by simp⟩
      | false =>
        obtain rfl := unchanged rfl
        simp only [Bool.false_eq_true, if_false, wp_ite]
        split
        · rw [wp_bind, wp_modifyTask]
          exact ⟨Follows.modify follows found (noCandidate_waits nodes onWorker queued), by simp, by simp⟩
        · exact ⟨follows, subset, fun _ => rfl⟩

theorem offerTask_keeps (follows : Follows (Move world scope) origin s) (found : s.working.tasks.find id = some task)
    (onWorker : task.onWorker = true) (queued : task.status = .queued) (node : Nat) :
    Keeps world scope origin (offerTask world id node) (fun posts after => posts = true → after = s.commit) s := by
  have active := active_of_queued queued
  have fails (code : ErrorCode) : wp (do fail world id code none; pure false)
      (fun posts after => Follows (Move world scope) origin after ∧ (posts = true → after = s.commit))
      (fun _ after => Path world scope origin after.committed) s := by
    rw [wp_bind]
    refine wp_mono (fail_safe follows found onWorker active code none) ?_ fun _ _ saved => saved
    intro _ after reached
    exact ⟨reached, by simp⟩
  rw [Keeps, offerTask, wp_bind]
  refine wp_loaded_of found ?_
  rw [wp_bind, wp_read, wp_ite]
  split
  · rw [wp_ite]
    split
    · exact fails _
    · rw [wp_bind]
      refine wp_commitAt ?_ follows.saved
      rw [wp_bind]
      exact wp_guardSite ⟨follows.commit, fun _ => rfl⟩ follows.whole
  · cases task.transcriptId.bind s.working.transcripts.find with
    | none => exact fails _
    | some transcript =>
      simp only [wp_bind]
      refine wp_guardSite ?_ follows.saved
      cases task.skillIds.mapM s.working.skills.find with
      | none => exact fails _
      | some skills =>
        simp only
        cases world.python.jsonBytes (payloadForSummarize transcript.payload) with
        | none => exact follows.saved
        | some bytes =>
          simp only [wp_ite]
          split
          · exact fails _
          · rw [wp_bind]
            refine wp_mono (callWorker_keeps follows node) ?_ fun _ _ saved => saved
            rintro - _ ⟨reached, rfl⟩
            exact ⟨reached, fun _ => rfl⟩

variable {dispatchFollowUp : Nat → Program Unit}

abbrev AddedInScope (scope : Nat → Prop) (origin : Hub) : Prop := ∀ other, origin.nextId ≤ other → scope other

abbrev FollowUpSafe (world : World) (scope : Nat → Prop) (origin : Hub) (dispatchFollowUp : Nat → Program Unit) : Prop :=
  ∀ followUp row s, origin.nextId ≤ followUp → Follows (Move world scope) origin s →
    s.working.tasks.find followUp = some row → row.onWorker = true → Safe world scope origin (dispatchFollowUp followUp) s

theorem success_safe {body : Dict} (path : Path world scope origin s.working) (bounded : Bounded origin)
    (found : s.working.tasks.find id = some task) (onWorker : task.onWorker = true)
    (active : task.active = true) (reports : Reports world id body) (success : reportsSuccess body = true)
    (saved : Path world scope origin s.committed) (followUp : FollowUpSafe world scope origin dispatchFollowUp) :
    Safe world scope origin (onSuccess world dispatchFollowUp id body) s := by
  have chains (new : Nat) (row : Task) (s' : Session Hub Process) (fresh : s.working.nextId ≤ new) :=
    followUp new row s' (Path.nextId path |>.trans fresh)
  refine onSuccess_settles found onWorker (path.bounded bounded) saved ?_ chains
  intro after memory settlement
  have settled : Path world scope origin after :=
    path.tail (.settled id task body inside.mem found onWorker active reports success settlement)
  exact ⟨follows_at settled, settled⟩

theorem answerTask_keeps (follows : Follows (Move world scope) origin s) (bounded : Bounded origin)
    (found : s.working.tasks.find id = some task) (onWorker : task.onWorker = true)
    (queued : task.status = .queued) {node : Nat} (exists_node : (s.working.nodes.find node).isSome)
    (followUp : FollowUpSafe world scope origin dispatchFollowUp) :
    Keeps world scope origin (answerTask world dispatchFollowUp id node (world.post id node))
      (fun verdict after => ∀ large, verdict = .next large → ∃ row, after.working.tasks.find id = some row ∧
        row.onWorker = true ∧ row.status = .queued) s := by
  have active := active_of_queued queued
  cases reply : world.post id node with
  | raises => exact follows.saved
  | refused kind body =>
    cases kind with
    | http => exact ⟨follows, fun _ _ => ⟨task, found, onWorker, queued⟩⟩
    | timeout => exact ⟨follows, fun _ _ => ⟨task, found, onWorker, queued⟩⟩
    | payloadTooLarge => exact ⟨follows, fun _ _ => ⟨task, found, onWorker, queued⟩⟩
    | queueFull =>
      rw [Keeps, answerTask, wp_bind, wp_modifyTask]
      exact ⟨Follows.modify follows found (patient_waits _ (by decide) onWorker queued),
        fun _ _ => ⟨patient "queue_full" task, by simp [found], onWorker, queued⟩⟩
    | errorStatus =>
      rw [Keeps, answerTask]
      cases mapWorkerError (((body.get "error").asDict.getD []).get "code") with
      | none => exact follows.saved
      | some code =>
        by_cases unavailable : code = .engineUnavailable
        · subst unavailable
          simp only [wp_bind, wp_modifyTask]
          have waits : RowMove world s.working id task { task with retryWithoutTimeout := true } :=
            .waits true task.metaJson onWorker queued fun done => done
          exact ⟨Follows.modify follows found waits,
            fun _ _ => ⟨{ task with retryWithoutTimeout := true }, by simp [found], onWorker, queued⟩⟩
        · simp only [wp_bind]
          refine wp_mono (fail_safe follows found onWorker active _ _) ?_ fun _ _ saved => saved
          intro _ after reached
          exact ⟨reached, by simp⟩
  | accepted body =>
    -- The row is written as dispatched first; what the answer reports is then settled as from the row before.
    have moved : (s.working.modifyTask id (dispatched node (reportedTaskId world.python body))).tasks.find id =
        some (dispatched node (reportedTaskId world.python body) task) := by simp [found]
    rw [Keeps, answerTask]
    simp only [wp_bind, wp_modifyTask, wp_ite, wp_pure]
    split
    · -- the success is settled from the row before the post
      rename_i success
      have settles : Safe world scope origin (onSuccess world dispatchFollowUp id body)
          (s.edit (s.working.modifyTask id (dispatched node (reportedTaskId world.python body)))) := by
        have chains (new : Nat) (row : Task) (s' : Session Hub Process) (fresh : s.working.nextId ≤ new) :=
          followUp new row s' (Path.nextId follows.whole |>.trans fresh)
        refine onSuccess_settles moved onWorker ?_ follows.saved ?_ chains
        · exact Frame.bounded (.modify _) found (Path.bounded follows.whole bounded)
        · intro after memory settlement
          have settled : Path world scope origin after := follows.whole.tail
            (.settled id task body inside.mem found onWorker active (.inr ⟨node, reply⟩) success settlement.of_dispatched)
          exact ⟨follows_at settled, settled⟩
      exact wp_mono settles (fun _ _ reached => ⟨reached, by simp⟩) fun _ _ saved => saved
    · split
      · have fails : Safe world scope origin (onWorkerTerminalError world id body)
            (s.edit (s.working.modifyTask id (dispatched node (reportedTaskId world.python body)))) := by
          refine onWorkerTerminalError_fails moved follows.saved ?_
          intro code detail memory
          have failed := follows.whole.tail (Move.failed_after_dispatch node
            (reportedTaskId world.python body) code detail found onWorker active)
          exact ⟨follows_at failed, failed⟩
        exact wp_mono fails (fun _ _ reached => ⟨reached, by simp⟩) fun _ _ saved => saved
      · rename_i success error
        have accepts : Accepts world id node body := ⟨reply, by simpa using success, by simpa using error⟩
        exact ⟨Follows.modify follows found (.links node body onWorker queued accepts exists_node), by simp⟩

theorem tryNodes_safe (bounded : Bounded origin) (followUp : FollowUpSafe world scope origin dispatchFollowUp)
    (total rounds : Nat) (remaining : List Node) (tooLarge : Nat) (follows : Follows (Move world scope) origin s)
    (found : s.working.tasks.find id = some task) (onWorker : task.onWorker = true)
    (queued : task.status = .queued)
    (exist : ∀ node ∈ remaining, (origin.nodes.find node.1).isSome) :
    Safe world scope origin (tryNodes world dispatchFollowUp id total rounds remaining tooLarge) s := by
  have gives_up {s : Session Hub Process} {task : Task} (follows : Follows (Move world scope) origin s)
      (found : s.working.tasks.find id = some task) (onWorker : task.onWorker = true)
      (queued : task.status = .queued) (tooLarge : Nat) :
      Safe world scope origin (tryNodes.giveUp world id total tooLarge) s := by
    rw [Safe, Leaves, tryNodes.giveUp, wp_ite]
    split
    · exact fail_safe follows found onWorker (active_of_queued queued) _ _
    · exact follows
  induction rounds generalizing s task remaining tooLarge with
  | zero => exact gives_up follows found onWorker queued tooLarge
  | succ rounds ih =>
    rw [Safe, Leaves, tryNodes, wp_bind, wp_query]
    cases picked : pickNode s.flushed remaining with
    | none => exact gives_up follows found onWorker queued tooLarge
    | some node =>
      simp only [wp_bind]
      refine wp_mono (offerTask_keeps follows found onWorker queued node.1) ?_ fun _ _ saved => saved
      rintro posts after ⟨reached, unchanged⟩
      cases posts with
      | false => exact reached
      | true =>
        obtain rfl := unchanged rfl
        have exists_node : (s.commit.working.nodes.find node.1).isSome := by
          rw [Session.commit_working, Path.nodes follows.whole]
          exact exist node (pickNode_mem picked)
        simp only [if_true, wp_bind]
        refine wp_mono (answerTask_keeps reached bounded found onWorker queued exists_node followUp) ?_
          fun _ _ saved => saved
        rintro verdict after ⟨reached, again⟩
        cases verdict with
        | settled => exact reached
        | next large =>
          obtain ⟨row, found, onWorker, queued⟩ := again large rfl
          exact ih _ _ reached found onWorker queued fun other member => exist other (List.mem_of_mem_filter member)

theorem dispatchQueuedTask_safe (bounded : Bounded origin)
    (followUp : FollowUpSafe world scope origin dispatchFollowUp) (follows : Follows (Move world scope) origin s)
    (found : s.working.tasks.find id = some task) (onWorker : task.onWorker = true)
    (queued : task.status = .queued) (nodes : List Node)
    (exist : ∀ node ∈ nodes, (origin.nodes.find node.1).isSome) :
    Safe world scope origin (dispatchQueuedTask world dispatchFollowUp id nodes) s := by
  rw [Safe, Leaves, dispatchQueuedTask, wp_bind]
  refine wp_mono (candidatesToTry_keeps follows found onWorker queued nodes) ?_ fun _ _ saved => saved
  rintro candidates after ⟨reached, subset, unchanged⟩
  rw [wp_ite]
  split
  · exact reached
  · rename_i some_candidate
    obtain rfl := unchanged some_candidate
    exact tryNodes_safe bounded followUp _ _ _ _ follows found onWorker queued
      fun node member => exist node (subset member)

omit inside in
theorem dispatchFollowUpTask_safe (bounded : Bounded origin) (added : AddedInScope scope origin) :
    FollowUpSafe world scope origin (dispatchFollowUpTask world) := by
  intro followUp row s fresh follows found onWorker
  have inside : InScope scope followUp := ⟨added followUp fresh⟩
  rw [Safe, Leaves, dispatchFollowUpTask, wp_bind, wp_read, found]
  simp only [wp_ite]
  split
  · rename_i queued
    have chains_nothing : FollowUpSafe world scope origin fun _ => pure () := by
      intro _ _ _ _ reached _ _
      exact reached
    refine dispatchQueuedTask_safe bounded chains_nothing follows found onWorker queued _ ?_
    intro node member
    rw [← Path.nodes follows.whole]
    exact mem_nodeList member
  · exact follows

end Dispatch

section Poll

variable {nodes : List Node}

theorem applyReport_safe {body : Dict} {otherwise : Program Unit} (follows : Follows (Move world scope) origin s)
    (bounded : Bounded origin) (added : AddedInScope scope origin)
    (found : s.working.tasks.find id = some task) (onWorker : task.onWorker = true)
    (running : task.status = .running) (reports : Reports world id body)
    (unknown : Safe world scope origin otherwise s) :
    Safe world scope origin (applyReport world otherwise id body) s := by
  have active := active_of_running running
  rw [Safe, Leaves, applyReport, wp_ite]
  split
  · rename_i success
    exact success_safe follows.whole bounded found onWorker active reports success follows.saved
      (dispatchFollowUpTask_safe bounded added)
  · rw [wp_ite]
    split
    · refine onWorkerTerminalError_fails found follows.saved fun code detail memory => ?_
      have failed := follows.whole.tail (Move.modify (f := failedTask code detail) found
        (.fails code detail onWorker active))
      exact ⟨follows_at failed, failed⟩
    · cases listed : (body.get "status").inTexts ["queued", "running"] with
      | none => exact follows.saved
      | some goes_on =>
        cases goes_on with
        | false => exact unknown
        | true =>
          have notDone : (body.get "status").isText "done" = false := by
            revert listed
            cases body.get "status" <;> simp [Json.inTexts, Json.hashable, Json.isText]
            rintro (rfl | rfl) <;> decide
          exact Follows.modify follows found (.goesOn _ onWorker running notDone)

theorem pollRunningTask_safe (follows : Follows (Move world scope) origin s) (bounded : Bounded origin)
    (added : AddedInScope scope origin)
    (found : s.working.tasks.find id = some task) (onWorker : task.onWorker = true)
    (running : task.status = .running) : Safe world scope origin (pollRunningTask world id nodes) s := by
  have requeue {s : Session Hub Process} (follows : Follows (Move world scope) origin s)
      (found : s.working.tasks.find id = some task) : Safe world scope origin (modifyTask id unassigned) s :=
    Follows.modify follows found (.requeues none onWorker running)
  rw [Safe, Leaves, pollRunningTask, wp_bind]
  refine wp_loaded_of found ?_
  cases linkedNode task nodes with
  | none => exact requeue follows found
  | some node =>
    rw [wp_bind]
    refine wp_mono (pollWorker_keeps follows node) ?_ fun _ _ saved => saved
    rintro answer _ ⟨reached, rfl, reports⟩
    cases answer with
    | none => exact reached
    | some reply =>
      obtain ⟨code, body⟩ := reply
      simp only [wp_ite]
      split
      · split
        · rename_i kept
          have produced : hasProduced task = true := by simpa [running] using kept
          exact Follows.modify reached found (.unlinks onWorker running produced)
        · exact requeue reached found
      · split
        · exact reached
        · exact applyReport_safe reached bounded added found onWorker running (.inl ⟨code, reports code body rfl⟩) reached

theorem recoverWorkerTask_safe (follows : Follows (Move world scope) origin s) (bounded : Bounded origin)
    (added : AddedInScope scope origin)
    (found : s.working.tasks.find id = some task) (running : task.status = .running) :
    Safe world scope origin (recoverWorkerTask world id nodes) s := by
  rw [Safe, Leaves, recoverWorkerTask, wp_bind]
  refine wp_loaded_of found ?_
  rw [wp_ite]
  split
  · exact follows
  · rename_i isOnWorker
    have onWorker : task.onWorker = true := by simpa using isOnWorker
    have requeue {s : Session Hub Process} (follows : Follows (Move world scope) origin s)
        (found : s.working.tasks.find id = some task) : Safe world scope origin (modifyTask id unassigned) s :=
      Follows.modify follows found (.requeues none onWorker running)
    rw [wp_ite]
    split
    · exact Follows.modify follows found (.requeues task.workerTaskId onWorker running)
    · cases linkedNode task nodes with
      | none => exact requeue follows found
      | some node =>
        rw [wp_bind]
        refine wp_mono (pollWorker_keeps follows node) ?_ fun _ _ saved => saved
        rintro answer _ ⟨reached, rfl, reports⟩
        cases answer with
        | none => exact requeue reached found
        | some reply =>
          obtain ⟨code, body⟩ := reply
          simp only [wp_ite]
          split
          · split
            · rename_i produced
              exact Follows.modify reached found (.unlinks onWorker running produced)
            · exact requeue reached found
          · split
            · exact requeue reached found
            · exact applyReport_safe reached bounded added found onWorker running
                (.inl ⟨code, reports code body rfl⟩) (requeue reached found)

end Poll

end IdigestHub.Dispatcher
