import IdigestHub.Capture.Attached

/-! What each request for the status of a capture makes of its row: which answers end it, and which leave
it running. -/

set_option autoImplicit false

namespace IdigestHub.Capture

open Foundation Foundation.UnitOfWork Dispatcher Ingest

section Answers

variable (world : World)

/-- The worker has lost the job, or it says that the job has failed or was canceled. -/
def Reply.Ending (python : Python) : Reply → Prop
  | .answer code poll =>
    code = 404 ∨ workerStatus python poll = "error" ∨ workerStatus python poll = "canceled"
  | _ => False

def Reply.Ready (python : Python) : Reply → Prop
  | .answer _ poll => artifactReadyInPoll python poll = true
  | _ => False

/-- The text under `finalizing_since` is a time that lies too far back. -/
def timerStuck : Json → Bool
  | .str since => world.finalizingStuck since
  | _ => false

/-- The worker finalizes the recording, and has done so for too long. -/
def Reply.TimedOut (process : Process) (id : Nat) (task : Task) : Reply → Prop
  | .answer _ poll =>
    (workerStatus world.python poll = "finalizing" ∨ captureStopPending process id task = true ∧
      captureStopForwardStatuses.contains (workerStatus world.python poll) = true) ∧
    timerStuck world ((task.metaDict.find "finalizing_since").getD (.str world.isoNow)) = true
  | _ => False

end Answers

/-- The row is there, with whatever fields. -/
def Resembles (id : Nat) (task : Task) (hub : Hub) : Prop :=
  ∃ metaJson, hub.tasks.find id = some { task with metaJson }

section Rows

variable {world : World} {id : Nat} {task : Task} {s : Session Hub Process}

theorem Shows.resembles (shows : Shows id task s) : Everywhere (Resembles id task) s :=
  ⟨⟨task.metaJson, shows.committed⟩, ⟨task.metaJson, shows.flushed⟩, ⟨task.metaJson, shows.working⟩⟩

theorem Resembles.fields {hub : Hub} {f : Task → Option Dict} (resembles : Resembles id task hub) :
    Resembles id task (hub.modifyTask id fun row => { row with metaJson := f row }) := by
  obtain ⟨metaJson, found⟩ := resembles
  exact ⟨_, find_modifyTask found _⟩

theorem polled_since (world : World) (status stage : String) (fields : Dict) :
    (polledFields world status stage fields).get "finalizing_since" =
      if status = "finalizing" then (fields.find "finalizing_since").getD (.str world.isoNow) else .null := by
  unfold polledFields
  simp only [Dict.get_set, String.reduceEq, if_false]
  split
  · cases since : fields.find "finalizing_since" with
    | none => simp [Dict.get_set]
    | some value => simp [Dict.get, since]
  · simp [Dict.get_pop]

end Rows

section Thread

variable {world : World} {id : Nat} {task : Task} {s : Session Hub Process} (quiet : world.raises = fun _ => false)

/-- What the thread does after a poll: it goes on with the row that it has, or fetches the file, or has failed the row
for a reason. -/
def Traced (id node : Nat) (task : Task) (poll : Dict) (process : Process) (ready : Bool) (ends : Prop) :
    Awaiting → Session Hub Process → Prop
  | .poll _, after => ready = false ∧ after.memory = process ∧ Everywhere (Resembles id task) after
  | .artifact on its, after => ready = true ∧ on = node ∧ its = poll ∧ Everywhere (Resembles id task) after
  | .returned, _ => ends
  | _, _ => False

include quiet

theorem afterPoll_traced (node : Nat) (status : String) (poll : Dict) (shows : Shows id task s) :
    wp (afterPoll world id node status poll)
      (Traced id node task poll s.memory (artifactReadyInPoll world.python poll)
        (status = "finalizing" ∧ timerStuck world (task.metaDict.get "finalizing_since") = true ∨ status = "error" ∨
          status = "canceled"))
      (fun _ _ => False) s := by
  rw [afterPoll, wp_bind]
  refine wp_loaded_of shows.working ?_
  rw [wp_bind, wp_recollect]
  dsimp only
  have fails {code : ErrorCode} {extra : Dict} (step : Nat) {ends : Prop} (ended : ends) :
      wp (failAndReturn world id code extra step)
        (Traced id node task poll s.memory (artifactReadyInPoll world.python poll) ends) (fun _ _ => False) s :=
    wp_failAndReturn quiet shows fun _ _ => ended
  refine wp_cases (fun stuck => fails 22 (.inl ?_)) fun _ => wp_cases (fun _ => ?_) fun unfinished => ?_
  · cases since : task.metaDict.get "finalizing_since" with
    | str text =>
      rw [since] at stuck
      simpa [timerStuck] using stuck
    | _ => simp [since] at stuck
  · cases ready : artifactReadyInPoll world.python poll with
    | false => exact ⟨rfl, rfl, shows.resembles⟩
    | true =>
      refine ⟨rfl, rfl, rfl, ?_⟩
      have fetched := (Shows.resembles (s := s) shows).working.fields (f := fun task =>
        some ((task.metaDict.pop "stop_requested").pop "finalizing_since"))
      exact ⟨⟨_, shows.committed⟩, fetched, fetched⟩
  · simp only [Bool.or_eq_true, decide_eq_true_eq, not_or, Bool.not_eq_true] at unfinished
    refine wp_cases (fun error => fails 23 (.inr (.inl error))) fun _ => wp_cases (fun canceled => ?_) fun _ => ?_
    · simp only [Bool.and_eq_true, decide_eq_true_eq] at canceled
      exact fails 24 (.inr (.inr canceled.1))
    · exact ⟨unfinished.2, rfl, shows.resembles⟩

/-- One poll of the thread. A call that raises has changed nothing. -/
theorem threadPoll_traced (node : Nat) (shows : Shows id task s) :
    wp (threadPoll world id node)
      (fun next after => ∃ code poll, world.getTask id = .answer code poll ∧
        Traced id node task poll s.memory (artifactReadyInPoll world.python poll)
          (id ∈ s.memory.cancelled ∨ Reply.Ending world.python (world.getTask id) ∨
            Reply.TimedOut world s.memory id task (world.getTask id)) next after)
      (fun _ after => (world.getTask id = .unreachable ∨ world.getTask id = .raises) ∧ Shows id task after) s := by
  rw [threadPoll]
  refine wp_refreshTask shows fun s' shows memory => ?_
  rw [← memory]
  clear memory
  generalize s' = s at shows ⊢
  rw [wp_bind, wp_recollect, wp_bind, pollWorker, callWorker_quiet quiet, wp_bind, wp_commit]
  replace shows := shows.commit
  rw [← Session.commit_memory]
  generalize s.commit = s at shows ⊢
  cases replied : world.getTask id with
  | raises => exact ⟨.inr rfl, shows⟩
  | unreachable => exact ⟨.inl rfl, shows⟩
  | answer code poll =>
    -- the three reasons that end a capture
    let ends := id ∈ s.memory.cancelled ∨ Reply.Ending world.python (.answer code poll) ∨
      Reply.TimedOut world s.memory id task (.answer code poll)
    have fails {code : ErrorCode} (step : Nat) {after : Session Hub Process} (shows : Shows id task after) (ended : ends) :
        wp (failAndReturn world id code [] step)
          (Traced id node task poll s.memory (artifactReadyInPoll world.python poll) ends) (fun _ _ => False) after :=
      wp_failAndReturn quiet shows fun _ _ => ended
    refine wp_mono (Q := Traced id node task poll s.memory (artifactReadyInPoll world.python poll) ends)
      (R := fun _ _ => False) ?_ (fun next after traced => ⟨code, poll, rfl, traced⟩) fun _ _ impossible => impossible.elim
    dsimp only
    -- canceled first, then an unknown task, and only then the fields of the reply
    refine wp_cases (fun canceled => wp_cases (fun found => ?_) fun _ => ?_) fun _ => ?_
    · exact ⟨(Bool.and_eq_true_iff.mp found).2, rfl, rfl, Shows.resembles shows⟩
    · rw [wp_bind]
      refine wp_forwardCaptureCancel quiet shows fun after shows _ => fails 25 shows (.inl ?_)
      exact List.contains_iff_mem.mp canceled
    · refine wp_cases (fun unknown => fails 26 shows (.inr (.inl (.inl unknown)))) fun _ => ?_
      rw [wp_bind]
      refine wp_loaded_of shows.working ?_
      refine wp_forwarded quiet shows fun after shows memory => ?_
      rw [wp_bind, wp_modifyTask, wp_bind, wp_flush, commitAt_quiet quiet, wp_bind, wp_commit]
      refine wp_mono (afterPoll_traced quiet node _ poll (shows.modified _)) ?_ fun _ _ impossible => impossible
      intro next last traced
      cases next with
      | start => exact traced
      | post on => exact traced
      | poll on => exact ⟨traced.1, traced.2.1.trans memory, traced.2.2⟩
      | artifact on its => exact traced
      | returned =>
        rcases traced with ⟨finalizing, stuck⟩ | error | canceled
        · refine .inr (.inr ⟨?_, ?_⟩)
          · split at finalizing
            · rename_i forward
              exact .inr (Bool.and_eq_true_iff.mp forward)
            · exact .inl finalizing
          · simpa only [Task.metaDict, Option.getD_some, polled_since, finalizing, if_true] using stuck
        · refine .inr (.inl (.inr (.inl ?_)))
          split at error
          · simp at error
          · exact error
        · refine .inr (.inl (.inr (.inr ?_)))
          split at canceled
          · simp at canceled
          · exact canceled

end Thread

section Others

variable {world : World} {id : Nat} {task : Task} {P : Hub → Prop} {A : Type}

theorem preserves_polled {next : Option (Nat × Dict) → Program A} (task node : Nat)
    (answered : ∀ code poll, world.getTask task = .answer code poll → Preserves P (next (some (code, poll))))
    (silent : Preserves P (next none)) : Preserves P (pollWorker world task node >>= next) := by
  rw [pollWorker, bind_assoc]
  refine (maintains_callWorker world task node).bind fun _ => ?_
  cases replied : world.getTask task with
  | raises => exact maintains_raise _
  | unreachable => exact silent
  | answer code poll => exact answered code poll replied

theorem preserves_loaded_row {next : Task → Program A}
    (known : ∀ metaJson, Preserves (Resembles id task) (next { task with metaJson })) :
    Preserves (Resembles id task) (loaded id >>= next) := by
  intro s resembles
  obtain ⟨metaJson, found⟩ := resembles.working
  rw [wp_bind]
  exact wp_loaded_of found (known metaJson s resembles)

theorem preserves_staged (stage : String) (extra : Dict) :
    Preserves (Resembles id task) (updateTaskMeta id stage extra) :=
  (preserves_update fun _ resembles => resembles.fields).bind fun _ => maintains_flush

/-- A tick that finds no file leaves the row as it is. -/
theorem tryFinish_idle (unready : ¬Reply.Ready world.python (world.getTask id)) :
    Preserves (Resembles id task) (tryFinishCaptureTask world id) := by
  refine preserves_loaded_row fun metaJson => .ite (fun _ => maintains_pure _) fun _ => ?_
  split
  · refine preserves_read fun hub _ => .ite (fun _ => maintains_pure _) fun _ => ?_
    refine preserves_polled _ _ (fun code poll replied => ?_) (maintains_pure _)
    refine .ite (fun _ => maintains_pure _) fun _ => .ite (fun ready => ?_) fun _ => ?_
    · rw [replied] at unready
      exact absurd (Bool.and_eq_true_iff.mp ready).2 unready
    · exact .ite (fun _ => preserves_staged _ _) fun _ => maintains_pure _
  · exact maintains_pure _

/-- The recovery leaves a row alone whose worker answers, and reports nothing final. -/
theorem recover_idle {node : Nat} (linked : task.status = .running → OnWorker node task) {nodes : List Nat}
    (known : node ∈ nodes) (going : ¬Reply.Ending world.python (world.getTask id))
    (reported : ∀ code poll, world.getTask id = .answer code poll → code < 500 → workerStatus world.python poll ≠ "") :
    Preserves (Resembles id task) (recoverCaptureTask world id nodes) := by
  refine preserves_loaded_row fun metaJson => .ite (fun _ => maintains_pure _) fun running => ?_
  have on_worker : OnWorker node task := linked (by simpa using (not_or.mp (mt Bool.or_eq_true_iff.mpr running)).2)
  obtain ⟨job, has_job⟩ := Option.isSome_iff_exists.mp on_worker.job
  dsimp only
  rw [has_job, on_worker.node]
  dsimp only
  refine .ite (fun missing => ?_) fun _ => preserves_polled _ _ (fun code poll replied => ?_) (maintains_pure _)
  · simp [known] at missing
  · rw [replied] at going
    simp only [Reply.Ending, not_or] at going
    refine .ite (fun lost => absurd lost going.1) fun _ => .ite (fun _ => maintains_pure _) fun early => ?_
    refine maintains_recollect.bind fun process => .ite (fun error => absurd error going.2.1) fun _ => ?_
    refine .ite (fun canceled => ?_) fun _ => .ite (fun blank => ?_) fun _ => ?_
    · exact absurd (by simpa using (Bool.and_eq_true_iff.mp canceled).1) going.2.2
    · rw [if_neg going.2.2] at blank
      exact absurd blank (reported code poll replied (Nat.lt_of_not_le early))
    · refine (preserves_staged _ _).bind fun _ => preserves_loaded_row fun metaJson => ?_
      exact .ite (fun _ => (maintains_forwardCaptureStop world).bind fun _ => preserves_staged _ _) fun _ => maintains_pure _

theorem forwardEarlyStop_idle (node : Nat) : Preserves (Resembles id task) (forwardEarlyStop world id node) := by
  refine (maintains_loaded id).bind fun task => maintains_recollect.bind fun process => .ite (fun _ => ?_) fun _ =>
    maintains_pure _
  refine (maintains_forwardCaptureStop world).bind fun _ => (preserves_staged _ _).bind fun _ => ?_
  exact (maintains_commitAt world _).bind fun _ => maintains_pure _

end Others

end IdigestHub.Capture
