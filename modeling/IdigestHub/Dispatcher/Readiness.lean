import IdigestHub.Dispatcher.Replies

/-! When the state of a pool and the nodes that a task can go to tell the same. -/

set_option autoImplicit false

namespace IdigestHub.Dispatcher

open Foundation Foundation.UnitOfWork

variable {nodes : List Node} {asr : String} {diar model : Option String}

/-- A computation that can end in no way does not start. -/
theorem wp_never {D M E A : Type} {t : Tx D M E A} {s : Session D M} :
    ¬ wp t (fun _ _ => False) (fun _ _ => False) s := by
  unfold wp
  split <;> exact id

theorem mem_enabledNodes {type : WorkerType} {node : Node} :
    node ∈ enabledNodes nodes type ↔ node ∈ nodes ∧ node.2.enabled = true ∧ node.2.type = type := by
  rw [enabledNodes, List.mem_filter, Bool.and_eq_true, beq_iff_eq]

structure Loaded (asr : String) (diar : Option String) (node : Node) : Prop where
  enabled : node.2.enabled = true
  type : node.2.type = .transcribe
  offers : workerOffersModel node.2 asr diar = true
  engines : engineLoaded asr diar node = true

theorem mem_transcribeCandidates {node : Node} :
    node ∈ transcribeCandidates nodes asr diar ↔ node ∈ nodes ∧ Loaded asr diar node := by
  rw [transcribeCandidates, List.mem_filter, mem_enabledNodes, Bool.and_eq_true]
  constructor
  · rintro ⟨⟨member, enabled, type⟩, offers, engines⟩
    exact ⟨member, enabled, type, offers, engines⟩
  · rintro ⟨member, loaded⟩
    exact ⟨⟨member, loaded.enabled, loaded.type⟩, loaded.offers, loaded.engines⟩

theorem mem_offering {node : Node} :
    node ∈ (enabledNodes nodes .transcribe).filter (fun node => workerOffersModel node.2 asr diar) ↔
      node ∈ nodes ∧ node.2.enabled = true ∧ node.2.type = .transcribe ∧ workerOffersModel node.2 asr diar = true := by
  rw [List.mem_filter, mem_enabledNodes, and_assoc, and_assoc]

theorem transcribePoolState_ready : transcribePoolState nodes asr diar = .ready ↔
    ∃ node ∈ transcribeCandidates nodes asr diar, healthy node.2 = true := by
  have same : (((enabledNodes nodes .transcribe).filter fun node => workerOffersModel node.2 asr diar).any
      fun node => healthy node.2 && engineLoaded asr diar node) = true ↔
      ∃ node ∈ transcribeCandidates nodes asr diar, healthy node.2 = true := by
    rw [List.any_eq_true]
    constructor
    · rintro ⟨node, member, both⟩
      obtain ⟨listed, enabled, type, offers⟩ := mem_offering.mp member
      obtain ⟨answered, engines⟩ := Bool.and_eq_true_iff.mp both
      exact ⟨node, mem_transcribeCandidates.mpr ⟨listed, enabled, type, offers, engines⟩, answered⟩
    · rintro ⟨node, member, answered⟩
      obtain ⟨listed, loaded⟩ := mem_transcribeCandidates.mp member
      exact ⟨node, mem_offering.mpr ⟨listed, loaded.enabled, loaded.type, loaded.offers⟩,
        Bool.and_eq_true_iff.mpr ⟨answered, loaded.engines⟩⟩
  rw [← same, transcribePoolState]
  split
  · exact iff_of_true rfl ‹_›
  · refine iff_of_false ?_ ‹_›
    split <;> exact fun ready => by contradiction

theorem transcribePoolState_empty (empty : transcribePoolState nodes asr diar = .empty) :
    transcribeCandidates nodes asr diar = [] := by
  rw [List.eq_nil_iff_forall_not_mem]
  intro node member
  obtain ⟨listed, loaded⟩ := mem_transcribeCandidates.mp member
  have offering := mem_offering.mpr ⟨listed, loaded.enabled, loaded.type, loaded.offers⟩
  have unanswered : healthy node.2 = false := by
    rw [← Bool.not_eq_true]
    intro answered
    have ready := transcribePoolState_ready.mpr ⟨node, member, answered⟩
    exact PoolState.noConfusion (empty.symm.trans ready)
  rw [transcribePoolState] at empty
  split at empty
  · exact PoolState.noConfusion empty
  · split at empty
    · exact PoolState.noConfusion empty
    · rename_i nothing
      exact nothing (List.any_eq_true.mpr ⟨node, offering, by rw [unanswered]; rfl⟩)

theorem summarizePoolState_ready : summarizePoolState nodes model = .ready ↔ summarizeCandidates nodes model ≠ [] := by
  have same : (((enabledNodes nodes .summarize).filter fun node =>
      model.all fun model => workerOffersSummarizeModel node.2 model).any fun node => readyHealthy node.2) = true ↔
      summarizeCandidates nodes model ≠ [] := by
    rw [List.any_eq_true, summarizeCandidates, Ne, List.filter_eq_nil_iff]
    simp [and_assoc]
  rw [← same, summarizePoolState]
  split
  · exact iff_of_true rfl ‹_›
  · exact iff_of_false (fun ready => by contradiction) ‹_›

theorem summarizePoolState_empty (empty : summarizePoolState nodes model ≠ .ready) :
    summarizePoolState nodes model = .empty ∧ summarizeCandidates nodes model = [] := by
  refine ⟨?_, by_contra fun some => empty (summarizePoolState_ready.mpr some)⟩
  rw [summarizePoolState] at empty ⊢
  split
  · exact absurd (if_pos ‹_›) empty
  · rfl

section Tasks

variable (task : Task)

theorem poolOf_ready (ready : (poolOf task nodes).1 = .ready) : (poolOf task nodes).2 ≠ [] := by
  by_cases type : task.type = .transcribe
  · simp only [poolOf, if_pos type] at ready ⊢
    obtain ⟨node, member, _⟩ := transcribePoolState_ready.mp ready
    exact List.ne_nil_of_mem member
  · simp only [poolOf, if_neg type] at ready ⊢
    exact summarizePoolState_ready.mp ready

theorem poolOf_empty (empty : (poolOf task nodes).1 = .empty) : (poolOf task nodes).2 = [] := by
  by_cases type : task.type = .transcribe
  · simp only [poolOf, if_pos type] at empty ⊢
    exact transcribePoolState_empty empty
  · simp only [poolOf, if_neg type] at empty ⊢
    exact (summarizePoolState_empty fun ready => PoolState.noConfusion (empty.symm.trans ready)).2

end Tasks

/-- `dispatch_queued_task` comes to its loop over the nodes. -/
def Tries (world : World) (id : Nat) (nodes : List Node) (s : Session Hub Process) : Prop :=
  wp (candidatesToTry world id nodes) (fun tried _ => tried ≠ []) (fun _ _ => False) s

section Dispatch

variable {world : World} {id : Nat} {task : Task} {s : Session Hub Process}

theorem candidatesToTry_ready (found : s.working.tasks.find id = some task) (ready : (poolOf task nodes).1 = .ready)
    {Q : List Node → Session Hub Process → Prop} {R : Fault → Session Hub Process → Prop} (value : Q (poolOf task nodes).2 s) :
    wp (candidatesToTry world id nodes) Q R s := by
  have candidates := poolOf_ready task ready
  rw [candidatesToTry, wp_bind]
  refine wp_loaded_of found ?_
  dsimp only
  rw [ready, if_neg (by decide), wp_bind, maybeTimeout, wp_bind]
  refine wp_loaded_of found ?_
  have patience :
      (task.retryWithoutTimeout || PoolState.ready != .empty || decide (world.dispatchNoCandidateSec ≤ 0)) = true := by
    rw [show (PoolState.ready != .empty) = true from rfl, Bool.or_true, Bool.true_or]
  rw [if_pos patience, wp_pure, if_neg Bool.false_ne_true, if_neg candidates]
  exact value

theorem candidatesToTry_rest (found : s.working.tasks.find id = some task) (rest : (poolOf task nodes).1 ≠ .ready) :
    wp (candidatesToTry world id nodes) (fun tried _ => tried = []) (fun _ _ => True) s := by
  rw [candidatesToTry, wp_bind]
  refine wp_loaded_of found ?_
  dsimp only
  refine wp_cases (fun _ => rfl) fun awake => ?_
  have empty : (poolOf task nodes).1 = .empty := by
    cases state : (poolOf task nodes).1 with
    | empty => rfl
    | waiting => exact absurd state awake
    | ready => exact absurd state rest
  rw [wp_bind]
  refine wp_mono (wp_trivial _ _) (fun timedOut after _ => ?_) fun _ _ _ => trivial
  rw [if_pos (poolOf_empty task empty)]
  cases timedOut with
  | true => exact rfl
  | false => exact rfl

theorem tries_iff (found : s.working.tasks.find id = some task) :
    Tries world id nodes s ↔ (poolOf task nodes).1 = .ready := by
  constructor
  · intro tries
    by_contra rest
    have both := wp_and tries (candidatesToTry_rest found rest)
    exact wp_never (wp_mono both (fun _ _ both => both.1 both.2) fun _ _ both => both.1)
  · exact fun ready => candidatesToTry_ready found ready (poolOf_ready task ready)

end Dispatch

structure Agreeing (nodes : List Node) (asr : String) (diar : Option String) : Prop where
  transcribe : transcribePoolState nodes asr diar = .ready ↔ transcribeCandidates nodes asr diar ≠ []
  answered : ∀ node ∈ transcribeCandidates nodes asr diar, healthy node.2 = true
  summarize : ∀ model, summarizePoolState nodes model = .ready ↔ summarizeCandidates nodes model ≠ []
  dispatched : ∀ (world : World) (id : Nat) (s : Session Hub Process) (task : Task), s.working.tasks.find id = some task →
    (Tries world id nodes s ↔ (poolOf task nodes).1 = .ready)

/-- They agree exactly when no node reports both engines as loaded under a code other than 200. -/
theorem pool_agreeing_iff (nodes : List Node) (asr : String) (diar : Option String) :
    Agreeing nodes asr diar ↔ ∀ node ∈ nodes, Loaded asr diar node → healthy node.2 = true := by
  constructor
  · intro agreeing node member loaded
    exact agreeing.answered node (mem_transcribeCandidates.mpr ⟨member, loaded⟩)
  · intro healthy_if_loaded
    have answered (node : Node) (candidate : node ∈ transcribeCandidates nodes asr diar) : healthy node.2 = true := by
      obtain ⟨member, loaded⟩ := mem_transcribeCandidates.mp candidate
      exact healthy_if_loaded node member loaded
    refine ⟨?_, answered, fun _ => summarizePoolState_ready, fun _ _ _ _ found => tries_iff found⟩
    rw [transcribePoolState_ready]
    constructor
    · rintro ⟨node, candidate, _⟩
      exact List.ne_nil_of_mem candidate
    · intro some_candidate
      obtain ⟨node, candidate⟩ := List.exists_mem_of_ne_nil _ some_candidate
      exact ⟨node, candidate, answered node candidate⟩

/-- A node whose last probe answered 503 with a body that names a loaded engine. -/
def degraded : WorkerNode where
  type := .transcribe
  weight := 1
  enabled := true
  lastHealth := some [("engines", .obj [("whisper", .str "loaded")]), ("_http", idJson 503)]
  lastHealthAt := some 0
  lastSeenVersion := .null
  asrModels := some ["whisper"]
  diarizationModels := none
  captureConnectors := none

/-- It is a candidate of a pool that is not ready. -/
theorem degraded_is_candidate : ¬ Agreeing [(1, degraded)] "whisper" none := by
  intro agreeing
  have candidate : (transcribeCandidates [(1, degraded)] "whisper" none).map Prod.fst = [1] := by decide +kernel
  have waiting : transcribePoolState [(1, degraded)] "whisper" none = .waiting := by decide +kernel
  have none_left : transcribeCandidates [(1, degraded)] "whisper" none = [] := by
    by_contra some_candidate
    exact PoolState.noConfusion (waiting.symm.trans (agreeing.transcribe.mpr some_candidate))
  rw [none_left] at candidate
  contradiction

end IdigestHub.Dispatcher
