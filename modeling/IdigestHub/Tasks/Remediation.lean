import IdigestHub.Tasks.Workers

/-! A change of the transcribe workers and its remediation: what the preview lists, and what
the instance default, the users and the tasks are given in its place. -/

set_option autoImplicit false

namespace IdigestHub.Tasks

open Foundation Dispatcher

abbrev ModelPair : Type := String × Option String

structure ModelDefaults where
  asrModel : String
  diarizationModel : Option String

namespace ModelDefaults

/-- `instance_combo`. -/
def pair (defaults : ModelDefaults) : ModelPair := (defaults.asrModel, defaults.diarizationModel)

end ModelDefaults

/-- The models of a `User`; an empty diarization model is one that is switched off. -/
structure UserModels where
  asrModel : Option String
  diarizationModel : Option String

inductive ModelSource where
  | user | instanceDefaults

structure TranscribeModels where
  asrModel : String
  diarizationModel : Option String
  asrSource : ModelSource
  diarizationSource : ModelSource
  instanceAsrModel : String
  instanceDiarizationModel : Option String

def TranscribeModels.pair (models : TranscribeModels) : ModelPair := (models.asrModel, models.diarizationModel)

/-- `value.strip() or None`. -/
def stripped (value : String) : Option String := nonEmpty (some (Text.strip value))

def resolveTranscribeModels (user : UserModels) (defaults : ModelDefaults) : TranscribeModels :=
  let userAsr := stripped (user.asrModel.getD "")
  let instanceAsr := (stripped ((nonEmpty (some defaults.asrModel)).getD "whisper")).getD "whisper"
  let instanceDiar := defaults.diarizationModel.bind stripped
  { asrModel := userAsr.getD instanceAsr
    diarizationModel := match user.diarizationModel with
      | some raw => stripped raw
      | none => instanceDiar
    asrSource := if userAsr.isSome then .user else .instanceDefaults
    diarizationSource := if user.diarizationModel.isSome then .user else .instanceDefaults
    instanceAsrModel := instanceAsr
    instanceDiarizationModel := instanceDiar }

structure Office where
  defaults : ModelDefaults
  users : Table Nat UserModels
  hub : Hub

def taskPair (task : Task) : ModelPair := (asrModelOf task, task.snap.diarizationModel)

section Impact

variable (before after : List Node) (focus : Nat)

def lost (pair : ModelPair) : Bool := (dispatchablePairs before).contains pair && !(dispatchablePairs after).contains pair

def pairBelow (a b : ModelPair) : Bool := a.1 < b.1 || (a.1 == b.1 && a.2.getD "" ≤ b.2.getD "")

def sortedPairs (pairs : List ModelPair) : List ModelPair := pairs.dedup.mergeSort pairBelow

def replacementOptions (defaults : ModelDefaults) : Option ModelPair × List ModelPair :=
  let available := sortedPairs (dispatchablePairs after)
  let suggested := if available.contains defaults.pair then some defaults.pair
    else (available.find? fun pair => pair.1 == defaults.asrModel).or available.head?
  (suggested, available)

structure TranscribeImpact where
  blocking : Bool
  remainingTranscribeWorkers : Nat
  lostModelPairs : List ModelPair
  availablePairs : List ModelPair
  suggestedReplacement : Option ModelPair
  canRemediate : Bool
  instanceDefaultsBroken : Bool
  affectedUsers : List Nat
  affectedTasks : List Nat

def affectedTask (task : Task) : Bool :=
  task.type == .transcribe && task.active &&
    (!(dispatchablePairs after).contains (taskPair task) || (task.workerId == some focus && task.status == .running))

def transcribeImpact (office : Office) : TranscribeImpact :=
  let lostModelPairs := sortedPairs ((dispatchablePairs before).filter fun pair => !(dispatchablePairs after).contains pair)
  let instanceDefaultsBroken := !lostModelPairs.isEmpty && lost before after office.defaults.pair
  let affectedUsers := office.users.select fun _ user =>
    lost before after (resolveTranscribeModels user office.defaults).pair
  let affectedTasks := office.hub.tasks.select fun _ task => affectedTask after focus task
  let options := replacementOptions after office.defaults
  let blocking := !lostModelPairs.isEmpty || instanceDefaultsBroken || !affectedUsers.isEmpty || !affectedTasks.isEmpty
  { blocking
    remainingTranscribeWorkers := (enabledNodes after .transcribe).length
    lostModelPairs
    availablePairs := options.2
    suggestedReplacement := options.1
    canRemediate := blocking && options.1.isSome
    instanceDefaultsBroken
    affectedUsers
    affectedTasks }

end Impact

section Remediation

variable (before after : List Node) (focus : Nat)

def remediatedDefaults (replacement : ModelPair) (defaults : ModelDefaults) : ModelDefaults :=
  if lost before after defaults.pair then ⟨replacement.1, replacement.2⟩ else defaults

/-- The user after it; the default that is resolved is the one that the remediation has left. -/
def remediatedUser (replacement : ModelPair) (defaults : ModelDefaults) (user : UserModels) : UserModels :=
  if lost before after (resolveTranscribeModels user defaults).pair then ⟨some replacement.1, some (replacement.2.getD "")⟩
  else user

/-- `apply_transcribe_remediation`, without its counts; no value for `invalid_replacement`. -/
def remediateTranscribe (asr : String) (diar : Option String) (office : Office) : Option Office := do
  let replacement : ModelPair := (Text.strip asr, (nonEmpty diar).map Text.strip)
  let hub ← applyTranscribeRemediation before after focus asr diar office.hub
  let defaults := remediatedDefaults before after replacement office.defaults
  some {
    defaults
    users := office.users.mapRows fun _ user => remediatedUser before after replacement defaults user
    hub }

/-- Nobody whose pair could be dispatched is left with one that cannot, and what the preview lists
runs again somewhere else. -/
structure Mended (office mended : Office) : Prop where
  users : ∀ id user now, office.users.find id = some user → mended.users.find id = some now →
    (resolveTranscribeModels user office.defaults).pair ∈ dispatchablePairs before →
    (resolveTranscribeModels now mended.defaults).pair ∈ dispatchablePairs after
  default : office.defaults.pair ∈ dispatchablePairs before → mended.defaults.pair ∈ dispatchablePairs after
  tasks : ∀ id ∈ (transcribeImpact before after focus office).affectedTasks, ∀ now, mended.hub.tasks.find id = some now →
    taskPair now ∈ dispatchablePairs after ∧ ¬(now.status = .running ∧ now.workerId = some focus)

/-- When the default is lost, a user whose pair could be dispatched makes of its replacement a pair
that can or could be; and a listed task had a pair that could be, or is bound to the node. -/
structure Mendable (replacement : ModelPair) (office : Office) : Prop where
  users : lost before after office.defaults.pair = true → ∀ id user, office.users.find id = some user →
    (resolveTranscribeModels user office.defaults).pair ∈ dispatchablePairs before →
    (resolveTranscribeModels user ⟨replacement.1, replacement.2⟩).pair ∈ dispatchablePairs before ++ dispatchablePairs after
  tasks : ∀ id task, office.hub.tasks.find id = some task → task.type = .transcribe → task.active = true →
    taskPair task ∈ dispatchablePairs before ++ dispatchablePairs after ∨ task.workerId = some focus

end Remediation

section Mending

variable {before after : List Node} {focus : Nat} {office mended : Office} {replacement : ModelPair}

theorem lost_eq_true {pair : ModelPair} :
    lost before after pair = true ↔ pair ∈ dispatchablePairs before ∧ pair ∉ dispatchablePairs after := by
  simp [lost]

def IsName (text : String) : Prop := Text.strip text = text ∧ text ≠ ""

theorem stripped_name {text : String} (name : IsName text) : stripped text = some text := by
  rw [stripped, name.1]
  simp [nonEmpty, name.2]

/-- A user who is given a pair has it, whatever the default is. -/
theorem resolve_given {pair : ModelPair} (asr : IsName pair.1) (diar : ∀ name, pair.2 = some name → IsName name)
    (defaults : ModelDefaults) :
    (resolveTranscribeModels ⟨some pair.1, some (pair.2.getD "")⟩ defaults).pair = pair := by
  obtain ⟨first, second⟩ := pair
  have second_stays : stripped (second.getD "") = second := by
    cases second with
    | none => decide
    | some name => exact stripped_name (diar name rfl)
  simp [resolveTranscribeModels, TranscribeModels.pair, stripped_name asr, second_stays]

theorem remediatedDefaults_pair (offered : replacement ∈ dispatchablePairs after) (defaults : ModelDefaults)
    (before_pair : defaults.pair ∈ dispatchablePairs before) :
    (remediatedDefaults before after replacement defaults).pair ∈ dispatchablePairs after := by
  unfold remediatedDefaults
  split
  · exact offered
  · rename_i not_lost
    by_contra missing
    exact not_lost (lost_eq_true.mpr ⟨before_pair, missing⟩)

theorem remediatedUser_pair (asr : IsName replacement.1) (diar : ∀ name, replacement.2 = some name → IsName name)
    (offered : replacement ∈ dispatchablePairs after) (defaults : ModelDefaults) (user : UserModels) :
    (resolveTranscribeModels (remediatedUser before after replacement defaults user) defaults).pair ∈ dispatchablePairs after ↔
      (resolveTranscribeModels user defaults).pair ∈ dispatchablePairs before ++ dispatchablePairs after := by
  rw [List.mem_append]
  unfold remediatedUser
  split
  · rename_i is_lost
    rw [resolve_given asr diar]
    exact ⟨fun _ => .inl (lost_eq_true.mp is_lost).1, fun _ => offered⟩
  · rename_i not_lost
    constructor
    · exact .inr
    · rintro (was | is)
      · by_contra missing
        exact not_lost (lost_eq_true.mpr ⟨was, missing⟩)
      · exact is

def remediatedTask (before after : List Node) (focus : Nat) (replacement : ModelPair) (task : Task) : Task :=
  let onWorker := task.workerId == some focus
  let kept := ((dispatchablePairs after).contains (taskPair task) && !(onWorker && task.status == .running)) ||
    (!(dispatchablePairs before).contains (taskPair task) && !onWorker)
  if task.type = .transcribe && task.active && !kept then
    modelRemediated { task.snap with
      asrModel := some replacement.1
      diarizationModel := replacement.2 } task
  else task

/-- A listed task is given the pair and sent back unless its pair could not be dispatched before. -/
theorem remediatedTask_mends (asr : IsName replacement.1) (offered : replacement ∈ dispatchablePairs after) {task : Task}
    (listed : affectedTask after focus task = true) :
    (taskPair (remediatedTask before after focus replacement task) ∈ dispatchablePairs after ∧
      ¬((remediatedTask before after focus replacement task).status = .running ∧
        (remediatedTask before after focus replacement task).workerId = some focus)) ↔
    taskPair task ∈ dispatchablePairs before ++ dispatchablePairs after ∨ task.workerId = some focus := by
  simp only [affectedTask, Bool.and_eq_true, Bool.or_eq_true, beq_iff_eq, Bool.not_eq_true', List.contains_eq_mem,
    decide_eq_false_iff_not] at listed
  obtain ⟨⟨type, active⟩, reason⟩ := listed
  rw [List.mem_append]
  by_cases repaired : taskPair task ∈ dispatchablePairs before ∨ task.workerId = some focus
  · have mended : remediatedTask before after focus replacement task = modelRemediated { task.snap with
        asrModel := some replacement.1
        diarizationModel := replacement.2 } task := by
      rw [remediatedTask, if_pos]
      simp only [type, active, Bool.and_eq_true, Bool.not_eq_true', Bool.or_eq_false_iff, List.contains_eq_mem,
        Bool.and_eq_false_iff, decide_eq_false_iff_not, Bool.not_eq_false', beq_iff_eq, decide_true, true_and,
        decide_eq_true_eq]
      exact ⟨reason, repaired⟩
    rw [mended]
    have pair : taskPair (modelRemediated { task.snap with
        asrModel := some replacement.1
        diarizationModel := replacement.2 } task) = replacement := by
      unfold modelRemediated
      split <;> simp [taskPair, asrModelOf, nonEmpty, asr.2, sentBack]
    have stopped : (modelRemediated { task.snap with
        asrModel := some replacement.1
        diarizationModel := replacement.2 } task).status ≠ .running := by
      unfold modelRemediated
      split
      · simp [sentBack]
      · assumption
    rw [pair]
    constructor
    · exact fun _ => repaired.imp_left .inl
    · exact fun _ => ⟨offered, fun running => stopped running.1⟩
  · rw [not_or] at repaired
    obtain ⟨not_before, elsewhere⟩ := repaired
    have missing : taskPair task ∉ dispatchablePairs after := reason.resolve_right fun on_node => elsewhere on_node.1
    have kept : remediatedTask before after focus replacement task = task := by
      rw [remediatedTask, if_neg]
      simp [not_before, elsewhere]
    rw [kept]
    simp [missing, not_before, elsewhere]

theorem remediateTranscribe_inv {asr : String} {diar : Option String}
    (done : remediateTranscribe before after focus asr diar office = some mended) :
    let replacement : ModelPair := (Text.strip asr, (nonEmpty diar).map Text.strip)
    replacement ∈ dispatchablePairs after ∧
    mended.defaults = remediatedDefaults before after replacement office.defaults ∧
    mended.users = office.users.mapRows (fun _ user => remediatedUser before after replacement mended.defaults user) ∧
    ∀ id, mended.hub.tasks.find id = (office.hub.tasks.find id).map (remediatedTask before after focus replacement) := by
  obtain ⟨hub, applied, same⟩ := Option.bind_eq_some_iff.mp done
  obtain rfl := Option.some.inj same
  unfold applyTranscribeRemediation at applied
  dsimp only at applied
  split at applied
  · rename_i valid
    simp only [Bool.and_eq_true, List.contains_eq_mem, decide_eq_true_eq] at valid
    obtain rfl := Option.some.inj applied
    refine ⟨valid.1, rfl, rfl, fun id => ?_⟩
    rw [Table.find_mapRows]
    rfl
  · contradiction

theorem mem_affectedTasks {id : Nat} : id ∈ (transcribeImpact before after focus office).affectedTasks ↔
    ∃ task, office.hub.tasks.find id = some task ∧ affectedTask after focus task = true := by
  unfold transcribeImpact
  exact Table.mem_select office.hub.tasks (fun _ task => affectedTask after focus task) id

/-- The remediation mends what the change breaks exactly when it can. -/
theorem transcribe_remediation_mends_iff {asr : String} {diar : Option String}
    (named : ∀ pair ∈ dispatchablePairs after, IsName pair.1 ∧ ∀ name, pair.2 = some name → IsName name)
    (done : remediateTranscribe before after focus asr diar office = some mended) :
    Mended before after focus office mended ↔
      Mendable before after focus (Text.strip asr, (nonEmpty diar).map Text.strip) office := by
  obtain ⟨offered, defaults, users, tasks⟩ := remediateTranscribe_inv done
  generalize (Text.strip asr, (nonEmpty diar).map Text.strip) = replacement at *
  obtain ⟨asr_name, diar_name⟩ := named replacement offered
  have user_now (id : Nat) : mended.users.find id =
      (office.users.find id).map (remediatedUser before after replacement mended.defaults) := by
    rw [users, Table.find_mapRows]
  have resolved (user : UserModels) :=
    (remediatedUser_pair asr_name diar_name offered mended.defaults user :
      (resolveTranscribeModels (remediatedUser before after replacement mended.defaults user) mended.defaults).pair ∈
        dispatchablePairs after ↔ _)
  constructor
  · intro mends
    constructor
    -- A default that is lost has been replaced, and the users are resolved with the replacement.
    · intro is_lost id user found was
      have replaced : mended.defaults = ⟨replacement.1, replacement.2⟩ := by
        rw [defaults, remediatedDefaults, if_pos is_lost]
      have now := (resolved user).mp (mends.users id user _ found (by rw [user_now, found]; rfl) was)
      rwa [replaced] at now
    · intro id task found type active
      by_cases fine : taskPair task ∈ dispatchablePairs after
      · exact .inl (List.mem_append_right _ fine)
      · have listed : affectedTask after focus task = true := by simp [affectedTask, type, active, fine]
        exact (remediatedTask_mends asr_name offered listed).mp
          (mends.tasks id (mem_affectedTasks.mpr ⟨task, found, listed⟩) _ (by rw [tasks, found]; rfl))
  · intro mendable
    constructor
    · intro id user now found found_now was
      rw [user_now, found] at found_now
      obtain rfl := Option.some.inj found_now
      refine (resolved user).mpr ?_
      rw [defaults, remediatedDefaults]
      split
      · rename_i is_lost
        exact mendable.users is_lost id user found was
      · exact List.mem_append_left _ was
    · intro was
      rw [defaults]
      exact remediatedDefaults_pair offered office.defaults was
    · intro id member now found_now
      obtain ⟨task, found, listed⟩ := mem_affectedTasks.mp member
      rw [tasks, found] at found_now
      obtain rfl := Option.some.inj found_now
      refine (remediatedTask_mends asr_name offered listed).mpr (mendable.tasks id task found ?_ ?_) <;>
        simp only [affectedTask, Bool.and_eq_true, beq_iff_eq] at listed
      · exact listed.1.1
      · exact listed.1.2

end Mending

section Samples

def offering (id : Nat) (asr diar : List String) : Node :=
  (id, ⟨.transcribe, 1, true, none, none, .null, some asr, some diar, none⟩)

def otherNodes : List Node := [offering 2 ["whisper"] ["nemo"], offering 3 ["gigaam"] ["pyannote"]]

def allNodes : List Node := offering 1 ["whisper", "gigaam"] ["pyannote"] :: otherNodes

def waitingTask (asr : String) : Task where
  type := .transcribe
  status := .queued
  orgId := 1
  userId := 5
  audioId := some 2
  transcriptId := none
  skillIds := []
  workerId := none
  workerTaskId := none
  producedTranscriptId := none
  producedSummaryId := none
  errorCode := none
  snap := ⟨false, none, none, 0, some asr, some "pyannote", none, false⟩
  queuedAt := 0
  retryWithoutTimeout := false
  skipPersist := false
  skipReason := none
  billed := false
  metaJson := none

def officeOf (user : UserModels) (asr : String) : Office where
  defaults := ⟨"whisper", some "pyannote"⟩
  users := Table.put ∅ 5 user
  hub := ⟨Table.put ∅ 7 (waitingTask asr), ∅, ∅, ∅, ∅, ∅, ∅, ∅, ∅, ⟨true, true, none⟩, [], 8⟩

theorem otherNodes_named : ∀ pair ∈ dispatchablePairs otherNodes, IsName pair.1 ∧ ∀ name, pair.2 = some name → IsName name := by
  have pairs : dispatchablePairs otherNodes = [("whisper", some "nemo"), ("gigaam", some "pyannote")] := by decide +kernel
  simp only [pairs, List.forall_mem_cons, Option.some.injEq, forall_eq', List.not_mem_nil, IsEmpty.forall_iff, implies_true,
    and_true, IsName]
  decide +kernel

theorem transcribe_remediation_mends_default : ∃ mended,
    remediateTranscribe allNodes otherNodes 1 "whisper" (some "nemo") (officeOf ⟨none, none⟩ "gigaam") = some mended ∧
    (Mended allNodes otherNodes 1 (officeOf ⟨none, none⟩ "gigaam") mended ↔
      Mendable allNodes otherNodes 1 (Text.strip "whisper", (nonEmpty (some "nemo")).map Text.strip)
        (officeOf ⟨none, none⟩ "gigaam")) :=
  ⟨_, rfl, transcribe_remediation_mends_iff otherNodes_named rfl⟩

/-- A user with an ASR model of his own, whose pair is still offered, gets the diarization model of the
new default and a pair that no node offers; and a listed task whose pair no node offered keeps it. -/
theorem remediation_leaves_broken :
    (∃ mended, remediateTranscribe allNodes otherNodes 1 "whisper" (some "nemo") (officeOf ⟨some "gigaam", none⟩ "whisper") =
      some mended ∧ ¬Mended allNodes otherNodes 1 (officeOf ⟨some "gigaam", none⟩ "whisper") mended) ∧
    ∃ mended, remediateTranscribe allNodes otherNodes 1 "whisper" (some "nemo") (officeOf ⟨none, none⟩ "parakeet") =
      some mended ∧ ¬Mended allNodes otherNodes 1 (officeOf ⟨none, none⟩ "parakeet") mended := by
  constructor
  · refine ⟨_, rfl, fun mends => ?_⟩
    have broken := mends.users 5 _ _ rfl rfl (by decide +kernel)
    revert broken
    decide +kernel
  · refine ⟨_, rfl, fun mends => ?_⟩
    have broken := (mends.tasks 7 (by decide +kernel) _ rfl).1
    revert broken
    decide +kernel

end Samples

end IdigestHub.Tasks
