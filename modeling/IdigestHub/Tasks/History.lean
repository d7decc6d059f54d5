import IdigestHub.Billing.Statistics
import IdigestHub.Foundation.Words
import IdigestHub.Library.PlainPages

/-! The purge of the task history: finished tasks go, a batch at a time, and their usage events stay. Times are in microseconds
from the first that a `datetime` has. -/

set_option autoImplicit false

namespace IdigestHub.Tasks.History

open Foundation Library.PlainPages
open Auth (AuthContext)
open Foundation.Pages (Sorting)
open Billing (UsageRow Query usageStats RangeFault)

structure Store (Seconds : Type) where
  tasks : Table Nat TaskRow
  events : List (UsageRow Seconds)

def statusText : TaskStatus → String
  | .queued => "queued"
  | .running => "running"
  | .success => "success"
  | .error => "error"

def day : Nat := 24 * 60 * 60 * 10 ^ 6

/-- `utcnow() - timedelta(days=…)`. -/
def cutoff (now days : Nat) : Except RangeFault Nat :=
  if days ≤ 999999999 ∧ days * day ≤ now then .ok (now - days * day) else .error .overflow

def idClauses (lookup : TaskLookup) (column : TaskRow → Nat) (filter : Option String) : List TaskClause :=
  let id := Text.strip (filter.getD "")
  if id = "" then [] else [fun row => lookup.uuid id == some (column row)]

def statusClause (status : Option String) : TaskClause :=
  let raw := (Text.strip (status.getD "")).toLower
  if raw = "" then fun row => !isActive row.status else fun row => statusText row.status == raw

def retentionClauses (now : Nat) (retentionDays : Option Int) : Except RangeFault (List TaskClause) :=
  match retentionDays.filter (0 < ·) with
  | none => .ok []
  | some days => (cutoff now days.toNat).map fun cutoff => [fun row => decide (row.updatedAt < cutoff)]

def wantedClauses (lookup : TaskLookup) (orgId userId status : Option String) : List TaskClause :=
  [statusClause status] ++ idClauses lookup TaskRow.orgId orgId ++ idClauses lookup TaskRow.userId userId

def purgeFilters (lookup : TaskLookup) (now : Nat) (orgId userId : Option String) (retentionDays : Option Int)
    (status : Option String) : Except RangeFault (List TaskClause) :=
  (retentionClauses now retentionDays).map fun retained => wantedClauses lookup orgId userId status ++ retained

def passes (clauses : List TaskClause) (row : TaskRow) : Bool := clauses.all fun clause => clause row

def purgeBatch : Nat := 500

structure Limited where
  pick : List Nat → List Nat
  subperm : ∀ ids, (pick ids).Subperm ids
  length : ∀ ids, (pick ids).length = min purgeBatch ids.length

section Purging

variable {Seconds : Type}

/-- The two statements for a batch of ids. -/
def deleteTasks (ids : List Nat) (store : Store Seconds) : Store Seconds where
  tasks := store.tasks.keep fun id _ => !ids.contains id
  events := store.events.map fun event => { event with taskId := event.taskId.filter fun id => !ids.contains id }

def doomed (clauses : List TaskClause) (store : Store Seconds) : List Nat := store.tasks.select fun _ row => passes clauses row

theorem doomed_nodup (clauses : List TaskClause) (store : Store Seconds) : (doomed clauses store).Nodup := Table.select_nodup ..

theorem Limited.subset (limited : Limited) (ids : List Nat) : limited.pick ids ⊆ ids := (limited.subperm ids).subset

theorem Limited.nodup (limited : Limited) {ids : List Nat} (nodup : ids.Nodup) : (limited.pick ids).Nodup := by
  obtain ⟨some, perm, sublist⟩ := limited.subperm ids
  exact perm.nodup_iff.mp (nodup.sublist sublist)

theorem Limited.eq_nil {limited : Limited} {ids : List Nat} (empty : limited.pick ids = []) : ids = [] := by
  have length := limited.length ids
  rw [empty, List.length_nil, purgeBatch] at length
  exact List.eq_nil_of_length_eq_zero (by omega)

theorem doomed_deleteTasks (clauses : List TaskClause) (ids : List Nat) (store : Store Seconds) :
    doomed clauses (deleteTasks ids store) = (doomed clauses store).filter fun id => !ids.contains id := by
  rw [doomed, doomed, deleteTasks, Table.select, Table.select, Table.keep, List.filter_map, List.filter_filter,
    List.filter_filter]
  congr 1
  exact List.filter_congr fun row _ => Bool.and_comm ..

theorem length_doomed {clauses : List TaskClause} {ids : List Nat} {store : Store Seconds} (nodup : ids.Nodup)
    (chosen : ids ⊆ doomed clauses store) :
    ids.length + (doomed clauses (deleteTasks ids store)).length = (doomed clauses store).length := by
  have taken : ((doomed clauses store).filter ids.contains).Perm ids := by
    refine (List.perm_ext_iff_of_nodup ((doomed_nodup clauses store).filter _) nodup).mpr fun id => ?_
    rw [List.mem_filter, List.contains_iff_mem]
    exact and_iff_right_of_imp fun member => chosen member
  rw [doomed_deleteTasks, ← taken.length_eq]
  exact (List.length_eq_length_filter_add _).symm

variable (limits : Nat → Limited) (clauses : List TaskClause)

/-- The loop of `purge_terminal_tasks` from its `turn` on, with its count. -/
def purgeFrom (turn deleted : Nat) (store : Store Seconds) : Store Seconds × Nat :=
  let ids := (limits turn).pick (doomed clauses store)
  if _ : ids = [] then (store, deleted) else purgeFrom (turn + 1) (deleted + ids.length) (deleteTasks ids store)
termination_by (doomed clauses store).length
decreasing_by
  rename_i some_id
  have all := length_doomed ((limits turn).nodup (doomed_nodup clauses store)) ((limits turn).subset _)
  have some_length : 0 < ((limits turn).pick (doomed clauses store)).length := List.length_pos_of_ne_nil some_id
  change (doomed clauses (deleteTasks ((limits turn).pick (doomed clauses store)) store)).length < _
  omega

variable {limits clauses}

theorem deleteTasks_nil (store : Store Seconds) : deleteTasks [] store = store := by
  have kept : store.tasks.keep (fun _ _ => true) = store.tasks := AList.ext (List.filter_eq_self.mpr fun _ _ => rfl)
  have linked (link : Option Nat) : link.filter (fun _ => true) = link := by cases link <;> rfl
  have same (event : UsageRow Seconds) : ({ event with taskId := event.taskId.filter fun _ => true } :
    UsageRow Seconds) = event := by
    rw [linked]
  calc deleteTasks [] store = ⟨store.tasks.keep fun _ _ => true, store.events.map fun event =>
        { event with taskId := event.taskId.filter fun _ => true }⟩ := rfl
    _ = store := by rw [kept, funext same, List.map_id']

theorem deleteTasks_deleteTasks {first all : List Nat} (within : first ⊆ all) (store : Store Seconds) :
    deleteTasks (all.filter fun id => !first.contains id) (deleteTasks first store) = deleteTasks all store := by
  have spared (id : Nat) : (!first.contains id && !(all.filter fun id => !first.contains id).contains id) = !all.contains id := by
    by_cases early : id ∈ first
    · simp [early, within early]
    · simp [early]
  have tasks : (store.tasks.keep fun id _ => !first.contains id).keep
      (fun id _ => !(all.filter fun id => !first.contains id).contains id) = store.tasks.keep fun id _ => !all.contains id := by
    refine AList.ext ?_
    simp only [Table.keep, List.filter_filter]
    exact List.filter_congr fun row _ => (Bool.and_comm ..).trans (spared row.1)
  have event (event : UsageRow Seconds) : (event.taskId.filter fun id => !first.contains id).filter
      (fun id => !(all.filter fun id => !first.contains id).contains id) = event.taskId.filter fun id => !all.contains id := by
    rw [Option.filter_filter]
    simp only [spared]
  simp only [deleteTasks, tasks, List.map_map, Function.comp_def, event]

/-- However the batches are chosen, the loop deletes what the filters name. -/
theorem purgeFrom_eq (turn deleted : Nat) (store : Store Seconds) :
    purgeFrom limits clauses turn deleted store =
      (deleteTasks (doomed clauses store) store, deleted + (doomed clauses store).length) := by
  -- The turns of the loop, each with the store that the one before it leaves.
  induction turn, deleted, store using purgeFrom.induct limits clauses with
  | case1 turn deleted store ids ended =>
    -- A limit of some rows returns none of them only where there are none.
    have none_left : doomed clauses store = [] := Limited.eq_nil ended
    rw [purgeFrom, dif_pos ended, none_left, deleteTasks_nil]
    rfl
  | case2 turn deleted store ids more ih =>
    have within : ids ⊆ doomed clauses store := (limits turn).subset _
    have counted := length_doomed ((limits turn).nodup (doomed_nodup clauses store)) within
    rw [purgeFrom, dif_neg more, ih]
    change (deleteTasks (doomed clauses (deleteTasks ids store)) (deleteTasks ids store),
      deleted + ids.length + (doomed clauses (deleteTasks ids store)).length) = _
    rw [← counted, Nat.add_assoc, doomed_deleteTasks, deleteTasks_deleteTasks within]

/-- An event that names a task names one that is there. -/
def Linked (store : Store Seconds) : Prop := ∀ event ∈ store.events, ∀ id, event.taskId = some id → (store.tasks.find id).isSome

/-- What a purge does: it deletes and counts the tasks that its filters name, and no event names one of these. -/
structure Purged (clauses : List TaskClause) (store : Store Seconds) (after : Store Seconds × Nat) : Prop where
  tasks : ∀ id, after.1.tasks.find id = (store.tasks.find id).filter fun row => !passes clauses row
  counted : after.2 = store.tasks.count fun _ row => passes clauses row
  linked : Linked store → Linked after.1

theorem find_purged (store : Store Seconds) (id : Nat) :
    (deleteTasks (doomed clauses store) store).tasks.find id = (store.tasks.find id).filter fun row => !passes clauses row := by
  rw [deleteTasks, Table.find_keep]
  cases found : store.tasks.find id with
  | none => rfl
  | some row =>
    have named : (doomed clauses store).contains id = passes clauses row := by
      rw [Bool.eq_iff_iff, List.contains_iff_mem, doomed, Table.mem_select, found]
      simp
    rw [Option.filter_some, Option.filter_some, named]

theorem purgeFrom_purged (turn : Nat) (store : Store Seconds) : Purged clauses store (purgeFrom limits clauses turn 0 store) := by
  rw [purgeFrom_eq]
  refine ⟨find_purged store, Nat.zero_add _, fun linked event member id names => ?_⟩
  obtain ⟨before, stored, rfl⟩ := List.mem_map.mp member
  obtain ⟨named, spared⟩ := Option.filter_eq_some_iff.mp names
  obtain ⟨row, found⟩ := Option.isSome_iff_exists.mp (linked before stored id named)
  rw [deleteTasks, Table.find_keep, found, Option.filter_some, if_pos spared]
  rfl

end Purging

section Requests

variable {Seconds : Type} (lookup : TaskLookup) (limits : Nat → Limited)

def purgeTerminalTasks (now : Nat) (orgId userId : Option String) (retentionDays : Option Int) (status : Option String)
    (store : Store Seconds) : Except RangeFault (Store Seconds × Nat) :=
  (purgeFilters lookup now orgId userId retentionDays status).map fun clauses => purgeFrom limits clauses 0 0 store

def purgeStatusParam (status : Option String) : Except Auth.Refusal (Option String) :=
  let raw := (Text.strip (status.getD "")).toLower
  if raw = "" then .ok none
  else if raw = "success" || raw = "error" then .ok (some raw)
  else .error (.error .validationError)

/-- `(text or "").strip() or None`. -/
def stripped (text : Option String) : Option String :=
  let text := Text.strip (text.getD "")
  if text = "" then none else some text

def purgeTaskHistory (ctx : AuthContext) (now : Nat) (orgId userId status : Option String) (store : Store Seconds) :
    Except Auth.Refusal (Store Seconds × Nat) :=
  if !ctx.isInstanceAdmin then .error (.error .forbidden)
  else (purgeStatusParam status).bind fun status =>
    (purgeTerminalTasks lookup limits now (stripped orgId) (stripped userId) none status store).mapError
      fun _ => .fault "date value out of range"

def purgeExpiredTaskHistory (now : Nat) (days : Int) (store : Store Seconds) : Except RangeFault (Store Seconds × Nat) :=
  if days ≤ 0 then .ok (store, 0) else purgeTerminalTasks lookup limits now none none (some days) none store

/-- A purge that an administrator asks for, or the one that the dispatcher makes from time to time. What raises is rolled back. -/
inductive Purge where
  | requested (ctx : AuthContext) (now : Nat) (orgId userId status : Option String)
  | scheduled (now : Nat) (days : Int)

def Purge.after (purge : Purge) (store : Store Seconds) : Store Seconds :=
  match purge with
  | .requested ctx now orgId userId status =>
    (purgeTaskHistory lookup limits ctx now orgId userId status store).toOption.elim store Prod.fst
  | .scheduled now days => (purgeExpiredTaskHistory lookup limits now days store).toOption.elim store Prod.fst

end Requests

section Filters

variable {lookup : TaskLookup} {ctx : AuthContext} {now : Nat} {orgId userId status : Option String} {days : Option Int}

theorem idClauses_stripped (column : TaskRow → Nat) (filter : Option String) :
    idClauses lookup column (stripped filter) = idClauses lookup column filter := by
  by_cases blank : Text.strip (filter.getD "") = ""
  · have missing : stripped filter = none := if_pos blank
    rw [missing, idClauses, idClauses, if_pos blank]
    exact if_pos (by rfl)
  · have given : stripped filter = some (Text.strip (filter.getD "")) := if_neg blank
    rw [given, idClauses, idClauses, Option.getD_some, Text.strip_strip]

theorem lower_strip {word : String} (clean : (Text.trimBoth Text.isSpace word.toList).map Char.toLower = word.toList) :
    (Text.strip word).toLower = word := by
  have lower : (Text.strip word).toLower = (Text.strip word).map Char.toLower := rfl
  rw [lower, ← String.toList_inj, String.toList_map, Text.strip, String.toList_ofList, clean]

def IsDone (status : TaskStatus) : Prop := status = .success ∨ status = .error

theorem statusClause_none : statusClause none = fun row => !isActive row.status := if_pos (lower_strip (by decide))

theorem statusClause_text {status : TaskStatus} (isDone : IsDone status) :
    statusClause (some (statusText status)) = fun row => row.status == status := by
  have clean : (Text.strip (statusText status)).toLower = statusText status := by
    rcases isDone with rfl | rfl <;> exact lower_strip (by decide)
  have nonempty : (Text.strip ((some (statusText status)).getD "")).toLower ≠ "" := by
    rw [Option.getD_some, clean]
    cases status <;> decide
  refine (if_neg nonempty).trans (funext fun row => ?_)
  rw [Option.getD_some, clean]
  cases row.status <;> cases status <;> rfl

/-- What `_purge_status_param` accepts. -/
theorem purgeStatusParam_cases {param : Option String} (accepted : purgeStatusParam status = .ok param) :
    ((Text.strip (status.getD "")).toLower = "" ∧ param = none) ∨
      ∃ wanted, IsDone wanted ∧ (Text.strip (status.getD "")).toLower = statusText wanted ∧ param = some (statusText wanted) := by
  rw [purgeStatusParam] at accepted
  by_cases blank : (Text.strip (status.getD "")).toLower = ""
  · rw [if_pos blank] at accepted
    exact .inl ⟨blank, (Except.ok.inj accepted).symm⟩
  rw [if_neg blank] at accepted
  refine .inr ?_
  by_cases success : (Text.strip (status.getD "")).toLower = "success"
  · rw [success] at accepted
    exact ⟨.success, .inl rfl, success, (Except.ok.inj accepted).symm⟩
  by_cases error : (Text.strip (status.getD "")).toLower = "error"
  · rw [error] at accepted
    exact ⟨.error, .inr rfl, error, (Except.ok.inj accepted).symm⟩
  · simp [success, error] at accepted

/-- The filter of a purge by status is the one of the list of finished tasks. -/
theorem doneStatus_of_accepted {param : Option String} (accepted : purgeStatusParam status = .ok param) :
    doneStatusFilters status = .ok [statusClause param] := by
  rw [doneStatusFilters]
  obtain ⟨blank, rfl⟩ | ⟨wanted, isDone, given, rfl⟩ := purgeStatusParam_cases accepted
  · rw [if_pos blank, statusClause_none]
  · rw [given, statusClause_text isDone]
    rcases isDone with rfl | rfl <;> rfl

/-- A purge on request is for the rows that the list of finished tasks has under the same filters. -/
theorem passes_requested (param : Option String) (row : TaskRow) :
    passes (wantedClauses lookup (stripped orgId) (stripped userId) param) row =
      passes (idClauses lookup TaskRow.orgId orgId ++ idClauses lookup TaskRow.userId userId ++ [statusClause param]) row := by
  rw [wantedClauses, idClauses_stripped, idClauses_stripped]
  simp only [passes, List.all_append]
  exact (Bool.and_assoc ..).trans (Bool.and_comm ..)

theorem not_active_of_passes {param : Option String} (marks : ∀ row, statusClause param row = true → isActive row.status = false)
    {clauses : List TaskClause} (given : purgeFilters lookup now orgId userId days param = .ok clauses) {row : TaskRow}
    (named : passes clauses row = true) : isActive row.status = false := by
  rw [purgeFilters] at given
  cases retained : retentionClauses now days with
  | error fault =>
    rw [retained] at given
    contradiction
  | ok retention =>
    rw [retained] at given
    obtain rfl := Except.ok.inj given
    exact marks row (List.all_eq_true.mp named _ (by simp [wantedClauses]))

/-- Without days to go back, nothing raises. -/
theorem purgeFilters_none (now : Nat) (status : Option String) :
    purgeFilters lookup now orgId userId none status = .ok (wantedClauses lookup orgId userId status) :=
  congrArg Except.ok (List.append_nil _)

def Reached (now : Nat) (days : Int) : Prop := days.toNat ≤ 999999999 ∧ days.toNat * day ≤ now

instance (now : Nat) (days : Int) : Decidable (Reached now days) := inferInstanceAs (Decidable (_ ∧ _))

theorem purgeFilters_days {days : Int} (positive : 0 < days) (status : Option String) :
    (∃ clauses, purgeFilters lookup now orgId userId (some days) status = .ok clauses) ↔ Reached now days := by
  have retention : retentionClauses now (some days) =
      (cutoff now days.toNat).map fun cutoff => [fun row => decide (row.updatedAt < cutoff)] := by
    rw [retentionClauses, Option.filter_some, if_pos (decide_eq_true positive)]
  rw [purgeFilters, retention, cutoff, Reached]
  split
  case isTrue reached => exact ⟨fun _ => reached, fun _ => ⟨_, rfl⟩⟩
  case isFalse beyond => exact ⟨fun ⟨_, raised⟩ => by contradiction, fun reached => absurd reached beyond⟩

theorem not_active_of_none (row : TaskRow) (marked : statusClause none row = true) : isActive row.status = false := by
  simpa [statusClause_none] using marked

theorem not_active_of_accepted {param : Option String} (accepted : purgeStatusParam status = .ok param) (row : TaskRow)
    (marked : statusClause param row = true) : isActive row.status = false := by
  obtain ⟨_, rfl⟩ | ⟨wanted, isDone, _, rfl⟩ := purgeStatusParam_cases accepted
  · exact not_active_of_none row marked
  · rw [statusClause_text isDone, beq_iff_eq] at marked
    rcases isDone with rfl | rfl <;> rw [marked] <;> rfl

end Filters

section Lists

variable {Seconds : Type} {store : Store Seconds} {lookup : TaskLookup} {limits : Nat → Limited} {ctx : AuthContext} {now : Nat}
  {orgId userId status : Option String}

theorem listTasksFilters_admin (administrator : ctx.isInstanceAdmin = true) :
    listTasksFilters lookup ctx orgId userId = idClauses lookup TaskRow.orgId orgId ++ idClauses lookup
      TaskRow.userId userId := by
  rw [listTasksFilters, if_pos administrator, visibleTasksFilters, if_pos administrator]
  rfl

/-- Before and after a purge the list of tasks has the same tasks in work; of the finished ones, which the purge has counted,
none is left. -/
structure Emptied (before after : TaskListResponse) (deleted : Nat) : Prop where
  active : after.active = before.active
  done : after.done = []
  doneTotal : after.doneTotal = 0
  counted : deleted = before.doneTotal

theorem passes_append (first second : List TaskClause) (row : TaskRow) :
    passes (first ++ second) row = (passes first row && passes second row) := List.all_append

theorem passes_single (clause : TaskClause) (row : TaskRow) : passes [clause] row = clause row := Bool.and_true _

theorem selectTasks_eq (tasks : Table Nat TaskRow) (clauses : List TaskClause) :
    selectTasks tasks clauses = tasks.entries.filter fun row => passes clauses row.2 := rfl

theorem length_doomed_eq (clauses : List TaskClause) (store : Store Seconds) :
    (doomed clauses store).length = (selectTasks store.tasks clauses).length := List.length_map ..

theorem selectTasks_purged (clauses wanted : List TaskClause) (store : Store Seconds) :
    selectTasks (deleteTasks (doomed clauses store) store).tasks wanted =
      store.tasks.entries.filter fun row => passes wanted row.2 && !passes clauses row.2 := by
  rw [selectTasks, deleteTasks, Table.keep, List.filter_filter]
  refine List.filter_congr fun row member => ?_
  have named : (doomed clauses store).contains row.1 = passes clauses row.2 := by
    rw [Bool.eq_iff_iff, List.contains_iff_mem, doomed, Table.mem_select, (Table.mem_entries ..).mp member]
    simp
  rw [named]
  rfl

theorem purgeTaskHistory_eq (administrator : ctx.isInstanceAdmin = true) {param : Option String}
    (accepted : purgeStatusParam status = .ok param) : purgeTaskHistory lookup limits ctx now orgId userId status store =
      .ok (purgeFrom limits (wantedClauses lookup (stripped orgId) (stripped userId) param) 0 0 store) := by
  have ended : purgeTerminalTasks lookup limits now (stripped orgId) (stripped userId) none param store =
      .ok (purgeFrom limits (wantedClauses lookup (stripped orgId) (stripped userId) param) 0 0 store) := by
    rw [purgeTerminalTasks, purgeFilters_none]
    rfl
  rw [purgeTaskHistory, if_neg (by simp [administrator]), accepted, Except.bind, ended]
  rfl

theorem purgeTaskHistory_ok {after : Store Seconds × Nat}
    (served : purgeTaskHistory lookup limits ctx now orgId userId status store = .ok after) :
    ctx.isInstanceAdmin = true ∧ ∃ param, purgeStatusParam status = .ok param ∧
      after = purgeFrom limits (wantedClauses lookup (stripped orgId) (stripped userId) param) 0 0 store := by
  cases administrator : ctx.isInstanceAdmin with
  | false =>
    rw [purgeTaskHistory, administrator] at served
    contradiction
  | true =>
    cases accepted : purgeStatusParam status with
    | error refusal =>
      rw [purgeTaskHistory, administrator, accepted] at served
      contradiction
    | ok param =>
      rw [purgeTaskHistory_eq administrator accepted] at served
      exact ⟨rfl, param, rfl, (Except.ok.inj served).symm⟩

/-- The button of the page empties the list that the page shows. -/
theorem list_emptied {after : Store Seconds × Nat}
    (served : purgeTaskHistory lookup limits ctx now orgId userId status store = .ok after) (limit offset : Nat)
    (activeEngine doneEngine : Sorting updatedAt) :
    ∃ before emptied, listTasks lookup ctx store.tasks orgId userId status limit offset activeEngine doneEngine = .ok before ∧
      listTasks lookup ctx after.1.tasks orgId userId status limit offset activeEngine doneEngine = .ok emptied ∧
      Emptied before emptied after.2 := by
  obtain ⟨administrator, param, accepted, rfl⟩ := purgeTaskHistory_ok served
  rw [purgeFrom_eq]
  have given := doneStatus_of_accepted accepted
  have named (row : TaskRow) : passes (wantedClauses lookup (stripped orgId) (stripped userId) param) row =
      (passes (listTasksFilters lookup ctx orgId userId) row && statusClause param row) := by
    rw [passes_requested, listTasksFilters_admin administrator, passes_append, passes_single]
  have idle (row : TaskRow) (marked : statusClause param row = true) : isActive row.status = false :=
    not_active_of_accepted accepted row marked
  refine ⟨_, _, listTasks_eq lookup store.tasks orgId userId given limit offset activeEngine doneEngine,
    listTasks_eq lookup _ orgId userId given limit offset activeEngine doneEngine, ?_, ?_, ?_, ?_⟩
  · dsimp only
    congr 1
    rw [selectTasks_purged, selectTasks_eq]
    refine List.filter_congr fun row _ => ?_
    rw [named, passes_append, passes_single]
    -- The tasks in work are under no filter of the purge.
    cases marked : statusClause param row.2 with
    | false => simp
    | true => simp [idle row.2 marked]
  · have gone : selectTasks
        (deleteTasks (doomed (wantedClauses lookup (stripped orgId) (stripped userId) param) store) store).tasks
        (listTasksFilters lookup ctx orgId userId ++ [statusClause param]) = [] := by
      rw [selectTasks_purged]
      refine List.filter_eq_nil_iff.mpr fun row _ => ?_
      rw [named, passes_append, passes_single, Bool.and_not_self]
      exact Bool.false_ne_true
    have none_ordered : doneEngine.order [] = [] := (doneEngine.perm []).eq_nil
    dsimp only
    rw [gone, none_ordered, Pages.page, List.drop_nil, List.take_nil]
  · dsimp only
    rw [selectTasks_purged, List.length_eq_zero_iff]
    refine List.filter_eq_nil_iff.mpr fun row _ => ?_
    rw [named, passes_append, passes_single, Bool.and_comm (statusClause param row.2), Bool.and_not_self]
    exact Bool.false_ne_true
  · dsimp only
    rw [Nat.zero_add, length_doomed_eq, selectTasks_eq, selectTasks_eq]
    refine congrArg List.length (List.filter_congr fun row _ => ?_)
    rw [named, passes_append, passes_single, Bool.and_comm]

end Lists

section Statistics

variable {Seconds : Type}

def unlinked (event : UsageRow Seconds) : UsageRow Seconds := { event with taskId := none }

theorem unlinked_relinked (ids : List Nat) (store : Store Seconds) :
    (deleteTasks ids store).events.map unlinked = store.events.map unlinked := by
  rw [deleteTasks, List.map_map]
  rfl

variable [Zero Seconds] [Add Seconds]

/-- A statistic takes no notice of the tasks of its events. -/
theorem usageStats_unlinked (query : Query) (events : List (UsageRow Seconds)) :
    usageStats query (events.map unlinked) = usageStats query events := by
  have rows : query.rows (events.map unlinked) = (query.rows events).map unlinked := by
    rw [Query.rows, Query.rows, List.filter_map]
    exact (List.map_insertionSort _ _ unlinked _ fun _ _ _ _ => Iff.rfl).symm
  have accumulated (rows : List (UsageRow Seconds)) : Billing.accumulate (rows.map unlinked) = Billing.accumulate rows :=
    List.foldl_map ..
  rw [usageStats, rows, accumulated]
  rfl

end Statistics

section Runs

variable {Seconds : Type}

/-- What happens to the history: the hub writes a task, charges for one, or purges. -/
inductive Happening (Seconds : Type) where
  | written (id : Nat) (row : TaskRow)
  | charged (event : UsageRow Seconds)
  | purged (purge : Purge) (limits : Nat → Limited)

def Happening.isPurge : Happening Seconds → Bool
  | .purged .. => true
  | _ => false

def Store.step (lookup : TaskLookup) (store : Store Seconds) : Happening Seconds → Store Seconds
  | .written id row => { store with tasks := store.tasks.put id row }
  | .charged event => { store with events := store.events ++ [event] }
  | .purged purge limits => purge.after lookup limits store

def Store.run (lookup : TaskLookup) (store : Store Seconds) (happenings : List (Happening Seconds)) : Store Seconds :=
  happenings.foldl (Store.step lookup) store

/-- A store that has been purged beside one that has not: it lacks finished tasks only, and has every event. -/
structure Unseen (whole store : Store Seconds) : Prop where
  tasks : ∀ id, store.tasks.find id = whole.tasks.find id ∨
    store.tasks.find id = none ∧ ∃ row, whole.tasks.find id = some row ∧ isActive row.status = false
  events : store.events.map unlinked = whole.events.map unlinked

variable {lookup : TaskLookup} {whole store : Store Seconds}

theorem Unseen.refl (store : Store Seconds) : Unseen store store := ⟨fun _ => .inl rfl, rfl⟩

/-- A purge raises or has nothing to do, or it runs the loop with filters that no task in work passes. -/
theorem Purge.after_cases (purge : Purge) (limits : Nat → Limited) (store : Store Seconds) :
    purge.after lookup limits store = store ∨ ∃ clauses, (∀ row, passes clauses row = true → isActive row.status = false) ∧
      purge.after lookup limits store = (purgeFrom limits clauses 0 0 store).1 := by
  cases purge with
  | requested ctx now orgId userId status =>
    rw [Purge.after]
    cases served : purgeTaskHistory lookup limits ctx now orgId userId status store with
    | error refusal => exact .inl rfl
    | ok after =>
      obtain ⟨_, param, accepted, rfl⟩ := purgeTaskHistory_ok served
      exact .inr ⟨_, fun row => not_active_of_passes (not_active_of_accepted accepted) (purgeFilters_none now param), rfl⟩
  | scheduled now days =>
    rw [Purge.after, purgeExpiredTaskHistory]
    split
    · exact .inl rfl
    · rw [purgeTerminalTasks]
      cases given : purgeFilters lookup now none none (some days) none with
      | error fault => exact .inl rfl
      | ok clauses => exact .inr ⟨clauses, fun row => not_active_of_passes not_active_of_none given, rfl⟩

theorem Unseen.purge (unseen : Unseen whole store) (purge : Purge) (limits : Nat → Limited) :
    Unseen whole (purge.after lookup limits store) := by
  obtain same | ⟨clauses, finished, its⟩ := @Purge.after_cases _ lookup purge limits store
  · rw [same]
    exact unseen
  rw [its, purgeFrom_eq]
  refine ⟨fun id => ?_, (unlinked_relinked _ store).trans unseen.events⟩
  rw [find_purged]
  obtain same | ⟨gone, row⟩ := unseen.tasks id
  · rw [same]
    cases found : whole.tasks.find id with
    | none => exact .inl rfl
    | some row =>
      -- Only a row that the filters name goes, and such a row is finished.
      cases named : passes clauses row with
      | false => exact .inl (by simp [named])
      | true => exact .inr ⟨by simp [named], row, rfl, finished row named⟩
  · rw [gone]
    exact .inr ⟨rfl, row⟩

theorem Unseen.written (unseen : Unseen whole store) (id : Nat) (row : TaskRow) :
    Unseen (whole.step lookup (.written id row)) (store.step lookup (.written id row)) := by
  refine ⟨fun other => ?_, unseen.events⟩
  simp only [Store.step, Table.find_put]
  split
  · exact .inl rfl
  · exact unseen.tasks other

theorem Unseen.charged (unseen : Unseen whole store) (event : UsageRow Seconds) :
    Unseen (whole.step lookup (.charged event)) (store.step lookup (.charged event)) := by
  refine ⟨unseen.tasks, ?_⟩
  simp only [Store.step, List.map_append, unseen.events]

theorem Unseen.run (unseen : Unseen whole store) (happenings : List (Happening Seconds)) :
    Unseen (whole.run lookup (happenings.filter fun happening => !happening.isPurge)) (store.run lookup happenings) := by
  -- Both stores go on with the happenings, so both are generalised; a purge is a step of one of them.
  induction happenings generalizing whole store with
  | nil => exact unseen
  | cons happening rest ih =>
    cases happening with
    | written id row => exact ih (unseen.written id row)
    | charged event => exact ih (unseen.charged event)
    | purged purge limits => exact ih (unseen.purge purge limits)

end Runs

section Ends

variable {Seconds : Type} {lookup : TaskLookup}

theorem purgeExpired_ends (limits : Nat → Limited) (now : Nat) (days : Int) (store : Store Seconds) :
    (∃ after, purgeExpiredTaskHistory lookup limits now days store = .ok after) ↔ days ≤ 0 ∨ Reached now days := by
  rw [purgeExpiredTaskHistory]
  by_cases off : days ≤ 0
  · rw [if_pos off]
    exact ⟨fun _ => .inl off, fun _ => ⟨_, rfl⟩⟩
  rw [if_neg off, or_iff_right off, ← purgeFilters_days (Int.not_le.mp off) none, purgeTerminalTasks]
  cases purgeFilters lookup now none none (some days) none with
  | error fault => exact ⟨fun ⟨_, raised⟩ => by contradiction, fun ⟨_, raised⟩ => by contradiction⟩
  | ok clauses => exact ⟨fun _ => ⟨clauses, rfl⟩, fun _ => ⟨_, rfl⟩⟩

theorem purgeTerminalTasks_exact {limits : Nat → Limited} {now : Nat} {orgId userId status : Option String} {days : Option Int}
    {store : Store Seconds} {after : Store Seconds × Nat}
    (ended : purgeTerminalTasks lookup limits now orgId userId days status store = .ok after) :
    ∃ clauses, purgeFilters lookup now orgId userId days status = .ok clauses ∧ Purged clauses store after := by
  rw [purgeTerminalTasks] at ended
  cases given : purgeFilters lookup now orgId userId days status with
  | error fault =>
    rw [given] at ended
    contradiction
  | ok clauses =>
    rw [given] at ended
    obtain rfl := Except.ok.inj ended
    exact ⟨clauses, rfl, purgeFrom_purged 0 store⟩

end Ends

section Purges

variable (Seconds : Type) [Zero Seconds] [Add Seconds] (lookup : TaskLookup)

/-- What purges are: they end but where the days of a schedule reach back too far, are exact, whatever the batches, and are seen
in the list of finished tasks only. -/
structure HistoryPurged : Prop where
  ends : ∀ limits now days (store : Store Seconds),
    (∃ after, purgeExpiredTaskHistory lookup limits now days store = .ok after) ↔ days ≤ 0 ∨ Reached now days
  exact : ∀ limits now orgId userId days status (store : Store Seconds) after,
    purgeTerminalTasks lookup limits now orgId userId days status store = .ok after →
    ∃ clauses, purgeFilters lookup now orgId userId days status = .ok clauses ∧ Purged clauses store after
  emptied : ∀ limits ctx now orgId userId status (store : Store Seconds) after,
    purgeTaskHistory lookup limits ctx now orgId userId status store = .ok after →
    ∀ limit offset activeEngine doneEngine, ∃ before emptied,
      listTasks lookup ctx store.tasks orgId userId status limit offset activeEngine doneEngine = .ok before ∧
      listTasks lookup ctx after.1.tasks orgId userId status limit offset activeEngine doneEngine = .ok emptied ∧
      Emptied before emptied after.2
  unseen : ∀ (start : Store Seconds) happenings,
    Unseen (start.run lookup (happenings.filter fun happening => !happening.isPurge)) (start.run lookup happenings)
  totals : ∀ (start : Store Seconds) happenings query, usageStats query (start.run lookup happenings).events =
    usageStats query (start.run lookup (happenings.filter fun happening => !happening.isPurge)).events

/-- Purging the history of tasks loses no task in work and no charge. -/
theorem history_purged : HistoryPurged Seconds lookup where
  ends := purgeExpired_ends
  exact _ _ _ _ _ _ _ _ := purgeTerminalTasks_exact
  emptied _ _ _ _ _ _ _ _ served limit offset activeEngine doneEngine := list_emptied served limit offset activeEngine doneEngine
  unseen start happenings := (Unseen.refl start).run happenings
  totals start happenings query := by
    have same := (@Unseen.run _ lookup _ _ (.refl start) happenings).events
    rw [← usageStats_unlinked, same, usageStats_unlinked]

end Purges

def firstRows : Limited where
  pick ids := ids.take purgeBatch
  subperm _ := (List.take_sublist ..).subperm
  length _ := List.length_take

def twoTasks : Store Nat where
  tasks := ((∅ : Table Nat TaskRow).put 1 ⟨1, 1, .queued, 0⟩).put 2 ⟨1, 1, .success, 0⟩
  events := []

/-- A day and a moment later, a purge of what is older than a day ends, and the task in work is there. -/
theorem history_purged_two : ∃ after, purgeExpiredTaskHistory ⟨fun _ => none⟩ (fun _ => firstRows)
    (day + 1) 1 twoTasks = .ok after ∧
    after.1.tasks.find 1 = some ⟨1, 1, .queued, 0⟩ ∧ after.1.tasks.find 2 = none ∧ after.2 = 1 := by
  have purged := history_purged Nat ⟨fun _ => none⟩
  obtain ⟨after, ended⟩ := (purged.ends (fun _ => firstRows) (day + 1) 1 twoTasks).mpr (.inr (by decide))
  obtain ⟨clauses, given, its⟩ := purged.exact (fun _ => firstRows) (day + 1) none none (some 1) none twoTasks after ended
  have older : purgeFilters ⟨fun _ => none⟩ (day + 1) none none (some 1) none =
      .ok (wantedClauses ⟨fun _ => none⟩ none none none ++ [fun row => decide (row.updatedAt < 1)]) := rfl
  obtain rfl : _ = clauses := Except.ok.inj (older.symm.trans given)
  refine ⟨after, ended, ?_, ?_, ?_⟩
  · rw [its.tasks]
    decide +kernel
  · rw [its.tasks]
    decide +kernel
  · rw [its.counted]
    decide +kernel

end IdigestHub.Tasks.History
