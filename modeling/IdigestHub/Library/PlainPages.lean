import IdigestHub.Foundation.Pages
import IdigestHub.Hub.Records
import IdigestHub.Library.Visibility

/-! Lists that are sorted by a time alone, a page at a time: the library, the history of tasks, and the lists to pick from in
Telegram. -/

set_option autoImplicit false

namespace IdigestHub.Library.PlainPages

open Foundation
open Foundation.Pages (Sorting Once Straddles page)
open Auth (AuthContext)

abbrev Entry : Type := (_ : Nat) × LibraryRow

def createdAt (entry : Entry) : Nat := entry.2.createdAt

structure TaskRow where
  orgId : Nat
  userId : Nat
  status : TaskStatus
  updatedAt : Nat
  deriving DecidableEq

abbrev TaskEntry : Type := (_ : Nat) × TaskRow

def updatedAt (entry : TaskEntry) : Nat := entry.2.updatedAt

section Library

variable (lookup : Lookup) (ctx : AuthContext) (db : Shelves) (kind : Kind)
variable (includeHidden : Bool) (tag : Option String) (ownerUserId : Option Nat) (q : Option String)

def visibleRows : Except Auth.Refusal (List Entry) := do
  match ← libraryVisibilityFilters lookup ctx db kind includeHidden tag ownerUserId q with
  | none => return []
  | some filters => return (db.rows kind).entries.filter fun row => passes filters row.1 row.2

/-- `list_library_rows` where the database puts the rows in order as `engine` does. -/
def listLibraryRows (limit : Option Nat) (offset : Nat) (engine : Sorting createdAt) : Except Auth.Refusal (List Entry) := do
  match ← libraryVisibilityFilters lookup ctx db kind includeHidden tag ownerUserId q with
  | none => return []
  | some filters =>
    let rows := engine.order ((db.rows kind).entries.filter fun row => passes filters row.1 row.2)
    let query := if offset = 0 then rows else rows.drop offset
    return limit.elim query query.take

end Library

section Tasks

/-- What the list of tasks takes of its filters: an id that a text spells. -/
structure TaskLookup where
  uuid : String → Option Nat

variable (lookup : TaskLookup) (ctx : AuthContext)

abbrev TaskClause := TaskRow → Bool

def visibleTasksFilters : List TaskClause :=
  if ctx.isInstanceAdmin then []
  else
    match orgId ctx with
    | none => [fun row => row.userId == ctx.userId]
    | some org =>
      if isOrgAdmin ctx then [fun row => row.orgId == org] else [fun row => row.orgId == org, fun row => row.userId == ctx.userId]

def listTasksFilters (orgId userId : Option String) : List TaskClause :=
  let orgFilter := Text.strip (orgId.getD "")
  let userFilter := Text.strip (userId.getD "")
  let ofOrg : TaskClause := fun row => lookup.uuid orgFilter == some row.orgId
  let ofUser : TaskClause := fun row => lookup.uuid userFilter == some row.userId
  if ctx.isInstanceAdmin then
    visibleTasksFilters ctx ++ (if orgFilter = "" then [] else [ofOrg]) ++ (if userFilter = "" then [] else [ofUser])
  else if isOrgAdmin ctx && userFilter != "" then visibleTasksFilters ctx ++ [ofUser]
  else visibleTasksFilters ctx

def isActive (status : TaskStatus) : Bool := status == .queued || status == .running

def doneStatusFilters (status : Option String) : Except Auth.Refusal (List TaskClause) :=
  let raw := (Text.strip (status.getD "")).toLower
  if raw = "" then .ok [fun row => !isActive row.status]
  else if raw = "success" then .ok [fun row => row.status == .success]
  else if raw = "error" then .ok [fun row => row.status == .error]
  else .error (.error .validationError)

def selectTasks (tasks : Table Nat TaskRow) (clauses : List TaskClause) : List TaskEntry :=
  tasks.entries.filter fun row => clauses.all fun clause => clause row.2

structure TaskListResponse where
  active : List TaskEntry
  done : List TaskEntry
  doneTotal : Nat

def listTasks (tasks : Table Nat TaskRow) (orgId userId status : Option String) (doneLimit doneOffset : Nat)
    (activeEngine doneEngine : Sorting updatedAt) : Except Auth.Refusal TaskListResponse := do
  let filters := listTasksFilters lookup ctx orgId userId
  let doneStatus ← doneStatusFilters status
  let activeRows := activeEngine.order (selectTasks tasks (filters ++ [fun row => isActive row.status]))
  let doneTotal := (selectTasks tasks (doneStatus ++ filters)).length
  let doneRows := ((doneEngine.order (selectTasks tasks (filters ++ doneStatus))).drop doneOffset).take doneLimit
  return { active := activeRows, done := doneRows, doneTotal }

end Tasks

section Picking

variable (lookup : Lookup) (ctx : AuthContext) (db : Shelves)

structure PickPage where
  rows : List Entry
  hasPrev : Bool
  hasMore : Bool

/-- `_list_recent_summaries`, `_list_recent_audios` and `_list_recent_transcripts`, which ask again for each row whether the
caller may read it. -/
def listRecent (kind : Kind) (page pageSize : Nat) (engine : Sorting createdAt) : Except Auth.Refusal PickPage := do
  let offset := page * pageSize
  let rows ← listLibraryRows lookup ctx db kind false none none none (some (pageSize + 1)) offset engine
  let out := rows.filter fun row => readable ctx db kind row.1 row.2
  return { rows := out.take pageSize, hasPrev := decide (0 < page), hasMore := decide (pageSize < out.length) }

end Picking

section Paging

variable {lookup : Lookup} {ctx : AuthContext} {db : Shelves} {kind : Kind}

theorem order_nil {A : Type} {key : A → Nat} (engine : Sorting key) : engine.order [] = [] := (engine.perm []).eq_nil

theorem listLibraryRows_eq (includeHidden : Bool) (tag : Option String) (ownerUserId : Option Nat) (q : Option String)
    (n offset : Nat)
    (engine : Sorting createdAt) : listLibraryRows lookup ctx db kind includeHidden tag ownerUserId q (some n) offset engine =
      (visibleRows lookup ctx db kind includeHidden tag ownerUserId q).map fun rows => page (engine.order rows) offset n := by
  have dropped (rows : List Entry) : (if offset = 0 then rows else rows.drop offset) = rows.drop offset := by
    split
    · rename_i start
      rw [start, List.drop_zero]
    · rfl
  rw [listLibraryRows, visibleRows]
  cases libraryVisibilityFilters lookup ctx db kind includeHidden tag ownerUserId q with
  | error refusal => rfl
  | ok filters =>
    cases filters with
    | none => simp [bind, Except.bind, pure, Except.pure, Except.map, order_nil, page]
    | some filters => simp [bind, Except.bind, pure, Except.pure, Except.map, dropped, page]

/-- Every row of a list without a tag is one that the caller may read. -/
theorem readable_of_visible {rows : List Entry} (visible : visibleRows lookup ctx db kind false none none none = .ok rows) :
    ∀ row ∈ rows, readable ctx db kind row.1 row.2 = true := by
  rw [visibleRows] at visible
  rcases filters_eq lookup ctx db kind with ⟨refused, _⟩ | ⟨filters, given, same⟩
  · rw [refused] at visible
    contradiction
  · rw [given] at visible
    obtain rfl := Except.ok.inj visible
    intro row member
    have passed := (List.mem_filter.mp member).2
    rw [passes_append, same, Bool.and_eq_true] at passed
    exact passed.1

/-- No row is left out when the lists to pick from ask again, so that their pages are those of the library. -/
theorem listRecent_eq {rows : List Entry} (visible : visibleRows lookup ctx db kind false none none none = .ok rows)
    (place n : Nat)
    (engine : Sorting createdAt) : listRecent lookup ctx db kind place n engine =
      .ok ⟨page (engine.order rows) (place * n) n, decide (0 < place), decide ((place + 1) * n < rows.length)⟩ := by
  have kept : (page (engine.order rows) (place * n) (n + 1)).filter (fun row => readable ctx db kind row.1 row.2) =
      page (engine.order rows) (place * n) (n + 1) :=
    List.filter_eq_self.mpr fun row member =>
      readable_of_visible visible row ((engine.perm rows).subset ((Pages.page_sublist _ _ _).subset member))
  have length : (page (engine.order rows) (place * n) (n + 1)).length = min (n + 1) (rows.length - place * n) := by
    rw [page, List.length_take, List.length_drop, (engine.perm rows).length_eq]
  have more : decide (n < (page (engine.order rows) (place * n) (n + 1)).length) = decide ((place + 1) * n < rows.length) := by
    rw [length, Nat.succ_mul]
    exact decide_eq_decide.mpr (by omega)
  rw [listRecent]
  dsimp only
  rw [listLibraryRows_eq, visible]
  change Except.ok _ = _
  rw [kept, more]
  have shown : (page (engine.order rows) (place * n) (n + 1)).take n = page (engine.order rows) (place * n) n := by
    rw [page, List.take_take, Nat.min_eq_left (Nat.le_succ n)]
    rfl
  rw [shown]

end Paging

section Once

/-- The pages of a list of the library that follow one another hold each visible row once, however each query orders ties. -/
def LibraryOnce (lookup : Lookup) (ctx : AuthContext) (db : Shelves) (kind : Kind) (includeHidden : Bool) (tag : Option String)
    (ownerUserId : Option Nat) (q : Option String) (n : Nat) : Prop :=
  ∀ rows, visibleRows lookup ctx db kind includeHidden tag ownerUserId q = .ok rows → ∀ engines : Nat → Sorting createdAt,
    ∃ pages, (∀ i, listLibraryRows lookup ctx db kind includeHidden tag ownerUserId q (some n) (i * n) (engines i) =
      .ok (pages i)) ∧
      Once rows n pages

def TasksOnce (lookup : TaskLookup) (ctx : AuthContext) (tasks : Table Nat TaskRow) (orgId userId status : Option String)
    (n : Nat) : Prop :=
  ∀ doneStatus, doneStatusFilters status = .ok doneStatus → ∀ active engines : Nat → Sorting updatedAt,
    ∃ responses : Nat → TaskListResponse,
      (∀ i, listTasks lookup ctx tasks orgId userId status n (i * n) (active i) (engines i) = .ok (responses i)) ∧
      Once (selectTasks tasks (listTasksFilters lookup ctx orgId userId ++ doneStatus)) n fun i => (responses i).done

def PicksOnce (lookup : Lookup) (ctx : AuthContext) (db : Shelves) (kind : Kind) (n : Nat) : Prop :=
  ∀ rows, visibleRows lookup ctx db kind false none none none = .ok rows → ∀ engines : Nat → Sorting createdAt,
    ∃ pages : Nat → PickPage, (∀ i, listRecent lookup ctx db kind i n (engines i) = .ok (pages i)) ∧
      Once rows n fun i => (pages i).rows

variable {lookup : Lookup} {ctx : AuthContext} {db : Shelves} {kind : Kind}

theorem entries_nodup {K R : Type} [DecidableEq K] (t : Table K R) : t.entries.Nodup := List.Nodup.of_map Sigma.fst t.nodupKeys

theorem visibleRows_nodup {includeHidden : Bool} {tag : Option String} {ownerUserId : Option Nat} {q : Option String}
    {rows : List Entry}
    (visible : visibleRows lookup ctx db kind includeHidden tag ownerUserId q = .ok rows) : rows.Nodup := by
  rw [visibleRows] at visible
  cases its : libraryVisibilityFilters lookup ctx db kind includeHidden tag ownerUserId q with
  | error refusal =>
    rw [its] at visible
    contradiction
  | ok filters =>
    rw [its] at visible
    cases filters with
    | none =>
      obtain rfl := Except.ok.inj visible
      exact List.nodup_nil
    | some filters =>
      obtain rfl := Except.ok.inj visible
      exact (entries_nodup _).filter _

theorem libraryOnce_iff (includeHidden : Bool) (tag : Option String) (ownerUserId : Option Nat) (q : Option String) (n : Nat) :
    LibraryOnce lookup ctx db kind includeHidden tag ownerUserId q n ↔
      ∀ rows, visibleRows lookup ctx db kind includeHidden tag ownerUserId q = .ok rows → ¬ Straddles createdAt rows n := by
  refine forall₂_congr fun rows visible => ?_
  rw [← Pages.once_iff (visibleRows_nodup visible)]
  refine forall_congr' fun engines => ⟨fun ⟨pages, shown, once⟩ => ?_, fun once => ⟨_, fun i => ?_, once⟩⟩
  · have same : pages = fun i => page ((engines i).order rows) (i * n) n := funext fun i => by
      have its := shown i
      rw [listLibraryRows_eq, visible] at its
      exact (Except.ok.inj its).symm
    exact same ▸ once
  · rw [listLibraryRows_eq, visible]
    rfl

theorem picksOnce_iff (n : Nat) : PicksOnce lookup ctx db kind n ↔
    ∀ rows, visibleRows lookup ctx db kind false none none none = .ok rows → ¬ Straddles createdAt rows n := by
  refine forall₂_congr fun rows visible => ?_
  rw [← Pages.once_iff (visibleRows_nodup visible)]
  refine forall_congr' fun engines => ⟨fun ⟨pages, shown, once⟩ => ?_, fun once =>
    ⟨_, fun i => listRecent_eq visible i n (engines i), once⟩⟩
  have same : (fun i => (pages i).rows) = fun i => page ((engines i).order rows) (i * n) n := funext fun i => by
    have its := shown i
    rw [listRecent_eq visible] at its
    exact (congrArg PickPage.rows (Except.ok.inj its)).symm
  exact same ▸ once

theorem listTasks_eq (tasksLookup : TaskLookup) (tasks : Table Nat TaskRow) (orgId userId : Option String)
    {status : Option String}
    {doneStatus : List TaskClause} (given : doneStatusFilters status = .ok doneStatus) (n offset : Nat)
      (active engine : Sorting updatedAt) :
    listTasks tasksLookup ctx tasks orgId userId status n offset active engine = .ok
      { active := active.order (selectTasks tasks (listTasksFilters tasksLookup ctx orgId userId ++
        [fun row => isActive row.status]))
        done := page (engine.order (selectTasks tasks (listTasksFilters tasksLookup ctx orgId userId ++ doneStatus))) offset n
        doneTotal := (selectTasks tasks (doneStatus ++ listTasksFilters tasksLookup ctx orgId userId)).length } := by
  rw [listTasks, given]
  rfl

theorem tasksOnce_iff (tasksLookup : TaskLookup) (tasks : Table Nat TaskRow) (orgId userId status : Option String) (n : Nat) :
    TasksOnce tasksLookup ctx tasks orgId userId status n ↔ ∀ doneStatus, doneStatusFilters status = .ok doneStatus →
      ¬ Straddles updatedAt (selectTasks tasks (listTasksFilters tasksLookup ctx orgId userId ++ doneStatus)) n := by
  refine forall₂_congr fun doneStatus given => ?_
  have distinct : (selectTasks tasks (listTasksFilters tasksLookup ctx orgId userId ++ doneStatus)).Nodup :=
    (entries_nodup tasks).filter _
  rw [← Pages.once_iff distinct]
  constructor
  · intro once engines
    obtain ⟨responses, shown, once⟩ := once (fun _ => .stable updatedAt) engines
    have same : (fun i => (responses i).done) = fun i => page ((engines i).order
        (selectTasks tasks (listTasksFilters tasksLookup ctx orgId userId ++ doneStatus))) (i * n) n := funext fun i => by
      have its := shown i
      rw [listTasks_eq tasksLookup tasks orgId userId given] at its
      exact (congrArg TaskListResponse.done (Except.ok.inj its)).symm
    exact same ▸ once
  · intro once active engines
    exact ⟨_, fun i => listTasks_eq tasksLookup tasks orgId userId given n (i * n) (active i) (engines i), once engines⟩

/-- Plain pages hold each visible row once exactly where no page ends between two rows of one time. -/
theorem plain_pages_once_iff (lookup : Lookup) (ctx : AuthContext) (db : Shelves) (kind : Kind) (includeHidden : Bool)
    (tag : Option String)
    (ownerUserId : Option Nat) (q : Option String) (limit : Nat) (taskLookup : TaskLookup) (tasks : Table Nat TaskRow)
    (orgId userId status : Option String) (doneLimit pageSize : Nat) :
    (LibraryOnce lookup ctx db kind includeHidden tag ownerUserId q limit ∧
        TasksOnce taskLookup ctx tasks orgId userId status doneLimit ∧ PicksOnce lookup ctx db kind pageSize) ↔
      (∀ rows, visibleRows lookup ctx db kind includeHidden tag ownerUserId q = .ok rows → ¬ Straddles createdAt rows limit) ∧
        (∀ doneStatus, doneStatusFilters status = .ok doneStatus →
          ¬ Straddles updatedAt (selectTasks tasks (listTasksFilters taskLookup ctx orgId userId ++ doneStatus)) doneLimit) ∧
        ∀ rows, visibleRows lookup ctx db kind false none none none = .ok rows → ¬ Straddles createdAt rows pageSize :=
  and_congr (libraryOnce_iff includeHidden tag ownerUserId q limit)
    (and_congr (tasksOnce_iff taskLookup tasks orgId userId status doneLimit) (picksOnce_iff pageSize))

def restored : Shelves where
  rows
    | .audio => (Table.put ∅ 1 ⟨0, 0, 5⟩).put 2 ⟨0, 0, 5⟩
    | _ => ∅
  shares := ∅
  hiddenItems := ∅
  tagStore := .empty 0

def plainLookup : Lookup where
  casefold := id
  uuid := fun _ => none
  matches_ := fun _ _ _ => true

/-- Pages of one audio each may show one of two audios twice and the other never. -/
theorem not_libraryOnce_tie : ¬ LibraryOnce plainLookup administrator restored .audio true none none none 1 := by
  intro once
  refine (libraryOnce_iff true none none none 1).mp once ((restored.rows .audio).entries) rfl ⟨⟨1, ⟨0, 0, 5⟩⟩, ?_, 1, ?_⟩
  · decide
  · decide

end Once

end IdigestHub.Library.PlainPages
