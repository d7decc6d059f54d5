import IdigestHub.Billing.Statistics
import IdigestHub.Foundation.Csv
import IdigestHub.Foundation.Pages

/-! The audit log: its list, a page at a time, and its export as comma-separated values. -/

set_option autoImplicit false

namespace IdigestHub.Audit

open Foundation Foundation.Pages
open Foundation.Calendar (Moment)
open Foundation.Csv (Row writeRows read_writeRows)
open Billing (Range)

structure AuditLog (Payload : Type) where
  actorUserId : Option Nat
  onBehalfOfUserId : Option Nat
  action : List Char
  payload : Option Payload
  createdAt : Moment
  deriving DecidableEq

structure Membership where
  userId : Nat
  orgId : Nat
  deriving DecidableEq

structure Database (Payload : Type) where
  logs : Table Nat (AuditLog Payload)
  -- the e-mail addresses of the users
  users : Table Nat (List Char)
  memberships : List Membership

structure Filter where
  range : Range
  orgId : Option Nat
  userId : Option Nat
  action : Option (List Char)

abbrev Logged (Payload : Type) : Type := (_ : Nat) × AuditLog Payload

def createdAt {Payload : Type} (row : Logged Payload) : Nat := row.2.createdAt.number

/-- An execution of the query of `list_audit`, which is in the order of the dates. -/
abbrev Engine (Payload : Type) : Type := Sorting (@createdAt Payload)

/-- What `list_audit` returns of a row, but for the names that are shown. -/
structure AuditItem (Payload : Type) where
  id : Nat
  action : List Char
  actorEmail : Option (List Char)
  onBehalfOfEmail : Option (List Char)
  payload : Option Payload
  createdAt : List Char
  deriving DecidableEq

section Lists

variable {Payload : Type} (db : Database Payload) (filter : Filter)

def memberIds (orgId : Nat) : List Nat := (db.memberships.filter fun row => row.orgId == orgId).map Membership.userId

/-- `_audit_filters`. -/
def passes (log : AuditLog Payload) : Bool :=
  filter.range.covers log.createdAt &&
    (filter.orgId.all fun orgId =>
      log.actorUserId.any (memberIds db orgId).contains || log.onBehalfOfUserId.any (memberIds db orgId).contains) &&
    (filter.userId.all fun userId => log.actorUserId == some userId || log.onBehalfOfUserId == some userId) &&
    (filter.action.filter (· ≠ [])).all fun action => log.action == action

def selected : List (Logged Payload) := db.logs.entries.filter fun row => passes db filter row.2

def auditItem (row : Logged Payload) : AuditItem Payload where
  id := row.1
  action := row.2.action
  actorEmail := row.2.actorUserId.bind db.users.find
  onBehalfOfEmail := row.2.onBehalfOfUserId.bind db.users.find
  payload := row.2.payload
  createdAt := row.2.createdAt.isoformatUtc

/-- `list_audit` where the database puts the rows in order as `engine` does, and the total. -/
def listAudit (engine : Engine Payload) (limit offset : Nat) : List (AuditItem Payload) × Nat :=
  ((page (engine.order (selected db filter)) offset limit).map (auditItem db), (selected db filter).length)

def exportBatch : Nat := 1000

def csvHeader : Row := ["created_at", "action", "actor_email", "on_behalf_of_email", "payload"].map String.toList

-- `json.dumps`
variable (dumps : Payload → List Char)

def csvLine (item : AuditItem Payload) : Row :=
  [item.createdAt, item.action, item.actorEmail.getD [], item.onBehalfOfEmail.getD [], item.payload.elim [] dumps]

/-- The loop of `export_audit_csv` from its `turn` on: what it writes. -/
def exportFrom (engines : Nat → Engine Payload) (turn offset : Nat) : List (AuditItem Payload) :=
  let listed := listAudit db filter (engines turn) exportBatch offset
  if _ : listed.1 = [] then []
  else if _ : listed.2 ≤ offset + listed.1.length then listed.1
  else listed.1 ++ exportFrom engines (turn + 1) (offset + listed.1.length)
termination_by (selected db filter).length - offset
decreasing_by
  have some_row := List.length_pos_of_ne_nil ‹listed.1 ≠ []›
  have total : listed.2 = (selected db filter).length := rfl
  change (selected db filter).length - (offset + listed.1.length) < _
  omega

/-- `export_audit_csv`: a byte order mark, and the rows. -/
def exportAuditCsv (engines : Nat → Engine Payload) : List Char :=
  '\uFEFF' :: writeRows (csvHeader :: (exportFrom db filter engines 0 0).map (csvLine dumps))

end Lists

section Loop

variable {Payload : Type} {db : Database Payload} {filter : Filter} {engines : Nat → Engine Payload}

def pages (db : Database Payload) (filter : Filter) (engines : Nat → Engine Payload) (turn : Nat) :
    List (Logged Payload) :=
  page ((engines turn).order (selected db filter)) (turn * exportBatch) exportBatch

theorem flatMap_range_succ {A : Type} (page : Nat → List A) (turn more : Nat) :
    (List.range (more + 1)).flatMap (fun next => page (turn + next)) =
      page turn ++ (List.range more).flatMap fun next => page (turn + 1 + next) := by
  rw [List.range_succ_eq_map, List.flatMap_cons, List.flatMap_map, Nat.add_zero]
  congr 2
  funext next
  rw [Nat.add_right_comm turn 1 next]
  rfl

theorem pages_of_end {turn : Nat} (ended : (selected db filter).length ≤ turn * exportBatch) :
    pages db filter engines turn = [] := by
  rw [pages, page, List.drop_of_length_le (by rw [((engines turn).perm _).length_eq]; exact ended), List.take_nil]

theorem exportFrom_eq (turn more : Nat) (enough : (selected db filter).length ≤ (turn + more) * exportBatch) :
    exportFrom db filter engines turn (turn * exportBatch) =
      ((List.range more).flatMap fun next => pages db filter engines (turn + next)).map (auditItem db) := by
  induction more generalizing turn with
  | zero =>
    have ended : pages db filter engines turn = [] := pages_of_end enough
    rw [exportFrom, listAudit]
    dsimp only
    rw [← pages, ended]
    rfl
  | succ more ih =>
    have ends (last : (selected db filter).length ≤ (turn + 1) * exportBatch) :
        (List.range more).flatMap (fun next => pages db filter engines (turn + 1 + next)) = [] := by
      refine List.flatMap_eq_nil_iff.mpr fun next _ => pages_of_end (last.trans ?_)
      exact Nat.mul_le_mul_right _ (Nat.le_add_right _ _)
    have length : (pages db filter engines turn).length = min exportBatch ((selected db filter).length - turn * exportBatch) := by
      rw [pages, page, List.length_take, List.length_drop, ((engines turn).perm _).length_eq]
    have next_turn : (turn + 1) * exportBatch = turn * exportBatch + exportBatch := Nat.succ_mul ..
    rw [exportFrom, listAudit, flatMap_range_succ, List.map_append]
    dsimp only
    rw [← pages]
    -- A page that is not full is the last one, and the loop may end before it has asked for an empty one.
    have some_batch : 0 < exportBatch := by decide
    split
    · rename_i empty
      rw [List.map_eq_nil_iff.mp empty, List.length_nil] at length
      rw [empty, ends (by omega)]
      rfl
    · rw [List.length_map]
      split
      · rw [ends (by omega), List.map_nil, List.append_nil]
      · have full : turn * exportBatch + (pages db filter engines turn).length = (turn + 1) * exportBatch := by omega
        rw [full, ih (turn + 1) (by rw [Nat.add_right_comm]; exact enough)]

def exported (db : Database Payload) (filter : Filter) (engines : Nat → Engine Payload) :
    List (Logged Payload) :=
  (List.range (selected db filter).length).flatMap (pages db filter engines)

theorem enough_pages (n : Nat) : n ≤ n * exportBatch := Nat.le_mul_of_pos_right n (by decide)

theorem exportFrom_start : exportFrom db filter engines 0 0 = (exported db filter engines).map (auditItem db) := by
  have all := @exportFrom_eq _ db filter engines 0 (selected db filter).length (by rw [Nat.zero_add]; exact enough_pages _)
  simp only [Nat.zero_mul, Nat.zero_add] at all
  exact all

theorem keys_exported : (exported db filter engines).map createdAt = ((engines 0).order (selected db filter)).map createdAt :=
  keys_pages engines (enough_pages _)

theorem latest_first (engines : Nat → Engine Payload) :
    (exported db filter engines).Pairwise fun first second => createdAt second ≤ createdAt first := by
  have sorted : ((exported db filter engines).map createdAt).Pairwise fun first second => second ≤ first := by
    rw [keys_exported]
    exact List.pairwise_map.mpr ((engines 0).sorted _)
  exact List.pairwise_map.mp sorted

theorem mem_of_mem_exported {row : Logged Payload} (member : row ∈ exported db filter engines) : row ∈ selected db filter := by
  obtain ⟨turn, _, there⟩ := List.mem_flatMap.mp member
  exact ((engines turn).perm _).subset ((page_sublist _ _ _).subset there)

theorem selected_nodup : (selected db filter).Nodup := (List.NodupKeys.nodup db.logs.nodupKeys).filter _

theorem pages_exported {more : Nat} (enough : (selected db filter).length ≤ more * exportBatch) :
    (List.range more).flatMap (pages db filter engines) = exported db filter engines := by
  have fewer : (List.range (more + (selected db filter).length)).flatMap (pages db filter engines) =
      (List.range more).flatMap (pages db filter engines) :=
    pages_more (fun i behind => pages_of_end (enough.trans (Nat.mul_le_mul_right _ behind))) (Nat.le_add_right _ _)
  rw [← fewer]
  exact pages_more (fun i behind => pages_of_end ((enough_pages _).trans (Nat.mul_le_mul_right _ behind))) (Nat.le_add_left _ _)

theorem complete_iff : (∀ engines, (exported db filter engines).Perm (selected db filter)) ↔
    ¬ Straddles createdAt (selected db filter) exportBatch := by
  rw [← once_iff selected_nodup]
  refine ⟨fun complete engines more enough => ?_, fun once engines => once engines _ (enough_pages _)⟩
  change ((List.range more).flatMap (pages db filter engines)).Perm _
  rw [pages_exported enough]
  exact complete engines

end Loop

section Exports

variable {Payload : Type} (db : Database Payload) (filter : Filter) (dumps : Payload → List Char)

/-- What an export says: read back, it has the header and a line for each row written; these are rows of the filter, as many as
it lets through, the latest first, also where their dates are compared as texts. They are all of them, whatever order ties come
in, unless a batch ends between ties. -/
structure Faithful : Prop where
  reads : ∀ engines, ∃ text, exportAuditCsv db filter dumps engines = '\uFEFF' :: text ∧
    Csv.read text = some (csvHeader :: (exported db filter engines).map fun row => csvLine dumps (auditItem db row))
  members : ∀ engines, ∀ row ∈ exported db filter engines, row ∈ selected db filter
  counted : ∀ engines, (exported db filter engines).length = (selected db filter).length
  latest_first : ∀ engines, (exported db filter engines).Pairwise fun first second => createdAt second ≤ createdAt first
  texts_descend : ∀ engines, ((exported db filter engines).map fun row => (auditItem db row).createdAt).Pairwise
    fun first second => ¬ first < second
  complete_iff : (∀ engines, (exported db filter engines).Perm (selected db filter)) ↔
    ¬ Straddles createdAt (selected db filter) exportBatch

/-- The export of the audit log leaves nothing out and invents nothing, but where rows of one moment meet the end of a batch. -/
theorem export_faithful : Faithful db filter dumps where
  reads engines := by
    refine ⟨_, rfl, ?_⟩
    rw [exportFrom_start, List.map_map]
    refine read_writeRows fun row member => ?_
    rcases List.mem_cons.mp member with header | line
    · rw [header]
      exact List.cons_ne_nil _ _
    · obtain ⟨_, _, written⟩ := List.mem_map.mp line
      rw [← written]
      exact List.cons_ne_nil _ _
  members engines row member := mem_of_mem_exported member
  counted engines := by
    have lengths := congrArg List.length (@keys_exported _ db filter engines)
    rwa [List.length_map, List.length_map, ((engines 0).perm _).length_eq] at lengths
  latest_first := latest_first
  texts_descend engines := by
    refine List.pairwise_map.mpr ((latest_first engines).imp fun {first second} later before => ?_)
    exact absurd (Moment.isoformatUtc_lt.mp before) (Nat.not_lt.mpr later)
  complete_iff := complete_iff

end Exports

end IdigestHub.Audit
