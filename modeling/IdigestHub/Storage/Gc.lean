import IdigestHub.Foundation.Batches
import Mathlib.Data.String.Basic
import Mathlib.Data.List.Nodup
import Mathlib.Data.List.Sort

/-! The queue of blobs to be deleted, and the drain that goes through it on startup, after commits and on every tick. -/

set_option autoImplicit false

namespace IdigestHub.Storage

open Foundation.Batches

structure PendingStorageDelete where
  id : String
  storagePath : String
  attempts : Nat
  lastError : Option String
  createdAt : Nat
  deriving DecidableEq

/-- The table, in the order of its index on `created_at`. -/
structure Queue where
  rows : List PendingStorageDelete
  unique : (rows.map PendingStorageDelete.storagePath).Nodup
  ordered : (rows.map PendingStorageDelete.createdAt).Pairwise (· ≤ ·)

def Queue.paths (queue : Queue) : List String := queue.rows.map PendingStorageDelete.storagePath

section Drain

-- What `delete` of the storage backend raises for a path, as a text.
variable (raised : String → Option String)

/-- The turn of one row: `none` where it leaves the queue with its blob. -/
def tryDelete (row : PendingStorageDelete) : Option PendingStorageDelete :=
  match raised row.storagePath with
  | none => none
  | some exc => some { row with attempts := row.attempts + 1, lastError := some (String.ofList (exc.toList.take 500)) }

theorem stays_tryDelete (row : PendingStorageDelete) : stays (tryDelete raised) row = (raised row.storagePath).isSome := by
  rw [stays, tryDelete]
  cases raised row.storagePath <;> rfl

theorem tryDelete_row {row left : PendingStorageDelete} (tried : tryDelete raised row = some left) :
    left.storagePath = row.storagePath ∧ left.createdAt = row.createdAt ∧ left.attempts = row.attempts + 1 ∧
      (raised row.storagePath).isSome = true := by
  rw [tryDelete] at tried
  split at tried
  · contradiction
  · rename_i failed
    cases tried
    exact ⟨rfl, rfl, rfl, by rw [failed]; rfl⟩

theorem stays_again (row left : PendingStorageDelete) (tried : tryDelete raised row = some left) :
    stays (tryDelete raised) left = true := by
  obtain ⟨path, _, _, failed⟩ := tryDelete_row raised tried
  rwa [stays_tryDelete, path]

theorem path_kept (row left : PendingStorageDelete) (tried : tryDelete raised row = some left) :
    left.storagePath = row.storagePath :=
  (tryDelete_row raised tried).1

theorem createdAt_kept (row left : PendingStorageDelete) (tried : tryDelete raised row = some left) :
    left.createdAt = row.createdAt :=
  (tryDelete_row raised tried).2.1

/-- The queue that is left, and how many rows have been removed from it. -/
def drainPendingStorageDeletes (limit : Nat) (queue : Queue) : Queue × Nat :=
  ({ rows := batch (tryDelete raised) limit queue.rows
     unique := queue.unique.sublist (batch_keys_sublist _ limit _ (path_kept raised) queue.rows)
     ordered := queue.ordered.sublist (batch_keys_sublist _ limit _ (createdAt_kept raised) queue.rows) },
   (queue.rows.take limit).countP fun row => (tryDelete raised row).isNone)

theorem drainPending_removed (limit : Nat) (queue : Queue) :
    (drainPendingStorageDeletes raised limit queue).1.rows.length + (drainPendingStorageDeletes raised limit queue).2 =
      queue.rows.length :=
  length_batch (tryDelete raised) limit queue.rows

/-- Every round of the loop but the last removes a row, so there are no more rounds than rows and one. -/
def drainAllPendingStorageDeletes (queue : Queue) : Queue × Nat :=
  let drained := drainPendingStorageDeletes raised 100 queue
  if drained.2 = 0 then (drained.1, 0)
  else
    let rest := drainAllPendingStorageDeletes drained.1
    (rest.1, drained.2 + rest.2)
termination_by queue.rows.length
decreasing_by
  have removed := drainPending_removed raised 100 queue
  exact Nat.lt_of_lt_of_eq (Nat.lt_add_of_pos_right (Nat.pos_of_ne_zero ‹_›)) removed

/-- The rounds of the loop: the last of them removes no row. -/
theorem drainAll_induction {P : Queue → Queue × Nat → Prop}
    (ends : ∀ queue, (drainPendingStorageDeletes raised 100 queue).2 = 0 →
      P queue ((drainPendingStorageDeletes raised 100 queue).1, 0))
    (goes_on : ∀ queue rest, 0 < (drainPendingStorageDeletes raised 100 queue).2 →
      P (drainPendingStorageDeletes raised 100 queue).1 rest →
      P queue (rest.1, (drainPendingStorageDeletes raised 100 queue).2 + rest.2))
    (queue : Queue) : P queue (drainAllPendingStorageDeletes raised queue) := by
  induction queue using drainAllPendingStorageDeletes.induct raised with
  | case1 queue drained last =>
    rw [drainAllPendingStorageDeletes, if_pos last]
    exact ends queue last
  | case2 queue drained more ih =>
    rw [drainAllPendingStorageDeletes, if_neg more]
    exact goes_on queue _ (Nat.pos_of_ne_zero more) ih

theorem drainAll_rows (queue : Queue) :
    (drainAllPendingStorageDeletes raised queue).1.rows = drain (tryDelete raised) 100 queue.rows := by
  refine drainAll_induction raised (P := fun queue left => left.1.rows = drain (tryDelete raised) 100 queue.rows) ?_ ?_ queue
  · intro queue last
    have removed := drainPending_removed raised 100 queue
    rw [drain, if_neg]
    · rfl
    · change ¬ (drainPendingStorageDeletes raised 100 queue).1.rows.length < _
      omega
  · intro queue rest more ih
    have removed := drainPending_removed raised 100 queue
    rw [drain, if_pos]
    · exact ih
    · change (drainPendingStorageDeletes raised 100 queue).1.rows.length < _
      omega

def failing (queue : Queue) : List String :=
  (queue.rows.filter fun row => (raised row.storagePath).isSome).map PendingStorageDelete.storagePath

theorem failing_eq (queue : Queue) :
    failing raised queue = (queue.rows.filter (stays (tryDelete raised))).map PendingStorageDelete.storagePath := by
  simp only [failing, funext (stays_tryDelete raised)]

theorem failing_sublist (queue : Queue) : (failing raised queue).Sublist
    (drainAllPendingStorageDeletes raised queue).1.paths := by
  rw [failing_eq, ← filter_drain_keys _ 100 (stays_again raised) _ (path_kept raised), ← drainAll_rows]
  exact List.filter_sublist.map _

theorem leaves_failing_iff_reaches (queue : Queue) :
    (drainAllPendingStorageDeletes raised queue).1.paths = failing raised queue ↔
      Reaches (tryDelete raised) 100 0 queue.rows := by
  rw [Queue.paths, failing_eq, drainAll_rows, drain_keys_iff _ 100 (stays_again raised) _ (path_kept raised)]

/-- The drain processes the full queue exactly where no hundred rows that fail are older than one that does not. -/
theorem drain_leaves_failing_iff (queue : Queue) :
    (drainAllPendingStorageDeletes raised queue).1.paths = failing raised queue ↔
      ∀ before row after, queue.rows = before ++ row :: after → raised row.storagePath = none →
        before.countP (fun older => (raised older.storagePath).isSome) < 100 := by
  rw [leaves_failing_iff_reaches, reaches_iff]
  simp only [stays_tryDelete, funext (stays_tryDelete raised), Option.isSome_eq_false_iff, Option.isNone_iff_eq_none]

end Drain

/-- A hundred blobs that the backend may not delete, and a younger one that it may. -/
def deniedDeletes (path : String) : Option String :=
  if path.length ≤ 100 then some "Permission denied" else none

def queuedRow (i : Nat) : PendingStorageDelete :=
  ⟨toString i, String.ofList (List.replicate (i + 1) '0'), 0, none, i⟩

def stuckQueue : Queue where
  rows := (List.range 100).map queuedRow ++ [queuedRow 100]
  unique := by
    rw [← List.map_singleton, ← List.map_append, ← List.range_succ, List.map_map]
    refine List.Nodup.map (fun i j same => ?_) List.nodup_range
    have lengths := congrArg String.length same
    simpa [queuedRow] using lengths
  ordered := by
    rw [← List.map_singleton, ← List.map_append, ← List.range_succ, List.map_map]
    exact List.pairwise_map.mpr List.pairwise_le_range

theorem length_queuedRow (i : Nat) : (queuedRow i).storagePath.length = i + 1 := by simp [queuedRow]

theorem stays_queuedRow (i : Nat) : stays (tryDelete deniedDeletes) (queuedRow i) = true ↔ i < 100 := by
  rw [stays_tryDelete, deniedDeletes, length_queuedRow]
  split
  · simpa using Nat.lt_of_succ_le ‹_›
  · simpa using Nat.not_lt.mp ‹_›

/-- The first round removes nothing, and the loop ends before it has come to the last row. -/
theorem full_batch_starves :
    (drainAllPendingStorageDeletes deniedDeletes stuckQueue).1.paths ≠ failing deniedDeletes stuckQueue := by
  rw [Ne, leaves_failing_iff_reaches, stuckQueue, reaches_append]
  rintro ⟨_, reaches⟩
  have denied : ((List.range 100).map queuedRow).countP (stays (tryDelete deniedDeletes)) = 100 := by
    rw [List.countP_eq_length.mpr, List.length_map, List.length_range]
    intro row member
    obtain ⟨i, below, rfl⟩ := List.mem_map.mp member
    exact (stays_queuedRow i).mpr (List.mem_range.mp below)
  rw [denied] at reaches
  have last := stay_of_reaches _ 100 (Nat.le_add_left 100 0) reaches _ (List.mem_singleton.mpr rfl)
  exact absurd ((stays_queuedRow 100).mp last) (Nat.lt_irrefl 100)

end IdigestHub.Storage
