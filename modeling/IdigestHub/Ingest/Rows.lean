import IdigestHub.Hub.World

/-! What the import runner and the capture runner write to their task rows. Both have the
same helpers. -/

set_option autoImplicit false

namespace IdigestHub.Ingest

open Foundation Foundation.UnitOfWork

/-- The row that `_update_task_meta` leaves. -/
def staged (stage : String) (extra : Dict) (task : Task) : Task :=
  { task with metaJson := some ((task.metaDict.set "stage" (.str stage)).update extra) }

/-- The row that `_fail_task` leaves. The worker link stays. -/
def failed (code : ErrorCode) (extra : Dict) (task : Task) : Task :=
  { task with
    metaJson := some ((task.metaDict.update extra).set "stage" (.str "error"))
    status := .error
    errorCode := some code }

/-- The row that starting the background thread of a queued task leaves. -/
def started (stage : String) (task : Task) : Task :=
  { task with status := .running, metaJson := some (task.metaDict.set "stage" (.str stage)) }

/-- The row that `_requeue_capture_task` leaves, and the recovery of an import. -/
def requeued (task : Task) : Task :=
  { task with
    status := .queued
    metaJson := some (task.metaDict.set "stage" (.str "queued"))
    workerId := none
    workerTaskId := none }

def updateTaskMeta (id : Nat) (stage : String) (extra : Dict) : Program Unit := do
  modifyTask id (staged stage extra)
  Tx.flush

def failTask (world : World) (id : Nat) (code : ErrorCode) (extra : Dict) : Program Unit := do
  modifyTask id (failed code extra)
  Tx.flush
  guardSite world (.terminalHook id)

/-- `_fail_task` and a commit. -/
def failAndCommit (world : World) (id : Nat) (code : ErrorCode) (extra : Dict) (step : Nat) : Program Unit := do
  failTask world id code extra
  commitAt world (.runner id step)

end IdigestHub.Ingest
