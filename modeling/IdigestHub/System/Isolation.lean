import IdigestHub.Dispatcher.Replies
import IdigestHub.System.Failures

/-! Ticks over transcribe and summarize tasks, whose workers may answer anything: when a reply to one
task stops the turns of the others. -/

set_option autoImplicit false

namespace IdigestHub.System

open Foundation Foundation.Runs Foundation.UnitOfWork Dispatcher

/-- The list of the tick holds transcribe and summarize tasks only. -/
def OnlyWorkers (taskId : Option Nat) (hub : Hub) : Prop :=
  ∀ id task, hub.tasks.find id = some task → inTick taskId id task = true → task.onWorker = true

/-- A tick gets through its list: each task of it has been polled, dispatched and committed. -/
def Processes (server : Server) : Event → Prop
  | .work world (.tick taskId refreshHealth) =>
    world.Calm → OnlyWorkers taskId server.hub →
      Finishes (tickOnce world taskId refreshHealth) (.start server.hub server.process)
  | _ => True

/-- Every reply that the tick reads is readable in the state in which it is read. -/
def Readable (server : Server) : Event → Prop
  | .work world (.tick taskId refreshHealth) =>
    world.Calm → OnlyWorkers taskId server.hub →
      TickReadable world taskId refreshHealth (.start server.hub server.process)
  | _ => True

theorem processes_iff_readable {server : Server} (bounded : Bounded server.hub) (event : Event) :
    Processes server event ↔ Readable server event := by
  cases event with
  | request request => exact Iff.rfl
  | work world job =>
    cases job with
    | tick taskId refreshHealth =>
      refine forall_congr' fun calm => forall_congr' fun workers => ?_
      exact tickOnce_finishes calm bounded taskId refreshHealth workers
    | restart => exact Iff.rfl
    | captureThread id detail => exact Iff.rfl
    | importThread id detail => exact Iff.rfl
    | importProgress id progress => exact Iff.rfl

section Samples

/-- The job of task 11 has a list for its status; the other worker reports a success. -/
def garblingWorld : World := { finishingWorld with
  getTask := fun id => if id = 11 then .answer 200 [("status", .arr [])] else finishingWorld.getTask id }

theorem garblingWorld_calm : garblingWorld.Calm := by
  refine ⟨fun _ _ => rfl, fun id => ?_, fun _ _ => ?_⟩
  · simp only [garblingWorld, finishingWorld]
    split <;> simp
  · simp [garblingWorld, finishingWorld, silentWorld]

def bothRunning : List Event := [
  .request (.createTranscribe 3 smallSubmission),
  .request (.createTranscribe 3 smallSubmission),
  .work acceptingWorld (.tick none false)]

def garbledTick : Event := .work garblingWorld (.tick none false)

example : (run step (.fresh small.hub) (bothRunning ++ [.work finishingWorld (.tick none false)])).hub.tasks.select
    (fun _ task => task.status == .success) = [11, 10] := by decide +kernel

end Samples

end IdigestHub.System
