import IdigestHub.Capture.Resilient

/-! The link between a running capture and its worker: what the requests for its status keep of it. -/

set_option autoImplicit false

namespace IdigestHub.Capture

open Foundation Foundation.UnitOfWork Dispatcher Ingest

structure OnWorker (node : Nat) (task : Task) : Prop where
  unrecorded : task.audioId = none
  job : (nonEmpty (task.workerTaskId.map Text.strip)).isSome
  node : task.workerId = some node
  url : ∃ url, task.metaDict.get "meeting_url" = .str url ∧ Text.strip url ≠ ""

structure Linked (orgId node : Nat) (task : Task) : Prop where
  type : task.type = .capture
  orgId : task.orgId = orgId
  running : task.status = .running → OnWorker node task

structure Attached (orgs : Table Nat Organization) (orgId node id : Nat) (hub : Hub) : Prop where
  row : ∃ task, hub.tasks.find id = some task ∧ Linked orgId node task
  numbered : id < hub.nextId
  known : (hub.nodes.find node).isSome
  orgs : hub.orgs = orgs

section Rows

variable {orgId node : Nat} {task : Task}

theorem Linked.fields (linked : Linked orgId node task) {fields : Dict}
    (same : fields.get "meeting_url" = task.metaDict.get "meeting_url") :
    Linked orgId node { task with metaJson := some fields } := by
  refine ⟨linked.type, linked.orgId, fun running => ?_⟩
  obtain ⟨unrecorded, job, on_node, url, found, named⟩ := linked.running running
  exact ⟨unrecorded, job, on_node, url, same.trans found, named⟩

theorem Linked.ended (linked : Linked orgId node task) {after : Task} (type : after.type = task.type)
    (org : after.orgId = task.orgId) (ended : after.status ≠ .running) : Linked orgId node after :=
  ⟨type.trans linked.type, org.trans linked.orgId, fun running => absurd running ended⟩

theorem Linked.failed (linked : Linked orgId node task) (code : ErrorCode) (extra : Dict) :
    Linked orgId node (failed code extra task) := linked.ended rfl rfl (fun running => by cases running)

end Rows

section Programs

variable {orgs : Table Nat Organization} {orgId node id : Nat} {A : Type} (world : World)

theorem Attached.modify {hub : Hub} {f : Task → Task} (attached : Attached orgs orgId node id hub)
    (row : ∀ task, Linked orgId node task → Linked orgId node (f task)) :
    Attached orgs orgId node id (hub.modifyTask id f) := by
  obtain ⟨task, found, linked⟩ := attached.row
  exact ⟨⟨f task, find_modifyTask found f, row task linked⟩, attached.numbered, attached.known, attached.orgs⟩

abbrev Stable (orgs : Table Nat Organization) (orgId node id : Nat) (program : Program A) : Prop :=
  Preserves (Attached orgs orgId node id) program

theorem Attached.addTask {hub : Hub} (attached : Attached orgs orgId node id hub) (task : Task) :
    Attached orgs orgId node id (hub.addTask task) := by
  obtain ⟨row, found, linked⟩ := attached.row
  have own : id ≠ hub.nextId := Nat.ne_of_lt attached.numbered
  refine ⟨⟨row, ?_, linked⟩, Nat.lt_succ_of_lt attached.numbered, attached.known, attached.orgs⟩
  simp [Hub.addTask, Table.find_put, own, found]

theorem attached_resilient : Resilient id (Attached orgs orgId node id) where
  refreshed stored hub task there here found := by
    obtain ⟨its, known, linked⟩ := there.row
    obtain rfl := Option.some.inj (known.symm.trans found)
    exact here.modify fun _ _ => linked
  fields hub f same attached := attached.modify fun task linked => linked.fields (same task)
  failed hub code extra _ attached := attached.modify fun _ linked => linked.failed code extra
  captured hub audioId duration fields attached :=
    attached.modify fun _ linked => linked.ended rfl rfl fun running => by cases running
  task hub task attached := attached.addTask task
  audio hub audio attached := ⟨attached.row, Nat.lt_succ_of_lt attached.numbered, attached.known, attached.orgs⟩

theorem stable_loseLink (reason : String) : Stable orgs orgId node id (loseCaptureWorkerLink world id reason) := by
  refine (maintains_loaded id).bind fun task => ?_
  refine .ite (fun _ => preserves_failTask world attached_resilient (by decide) _) fun _ => ?_
  refine preserves_update fun hub attached => attached.modify fun task linked => ?_
  exact linked.ended rfl rfl fun running => by cases running

theorem stable_recover (nodes : List Nat) : Stable orgs orgId node id (recoverCaptureTask world id nodes) := by
  refine (maintains_loaded id).bind fun task => .ite (fun _ => maintains_pure _) fun _ => ?_
  split
  · refine .ite (fun _ => stable_loseLink world _) fun _ => (maintains_pollWorker world id _).bind fun answer => ?_
    split
    · exact maintains_pure _
    · refine .ite (fun _ => stable_loseLink world _) fun _ => .ite (fun _ => maintains_pure _) fun _ => ?_
      exact preserves_reattach world attached_resilient _ fun _ => stable_loseLink world
  · exact stable_loseLink world _

end Programs

end IdigestHub.Capture
