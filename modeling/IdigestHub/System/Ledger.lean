import IdigestHub.Billing.Wallet
import IdigestHub.System.Requests

/-! Billing over whole runs: one event for each finished task, at the price on the task,
and a balance that the events explain. -/

set_option autoImplicit false

namespace IdigestHub.System

open Foundation Foundation.Runs Dispatcher Billing Relation

structure Justified (told : World → Prop) (hub : Hub) (event : UsageEvent) (task : Task) : Prop where
  found : hub.tasks.find event.taskId = some task
  onWorker : task.onWorker = true
  orgId : event.orgId = task.orgId
  kind : event.kind = task.type
  unlimited : event.unlimitedSkip = task.snap.unlimited
  priced : ∃ world body, told world ∧ Reports world event.taskId body ∧ reportsSuccess body = true ∧
    Priced world task body event.audioSec event.summaryChars event.amount

structure BilledOnce (start : Hub) (told : World → Prop) (hub : Hub) : Prop where
  once : (hub.usage.map UsageEvent.taskId).Nodup
  billed : ∀ id task, hub.tasks.find id = some task →
    (task.billed = true ↔ ∃ event ∈ hub.usage, event.taskId = id)
  success : ∀ id task, hub.tasks.find id = some task → task.onWorker = true → task.status = .success →
    ∃ event ∈ hub.usage, event.taskId = id
  justified : ∀ event ∈ hub.usage, ∃ task, Justified told hub event task
  balance : ∀ orgId, (hub.orgs.find orgId).map Organization.balance =
    (start.orgs.find orgId).map fun org =>
      org.balance + ((-chargedTotal (hub.usage.filter fun event => event.orgId == orgId) : Int) : Money)

/-- What a run keeps of the books, whatever the databases make of the amounts. -/
structure Booked (hub : Hub) : Prop where
  once : (hub.usage.map UsageEvent.taskId).Nodup
  billed : ∀ id task, hub.tasks.find id = some task →
    (task.billed = true ↔ ∃ event ∈ hub.usage, event.taskId = id)
  success : ∀ id task, hub.tasks.find id = some task → task.onWorker = true → task.status = .success → task.billed = true
  stored : ∀ event ∈ hub.usage, ∃ task, hub.tasks.find event.taskId = some task
  bounded : Bounded hub
  orgs : ∀ id task, hub.tasks.find id = some task → (hub.orgs.find task.orgId).isSome

structure Ledger (start : Hub) (told : World → Prop) (hub : Hub) : Prop where
  booked : Booked hub
  justified : ∀ event ∈ hub.usage, ∃ task, Justified told hub event task
  balance : ∀ orgId, (hub.orgs.find orgId).map Organization.balance =
    (start.orgs.find orgId).map fun org =>
      org.balance + ((-chargedTotal (hub.usage.filter fun event => event.orgId == orgId) : Int) : Money)

theorem Ledger.billedOnce {start hub : Hub} {told : World → Prop} (ledger : Ledger start told hub) :
    BilledOnce start told hub where
  once := ledger.booked.once
  billed := ledger.booked.billed
  success id task found onWorker success :=
    (ledger.booked.billed id task found).mp (ledger.booked.success id task found onWorker success)
  justified := ledger.justified
  balance := ledger.balance

section Steps

variable {start hub after : Hub} {told : World → Prop} {new : List UsageEvent}

theorem chargedTo_append (first second : List UsageEvent) (orgId : Nat) :
    chargedTotal ((first ++ second).filter fun event => event.orgId == orgId) =
      chargedTotal (first.filter fun event => event.orgId == orgId) +
        chargedTotal (second.filter fun event => event.orgId == orgId) := by
  rw [List.filter_append, chargedTotal_append]

structure Carried (new : List UsageEvent) (id : Nat) (task row : Task) : Prop where
  price : SamePrice task row
  orgId : row.orgId = task.orgId
  billed : row.billed = true ↔ task.billed = true ∨ ∃ event ∈ new, event.taskId = id
  success : row.onWorker = true → row.status = .success → task.status = .success ∨ row.billed = true

structure Added (hub after : Hub) (id : Nat) (row : Task) : Prop where
  above : hub.nextId ≤ id
  below : id < after.nextId
  billed : row.billed = false
  status : row.status ≠ .success
  org : (hub.orgs.find row.orgId).isSome

structure Change (hub after : Hub) (new : List UsageEvent) : Prop where
  usage : after.usage = hub.usage ++ new
  orgs : ∀ orgId, (after.orgs.find orgId).isSome = (hub.orgs.find orgId).isSome
  nextId : hub.nextId ≤ after.nextId
  carried : ∀ id task, hub.tasks.find id = some task →
    ∃ row, after.tasks.find id = some row ∧ Carried new id task row
  added : ∀ id row, hub.tasks.find id = none → after.tasks.find id = some row → Added hub after id row
  distinct : (new.map UsageEvent.taskId).Nodup
  unbilled : ∀ event ∈ new, ∃ task, hub.tasks.find event.taskId = some task ∧ task.billed = false

/-- The events of a change are prices of reports, and the balances move by them. -/
structure Charges (told : World → Prop) (hub after : Hub) (new : List UsageEvent) : Prop where
  justified : ∀ event ∈ new, ∃ task, Justified told after event task
  balances : ∀ orgId, (after.orgs.find orgId).map Organization.balance =
    (hub.orgs.find orgId).map fun org =>
      org.balance + ((-chargedTotal (new.filter fun event => event.orgId == orgId) : Int) : Money)

theorem Change.row (change : Change hub after new) {id : Nat} {row : Task} (found : after.tasks.find id = some row) :
    (hub.tasks.find id = none ∧ Added hub after id row) ∨ ∃ task, hub.tasks.find id = some task ∧ Carried new id task row := by
  cases before : hub.tasks.find id with
  | none => exact .inl ⟨rfl, change.added id row before found⟩
  | some task =>
    obtain ⟨row', here, carries⟩ := change.carried id task before
    obtain rfl : row' = row := Option.some.inj (here.symm.trans found)
    exact .inr ⟨task, rfl, carries⟩

theorem Booked.once_change (booked : Booked hub) (change : Change hub after new) : (after.usage.map UsageEvent.taskId).Nodup := by
  rw [change.usage, List.map_append]
  refine List.Nodup.append booked.once change.distinct ?_
  intro taskId first second
  obtain ⟨event, member, rfl⟩ := List.mem_map.mp first
  obtain ⟨event', member', same⟩ := List.mem_map.mp second
  -- every event so far belongs to a billed task
  obtain ⟨task, here⟩ := booked.stored event member
  have is_billed := (booked.billed _ task here).mpr ⟨event, member, rfl⟩
  obtain ⟨task', here', not_billed⟩ := change.unbilled event' member'
  rw [same] at here'
  obtain rfl : task = task' := Option.some.inj (here.symm.trans here')
  rw [is_billed] at not_billed
  contradiction

theorem Booked.billed_change (booked : Booked hub) (change : Change hub after new) {id : Nat} {row : Task}
    (found : after.tasks.find id = some row) : row.billed = true ↔ ∃ event ∈ after.usage, event.taskId = id := by
  rw [change.usage]
  rcases change.row found with ⟨before, fresh⟩ | ⟨task, before, carries⟩
  · refine ⟨fun is_billed => by simp [fresh.billed] at is_billed, ?_⟩
    rintro ⟨event, member, rfl⟩
    have stored : ∃ task, hub.tasks.find event.taskId = some task := by
      rcases List.mem_append.mp member with member | member
      · exact booked.stored event member
      · exact (change.unbilled event member).imp fun _ its => its.1
    obtain ⟨task, here⟩ := stored
    rw [before] at here
    contradiction
  · rw [carries.billed, booked.billed id task before]
    simp only [List.mem_append, or_and_right, exists_or]

theorem Booked.change (booked : Booked hub) (change : Change hub after new) : Booked after where
  once := booked.once_change change
  billed _ _ := booked.billed_change change
  success id row found onWorker succeeded := by
    rcases change.row found with ⟨_, fresh⟩ | ⟨task, before, carries⟩
    · exact absurd succeeded fresh.status
    · rcases carries.success onWorker succeeded with was | is_billed
      · have first : task.onWorker = true := by rw [Task.onWorker, ← carries.price.type]; exact onWorker
        exact carries.billed.mpr (.inl (booked.success id task before first was))
      · exact is_billed
  stored event member := by
    have before : ∃ task, hub.tasks.find event.taskId = some task := by
      rw [change.usage] at member
      rcases List.mem_append.mp member with member | member
      · exact booked.stored event member
      · exact (change.unbilled event member).imp fun _ its => its.1
    obtain ⟨task, here⟩ := before
    exact (change.carried _ task here).imp fun _ its => its.1
  bounded id row found := by
    rcases change.row found with ⟨_, fresh⟩ | ⟨task, before, _⟩
    · exact fresh.below
    · exact (booked.bounded id task before).trans_le change.nextId
  orgs id row found := by
    rw [change.orgs]
    rcases change.row found with ⟨_, fresh⟩ | ⟨task, before, carries⟩
    · exact fresh.org
    · rw [carries.orgId]
      exact booked.orgs id task before

theorem Justified.carried {event : UsageEvent} {task row : Task} (just : Justified told hub event task)
    (found : after.tasks.find event.taskId = some row) (carries : Carried new event.taskId task row) :
    Justified told after event row := by
  obtain ⟨world, body, said, reports, succeeded, priced⟩ := just.priced
  refine ⟨found, ?_, just.orgId.trans carries.orgId.symm, just.kind.trans carries.price.type.symm,
    just.unlimited.trans carries.price.unlimited.symm, world, body, said, reports, succeeded, priced.of_price carries.price⟩
  rw [Task.onWorker, carries.price.type]
  exact just.onWorker

theorem Ledger.change (now : Ledger start told hub) (change : Change hub after new) (charges : Charges told hub after new) :
    Ledger start told after where
  booked := now.booked.change change
  justified event member := by
    rw [change.usage] at member
    rcases List.mem_append.mp member with member | member
    · obtain ⟨task, just⟩ := now.justified event member
      obtain ⟨row, here, carries⟩ := change.carried _ task just.found
      exact ⟨row, just.carried here carries⟩
    · exact charges.justified event member
  balance orgId := by
    let entered : Money := ((-chargedTotal (new.filter fun event => event.orgId == orgId) : Int) : Money)
    have carry := congrArg (Option.map fun total => total + entered) (now.balance orgId)
    rw [Option.map_map, Option.map_map] at carry
    rw [charges.balances, change.usage, chargedTo_append]
    refine Eq.trans carry ?_
    congr 1
    funext org
    simp only [Function.comp, entered, neg_add, WithTop.coe_add, add_assoc]

theorem charges_nothing (balances : ∀ orgId, (after.orgs.find orgId).map Organization.balance =
    (hub.orgs.find orgId).map Organization.balance) : Charges told hub after [] := by
  refine ⟨by simp, fun orgId => ?_⟩
  rw [balances]
  simp [chargedTotal]

theorem change_nothing (usage : after.usage = hub.usage)
    (balances : ∀ orgId, (after.orgs.find orgId).map Organization.balance = (hub.orgs.find orgId).map Organization.balance)
    (nextId : hub.nextId ≤ after.nextId)
    (carried : ∀ id task, hub.tasks.find id = some task → ∃ row, after.tasks.find id = some row ∧ Carried [] id task row)
    (added : ∀ id row, hub.tasks.find id = none → after.tasks.find id = some row → Added hub after id row) :
      Change hub after [] := by
  refine ⟨by rw [usage, List.append_nil], fun orgId => ?_, nextId, carried, added, List.nodup_nil, by simp⟩
  simpa using congrArg Option.isSome (balances orgId)

theorem Carried.refl (id : Nat) (task : Task) : Carried [] id task task :=
  ⟨.refl task, rfl, by simp, fun _ success => .inl success⟩

theorem frame_carried {id other : Nat} {task row : Task} {new : List UsageEvent} (frame : Frame id task hub after)
    (bounded : Bounded hub) (different : other ≠ id) (elsewhere : ∀ event ∈ new, event.taskId = id)
    (found : hub.tasks.find other = some row) :
    ∃ row', after.tasks.find other = some row' ∧ Carried new other row row' := by
  rcases frame.others other different with same | ⟨above, _⟩
  · refine ⟨row, same.trans found, .refl row, rfl, ?_, fun _ success => .inl success⟩
    refine ⟨.inl, ?_⟩
    rintro (billed | ⟨event, member, there⟩)
    · exact billed
    · exact absurd (there.symm.trans (elsewhere event member)) different
  · exact absurd (bounded other row found) above.not_gt

theorem frame_added {id other : Nat} {task row : Task} (frame : Frame id task hub after)
    (org : (hub.orgs.find task.orgId).isSome) (before : hub.tasks.find id = some task)
    (none_before : hub.tasks.find other = none) (found : after.tasks.find other = some row) :
    Added hub after other row := by
  have different : other ≠ id := by
    rintro rfl
    rw [before] at none_before
    contradiction
  rcases frame.others other different with same | ⟨above, below, new, here, chained⟩
  · rw [same, none_before] at found
    contradiction
  · obtain rfl : new = row := Option.some.inj (here.symm.trans found)
    exact ⟨above, below, chained.billed, by simp [chained.status], by rw [chained.orgId]; exact org⟩

theorem charged_balance {database : Database} (exact : database.Exact) {task : Task} {id : Nat} {audioSec : Option Decimal}
    {chars : Option Nat} {amount : Int} {org : Organization} {balance : Money} (unbilled : task.billed = false)
    (found : hub.orgs.find task.orgId = some org) (charged : chargedBalance database task amount org.balance = some balance)
    (orgId : Nat) :
    (if orgId = task.orgId then some { org with balance } else hub.orgs.find orgId).map Organization.balance =
      (hub.orgs.find orgId).map fun org => org.balance + ((-chargedTotal ([chargeEvent id task audioSec chars amount].filter
        fun event => event.orgId == orgId) : Int) : Money) := by
  by_cases same : orgId = task.orgId
  · obtain rfl := chargedBalance_exact exact unbilled charged
    rw [same, found]
    cases unlimited : task.snap.unlimited <;> simp [chargeEvent, chargeEffect, chargedTotal, unbilled, unlimited]
  · have other : (task.orgId == orgId) = false := by simp [Ne.symm same]
    simp [same, chargeEvent, chargedTotal, other]

theorem Booked.settled {world : World} {id : Nat} {task : Task} {body : Dict} (booked : Booked hub)
    (before : hub.tasks.find id = some task) (onWorker : task.onWorker = true) (reports : Reports world id body)
    (success : reportsSuccess body = true) (settlement : Settlement world id body task hub after) :
    ∃ new, Change hub after new ∧ (world.database.Exact → told world → Charges told hub after new) := by
  obtain ⟨final, found, finished⟩ := settlement.row
  obtain ⟨audioSec, chars, amount, priced, entered⟩ := settlement.entry
  have has_org := booked.orgs id task before
  have billed_after : final.billed = true := by rw [finished.billed, has_org, Bool.or_true]
  have price : SamePrice task final := ⟨finished.type, by rw [finished.snap], by rw [finished.snap], by rw [finished.snap]⟩
  have some_org : ¬hub.orgs.find task.orgId = none := Option.isSome_iff_ne_none.mp has_org
  have added (other : Nat) (row : Task) (none_before : hub.tasks.find other = none)
      (here : after.tasks.find other = some row) : Added hub after other row :=
    frame_added settlement.frame has_org before none_before here
  -- Only the row of the charge changes here; every other row moves as the frame lets it.
  have carried (new : List UsageEvent) (elsewhere : ∀ event ∈ new, event.taskId = id)
      (billed : task.billed = true ∨ ∃ event ∈ new, event.taskId = id) (other : Nat) (row : Task)
      (here : hub.tasks.find other = some row) :
      ∃ row', after.tasks.find other = some row' ∧ Carried new other row row' := by
    by_cases same : other = id
    · subst same
      obtain rfl : task = row := Option.some.inj (before.symm.trans here)
      exact ⟨final, found, price, finished.orgId, by simp [billed_after, billed], fun _ _ => .inr billed_after⟩
    · exact frame_carried settlement.frame booked.bounded same elsewhere here
  cases billed : task.billed with
  | true =>
    obtain ⟨usage, orgs⟩ := (if_pos (.inl billed)).mp entered
    have balances (orgId : Nat) : (after.orgs.find orgId).map Organization.balance =
        (hub.orgs.find orgId).map Organization.balance := by rw [orgs]
    exact ⟨[], change_nothing usage balances settlement.frame.nextId (carried [] (by simp) (.inl billed)) added,
      fun _ _ => charges_nothing balances⟩
  | false =>
    obtain ⟨org, balance, stored, its_org, charged, given, usage, orgs⟩ := (if_neg (by simp [billed, some_org])).mp entered
    refine ⟨_, ⟨usage, fun orgId => ?_, settlement.frame.nextId, ?_, added, by simp, ?_⟩, fun exact said => ⟨?_, fun orgId => ?_⟩⟩
    · rw [orgs]
      by_cases same : orgId = task.orgId <;> simp [same, its_org]
    · exact carried _ (by simp [chargeEvent]) (.inr ⟨_, List.mem_singleton.mpr rfl, rfl⟩)
    · intro event member
      obtain rfl := List.mem_singleton.mp member
      exact ⟨task, before, billed⟩
    · intro event member
      obtain rfl := List.mem_singleton.mp member
      obtain rfl : stored = amount := exact amount stored given
      refine ⟨final, found, ?_, finished.orgId.symm, finished.type.symm, by rw [finished.snap]; rfl,
        world, body, said, reports, success, priced.of_price price⟩
      rw [Task.onWorker, finished.type]
      exact onWorker
    · obtain rfl : stored = amount := exact amount stored given
      rw [orgs]
      exact charged_balance exact billed its_org charged orgId

theorem Booked.move (told : World → Prop) {world : World} {scope : Nat → Prop} (booked : Booked hub)
    (move : Move world scope hub after) :
    ∃ new, Change hub after new ∧ (world.database.Exact → told world → Charges told hub after new) := by
  cases move with
  | row id task final inside before found change frame usage orgs =>
    refine ⟨[], change_nothing usage (fun _ => by rw [orgs]) frame.nextId ?_ ?_, fun _ _ => charges_nothing fun _ => by rw [orgs]⟩
    · intro other row here
      by_cases same : other = id
      · subst same
        obtain rfl : task = row := Option.some.inj (before.symm.trans here)
        refine ⟨final, found, change.price, change.orgId, by simp [change.billed], fun onWorker success => ?_⟩
        exact absurd success (change.not_success onWorker)
      · exact frame_carried frame booked.bounded same (by simp) here
    · intro other row none_before here
      exact frame_added frame (booked.orgs id task before) before none_before here
  | settled id task body inside before onWorker active reports success settlement =>
    exact booked.settled before onWorker reports success settlement
  | aside tasks nodes nextId usage orgs =>
    refine ⟨[], change_nothing usage (fun _ => by rw [orgs]) nextId.ge ?_ ?_, fun _ _ => charges_nothing fun _ => by rw [orgs]⟩
    · intro other row here
      exact ⟨row, by rw [tasks, here], .refl other row⟩
    · intro other row none_before here
      rw [tasks, none_before] at here
      contradiction

theorem Booked.path {world : World} {scope : Nat → Prop} (booked : Booked hub) (path : Path world scope hub after) :
    Booked after := by
  induction path with
  | refl => exact booked
  | tail _ move ih =>
    obtain ⟨new, change, _⟩ := ih.move (fun _ => False) move
    exact ih.change change

theorem Ledger.path {world : World} {scope : Nat → Prop} (now : Ledger start told hub) (exact : world.database.Exact)
    (said : told world) (path : Path world scope hub after) : Ledger start told after := by
  induction path with
  | refl => exact now
  | tail _ move ih =>
    obtain ⟨new, change, charges⟩ := ih.booked.move told move
    exact ih.change change (charges exact said)

theorem change_edited {gone : Option Nat} (edited : Edited gone hub after) : Change hub after [] := by
  refine change_nothing edited.usage edited.balances edited.nextId.ge ?_ ?_
  · intro id task found
    rcases edited.rows id with ⟨absent, _⟩ | ⟨task', row, found', here, edit⟩
    · rw [found] at absent
      contradiction
    · obtain rfl : task = task' := Option.some.inj (found.symm.trans found')
      refine ⟨row, here, edit.price, edit.orgId, by simp [edit.billed], fun _ success => .inl ?_⟩
      rcases edit.status with same | ⟨_, not_success⟩
      · rw [← same, success]
      · exact absurd success not_success
  · intro id row absent found
    rcases edited.rows id with ⟨_, none_after⟩ | ⟨task, _, some_before, _⟩
    · rw [found] at none_after
      contradiction
    · rw [absent] at some_before
      contradiction

theorem change_created {row : Task} (bounded : Bounded hub) (created : Created hub row) : Change hub (hub.addTask row) [] := by
  refine change_nothing rfl (fun _ => rfl) (Nat.le_succ _) ?_ ?_
  · intro id task found
    have below := bounded id task found
    exact ⟨task, by simp [Hub.addTask, Table.find_put, below.ne, found], .refl id task⟩
  · intro id new absent found
    by_cases same : id = hub.nextId
    · obtain rfl : row = new := by simpa [Hub.addTask, same] using found
      exact ⟨same.ge, by simp [Hub.addTask, same], created.billed, by simp [created.status], created.org⟩
    · simp [Hub.addTask, Table.find_put, same, absent] at found

theorem change_request (told : World → Prop) (bounded : Bounded hub) (request : Request) :
    Change hub (request.rows hub) [] ∧ Charges told hub (request.rows hub) [] := by
  rcases rows_effect request hub with edited | ⟨row, same, created⟩
  · exact ⟨change_edited edited, charges_nothing edited.balances⟩
  · rw [same]
    exact ⟨change_created bounded created, charges_nothing fun _ => rfl⟩

theorem Booked.step {server : Server} (booked : Booked server.hub) (event : Event) : Booked (step server event).hub := by
  cases event with
  | request request => exact booked.change (change_request (fun _ => False) booked.bounded request).1
  | work world job => exact booked.path (work_path booked.bounded job)

theorem Ledger.step {server : Server} {told : World → Prop} (now : Ledger start told server.hub) (event : Event)
    (said : ∀ world job, event = .work world job → told world ∧ world.database.Exact) :
    Ledger start told (step server event).hub := by
  cases event with
  | request request =>
    obtain ⟨change, charges⟩ := change_request told now.booked.bounded request
    exact now.change change charges
  | work world job =>
    obtain ⟨told, exact⟩ := said world job rfl
    exact now.path exact told (work_path now.booked.bounded job)

theorem Ledger.tell {wider : World → Prop} (now : Ledger start told hub) (more : ∀ world, told world → wider world) :
    Ledger start wider hub := by
  refine ⟨now.booked, fun event member => ?_, now.balance⟩
  obtain ⟨task, just⟩ := now.justified event member
  obtain ⟨world, body, said, rest⟩ := just.priced
  exact ⟨task, just.found, just.onWorker, just.orgId, just.kind, just.unlimited, world, body, more world said, rest⟩

end Steps

/-- The outside as it was during some step of the run. -/
def Told (events : List Event) (world : World) : Prop := ∃ job, Event.work world job ∈ events

theorem Booked.opening (opening : Opening) : Booked opening.hub where
  once := by simp [opening.usage]
  billed := by simp [opening.tasks]
  success := by simp [opening.tasks]
  stored := by simp [opening.usage]
  bounded := by simp [Bounded, opening.tasks]
  orgs := by simp [opening.tasks]

theorem Ledger.opening (opening : Opening) (told : World → Prop) : Ledger opening.hub told opening.hub where
  booked := .opening opening
  justified := by simp [opening.usage]
  balance orgId := by simp [opening.usage, chargedTotal]

theorem ledger_along (opening : Opening) (events : List Event) (exact : ∀ world, Told events world → world.database.Exact) :
    Ledger opening.hub (Told events) (run step (.fresh opening.hub) events).hub := by
  refine run_induction (I := fun done (server : Server) => (∀ world, Told done world → world.database.Exact) →
    Ledger opening.hub (Told done) server.hub) (fun _ => .opening opening _) ?_ events exact
  intro done event server now exact
  have earlier {world : World} : Told done world → Told (done ++ [event]) world := by
    rintro ⟨job, member⟩
    exact ⟨job, List.mem_append_left _ member⟩
  refine Ledger.step ((now fun world said => exact world (earlier said)).tell fun _ => earlier) event ?_
  rintro world job rfl
  have said : Told (done ++ [.work world job]) world := ⟨job, List.mem_append_right _ (List.mem_singleton.mpr rfl)⟩
  exact ⟨said, exact world said⟩

section Samples

/-- Numbers and text as they are; nothing parses. -/
def plainPython : Python where
  float
    | .num value => some value
    | _ => none
  str _ := "?"
  jsonBytes _ := some 0
  int
    | .num (.finite value 0) => .value value
    | _ => .invalid
  lower text := text
  urlparse _ := none
  str_truthy _ _ := by decide

/-- A hub on PostgreSQL; no worker answers. -/
def silentWorld : World where
  python := plainPython
  database := .postgresql
  now := 0
  dispatchNoCandidateSec := 0
  importMaxConcurrent := 1
  probe _ := .raises
  probeStored version _ := match version with
    | .null | .str _ => true
    | _ => false
  getTask _ := .unreachable
  post _ _ := .refused .http []
  artifact _ := .missing
  downloadProxyReady := true
  download _ := .raises ""
  isoNow := ""
  finalizingStuck _ := false
  jitsiToken _ _ _ _ := none
  raises _ := false

def acceptingWorld : World := { silentWorld with
  post := fun _ _ => .accepted [("status", .str "queued"), ("task_id", .str "w1")] }

def finishingWorld : World := { silentWorld with
  getTask := fun _ => .answer 200 [
    ("status", .str "success"),
    ("meta", .obj [("audio_duration_sec", idJson 60)]),
    ("transcript", .arr [])] }

def smallHub : Hub where
  tasks := ∅
  nodes := Table.put ∅ 1 {
    type := .transcribe
    weight := 1
    enabled := true
    lastHealth := some [("_http", idJson 200), ("engines", .obj [("whisper", .str "loaded")])]
    lastHealthAt := none
    lastSeenVersion := .null
    asrModels := none
    diarizationModels := none
    captureConnectors := none }
  orgs := Table.put ∅ 2 ⟨(5000 : Int), false, none⟩
  audios := Table.put ∅ 3 ⟨2, 4, "talk.mp3", none⟩
  transcripts := ∅
  summaries := ∅
  skills := ∅
  users := ∅
  jitsiHosts := ∅
  settings := ⟨true, true, none⟩
  usage := []
  nextId := 10

def small : Opening := ⟨smallHub, fun _ => rfl, rfl⟩

def smallSubmission : Tasks.Submission :=
  ⟨2, 4, [], ⟨false, (1000 : Int), (1000 : Int), 0, none, none, none, false⟩, 0⟩

end Samples

end IdigestHub.System
