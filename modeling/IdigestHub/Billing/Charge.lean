import IdigestHub.Billing.Money
import IdigestHub.Hub.Database

/-! The charge for a finished task. -/

set_option autoImplicit false

namespace IdigestHub.Billing

open Foundation

/-- What one charge writes: the task row, the organization row, and a new event. -/
structure Charged where
  task : Task
  org : Organization
  event : Option UsageEvent

/-- `floor_money(Decimal(org.balance) - amount)`. -/
def balanceAfter (balance : Money) (amount : Int) : Option Money :=
  ((Decimal.ofFixed moneyPlaces balance).sub (.ofFixed moneyPlaces (amount : Money))).bind floorMoney

/-- `apply_success_charge`. It raises where decimal arithmetic does. -/
def applySuccessCharge (taskId : Nat) (audioSec : Option Decimal) (amount : Int)
    (summaryChars : Option Nat) (task : Task) (org : Organization) : Option Charged :=
  if task.billed then some ⟨task, org, none⟩
  else do
    let skip := task.snap.unlimited
    let balance ← if skip then some org.balance else balanceAfter org.balance amount
    some {
      task := { task with billed := true }
      org := { org with balance }
      event := some {
        orgId := task.orgId
        userId := task.userId
        taskId
        kind := task.type
        audioSec
        summaryChars
        amount
        unlimitedSkip := skip } }

/-- The balance that the row keeps. A value equal to the one before is not written; NaN never compares equal to itself. -/
def keptBalance (database : Database) (before after : Money) : Option Money :=
  if after = before ∧ after ≠ ⊤ then some before else database.money after

/-- The charge as its columns give it back, none where the database refuses a value. A skipped charge does not set the balance. -/
def Charged.stored (database : Database) (before : Organization) (charged : Charged) : Option Charged :=
  match charged.event with
  | none => some charged
  | some event =>
    let kept := if event.unlimitedSkip then some before.balance else keptBalance database before.balance charged.org.balance
    kept.bind fun balance => (database.numeric event.amount).map fun amount =>
      { charged with org := { charged.org with balance }, event := some { event with amount } }

def chargedBalance (database : Database) (task : Task) (amount : Int) (before : Money) : Option Money :=
  if task.snap.unlimited then some before else (balanceAfter before amount).bind (keptBalance database before)

def chargeEffect (task : Task) (amount : Int) : Money :=
  if task.billed || task.snap.unlimited then 0 else ((-amount : Int) : Money)

variable {taskId : Nat} {audioSec : Option Decimal} {amount : Int} {summaryChars : Option Nat}
variable {task : Task} {org : Organization} {charged : Charged}

theorem balanceAfter_exact {balance result : Money} (computed : balanceAfter balance amount = some result) :
    result = balance + ((-amount : Int) : Money) := by
  obtain ⟨difference, subtracted, floored⟩ := Option.bind_eq_some_iff.mp computed
  exact floorMoney_sub subtracted floored

theorem applySuccessCharge_billed (billed : task.billed = true) :
    applySuccessCharge taskId audioSec amount summaryChars task org = some ⟨task, org, none⟩ := by
  simp [applySuccessCharge, billed]

/-- An unbilled task becomes billed, gets one event of this amount, and the balance
falls by it unless the task was accepted under an unlimited tariff. -/
theorem applySuccessCharge_fresh (unbilled : task.billed = false)
    (done : applySuccessCharge taskId audioSec amount summaryChars task org = some charged) :
    charged.task = { task with billed := true } ∧
    charged.event = some ⟨task.orgId, task.userId, taskId, task.type, audioSec, summaryChars, amount,
      task.snap.unlimited⟩ ∧
    charged.org = { org with balance := org.balance + chargeEffect task amount } := by
  cases unlimited : task.snap.unlimited with
  | true =>
    obtain rfl : _ = charged := by simpa [applySuccessCharge, unbilled, unlimited] using done
    simp [chargeEffect, unlimited]
  | false =>
    simp only [applySuccessCharge, unbilled, unlimited, Bool.false_eq_true, if_false,
      Option.bind_eq_bind, Option.bind_eq_some_iff] at done
    obtain ⟨balance, computed, same⟩ := done
    obtain rfl := Option.some.inj same
    simp [chargeEffect, unbilled, unlimited, balanceAfter_exact computed]

theorem stored_task {database : Database} {before : Organization} {kept : Charged}
    (stored : charged.stored database before = some kept) :
    kept.task = charged.task := by
  unfold Charged.stored at stored
  split at stored
  · rw [← Option.some.inj stored]
  · obtain ⟨_, _, amounts⟩ := Option.bind_eq_some_iff.mp stored
    obtain ⟨_, _, rfl⟩ := Option.map_eq_some_iff.mp amounts
    rfl

theorem stored_of_charge (database : Database) (unbilled : task.billed = false) :
    ((applySuccessCharge taskId audioSec amount summaryChars task org).bind (Charged.stored database org)) =
      (chargedBalance database task amount org.balance).bind fun balance => (database.numeric amount).map fun stored =>
        ⟨{ task with billed := true }, { org with balance },
          some ⟨task.orgId, task.userId, taskId, task.type, audioSec, summaryChars, stored, task.snap.unlimited⟩⟩ := by
  cases unlimited : task.snap.unlimited with
  | true =>
    simp only [applySuccessCharge, unbilled, unlimited, chargedBalance, Charged.stored, Bool.false_eq_true, if_false, if_true,
      Option.bind_eq_bind, Option.bind_some]
  | false =>
    simp only [applySuccessCharge, unbilled, unlimited, chargedBalance, Bool.false_eq_true, if_false, Option.bind_eq_bind]
    cases balanceAfter org.balance amount with
    | none => rfl
    | some balance =>
      simp only [Option.bind_some, Charged.stored, Bool.false_eq_true, if_false]

theorem chargedBalance_exact {database : Database} (exact : database.Exact) (unbilled : task.billed = false)
    {before balance : Money}
    (charged : chargedBalance database task amount before = some balance) : balance = before + chargeEffect task amount := by
  unfold chargedBalance at charged
  split at charged
  · rename_i unlimited
    simp [chargeEffect, unlimited, ← Option.some.inj charged]
  · rename_i limited
    obtain ⟨after, computed, kept⟩ := Option.bind_eq_some_iff.mp charged
    have effect : after = before + chargeEffect task amount := by
      simp [chargeEffect, unbilled, limited, balanceAfter_exact computed]
    rw [← effect]
    unfold keptBalance at kept
    split at kept
    · rename_i same
      rw [same.1, ← Option.some.inj kept]
    · exact exact.money kept

theorem applySuccessCharge_balance
    (done : applySuccessCharge taskId audioSec amount summaryChars task org = some charged) :
    charged.org.balance = org.balance + chargeEffect task amount := by
  cases billed : task.billed with
  | true =>
    rw [applySuccessCharge_billed billed] at done
    obtain rfl := Option.some.inj done
    simp [chargeEffect, billed]
  | false =>
    rw [(applySuccessCharge_fresh billed done).2.2]

end IdigestHub.Billing
