import IdigestHub.Billing.Charge
import IdigestHub.Foundation.Runs

/-! One organization's balance under concurrent transactions. Each transaction loads the
organization row, computes in memory, and commits an absolute balance. -/

set_option autoImplicit false

namespace IdigestHub.Billing

open Foundation Foundation.Runs

/-- `wallet_delta` on the value of the request's text: the parsed delta and the new row. -/
def walletDelta (value : Decimal) (org : Organization) : Option (Money × Organization) := do
  let delta ← parseMoney value
  let sum ← (Decimal.ofFixed moneyPlaces org.balance).add (.ofFixed moneyPlaces delta)
  let balance ← parseMoney sum
  some (delta, { org with balance })

inductive Job where
  | charge (taskId : Nat) (audioSec : Option Decimal) (amount : Int) (summaryChars : Option Nat) (task : Task)
  | delta (value : Decimal)

/-- What a transaction writes when it does not raise. -/
structure Outcome where
  org : Organization
  event : Option UsageEvent
  delta : Option Money

def Job.outcome (loaded : Organization) : Job → Option Outcome
  | .charge taskId audioSec amount summaryChars task =>
    (applySuccessCharge taskId audioSec amount summaryChars task loaded).map fun charged =>
      ⟨charged.org, charged.event, none⟩
  | .delta value => (walletDelta value loaded).map fun result => ⟨result.2, none, some result.1⟩

/-- By how much the transaction means to change the balance. -/
def Job.effect : Job → Money
  | .charge _ _ amount _ task => chargeEffect task amount
  | .delta value => (parseMoney value).getD 0

/-- A transaction that has read the row and not committed yet. -/
structure InFlight where
  job : Job
  loaded : Organization

structure Wallet where
  org : Organization
  inFlight : Nat → Option InFlight
  events : List UsageEvent
  deltas : List Money

inductive Step where
  | load (tx : Nat) (job : Job)
  | commit (tx : Nat)
  | abort (tx : Nat)

/-- An unchanged attribute is not written; NaN never compares equal to itself. -/
def written (stored loaded new : Money) : Money := if new = loaded ∧ new ≠ ⊤ then stored else new

/-- The outcome that a commit makes durable: none when the transaction raises, or when a
value does not fit its column. -/
def InFlight.lands (t : InFlight) : Option Outcome :=
  (t.job.outcome t.loaded).filter fun outcome =>
    storable outcome.org.balance && outcome.event.all fun event => storable (event.amount : Money)

def Wallet.close (wallet : Wallet) (tx : Nat) : Wallet :=
  { wallet with inFlight := Function.update wallet.inFlight tx none }

def Wallet.step (wallet : Wallet) : Step → Wallet
  | .load tx job => { wallet with inFlight := Function.update wallet.inFlight tx (some ⟨job, wallet.org⟩) }
  | .abort tx => wallet.close tx
  | .commit tx =>
    match wallet.inFlight tx with
    | none => wallet
    | some t =>
      match t.lands with
      | none => wallet.close tx
      | some outcome =>
        let balance := written wallet.org.balance t.loaded.balance outcome.org.balance
        { wallet.close tx with
          org := { wallet.org with balance }
          events := wallet.events ++ outcome.event.toList
          deltas := wallet.deltas ++ outcome.delta.toList }

def Wallet.start (org : Organization) : Wallet := ⟨org, fun _ => none, [], []⟩

def chargedTotal (events : List UsageEvent) : Int :=
  ((events.filter fun event => !event.unlimitedSkip).map UsageEvent.amount).sum

def Wallet.Conserved (initial : Money) (wallet : Wallet) : Prop :=
  wallet.org.balance = initial + wallet.deltas.sum + ((-chargedTotal wallet.events : Int) : Money)

/-- A commit that lands leaves the balance alone, or overwrites the balance it read. -/
def UpToDate (wallet : Wallet) : Step → Prop
  | .commit tx => ∀ t, wallet.inFlight tx = some t → t.lands.isSome →
      (t.job.effect = 0 ∧ t.loaded.balance ≠ ⊤) ∨ t.job.effect = ⊤ ∨ t.loaded.balance = wallet.org.balance
  | _ => True

theorem outcome_effect {job : Job} {loaded : Organization} {outcome : Outcome}
    (computed : job.outcome loaded = some outcome) :
    outcome.org.balance = loaded.balance + job.effect ∧
    outcome.delta.toList.sum + ((-chargedTotal outcome.event.toList : Int) : Money) = job.effect := by
  cases job with
  | charge taskId audioSec amount summaryChars task =>
    obtain ⟨charged, done, rfl⟩ := Option.map_eq_some_iff.mp computed
    refine ⟨applySuccessCharge_balance done, ?_⟩
    cases billed : task.billed with
    | true =>
      rw [applySuccessCharge_billed billed] at done
      obtain rfl := Option.some.inj done
      simp [Job.effect, chargeEffect, billed, chargedTotal]
    | false =>
      obtain ⟨_, event, _⟩ := applySuccessCharge_fresh billed done
      cases unlimited : task.snap.unlimited <;>
        simp [Job.effect, chargeEffect, billed, event, unlimited, chargedTotal]
  | delta value =>
    obtain ⟨result, done, rfl⟩ := Option.map_eq_some_iff.mp computed
    simp only [walletDelta, Option.bind_eq_bind, Option.bind_eq_some_iff] at done
    obtain ⟨delta, parsed, sum, added, balance, rounded, same⟩ := done
    obtain rfl := Option.some.inj same
    simp [Job.effect, parsed, parseMoney_add added rounded, chargedTotal]

theorem written_iff (stored loaded effect : Money) :
    written stored loaded (loaded + effect) = stored + effect ↔
      (effect = 0 ∧ loaded ≠ ⊤) ∨ effect = ⊤ ∨ loaded = stored := by
  unfold written
  induction effect using WithTop.recTopCoe with
  | top => simp
  | coe e =>
    induction loaded using WithTop.recTopCoe with
    | top =>
      induction stored using WithTop.recTopCoe with
      | top => simp
      | coe s => simp [← WithTop.coe_add]
    | coe l =>
      induction stored using WithTop.recTopCoe with
      | top =>
        by_cases zero : e = 0
        · simp [zero]
        · simp [← WithTop.coe_add, zero]
      | coe s =>
        by_cases zero : e = 0
        · simp [zero]
        · simp [← WithTop.coe_add, zero]

theorem chargedTotal_append (first second : List UsageEvent) :
    chargedTotal (first ++ second) = chargedTotal first + chargedTotal second := by
  simp [chargedTotal]

/-- A step keeps the balance explained exactly when it is up to date. -/
theorem step_conserved_iff (initial : Money) (wallet : Wallet) (step : Step)
    (conserved : wallet.Conserved initial) :
    (wallet.step step).Conserved initial ↔ UpToDate wallet step := by
  cases step with
  | load tx job => exact ⟨fun _ => trivial, fun _ => conserved⟩
  | abort tx => exact ⟨fun _ => trivial, fun _ => conserved⟩
  | commit tx =>
    cases open_tx : wallet.inFlight tx with
    | none => simpa [Wallet.step, UpToDate, open_tx] using conserved
    | some t =>
      cases lands : t.lands with
      | none =>
        have closed : (wallet.close tx).Conserved initial := conserved
        simpa [Wallet.step, UpToDate, open_tx, lands] using closed
      | some outcome =>
        obtain ⟨computed, _⟩ := Option.filter_eq_some_iff.mp lands
        obtain ⟨new, ledger⟩ := outcome_effect computed
        have total : initial + (wallet.deltas ++ outcome.delta.toList).sum +
            ((-chargedTotal (wallet.events ++ outcome.event.toList) : Int) : Money)
            = wallet.org.balance + t.job.effect := by
          rw [← ledger, conserved, List.sum_append, chargedTotal_append, neg_add, WithTop.coe_add]
          ac_rfl
        simp only [Wallet.step, open_tx, lands, Wallet.Conserved, UpToDate, total, new]
        rw [written_iff]
        simp [lands]

/-- In every interleaving, the balance always equals the initial one plus the committed
deltas minus the committed charges if and only if every commit is up to date. -/
theorem wallet_conserved_iff (org : Organization) (steps : List Step) :
    Always Wallet.step (Wallet.Conserved org.balance) (.start org) steps ↔
      Along Wallet.step UpToDate (.start org) steps := by
  refine always_iff_along (fun s e now => step_conserved_iff _ s e now) ?_
  simp [Wallet.Conserved, Wallet.start, chargedTotal]

/-- A finished task with 30 units to pay, of an organization on a metered tariff. -/
def meteredTask : Task where
  type := .transcribe
  status := .success
  orgId := 1
  userId := 1
  audioId := none
  transcriptId := none
  skillIds := []
  workerId := none
  workerTaskId := none
  producedTranscriptId := none
  producedSummaryId := none
  errorCode := none
  snap := ⟨false, (1 : Int), (0 : Int), 0, none, none, none, false⟩
  queuedAt := 0
  retryWithoutTimeout := false
  skipPersist := false
  skipReason := none
  billed := false
  metaJson := none

def lostTopUp : Wallet :=
  run Wallet.step (.start ⟨(1000 : Int), false, none⟩) [
    .load 1 (.delta (.finite 100 0)),
    .load 2 (.charge 7 none 30000 none meteredTask),
    .commit 1,
    .commit 2]

/-- The top-up is in the ledger and not in the balance. -/
theorem wallet_loses_top_up :
    lostTopUp.org.balance = ((-29000 : Int) : Money) ∧ lostTopUp.deltas = [((100000 : Int) : Money)] ∧
    chargedTotal lostTopUp.events = 30000 ∧ ¬lostTopUp.Conserved ((1000 : Int) : Money) := by
  unfold Wallet.Conserved
  decide +kernel

end IdigestHub.Billing
