import IdigestHub.Billing.Entries
import IdigestHub.Billing.Statistics

/-! The ledger of an organization, read from the usage events and from the audit rows of wallet deltas, and the balance that
it explains. -/

set_option autoImplicit false

namespace IdigestHub.Billing

open Foundation Foundation.Calendar Foundation.DecimalText Foundation.Runs Numerals

/-- A row of `audit_log` with the action `wallet.delta`; the delta is a text. -/
structure WalletAudit where
  orgId : Nat
  delta : String
  createdAt : Moment

inductive EntryType where
  | charge | wallet
  deriving DecidableEq

structure LedgerEntry where
  entryType : EntryType
  createdAt : Moment
  amount : Int
  usageAmount : Option Int
  kind : Option TaskType
  userId : Option Nat
  taskId : Option Nat
  unlimitedSkip : Bool
  audioSec : Option Decimal
  summaryChars : Option Nat

structure OrgLedger where
  items : List LedgerEntry
  totalSpent : Int
  totalTopup : Int
  net : Int

def impact (event : UsageRow Decimal) : Int := if event.unlimitedSkip then 0 else -event.amount

def chargeEntry (event : UsageRow Decimal) : LedgerEntry where
  entryType := .charge
  createdAt := event.createdAt
  amount := impact event
  usageAmount := some event.amount
  kind := some event.kind
  userId := event.userId
  taskId := event.taskId
  unlimitedSkip := event.unlimitedSkip
  audioSec := event.audioSec
  summaryChars := event.summaryChars

def walletEntry (createdAt : Moment) (delta : Int) : LedgerEntry where
  entryType := .wallet
  createdAt
  amount := delta
  usageAmount := none
  kind := none
  userId := none
  taskId := none
  unlimitedSkip := false
  audioSec := none
  summaryChars := none

def OrgLedger.charge (ledger : OrgLedger) (event : UsageRow Decimal) : OrgLedger where
  items := ledger.items ++ [chargeEntry event]
  totalSpent := ledger.totalSpent + -impact event
  totalTopup := ledger.totalTopup
  net := ledger.net + impact event

/-- One turn of the loop over the audit rows. A text that is no number raises, and so does the comparison of a NaN. -/
def OrgLedger.wallet (ledger : OrgLedger) (row : WalletAudit) : Option OrgLedger := do
  match ← parseMoneyText row.delta with
  | none => none
  | some delta =>
    some {
      items := ledger.items ++ [walletEntry row.createdAt delta]
      totalSpent := ledger.totalSpent
      totalTopup := if 0 < delta then ledger.totalTopup + delta else ledger.totalTopup
      net := ledger.net + delta }

def orgLedger (query : Query) (usage : List (UsageRow Decimal)) (wallet : List WalletAudit) : Option OrgLedger := do
  let charged := (usage.filter query.selects).foldl OrgLedger.charge ⟨[], 0, 0, 0⟩
  let ledger ←
    if query.userId.isNone && (kindFilter query.kind).isNone then
      (wallet.filter fun row => query.range.covers row.createdAt && query.orgId == some row.orgId).foldlM OrgLedger.wallet charged
    else some charged
  -- the newest first
  some { ledger with items := ledger.items.insertionSort fun first second => second.createdAt ≤ first.createdAt }

structure Accounts where
  books : Books
  usage : List (UsageRow Decimal)
  wallet : List WalletAudit

def Entry.manages : Entry → Bool
  | .walletDelta _ _ | .charge _ _ _ _ _ _ => false
  | _ => true

inductive Booking where
  | walletDelta (orgId : Nat) (delta : String)
  | charge (taskId : Nat) (audioSec : Option Decimal) (amount : Int) (summaryChars : Option Nat) (task : Task)
  | manage (entry : Entry) (manages : entry.manages = true)
  -- the purge of the task history
  | purgeTasks (ids : List Nat)
  | deleteUser (userId : Nat)
  | deleteOrg (orgId : Nat)

def Books.chargeEvent (books : Books) (taskId : Nat) (audioSec : Option Decimal) (amount : Int) (summaryChars : Option Nat)
    (task : Task) : Option UsageEvent := do
  let org ← books.orgs.find task.orgId
  let charged ← applySuccessCharge taskId audioSec amount summaryChars task
    (org.organization ((books.tariffs.find org.tariffId).any TariffOf.unlimited))
  charged.event

namespace Accounts

variable (accounts : Accounts) (moment : Moment)

def walletDelta (orgId : Nat) (delta : String) : Accounts :=
  let (response, books) := accounts.books.walletDelta orgId delta
  { accounts with
    books
    wallet :=
      if response = .ok then
        accounts.wallet ++
          ((parseMoneyText delta).map fun delta => WalletAudit.mk orgId (.ofList (moneyText delta)) moment).toList
      else accounts.wallet }

/-- A row of `usage_events` for an event. -/
def usageRow (event : UsageEvent) : UsageRow Decimal where
  orgId := event.orgId
  userId := some event.userId
  taskId := some event.taskId
  kind := event.kind
  audioSec := event.audioSec
  summaryChars := event.summaryChars
  amount := event.amount
  unlimitedSkip := event.unlimitedSkip
  createdAt := moment

def charge (taskId : Nat) (audioSec : Option Decimal) (amount : Int) (summaryChars : Option Nat) (task : Task) : Accounts :=
  let (response, books) := accounts.books.charge task.orgId taskId audioSec amount summaryChars task
  { accounts with
    books
    usage :=
      if response = .ok then
        accounts.usage ++ ((accounts.books.chargeEvent taskId audioSec amount summaryChars task).map (usageRow moment)).toList
      else accounts.usage }

def step : Booking → Accounts
  | .walletDelta orgId delta => accounts.walletDelta moment orgId delta
  | .charge taskId audioSec amount summaryChars task => accounts.charge moment taskId audioSec amount summaryChars task
  | .manage entry _ => { accounts with books := accounts.books.step entry }
  | .purgeTasks ids => { accounts with
    usage := accounts.usage.map fun event => if event.taskId.any ids.contains then { event with taskId := none } else event }
  | .deleteUser userId => { accounts with
    usage := accounts.usage.map fun event =>
      if event.userId = some userId then { event with userId := none, taskId := none } else event }
  | .deleteOrg orgId => { accounts with
    books := { accounts.books with orgs := accounts.books.orgs.delete orgId }
    usage := accounts.usage.filter fun event => event.orgId != orgId }

end Accounts

structure Booked where
  moment : Moment
  booking : Booking

def Accounts.book (accounts : Accounts) (booked : Booked) : Accounts := accounts.step booked.moment booked.booking

/-- The text of a delta in the audit log gives the delta back. -/
theorem parseMoneyText_moneyText {value : Money} (fits : ∀ n : Int, value = (n : Money) → n.natAbs < 10 ^ Decimal.precision) :
    parseMoneyText (.ofList (moneyText value)) = some value := by
  have some_char : (moneyText value).isEmpty = false := List.isEmpty_eq_false_iff.mpr (fixedText_ne_nil value)
  rw [parseMoneyText, String.toList_ofList]
  simp only [moneyText, trimBoth_fixedText] at some_char ⊢
  rw [some_char, if_neg Bool.false_ne_true]
  induction value using WithTop.recTopCoe with
  | top => rw [decimalOf_nan]; rfl
  | coe n =>
    have small := fits n rfl
    rw [decimalOf_fixedText (by decide) small]
    exact Decimal.quantizeDown_fixed moneyPlaces n small

theorem parseMoneyText_fits {text : String} {value : Money} (parsed : parseMoneyText text = some value) (n : Int)
    (its : value = (n : Money)) : n.natAbs < 10 ^ Decimal.precision := by
  subst its
  unfold parseMoneyText at parsed
  dsimp only at parsed
  split at parsed
  · cases parsed
  · split at parsed
    · rename_i amount _
      cases amount with
      | nan => cases parsed
      | infinity negative => cases parsed
      | finite coefficient exponent =>
        rw [parseMoney, Decimal.quantizeDown] at parsed
        split at parsed
        · rename_i fits
          rwa [WithTop.coe_inj.mp (Option.some.inj parsed)] at fits
        · cases parsed
    · cases parsed
    · cases parsed

section Net

variable {query : Query} {accounts : Accounts} {orgId : Nat} {range : Range}

/-- The delta of an audit row, where a text that raises counts as NaN. -/
def WalletAudit.amount (row : WalletAudit) : Money := (parseMoneyText row.delta).getD ⊤

/-- What a ledger says about the balance: a ledger that raises says nothing, as NaN does. -/
def shownNet (ledger : Option OrgLedger) : Money := ledger.elim ⊤ fun ledger => (ledger.net : Money)

def Query.ofOrg (orgId : Nat) (range : Range) : Query := ⟨some orgId, range, none, none⟩

def Accounts.ledger (accounts : Accounts) (orgId : Nat) (range : Range) : Option OrgLedger :=
  orgLedger (.ofOrg orgId range) accounts.usage accounts.wallet

theorem selects_ofOrg (event : UsageRow Decimal) :
    (Query.ofOrg orgId range).selects event = (event.orgId == orgId && range.covers event.createdAt) := by
  have same : (orgId == event.orgId) = (event.orgId == orgId) := Bool.beq_comm
  simp [Query.selects, Query.ofOrg, kindFilter, same]

def Accounts.net (accounts : Accounts) (orgId : Nat) (range : Range) : Money :=
  ((accounts.usage.filter fun event => event.orgId == orgId && range.covers event.createdAt).map fun event =>
    ((impact event : Int) : Money)).sum +
    ((accounts.wallet.filter fun row => row.orgId == orgId && range.covers row.createdAt).map WalletAudit.amount).sum

theorem net_charges (events : List (UsageRow Decimal)) (ledger : OrgLedger) :
    ((events.foldl OrgLedger.charge ledger).net : Money) = (ledger.net : Money) +
      (events.map fun event => ((impact event : Int) : Money)).sum := by
  induction events generalizing ledger with
  | nil => rw [List.foldl_nil, List.map_nil, List.sum_nil, add_zero]
  | cons event events ih =>
    rw [List.foldl_cons, ih, List.map_cons, List.sum_cons, ← add_assoc]
    rfl

theorem net_wallet (rows : List WalletAudit) (ledger : OrgLedger) :
    shownNet (rows.foldlM OrgLedger.wallet ledger) = (ledger.net : Money) + (rows.map WalletAudit.amount).sum := by
  induction rows generalizing ledger with
  | nil => rw [List.foldlM_nil, List.map_nil, List.sum_nil, add_zero]; rfl
  | cons row rows ih =>
    rw [List.foldlM_cons, List.map_cons, List.sum_cons, WalletAudit.amount, OrgLedger.wallet]
    cases parsed : parseMoneyText row.delta with
    | none =>
      rw [Option.getD_none, WithTop.top_add, WithTop.add_top]
      rfl
    | some value =>
      induction value using WithTop.recTopCoe with
      | top =>
        rw [Option.getD_some, WithTop.top_add, WithTop.add_top]
        rfl
      | coe delta =>
        rw [Option.getD_some, ← add_assoc]
        exact ih _

theorem shownNet_ledger : shownNet (accounts.ledger orgId range) = accounts.net orgId range := by
  have wallet_rows : accounts.wallet.filter (fun row => (Query.ofOrg orgId range).range.covers row.createdAt &&
      (Query.ofOrg orgId range).orgId == some row.orgId) =
        accounts.wallet.filter fun row => row.orgId == orgId && range.covers row.createdAt := by
    refine List.filter_congr fun row _ => ?_
    have same : ((Query.ofOrg orgId range).orgId == some row.orgId) = (row.orgId == orgId) := Bool.beq_comm
    rw [same, Bool.and_comm]
    rfl
  have unsorted (found : Option OrgLedger) : shownNet (found.bind fun ledger =>
      some { ledger with items := ledger.items.insertionSort fun first second => second.createdAt ≤ first.createdAt }) =
        shownNet found := by
    cases found <;> rfl
  have usage_rows : (Query.ofOrg orgId range).selects = fun event => event.orgId == orgId && range.covers event.createdAt :=
    funext selects_ofOrg
  rw [Accounts.ledger, orgLedger]
  simp only [usage_rows, wallet_rows]
  show shownNet (Option.bind (List.foldlM _ _ _) _) = _
  rw [unsorted, net_wallet, net_charges, Accounts.net]
  show ((0 : Int) : Money) + _ + _ = _
  rw [WithTop.coe_zero, zero_add]

end Net

section Totals

structure OrgLedger.AddsUp (ledger : OrgLedger) : Prop where
  net : ledger.net = (ledger.items.map LedgerEntry.amount).sum
  spent : ledger.totalSpent = -((ledger.items.filter fun entry => entry.entryType == .charge).map LedgerEntry.amount).sum
  topup : ledger.totalTopup =
    ((ledger.items.filter fun entry => entry.entryType == .wallet && decide (0 < entry.amount)).map LedgerEntry.amount).sum

variable {ledger after : OrgLedger}

theorem OrgLedger.AddsUp.charge (adds_up : ledger.AddsUp) (event : UsageRow Decimal) : (ledger.charge event).AddsUp where
  net := by simp [OrgLedger.charge, chargeEntry, adds_up.net]
  spent := by
    simp only [OrgLedger.charge, List.filter_append, List.map_append, List.sum_append, adds_up.spent]
    simp [chargeEntry, Int.add_comm]
  topup := by
    simp only [OrgLedger.charge, List.filter_append, List.map_append, List.sum_append, adds_up.topup]
    simp [chargeEntry]

theorem OrgLedger.AddsUp.wallet (adds_up : ledger.AddsUp) {row : WalletAudit} (entered : ledger.wallet row = some after) :
    after.AddsUp := by
  obtain ⟨value, _, same⟩ := Option.bind_eq_some_iff.mp entered
  induction value using WithTop.recTopCoe with
  | top => cases same
  | coe delta =>
    obtain rfl := Option.some.inj same
    constructor
    · simp [walletEntry, adds_up.net]
    · simp only [List.filter_append, List.map_append, List.sum_append, adds_up.spent]
      simp [walletEntry]
    · simp only [List.filter_append, List.map_append, List.sum_append, adds_up.topup]
      -- A delta counts as a top-up only where it is more than nothing.
      by_cases positive : 0 < delta <;> simp [walletEntry, positive]

theorem adds_up_wallet (adds_up : ledger.AddsUp) {rows : List WalletAudit}
    (entered : rows.foldlM OrgLedger.wallet ledger = some after) :
    after.AddsUp := by
  induction rows generalizing ledger with
  | nil =>
    obtain rfl := Option.some.inj entered
    exact adds_up
  | cons row rows ih =>
    rw [List.foldlM_cons] at entered
    obtain ⟨middle, first, rest⟩ := Option.bind_eq_some_iff.mp entered
    exact ih (adds_up.wallet first) rest

theorem adds_up_charges (adds_up : ledger.AddsUp) (events : List (UsageRow Decimal)) :
    (events.foldl OrgLedger.charge ledger).AddsUp := by
  induction events generalizing ledger with
  | nil => exact adds_up
  | cons event events ih => exact ih (adds_up.charge event)

theorem OrgLedger.AddsUp.perm (adds_up : ledger.AddsUp) {items : List LedgerEntry} (same : items.Perm ledger.items) :
    OrgLedger.AddsUp { ledger with items } where
  net := adds_up.net.trans (same.map _).sum_eq.symm
  spent := adds_up.spent.trans (congrArg Neg.neg ((same.filter _).map _).sum_eq.symm)
  topup := adds_up.topup.trans ((same.filter _).map _).sum_eq.symm

theorem orgLedger_adds_up {query : Query} {usage : List (UsageRow Decimal)} {wallet : List WalletAudit}
    (shown : orgLedger query usage wallet = some ledger) :
    ledger.AddsUp ∧ ledger.items.Pairwise fun first second => second.createdAt ≤ first.createdAt := by
  obtain ⟨collected, found, rfl⟩ : ∃ collected : OrgLedger, collected.AddsUp ∧ ledger = { collected with
      items := collected.items.insertionSort fun first second => second.createdAt ≤ first.createdAt } := by
    have charged : (OrgLedger.AddsUp ((usage.filter query.selects).foldl OrgLedger.charge ⟨[], 0, 0, 0⟩)) :=
      adds_up_charges ⟨rfl, rfl, rfl⟩ _
    rw [orgLedger] at shown
    split at shown
    · obtain ⟨collected, entered, same⟩ := Option.bind_eq_some_iff.mp shown
      exact ⟨collected, adds_up_wallet charged entered, (Option.some.inj same).symm⟩
    · exact ⟨_, charged, (Option.some.inj shown).symm⟩
  have total : Std.Total fun first second : LedgerEntry => second.createdAt ≤ first.createdAt := ⟨fun _ _ => le_total _ _⟩
  have trans : IsTrans LedgerEntry fun first second => second.createdAt ≤ first.createdAt := ⟨fun _ _ _ one two => two.trans one⟩
  exact ⟨found.perm (List.perm_insertionSort ..), List.pairwise_insertionSort ..⟩

end Totals

section Steps

variable {accounts : Accounts} {books : Books} {orgId : Nat} {range : Range}

def Books.Numbered (books : Books) : Prop := ∀ orgId org, books.orgs.find orgId = some org → orgId < books.nextId

/-- What a step makes of the books: no organization comes back, and `moves` says how far each balance goes. -/
structure Books.Moved (books after : Books) (moves : Nat → Money) : Prop where
  numbered : after.Numbered
  nextId : books.nextId ≤ after.nextId
  orgs : ∀ orgId org, orgId < books.nextId → after.orgs.find orgId = some org →
    ∃ before, books.orgs.find orgId = some before ∧ org.balance = before.balance + moves orgId

theorem Books.Moved.refl (numbered : books.Numbered) : books.Moved books fun _ => 0 :=
  ⟨numbered, le_rfl, fun _ org _ found => ⟨org, found, (add_zero _).symm⟩⟩

theorem storeOrg_moved (numbered : books.Numbered) {orgId : Nat} {row : OrgRow} (moved : Money)
    (from_before : ∀ org, books.orgs.find orgId = some org → row.balance = org.balance + moved)
    (there : orgId < books.nextId → (books.orgs.find orgId).isSome) :
    books.Moved (books.storeOrg orgId row).2 fun other => if other = orgId then moved else 0 := by
  refine ⟨fun other org found => ?_, le_max_left _ _, fun other org below found => ?_⟩
  · show other < max books.nextId (orgId + 1)
    change (books.orgs.put orgId row).find other = some org at found
    rw [Table.find_put] at found
    split at found
    · omega
    · exact (numbered other org found).trans_le (le_max_left _ _)
  · change (books.orgs.put orgId row).find other = some org at found
    rw [Table.find_put] at found
    -- The row that is stored moves as it is said to, and the others stay.
    split at found
    · rename_i same
      subst same
      obtain ⟨before, its⟩ := Option.isSome_iff_exists.mp (there below)
      obtain rfl := Option.some.inj found
      exact ⟨before, its, by rw [if_pos rfl, from_before before its]⟩
    · rename_i other_org
      exact ⟨org, found, by rw [if_neg other_org, add_zero]⟩

theorem storeTariff_moved (numbered : books.Numbered) (tariffId : Nat) (row : TariffRow) :
    books.Moved (books.storeTariff tariffId row).2 fun _ => 0 :=
  ⟨fun orgId org found => (numbered orgId org found).trans_le (le_max_left _ _), le_max_left _ _,
    fun _ org _ found => ⟨org, found, (add_zero _).symm⟩⟩

theorem saveTariff_moved (numbered : books.Numbered) (tariffId : Nat) (applied : Except EntryFailure TariffDraft) :
    books.Moved (books.saveTariff tariffId applied).2 fun _ => 0 := by
  unfold Books.saveTariff
  split
  · exact .refl numbered
  · split
    · exact .refl numbered
    · exact storeTariff_moved numbered tariffId _

theorem manage_moved (numbered : books.Numbered) {entry : Entry} (manages : entry.manages = true) :
    books.Moved (books.step entry) fun _ => 0 := by
  have of_store {orgId : Nat} {row : OrgRow} (from_before : ∀ org, books.orgs.find orgId = some org → row.balance = org.balance)
      (there : orgId < books.nextId → (books.orgs.find orgId).isSome) : books.Moved (books.storeOrg orgId row).2 fun _ => 0 := by
    have moved := storeOrg_moved numbered 0 (fun org found => (from_before org found).trans (add_zero _).symm) there
    simpa only [ite_self] using moved
  rw [Books.step]
  cases entry with
  | walletDelta orgId delta => cases manages
  | charge orgId taskId audioSec amount summaryChars task => cases manages
  | createTariff body => exact saveTariff_moved numbered _ _
  | patchTariff tariffId body =>
    rw [Books.handle]
    split
    · exact .refl numbered
    · exact saveTariff_moved numbered _ _
  | cloneTariff tariffId name =>
    rw [Books.handle]
    split
    · exact .refl numbered
    · dsimp only
      split
      · exact .refl numbered
      · split
        · exact storeTariff_moved numbered _ _
        · exact .refl numbered
  | setArchived tariffId archived =>
    rw [Books.handle]
    split
    · exact .refl numbered
    · exact storeTariff_moved numbered _ _
  | createOrg tariffId =>
    rw [Books.handle]
    split
    · exact .refl numbered
    · split
      · exact .refl numbered
      · refine of_store (fun org found => ?_) fun below => absurd below (lt_irrefl _)
        exact absurd (numbered _ org found) (lt_irrefl _)
  | setOrgTariff orgId tariffId =>
    rw [Books.handle]
    split
    · rename_i org tariff found _
      refine of_store (fun other same => ?_) fun _ => by rw [found]; rfl
      rw [found] at same
      rw [Option.some.inj same]
    · exact .refl numbered

theorem walletDelta_cases (orgId : Nat) (delta : String) :
    (∃ failure, books.walletDelta orgId delta = books.fail failure) ∨
      ∃ org value balance, books.orgs.find orgId = some org ∧ parseMoneyText delta = some value ∧
        balance = org.balance + value ∧ books.walletDelta orgId delta = books.storeOrg orgId { org with balance } := by
  unfold Books.walletDelta
  cases found : books.orgs.find orgId with
  | none => exact .inl ⟨_, rfl⟩
  | some org =>
    dsimp only
    cases parsed : parseMoneyText delta with
    | none => exact .inl ⟨_, rfl⟩
    | some value =>
      dsimp only
      cases added : (addDelta org.balance value).filter storable with
      | none => exact .inl ⟨_, rfl⟩
      | some balance =>
        exact .inr ⟨org, value, balance, rfl, rfl, addDelta_eq (Option.filter_eq_some_iff.mp added).1, rfl⟩

def enteredEvent (taskId : Nat) (audioSec : Option Decimal) (amount : Int) (summaryChars : Option Nat) (task : Task) :
    UsageEvent :=
  ⟨task.orgId, task.userId, taskId, task.type, audioSec, summaryChars, amount, task.snap.unlimited⟩

theorem charge_cases (taskId : Nat) (audioSec : Option Decimal) (amount : Int) (summaryChars : Option Nat) (task : Task) :
    (∃ failure, books.charge task.orgId taskId audioSec amount summaryChars task = books.fail failure) ∨
      ∃ org balance, books.orgs.find task.orgId = some org ∧ balance = org.balance + chargeEffect task amount ∧
        books.charge task.orgId taskId audioSec amount summaryChars task = books.storeOrg task.orgId { org with balance } ∧
        books.chargeEvent taskId audioSec amount summaryChars task =
          if task.billed then none
          else some (enteredEvent taskId audioSec amount summaryChars task) := by
  unfold Books.charge Books.chargeEvent
  cases found : books.orgs.find task.orgId with
  | none => exact .inl ⟨_, rfl⟩
  | some org =>
    dsimp only [Option.bind_eq_bind, Option.bind_some]
    cases computed : applySuccessCharge taskId audioSec amount summaryChars task
        (org.organization ((books.tariffs.find org.tariffId).any TariffOf.unlimited)) with
    | none => exact .inl ⟨_, rfl⟩
    | some charged =>
      dsimp only [Option.bind_some]
      split
      · refine .inr ⟨org, charged.org.balance, rfl, applySuccessCharge_balance computed, rfl, ?_⟩
        cases billed : task.billed with
        | true =>
          rw [applySuccessCharge_billed billed] at computed
          obtain rfl := Option.some.inj computed
          rfl
        | false =>
          rw [(applySuccessCharge_fresh billed computed).2.1, if_neg Bool.false_ne_true]
          rfl
      · exact .inl ⟨_, rfl⟩

def Explains (range : Range) (accounts after : Accounts) : Prop :=
  ∃ moves : Nat → Money, accounts.books.Moved after.books moves ∧
    ∀ orgId, (after.books.orgs.find orgId).isSome → after.net orgId range = accounts.net orgId range + moves orgId

theorem net_of_map {f : UsageRow Decimal → UsageRow Decimal} (orgs : ∀ event, (f event).orgId = event.orgId)
    (moments : ∀ event, (f event).createdAt = event.createdAt) (impacts : ∀ event, impact (f event) = impact event) :
    Accounts.net { accounts with usage := accounts.usage.map f } orgId range = accounts.net orgId range := by
  rw [Accounts.net, Accounts.net]
  simp only [List.filter_map, List.map_map, Function.comp_def, orgs, moments, impacts]

theorem walletDelta_explained (numbered : accounts.books.Numbered) {moment : Moment} (within : range.covers moment = true)
    (orgId : Nat) (delta : String) : Explains range accounts (accounts.walletDelta moment orgId delta) := by
  rcases @walletDelta_cases accounts.books orgId delta with
    ⟨failure, failed⟩ | ⟨org, value, balance, found, parsed, sum, stored⟩
  · have idle : accounts.walletDelta moment orgId delta = accounts := by
      rw [Accounts.walletDelta, failed]
      rfl
    rw [idle]
    exact ⟨fun _ => 0, .refl numbered, fun _ _ => (add_zero _).symm⟩
  · have entered : accounts.walletDelta moment orgId delta = { accounts with
        books := (accounts.books.storeOrg orgId { org with balance }).2
        wallet := accounts.wallet ++ [⟨orgId, .ofList (moneyText value), moment⟩] } := by
      rw [Accounts.walletDelta, stored, parsed]
      rfl
    -- The text of the audit row is read back as the number that the balance has moved by.
    have told : WalletAudit.amount ⟨orgId, .ofList (moneyText value), moment⟩ = value := by
      rw [WalletAudit.amount, parseMoneyText_moneyText (parseMoneyText_fits parsed), Option.getD_some]
    rw [entered]
    refine ⟨_, storeOrg_moved numbered value ?_ ?_, fun other _ => ?_⟩
    · intro before its
      rw [Option.some.inj (found.symm.trans its)] at sum
      exact sum
    · intro _
      rw [found]
      rfl
    · rw [Accounts.net, Accounts.net, List.filter_append, List.map_append, List.sum_append, ← add_assoc]
      congr 1
      by_cases same : other = orgId
      · subst same
        simp [within, told]
      · simp [same, Ne.symm same]

theorem charge_explained (numbered : accounts.books.Numbered) {moment : Moment} (within : range.covers moment = true)
    (taskId : Nat) (audioSec : Option Decimal) (amount : Int) (summaryChars : Option Nat) (task : Task) :
    Explains range accounts (accounts.charge moment taskId audioSec amount summaryChars task) := by
  rcases @charge_cases accounts.books taskId audioSec amount summaryChars task with
    ⟨failure, failed⟩ | ⟨org, balance, found, sum, stored, event⟩
  · have idle : accounts.charge moment taskId audioSec amount summaryChars task = accounts := by
      rw [Accounts.charge, failed]
      rfl
    rw [idle]
    exact ⟨fun _ => 0, .refl numbered, fun _ _ => (add_zero _).symm⟩
  · have moved := @storeOrg_moved _ numbered _ { org with balance } (chargeEffect task amount)
      (fun before its => by rw [Option.some.inj (found.symm.trans its)] at sum; exact sum) fun _ => by rw [found]; rfl
    -- A task that is billed already leaves no event, and it moves nothing.
    cases billed : task.billed with
    | true =>
      rw [billed, if_pos rfl] at event
      have entered : accounts.charge moment taskId audioSec amount summaryChars task = { accounts with
          books := (accounts.books.storeOrg task.orgId { org with balance }).2 } := by
        rw [Accounts.charge, stored, event]
        show { accounts with books := _, usage := if _ then accounts.usage ++ [] else accounts.usage } = _
        rw [List.append_nil, ite_self]
        rfl
      have no_effect : chargeEffect task amount = 0 := by simp [chargeEffect, billed]
      rw [entered]
      rw [no_effect] at moved
      exact ⟨_, moved, fun other _ => by rw [ite_self, add_zero]; rfl⟩
    | false =>
      rw [billed, if_neg Bool.false_ne_true] at event
      -- the new row of the usage events
      obtain ⟨row, its_row⟩ : ∃ row, row = Accounts.usageRow moment (enteredEvent taskId audioSec amount summaryChars task) :=
        ⟨_, rfl⟩
      have entered : accounts.charge moment taskId audioSec amount summaryChars task = { accounts with
          books := (accounts.books.storeOrg task.orgId { org with balance }).2
          usage := accounts.usage ++ [row] } := by
        rw [Accounts.charge, stored, event, its_row]
        rfl
      have its_org : row.orgId = task.orgId := by rw [its_row]; rfl
      have its_moment : row.createdAt = moment := by rw [its_row]; rfl
      have its_impact : ((impact row : Int) : Money) = chargeEffect task amount := by
        rw [its_row, impact, chargeEffect, billed, Bool.false_or]
        show (((if task.snap.unlimited then 0 else -amount : Int)) : Money) = _
        split <;> rfl
      rw [entered]
      refine ⟨_, moved, fun other _ => ?_⟩
      rw [Accounts.net, Accounts.net, List.filter_append, List.map_append, List.sum_append, add_right_comm]
      congr 1
      by_cases same : other = task.orgId
      · simp [its_org, its_moment, within, same, its_impact]
      · simp [its_org, same, Ne.symm same]

theorem step_explained (numbered : accounts.books.Numbered) {booked : Booked} (within : range.covers booked.moment = true) :
    Explains range accounts (accounts.book booked) := by
  obtain ⟨moment, booking⟩ := booked
  have idle {usage : List (UsageRow Decimal)}
      (same : ∀ orgId, Accounts.net { accounts with usage } orgId range = accounts.net orgId range) :
      Explains range accounts { accounts with usage } :=
    ⟨fun _ => 0, .refl numbered, fun orgId _ => (same orgId).trans (add_zero _).symm⟩
  cases booking with
  | walletDelta orgId delta => exact walletDelta_explained numbered within orgId delta
  | charge taskId audioSec amount summaryChars task =>
    exact charge_explained numbered within taskId audioSec amount summaryChars task
  | manage entry manages => exact ⟨fun _ => 0, manage_moved numbered manages, fun _ _ => (add_zero _).symm⟩
  | purgeTasks ids =>
    refine idle fun orgId => net_of_map (fun event => ?_) (fun event => ?_) fun event => ?_
    · split <;> rfl
    · split <;> rfl
    · split <;> rfl
  | deleteUser userId =>
    refine idle fun orgId => net_of_map (fun event => ?_) (fun event => ?_) fun event => ?_
    · split <;> rfl
    · split <;> rfl
    · split <;> rfl
  | deleteOrg gone =>
    have found_before (orgId : Nat) (org : OrgRow) (found : (accounts.books.orgs.delete gone).find orgId = some org) :
        orgId ≠ gone ∧ accounts.books.orgs.find orgId = some org := by
      rw [Table.find_delete] at found
      split at found
      · contradiction
      · exact ⟨‹_›, found⟩
    refine ⟨fun _ => 0, ⟨fun orgId org found => numbered orgId org (found_before orgId org found).2, le_rfl,
      fun orgId org _ found => ?_⟩,
      fun orgId there => ?_⟩
    · exact ⟨org, (found_before orgId org found).2, (add_zero _).symm⟩
    · obtain ⟨org, found⟩ := Option.isSome_iff_exists.mp there
      have other := (found_before orgId org found).1
      show Accounts.net { accounts with books := _, usage := accounts.usage.filter _ } orgId range = _ + 0
      rw [add_zero, Accounts.net, Accounts.net, List.filter_filter]
      congr 3
      refine List.filter_congr fun event _ => ?_
      by_cases its : event.orgId = orgId
      · simp [its, other]
      · simp [its]

end Steps

section Runs

variable {start : Accounts} {range : Range}

theorem numbered_run (numbered : start.books.Numbered) (bookings : List Booked) :
    (run Accounts.book start bookings).books.Numbered := by
  refine run_induction (I := fun _ (accounts : Accounts) => accounts.books.Numbered) numbered ?_ bookings
  -- Every booking falls into the range without bounds.
  intro _ booked accounts numbered
  obtain ⟨_, moved, _⟩ := @step_explained accounts ⟨none, none⟩ numbered booked rfl
  exact moved.numbered

structure Accounts.Follows (range : Range) (start accounts : Accounts) : Prop where
  numbered : accounts.books.Numbered
  nextId : start.books.nextId ≤ accounts.books.nextId
  moved : ∀ orgId after, orgId < start.books.nextId → accounts.books.orgs.find orgId = some after →
    ∃ before, start.books.orgs.find orgId = some before ∧
      after.balance + start.net orgId range = before.balance + accounts.net orgId range

theorem follows_run (numbered : start.books.Numbered) {bookings : List Booked}
    (within : ∀ booked ∈ bookings, range.covers booked.moment = true) :
    Accounts.Follows range start (run Accounts.book start bookings) := by
  have start_follows : Accounts.Follows range start start := ⟨numbered, le_rfl, fun _ after _ found => ⟨after, found, rfl⟩⟩
  -- A booking moves the balance and the net of its range alike, so their difference stays.
  have one_more (done : List Booked) (booked : Booked) (accounts : Accounts)
      (sofar : (∀ booked ∈ done, range.covers booked.moment = true) → Accounts.Follows range start accounts)
      (all : ∀ other ∈ done ++ [booked], range.covers other.moment = true) :
      Accounts.Follows range start (accounts.book booked) := by
    have follows := sofar fun other member => all other (List.mem_append_left _ member)
    obtain ⟨moves, moved, shown⟩ := step_explained follows.numbered (all booked (List.mem_append_right _ List.mem_cons_self))
    refine ⟨moved.numbered, follows.nextId.trans moved.nextId, fun orgId after below found => ?_⟩
    obtain ⟨middle, there, last⟩ := moved.orgs orgId after (below.trans_le follows.nextId) found
    obtain ⟨before, first, explained⟩ := follows.moved orgId middle below there
    refine ⟨before, first, ?_⟩
    rw [last, shown orgId (by rw [found]; rfl), add_right_comm, explained, add_assoc]
  exact @run_induction _ _ Accounts.book
    (fun done accounts => (∀ booked ∈ done, range.covers booked.moment = true) → Accounts.Follows range start accounts)
    start (fun _ => start_follows) one_more bookings within

structure NewHub where
  accounts : Accounts
  orgs : ∀ orgId, accounts.books.orgs.find orgId = none

/-- The ledger explains the balance: while all bookings fall into a range, the balance of an organization moves by as much as
the net that its ledger shows for the range, where a ledger that cannot be shown stands for a balance that is no number; and
a ledger lists what it adds up. -/
theorem ledger_explains (hub : NewHub) (done : List Booked) {rest : List Booked} {range : Range}
    (within : ∀ booked ∈ rest, range.covers booked.moment = true) {orgId : Nat} {before after : OrgRow}
    (found : (run Accounts.book hub.accounts done).books.orgs.find orgId = some before)
    (still : (run Accounts.book hub.accounts (done ++ rest)).books.orgs.find orgId = some after) :
    after.balance + shownNet ((run Accounts.book hub.accounts done).ledger orgId range) =
        before.balance + shownNet ((run Accounts.book hub.accounts (done ++ rest)).ledger orgId range) ∧
      ∀ ledger, (run Accounts.book hub.accounts (done ++ rest)).ledger orgId range = some ledger →
        ledger.AddsUp ∧ ledger.items.Pairwise fun first second => second.createdAt ≤ first.createdAt := by
  have empty : hub.accounts.books.Numbered := fun id org there => by
    rw [hub.orgs] at there
    cases there
  have numbered := numbered_run empty done
  rw [run_append] at still ⊢
  rw [shownNet_ledger, shownNet_ledger]
  obtain ⟨first, there, moved⟩ := (follows_run numbered within).moved orgId after (numbered orgId before found) still
  rw [Option.some.inj (found.symm.trans there)]
  exact ⟨moved, fun _ shown => orgLedger_adds_up shown⟩

end Runs

section Samples

def emptyHub : NewHub := ⟨⟨{ meteredBooks with orgs := ∅ }, [], []⟩, fun _ => rfl⟩

def finishedTask (billed : Bool) : Task where
  type := .transcribe
  status := .success
  orgId := 2
  userId := 4
  audioId := none
  transcriptId := none
  skillIds := []
  workerId := none
  workerTaskId := none
  producedTranscriptId := some 5
  producedSummaryId := none
  errorCode := none
  snap := ⟨false, ((100 : Int) : Fixed), ((0 : Int) : Fixed), 0, none, none, none, false⟩
  queuedAt := 0
  retryWithoutTimeout := false
  skipPersist := false
  skipReason := none
  billed
  metaJson := none

def onFebruary (day : Fin 28) (booking : Booking) : Booked := ⟨⟨february day, ⟨7, by decide⟩⟩, booking⟩

def firstDays : List Booked :=
  [onFebruary ⟨0, by decide⟩ (.manage (.createOrg 0) rfl), onFebruary ⟨0, by decide⟩ (.walletDelta 2 "10"),
    onFebruary ⟨1, by decide⟩ (.charge 9 none 250 none (finishedTask false))]

def laterDays : List Booked :=
  [onFebruary ⟨4, by decide⟩ (.walletDelta 2 " -1.5 "), onFebruary ⟨5, by decide⟩ (.charge 11 none 40 none (finishedTask false)),
    onFebruary ⟨5, by decide⟩ (.charge 11 none 40 none (finishedTask true)), onFebruary ⟨6, by decide⟩ (.purgeTasks [9, 11])]

def laterRange : Range := ⟨some (.startOf (february ⟨4, by decide⟩)), none⟩

/-- What the later days move is what their ledger shows: 1.500 taken, and 0.040 charged once. -/
theorem later_days_explained :
    let accounts := run Accounts.book emptyHub.accounts (firstDays ++ laterDays)
    ∃ before after, (run Accounts.book emptyHub.accounts firstDays).books.orgs.find 2 = some before ∧
      accounts.books.orgs.find 2 = some after ∧
      (before.balance, after.balance) = (((9750 : Int) : Money), ((8210 : Int) : Money)) ∧
      (accounts.ledger 2 laterRange).map OrgLedger.net = some (-1540) ∧
      after.balance + shownNet ((run Accounts.book emptyHub.accounts firstDays).ledger 2 laterRange) =
        before.balance + shownNet (accounts.ledger 2 laterRange) := by
  have balances : (((run Accounts.book emptyHub.accounts firstDays).books.orgs.find 2).map OrgRow.balance,
      ((run Accounts.book emptyHub.accounts (firstDays ++ laterDays)).books.orgs.find 2).map OrgRow.balance) =
        (some ((9750 : Int) : Money), some ((8210 : Int) : Money)) := by decide +kernel
  obtain ⟨first, last⟩ := Prod.mk.inj balances
  obtain ⟨before, found, balance⟩ := Option.map_eq_some_iff.mp first
  obtain ⟨after, still, later⟩ := Option.map_eq_some_iff.mp last
  refine ⟨before, after, found, still, by rw [balance, later], by decide +kernel, ?_⟩
  exact (ledger_explains emptyHub firstDays (by decide) found still).1

end Samples

end IdigestHub.Billing
