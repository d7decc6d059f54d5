import IdigestHub.Billing.Charge
import IdigestHub.Foundation.DecimalText
import IdigestHub.Foundation.Runs
import IdigestHub.Foundation.Table
import IdigestHub.Foundation.Text

/-! Money that an administrator enters: wallet deltas, and the prices and the signup credit of a tariff. What the columns
of PostgreSQL store of it, and what later reads the stored values. -/

set_option autoImplicit false

namespace IdigestHub.Billing

open Foundation Foundation.DecimalText Foundation.Runs

inductive EntryCode where
  | notFound | validationError
  deriving DecidableEq

inductive EntryFailure where
  | refused (code : EntryCode)
  -- an exception that is no `ApiError`: status 500
  | raised
  deriving DecidableEq

inductive EntryResponse where
  | ok
  | failed (failure : EntryFailure)
  deriving DecidableEq

/-- A tariff with prices of one kind: the decimals in memory, or the columns. -/
structure TariffOf (Price : Type) where
  name : String
  unlimited : Bool
  availableOnSignup : Bool
  archived : Bool
  pricePerAudioSec : Price
  pricePer1kSummaryChars : Price
  audioRetentionDays : Int
  apiEnabled : Bool
  signupCredit : Money
  maxUploadBytes : Int
  toneAnalyticsEnabled : Bool
  deriving DecidableEq

abbrev TariffRow : Type := TariffOf Fixed

abbrev TariffDraft : Type := TariffOf Literal

structure TariffBody where
  name : String
  unlimited : Bool
  availableOnSignup : Bool
  pricePerAudioSec : String
  pricePer1kSummaryChars : String
  audioRetentionDays : Int
  apiEnabled : Bool
  signupCredit : String
  maxUploadBytes : Int
  toneAnalyticsEnabled : Bool

structure OrgRow where
  tariffId : Nat
  balance : Money
  captureBotDisplayName : Option String
  deriving DecidableEq

def maxUploadBytesCap : Int := 1073741824

/-- `parse_money` of a text; no value for an `InvalidOperation`. -/
def parseMoneyText (value : String) : Option Money :=
  let text := Text.trimBoth Text.isSpace value.toList
  if text.isEmpty then none
  else
    match decimalOf text with
    | some (.value amount) => parseMoney amount
    -- quantizing a signaling NaN signals
    | some .signaling | none => none

/-- Without a value the exception is not caught. -/
def orRaise {α : Type} (value : Option α) : Except EntryFailure α := value.elim (.error .raised) .ok

def applyTariff (archived : Bool) (body : TariffBody) : Except EntryFailure TariffDraft :=
  if maxUploadBytesCap < body.maxUploadBytes ∨ body.maxUploadBytes ≤ 0 then .error (.refused .validationError)
  else do
    let pricePerAudioSec ← orRaise (decimalOf body.pricePerAudioSec.toList)
    let pricePer1kSummaryChars ← orRaise (decimalOf body.pricePer1kSummaryChars.toList)
    if body.audioRetentionDays < 0 then .error (.refused .validationError)
    else do
      let signupCredit ← orRaise (parseMoneyText body.signupCredit)
      .ok {
        name := Text.strip body.name
        unlimited := body.unlimited
        availableOnSignup := body.availableOnSignup && !archived
        archived
        pricePerAudioSec
        pricePer1kSummaryChars
        audioRetentionDays := body.audioRetentionDays
        apiEnabled := body.apiEnabled
        signupCredit
        maxUploadBytes := body.maxUploadBytes
        toneAnalyticsEnabled := body.toneAnalyticsEnabled }

/-- The columns besides money take the tariff: `String(128)` without NUL, and `Integer`. -/
def restFits {Price : Type} (tariff : TariffOf Price) : Bool :=
  tariff.name.length ≤ 128 && !tariff.name.toList.contains '\x00' && tariff.audioRetentionDays < 2 ^ 31

/-- What is stored when the request answers: flush, commit, and `rate_str` of the prices for the response, where
`normalize` of a signaling NaN signals. -/
def TariffOf.saved (draft : TariffDraft) : Option TariffRow := do
  let pricePerAudioSec ← numeric pricePlaces draft.pricePerAudioSec
  let pricePer1kSummaryChars ← numeric pricePlaces draft.pricePer1kSummaryChars
  if restFits draft && storable draft.signupCredit && draft.pricePerAudioSec != .signaling &&
      draft.pricePer1kSummaryChars != .signaling then
    some { draft with pricePerAudioSec, pricePer1kSummaryChars }
  else none

structure Books where
  orgs : Table Nat OrgRow
  tariffs : Table Nat TariffRow
  nextId : Nat

inductive Entry where
  | walletDelta (orgId : Nat) (delta : String)
  | createTariff (body : TariffBody)
  | patchTariff (tariffId : Nat) (body : TariffBody)
  | cloneTariff (tariffId : Nat) (name : String)
  | setArchived (tariffId : Nat) (archived : Bool)
  -- by an administrator or on signup
  | createOrg (tariffId : Nat)
  | setOrgTariff (orgId tariffId : Nat)
  | charge (orgId taskId : Nat) (audioSec : Option Decimal) (amount : Int) (summaryChars : Option Nat) (task : Task)

/-- A failed request is rolled back. -/
def Books.fail (books : Books) (failure : EntryFailure) : EntryResponse × Books := (.failed failure, books)

def Books.storeTariff (books : Books) (tariffId : Nat) (row : TariffRow) : EntryResponse × Books :=
  (.ok, { books with tariffs := books.tariffs.put tariffId row, nextId := max books.nextId (tariffId + 1) })

def Books.storeOrg (books : Books) (orgId : Nat) (row : OrgRow) : EntryResponse × Books :=
  (.ok, { books with orgs := books.orgs.put orgId row, nextId := max books.nextId (orgId + 1) })

def Books.saveTariff (books : Books) (tariffId : Nat) (applied : Except EntryFailure TariffDraft) : EntryResponse × Books :=
  match applied with
  | .error failure => books.fail failure
  | .ok draft =>
    match draft.saved with
    | none => books.fail .raised
    | some row => books.storeTariff tariffId row

/-- `parse_money(Decimal(org.balance) + delta)`. -/
def addDelta (balance delta : Money) : Option Money :=
  ((Decimal.ofFixed moneyPlaces balance).add (.ofFixed moneyPlaces delta)).bind parseMoney

def Books.walletDelta (books : Books) (orgId : Nat) (delta : String) : EntryResponse × Books :=
  match books.orgs.find orgId with
  | none => books.fail (.refused .notFound)
  | some org =>
    match parseMoneyText delta with
    | none => books.fail (.refused .validationError)
    | some delta =>
      match (addDelta org.balance delta).filter storable with
      | none => books.fail .raised
      | some balance => books.storeOrg orgId { org with balance }

def assertCanAcceptTask (tariff : TariffRow) (balance : Money) : Option Bool :=
  if tariff.unlimited then some true else (Decimal.ofFixed moneyPlaces balance).nonpos.map (!·)

def signupBalance (tariff : TariffRow) : Option Money :=
  if tariff.unlimited then some ((0 : Int) : Money) else floorMoney (.ofFixed moneyPlaces tariff.signupCredit)

def OrgRow.organization (org : OrgRow) (tariffUnlimited : Bool) : Organization :=
  ⟨org.balance, tariffUnlimited, org.captureBotDisplayName⟩

/-- The charge of a finished task, committed when its values fit. -/
def Books.charge (books : Books) (orgId taskId : Nat) (audioSec : Option Decimal) (amount : Int)
    (summaryChars : Option Nat) (task : Task) : EntryResponse × Books :=
  match books.orgs.find orgId with
  | none => books.fail (.refused .notFound)
  | some org =>
    let unlimited := (books.tariffs.find org.tariffId).any TariffOf.unlimited
    match applySuccessCharge taskId audioSec amount summaryChars task (org.organization unlimited) with
    | none => books.fail .raised
    | some charged =>
      if storable charged.org.balance && charged.event.all fun event => storable (event.amount : Money) then
        books.storeOrg orgId { org with balance := charged.org.balance }
      else books.fail .raised

def Books.handle (books : Books) : Entry → EntryResponse × Books
  | .walletDelta orgId delta => books.walletDelta orgId delta
  | .createTariff body => books.saveTariff books.nextId (applyTariff false body)
  | .patchTariff tariffId body =>
    match books.tariffs.find tariffId with
    | none => books.fail (.refused .notFound)
    | some tariff => books.saveTariff tariffId (applyTariff tariff.archived body)
  | .cloneTariff tariffId name =>
    match books.tariffs.find tariffId with
    | none => books.fail (.refused .notFound)
    | some source =>
      let name := Text.strip name
      if name.isEmpty then books.fail (.refused .validationError)
      else
        let tariff := { source with name, archived := false }
        if restFits tariff then books.storeTariff books.nextId tariff else books.fail .raised
  | .setArchived tariffId archived =>
    match books.tariffs.find tariffId with
    | none => books.fail (.refused .notFound)
    | some tariff =>
      books.storeTariff tariffId
        { tariff with archived, availableOnSignup := tariff.availableOnSignup && !archived }
  | .createOrg tariffId =>
    match (books.tariffs.find tariffId).filter fun tariff => !tariff.archived with
    | none => books.fail (.refused .notFound)
    | some tariff =>
      match signupBalance tariff with
      | none => books.fail .raised
      | some balance => books.storeOrg books.nextId ⟨tariffId, balance, none⟩
  | .setOrgTariff orgId tariffId =>
    match books.orgs.find orgId, books.tariffs.find tariffId with
    | some org, some _ => books.storeOrg orgId { org with tariffId }
    | _, _ => books.fail (.refused .notFound)
  | .charge orgId taskId audioSec amount summaryChars task =>
    books.charge orgId taskId audioSec amount summaryChars task

def Books.step (books : Books) (entry : Entry) : Books := (books.handle entry).2

def Priced (price : Literal) : Prop :=
  ∃ coefficient exponent, price = .value (.finite coefficient exponent) ∧
    (roundAway pricePlaces coefficient exponent).natAbs < 10 ^ 12

/-- What a tariff's body needs for its money to be rejected or to fit. -/
def TariffBody.Checked (body : TariffBody) : Prop :=
  (maxUploadBytesCap < body.maxUploadBytes ∨ body.maxUploadBytes ≤ 0) ∨
  ∃ audio chars, decimalOf body.pricePerAudioSec.toList = some audio ∧
    decimalOf body.pricePer1kSummaryChars.toList = some chars ∧
    (body.audioRetentionDays < 0 ∨
      Priced audio ∧ Priced chars ∧
      (∃ credit : Int, parseMoneyText body.signupCredit = some (credit : Money) ∧ credit.natAbs < 10 ^ 12) ∧
      (Text.strip body.name).length ≤ 128 ∧ '\x00' ∉ (Text.strip body.name).toList ∧ body.audioRetentionDays < 2 ^ 31)

/-- The money of a request is no number, or the balance that it leads to fits. -/
def Books.Checked (books : Books) : Entry → Prop
  | .walletDelta orgId delta => ∀ org, books.orgs.find orgId = some org →
      parseMoneyText delta = none ∨
      ∃ balance change : Int, org.balance = (balance : Money) ∧ parseMoneyText delta = some (change : Money) ∧
        (balance + change).natAbs < 10 ^ 12
  | .createTariff body => body.Checked
  | .patchTariff tariffId body => (books.tariffs.find tariffId).isSome → body.Checked
  | _ => True

/-- Rejected for the row that is missing or for what was entered, without a trace. -/
def Books.Rejects (books : Books) (entry : Entry) : Prop :=
  ∃ code, books.handle entry = (.failed (.refused code), books)

structure TariffOf.Sound (tariff : TariffRow) : Prop where
  audio : Fits tariff.pricePerAudioSec
  chars : Fits tariff.pricePer1kSummaryChars
  credit : Fits tariff.signupCredit

def Books.Stores (books : Books) (entry : Entry) : Prop :=
  (books.handle entry).1 = .ok ∧
  match entry with
  | .walletDelta orgId _ => ∃ org, (books.step entry).orgs.find orgId = some org ∧ Fits org.balance
  | .createTariff _ => ∃ tariff, (books.step entry).tariffs.find books.nextId = some tariff ∧ tariff.Sound
  | .patchTariff tariffId _ => ∃ tariff, (books.step entry).tariffs.find tariffId = some tariff ∧ tariff.Sound
  | _ => True

def Entry.enters : Entry → Bool
  | .walletDelta _ _ | .createTariff _ | .patchTariff _ _ => true
  | _ => false

/-- Money that is entered is rejected, or finite and within its column. -/
def Books.Meets (books : Books) (entry : Entry) : Prop := entry.enters → books.Rejects entry ∨ books.Stores entry

structure Books.Sound (books : Books) : Prop where
  balances : ∀ orgId org, books.orgs.find orgId = some org → Fits org.balance
  tariffs : ∀ tariffId tariff, books.tariffs.find tariffId = some tariff → tariff.Sound

/-- Nothing that reads the stored money raises. The product of a duration and a price compares; a charge raises only when
its own amount leaves no room for a balance. -/
structure Books.Safe (books : Books) : Prop where
  accepts : ∀ orgId org tariffId tariff, books.orgs.find orgId = some org → books.tariffs.find tariffId = some tariff →
    (assertCanAcceptTask tariff org.balance).isSome
  opens : ∀ tariffId tariff, books.tariffs.find tariffId = some tariff → (signupBalance tariff).isSome
  prices : ∀ tariffId tariff, books.tariffs.find tariffId = some tariff →
    ∀ price ∈ [tariff.pricePerAudioSec, tariff.pricePer1kSummaryChars], ∀ coefficient exponent : Int,
      (((Decimal.finite coefficient exponent).mul (.ofFixed pricePlaces price)).bind Decimal.nonpos).isSome
  charges : ∀ orgId org tariffUnlimited, books.orgs.find orgId = some org →
    ∀ taskId audioSec summaryChars task (amount : Int), amount.natAbs + 10 ^ 12 ≤ 10 ^ 28 →
      (applySuccessCharge taskId audioSec amount summaryChars task (org.organization tariffUnlimited)).isSome

/-- The books of an instance whose stored money is finite. -/
structure SoundBooks where
  books : Books
  sound : books.Sound

section Sums

theorem add_fixed (n m : Int) :
    (Decimal.ofFixed moneyPlaces (n : Money)).add (.ofFixed moneyPlaces (m : Money)) =
      some (Decimal.round (n + m) (-(moneyPlaces : Int))) := by
  simp [Decimal.add]

/-- A sum of fixed-point numbers is quantized exactly, or signals for its length. -/
theorem quantizeDown_sum (n : Int) : (Decimal.round n (-(moneyPlaces : Int))).quantizeDown moneyPlaces =
    if n.natAbs < 10 ^ Decimal.precision then some (n : Money) else none := by
  split
  · rename_i fits
    rw [Decimal.round, if_pos fits, Decimal.quantizeDown_fixed _ _ fits]
  · rename_i long
    exact Decimal.quantizeDown_round _ _ (by omega)

theorem addDelta_coe (n m : Int) : addDelta (n : Money) (m : Money) =
    if (n + m).natAbs < 10 ^ Decimal.precision then some ((n + m : Int) : Money) else none := by
  rw [addDelta, add_fixed, Option.bind_some]
  exact quantizeDown_sum (n + m)

theorem addDelta_eq {balance delta result : Money} (added : addDelta balance delta = some result) :
    result = balance + delta := by
  obtain ⟨sum, summed, parsed⟩ := Option.bind_eq_some_iff.mp added
  exact parseMoney_add summed parsed

theorem storable_coe (n : Int) : storable (n : Money) = true ↔ n.natAbs < 10 ^ 12 := decide_eq_true_iff

/-- The new balance is stored and finite exactly when both numbers are, and their sum fits. -/
theorem addDelta_finite {balance delta : Money} :
    (∃ result, (addDelta balance delta).filter storable = some result ∧ Fits result) ↔
      ∃ n m : Int, balance = (n : Money) ∧ delta = (m : Money) ∧ (n + m).natAbs < 10 ^ 12 := by
  constructor
  · rintro ⟨result, stored, finite⟩
    obtain ⟨added, _⟩ := Option.filter_eq_some_iff.mp stored
    obtain rfl := addDelta_eq added
    obtain ⟨total, same, fits⟩ := finite
    -- a NaN on either side would absorb the sum
    induction balance using WithTop.recTopCoe with
    | top => exact absurd same (by simp)
    | coe n =>
      induction delta using WithTop.recTopCoe with
      | top => exact absurd same (by simp)
      | coe m =>
        have total_eq : n + m = total := WithTop.coe_inj.mp same
        exact ⟨n, m, rfl, rfl, by rw [total_eq]; exact fits⟩
  · rintro ⟨n, m, rfl, rfl, fits⟩
    have short : (n + m).natAbs < 10 ^ Decimal.precision := Nat.lt_trans fits (by decide)
    refine ⟨((n + m : Int) : Money), ?_, finite_coe.mpr fits⟩
    rw [addDelta_coe, if_pos short, Option.filter_eq_some_iff]
    exact ⟨rfl, (storable_coe _).mpr fits⟩

end Sums

section Requests

variable {books : Books} {entry : Entry}

theorem meets_of_refused {code : EntryCode} (handled : books.handle entry = books.fail (.refused code)) :
    books.Meets entry := fun _ => .inl ⟨code, handled⟩

theorem not_meets_of_raised (enters : entry.enters = true) (handled : books.handle entry = books.fail .raised) :
    ¬ books.Meets entry := by
  intro meets
  rcases meets enters with ⟨code, refused⟩ | ⟨answered, _⟩
  · rw [handled] at refused
    cases refused
  · rw [handled] at answered
    cases answered

theorem not_rejects_of_ok (answered : (books.handle entry).1 = .ok) : ¬ books.Rejects entry := by
  rintro ⟨code, refused⟩
  rw [refused] at answered
  cases answered

theorem walletDelta_meets (orgId : Nat) (delta : String) :
    books.Meets (.walletDelta orgId delta) ↔ books.Checked (.walletDelta orgId delta) := by
  cases found : books.orgs.find orgId with
  | none =>
    refine iff_of_true (@meets_of_refused _ _ .notFound ?_) ?_
    · simp only [Books.handle, Books.walletDelta, found]
    · intro org there
      rw [found] at there
      cases there
  | some org =>
    cases entered : parseMoneyText delta with
    | none =>
      refine iff_of_true (@meets_of_refused _ _ .validationError ?_) fun _ _ => .inl entered
      simp only [Books.handle, Books.walletDelta, found, entered]
    | some change =>
      -- what is left of the condition is that the sum is stored and finite
      have condition : books.Checked (.walletDelta orgId delta) ↔
          ∃ result, (addDelta org.balance change).filter storable = some result ∧ Fits result := by
        rw [addDelta_finite]
        unfold Books.Checked
        simp only [found, entered, Option.some.injEq, forall_eq', reduceCtorEq, false_or]
      rw [condition]
      cases stored : (addDelta org.balance change).filter storable with
      | none =>
        refine iff_of_false (not_meets_of_raised rfl ?_) (by rintro ⟨_, absent, _⟩; cases absent)
        simp only [Books.handle, Books.walletDelta, found, entered, stored]
      | some balance =>
        have handled : books.handle (.walletDelta orgId delta) = books.storeOrg orgId { org with balance } := by
          simp only [Books.handle, Books.walletDelta, found, entered, stored]
        have answered : (books.handle (.walletDelta orgId delta)).1 = .ok := by rw [handled]; rfl
        have row : (books.step (.walletDelta orgId delta)).orgs.find orgId = some { org with balance } := by
          rw [Books.step, handled]
          exact Table.find_put_self ..
        constructor
        · intro meets
          rcases meets rfl with rejected | ⟨_, org', there, finite⟩
          · exact absurd rejected (not_rejects_of_ok answered)
          · obtain rfl := Option.some.inj (row.symm.trans there)
            exact ⟨balance, rfl, finite⟩
        · rintro ⟨result, same, finite⟩ _
          obtain rfl := Option.some.inj same
          exact .inr ⟨answered, _, row, finite⟩

/-- A price column holds a finite value of numbers that fit; a signaling NaN never gets there. -/
theorem priced_iff {price : Literal} :
    Priced price ↔ ∃ value, numeric pricePlaces price = some value ∧ Fits value := numeric_finite.symm

theorem restFits_iff {Price : Type} {tariff : TariffOf Price} : restFits tariff = true ↔
    tariff.name.length ≤ 128 ∧ '\x00' ∉ tariff.name.toList ∧ tariff.audioRetentionDays < 2 ^ 31 := by
  simp [restFits, and_assoc]

theorem finite_iff_storable {value : Money} : Fits value ↔ storable value = true ∧ value ≠ ⊤ := by
  induction value using WithTop.recTopCoe with
  | top => exact iff_of_false not_finite_top (by simp)
  | coe n => rw [finite_coe, storable_coe]; simp

/-- What is saved is finite exactly for prices and a credit that fit, beside columns that take the rest. -/
theorem saved_sound {draft : TariffDraft} : (∃ row, draft.saved = some row ∧ row.Sound) ↔
    Priced draft.pricePerAudioSec ∧ Priced draft.pricePer1kSummaryChars ∧ Fits draft.signupCredit ∧ restFits draft = true := by
  rw [priced_iff, priced_iff]
  constructor
  · rintro ⟨row, saved, sound⟩
    obtain ⟨audio, audio_read, saved⟩ := Option.bind_eq_some_iff.mp saved
    obtain ⟨chars, chars_read, saved⟩ := Option.bind_eq_some_iff.mp saved
    split at saved
    · rename_i fits
      obtain rfl := Option.some.inj saved
      simp only [Bool.and_eq_true] at fits
      exact ⟨⟨audio, audio_read, sound.audio⟩, ⟨chars, chars_read, sound.chars⟩, sound.credit, fits.1.1.1⟩
    · cases saved
  · rintro ⟨⟨audio, audio_read, audio_finite⟩, ⟨chars, chars_read, chars_finite⟩, credit, rest⟩
    have unsignaled {price : Literal} {value : Fixed} (read : numeric pricePlaces price = some value)
        (finite : Fits value) : (price != .signaling) = true := by
      cases price with
      | value _ => rfl
      | signaling =>
        obtain rfl := Option.some.inj read
        exact absurd finite not_finite_top
    refine ⟨{ draft with pricePerAudioSec := audio, pricePer1kSummaryChars := chars }, ?_, audio_finite, chars_finite, credit⟩
    rw [TariffOf.saved, audio_read, chars_read]
    simp only [Option.bind_eq_bind, Option.bind_some, rest, (finite_iff_storable.mp credit).1,
      unsignaled audio_read audio_finite, unsignaled chars_read chars_finite, Bool.and_self, if_true]

theorem orRaise_some {α : Type} (value : α) : orRaise (some value) = .ok value := rfl

theorem orRaise_none {α : Type} : orRaise (none : Option α) = .error .raised := rfl

/-- A body is checked exactly when it is refused, or what is saved of it is finite. -/
theorem checked_iff_applied {body : TariffBody} (archived : Bool) : body.Checked ↔
    (∃ code, applyTariff archived body = .error (.refused code)) ∨
    ∃ draft, applyTariff archived body = .ok draft ∧ ∃ row, draft.saved = some row ∧ row.Sound := by
  unfold TariffBody.Checked applyTariff
  split
  · rename_i outside
    exact iff_of_true (.inl outside) (.inl ⟨_, rfl⟩)
  · rename_i inside
    rw [or_iff_right inside]
    cases audio_read : decimalOf body.pricePerAudioSec.toList with
    | none => simp [orRaise_none, bind, Except.bind]
    | some audio =>
      cases chars_read : decimalOf body.pricePer1kSummaryChars.toList with
      | none => simp [orRaise_none, orRaise_some, bind, Except.bind]
      | some chars =>
        by_cases negative : body.audioRetentionDays < 0
        · simp [orRaise_some, bind, Except.bind, negative]
        · cases credit_read : parseMoneyText body.signupCredit with
          | none => simp [orRaise_none, orRaise_some, bind, Except.bind, negative]
          | some credit =>
            simp only [orRaise_some, bind, Except.bind, negative, if_false, false_or, reduceCtorEq, Except.ok.injEq,
              exists_false, exists_eq_left', saved_sound, restFits_iff, Option.some.injEq, Fits]
            constructor
            · rintro ⟨_, _, rfl, rfl, fits⟩
              exact fits
            · exact fun fits => ⟨_, _, rfl, rfl, fits⟩

theorem saveTariff_meets {tariffId : Nat} {body : TariffBody} {archived : Bool} (enters : entry.enters = true)
    (handled : books.handle entry = books.saveTariff tariffId (applyTariff archived body))
    (stores : books.Stores entry ↔ (books.handle entry).1 = .ok ∧
      ∃ tariff, (books.step entry).tariffs.find tariffId = some tariff ∧ tariff.Sound) :
    books.Meets entry ↔ body.Checked := by
  rw [checked_iff_applied archived]
  cases applied : applyTariff archived body with
  | error failure =>
    have failed : books.handle entry = books.fail failure := by rw [handled, applied]; rfl
    cases failure with
    | refused code => exact iff_of_true (meets_of_refused failed) (.inl ⟨code, rfl⟩)
    | raised => exact iff_of_false (not_meets_of_raised enters failed) (by simp)
  | ok draft =>
    rw [applied] at handled
    simp only [reduceCtorEq, exists_false, false_or, Except.ok.injEq, exists_eq_left']
    cases saved : draft.saved with
    | none =>
      simp only [Books.saveTariff, saved] at handled
      exact iff_of_false (not_meets_of_raised enters handled) (by simp)
    | some row =>
      simp only [Books.saveTariff, saved] at handled
      have answered : (books.handle entry).1 = .ok := by rw [handled]; rfl
      have stored : (books.step entry).tariffs.find tariffId = some row := by
        rw [Books.step, handled]
        exact Table.find_put_self ..
      constructor
      · intro meets
        rcases meets enters with rejected | kept
        · exact absurd rejected (not_rejects_of_ok answered)
        · obtain ⟨_, tariff, there, sound⟩ := stores.mp kept
          obtain rfl := Option.some.inj (stored.symm.trans there)
          exact ⟨row, rfl, sound⟩
      · rintro ⟨row', same, sound⟩ _
        obtain rfl := Option.some.inj same
        exact .inr (stores.mpr ⟨answered, row, stored, sound⟩)

/-- Money that is entered is rejected or fits exactly when it is checked. -/
theorem meets_iff (books : Books) (entry : Entry) : books.Meets entry ↔ books.Checked entry := by
  cases entry with
  | walletDelta orgId delta => exact walletDelta_meets orgId delta
  | createTariff body => exact saveTariff_meets rfl rfl Iff.rfl
  | patchTariff tariffId body =>
    cases found : books.tariffs.find tariffId with
    | none =>
      refine iff_of_true (@meets_of_refused _ _ .notFound ?_) ?_
      · simp only [Books.handle, found]
      · intro there
        rw [found] at there
        cases there
    | some tariff =>
      have handled : books.handle (.patchTariff tariffId body) =
          books.saveTariff tariffId (applyTariff tariff.archived body) := by
        simp only [Books.handle, found]
      rw [saveTariff_meets rfl handled Iff.rfl]
      exact ⟨fun checked _ => checked, fun checked => checked (by rw [found]; rfl)⟩
  | _ => exact iff_of_true (fun enters => nomatch enters) trivial

end Requests

section Reads

variable {books : Books}

theorem quantizeDown_finite {value : Money} (finite : Fits value) :
    ((Decimal.ofFixed moneyPlaces value).quantizeDown moneyPlaces) = some value := by
  obtain ⟨n, rfl, fits⟩ := finite
  exact Decimal.quantizeDown_fixed _ _ (Nat.lt_trans fits (by decide))

theorem signupBalance_finite {tariff : TariffRow} (sound : tariff.Sound) :
    ∃ balance, signupBalance tariff = some balance ∧ Fits balance := by
  rw [signupBalance]
  split
  · exact ⟨_, rfl, 0, rfl, by decide⟩
  · exact ⟨_, quantizeDown_finite sound.credit, sound.credit⟩

theorem price_compares {price : Fixed} (finite : Fits price) (coefficient exponent : Int) :
    (((Decimal.finite coefficient exponent).mul (.ofFixed pricePlaces price)).bind Decimal.nonpos).isSome := by
  obtain ⟨n, rfl, _⟩ := finite
  rw [Decimal.ofFixed_coe, Decimal.mul, Option.bind_some, Decimal.round]
  split <;> rfl

theorem charge_done {org : OrgRow} {amount : Int} (finite : Fits org.balance) (room : amount.natAbs + 10 ^ 12 ≤ 10 ^ 28)
    (tariffUnlimited : Bool) (taskId : Nat) (audioSec : Option Decimal) (summaryChars : Option Nat) (task : Task) :
    (applySuccessCharge taskId audioSec amount summaryChars task (org.organization tariffUnlimited)).isSome := by
  obtain ⟨n, same, fits⟩ := finite
  have after : balanceAfter org.balance amount = some ((n - amount : Int) : Money) := by
    have short : (n + -amount).natAbs < 10 ^ Decimal.precision := by
      have digits : Decimal.precision = 28 := rfl
      rw [digits]
      omega
    rw [same, balanceAfter, Decimal.sub, Decimal.ofFixed_coe moneyPlaces amount, Decimal.neg, ← Decimal.ofFixed_coe, add_fixed,
      Option.bind_some, floorMoney, quantizeDown_sum, if_pos short, Int.sub_eq_add_neg]
  unfold applySuccessCharge
  split
  · rfl
  · cases task.snap.unlimited with
    | true => rfl
    | false => rw [OrgRow.organization, after]; rfl

theorem safe_of_sound (sound : books.Sound) : books.Safe where
  accepts orgId org tariffId tariff found _ := by
    obtain ⟨n, same, _⟩ := sound.balances orgId org found
    rw [assertCanAcceptTask, same]
    split <;> rfl
  opens tariffId tariff found := by
    obtain ⟨balance, opened, _⟩ := signupBalance_finite (sound.tariffs tariffId tariff found)
    rw [opened]
    rfl
  prices tariffId tariff found price listed coefficient exponent := by
    have stored := sound.tariffs tariffId tariff found
    refine price_compares ?_ coefficient exponent
    rcases List.mem_cons.mp listed with rfl | listed
    · exact stored.audio
    · rw [List.mem_singleton.mp listed]
      exact stored.chars
  charges orgId org tariffUnlimited found taskId audioSec summaryChars task amount room :=
    charge_done (sound.balances orgId org found) room tariffUnlimited taskId audioSec summaryChars task

end Reads

section Steps

variable {books : Books} (sound : books.Sound)
include sound

theorem storeTariff_sound (tariffId : Nat) {row : TariffRow} (row_sound : row.Sound) :
    (books.storeTariff tariffId row).2.Sound where
  balances := sound.balances
  tariffs other tariff found := by
    rw [Books.storeTariff, Table.find_put] at found
    split at found
    · obtain rfl := Option.some.inj found
      exact row_sound
    · exact sound.tariffs other tariff found

theorem storeOrg_sound (orgId : Nat) {row : OrgRow} (finite : Fits row.balance) : (books.storeOrg orgId row).2.Sound where
  balances other org found := by
    rw [Books.storeOrg, Table.find_put] at found
    split at found
    · obtain rfl := Option.some.inj found
      exact finite
    · exact sound.balances other org found
  tariffs := sound.tariffs

theorem saveTariff_sound {body : TariffBody} (checked : body.Checked) (tariffId : Nat) (archived : Bool) :
    (books.saveTariff tariffId (applyTariff archived body)).2.Sound := by
  rcases (checked_iff_applied archived).mp checked with ⟨code, refused⟩ | ⟨draft, applied, row, saved, row_sound⟩
  · rw [refused]
    exact sound
  · rw [applied]
    simp only [Books.saveTariff, saved]
    exact storeTariff_sound sound tariffId row_sound

theorem walletDelta_sound {orgId : Nat} {delta : String} (checked : books.Checked (.walletDelta orgId delta)) :
    (books.walletDelta orgId delta).2.Sound := by
  unfold Books.walletDelta
  cases found : books.orgs.find orgId with
  | none => exact sound
  | some org =>
    cases entered : parseMoneyText delta with
    | none => exact sound
    | some change =>
      dsimp only
      rcases checked org found with unread | ⟨n, m, balance_eq, change_eq, fits⟩
      · rw [entered] at unread
        cases unread
      · obtain rfl := Option.some.inj (entered.symm.trans change_eq)
        obtain ⟨result, stored, finite⟩ := addDelta_finite.mpr ⟨n, m, balance_eq, rfl, fits⟩
        rw [stored]
        exact storeOrg_sound sound orgId finite

/-- A charge moves a finite balance to a finite one, and is committed only when it fits. -/
theorem charge_sound (orgId taskId : Nat) (audioSec : Option Decimal) (amount : Int) (summaryChars : Option Nat) (task : Task) :
    (books.charge orgId taskId audioSec amount summaryChars task).2.Sound := by
  unfold Books.charge
  cases found : books.orgs.find orgId with
  | none => exact sound
  | some org =>
    dsimp only
    split
    · exact sound
    · rename_i charged done
      split
      · rename_i fits
        refine storeOrg_sound sound orgId (finite_iff_storable.mpr ⟨(Bool.and_eq_true_iff.mp fits).1, ?_⟩)
        obtain ⟨n, same, _⟩ := sound.balances orgId org found
        have moved := applySuccessCharge_balance done
        have effect : chargeEffect task amount ≠ ⊤ := by
          rw [chargeEffect]
          split
          · exact WithTop.coe_ne_top
          · exact WithTop.coe_ne_top
        rw [OrgRow.organization, same] at moved
        simp only [moved, ne_eq, WithTop.add_eq_top, WithTop.coe_ne_top, effect, or_self, not_false_eq_true]
      · exact sound

theorem step_sound {entry : Entry} (checked : books.Checked entry) : (books.step entry).Sound := by
  unfold Books.step
  cases entry with
  | walletDelta orgId delta => exact walletDelta_sound sound checked
  | createTariff body => exact saveTariff_sound sound checked _ _
  | patchTariff tariffId body =>
    dsimp only [Books.handle]
    cases found : books.tariffs.find tariffId with
    | none => exact sound
    | some tariff => exact saveTariff_sound sound (checked (by rw [found]; rfl)) _ _
  | cloneTariff tariffId name =>
    dsimp only [Books.handle]
    cases found : books.tariffs.find tariffId with
    | none => exact sound
    | some source =>
      obtain ⟨audio, chars, credit⟩ := sound.tariffs tariffId source found
      dsimp only
      split
      · exact sound
      · split
        · exact storeTariff_sound sound _ ⟨audio, chars, credit⟩
        · exact sound
  | setArchived tariffId archived =>
    dsimp only [Books.handle]
    cases found : books.tariffs.find tariffId with
    | none => exact sound
    | some tariff =>
      obtain ⟨audio, chars, credit⟩ := sound.tariffs tariffId tariff found
      exact storeTariff_sound sound _ ⟨audio, chars, credit⟩
  | createOrg tariffId =>
    dsimp only [Books.handle]
    cases found : (books.tariffs.find tariffId).filter fun tariff => !tariff.archived with
    | none => exact sound
    | some tariff =>
      obtain ⟨there, _⟩ := Option.filter_eq_some_iff.mp found
      obtain ⟨balance, opened, finite⟩ := signupBalance_finite (sound.tariffs tariffId tariff there)
      simp only [opened]
      exact storeOrg_sound sound _ finite
  | setOrgTariff orgId tariffId =>
    dsimp only [Books.handle]
    cases found : books.orgs.find orgId with
    | none => exact sound
    | some org =>
      cases books.tariffs.find tariffId with
      | none => exact sound
      | some tariff => exact storeOrg_sound sound _ (sound.balances orgId org found)
  | charge orgId taskId audioSec amount summaryChars task => exact charge_sound sound ..

end Steps

/-- All money that is entered along a run is rejected or fits, and nothing that reads it raises, exactly when each request
is checked. -/
theorem entered_money_safe_iff (start : SoundBooks) (entries : List Entry) :
    (Along Books.step Books.Meets start.books entries ∧ Always Books.step Books.Safe start.books entries) ↔
      Along Books.step Books.Checked start.books entries := by
  have same : Along Books.step Books.Meets start.books entries ↔ Along Books.step Books.Checked start.books entries :=
    along_congr (A := fun _ => True) (fun _ _ _ => trivial) (fun books entry _ => meets_iff books entry) trivial
  constructor
  · rintro ⟨meets, _⟩
    exact same.mp meets
  · intro checked
    have kept : ∀ books entry, Books.Sound books → Books.Checked books entry → (Books.step books entry).Sound :=
      fun _ _ sound good => step_sound sound good
    have stays : Always Books.step Books.Sound start.books entries := always_of_along kept start.sound checked
    refine ⟨same.mpr checked, ?_⟩
    intro done rest split_at
    exact safe_of_sound (stays done rest split_at)

def meteredBooks : Books where
  orgs := (∅ : Table Nat OrgRow).put 1 ⟨0, ((1000 : Int) : Money), none⟩
  tariffs := (∅ : Table Nat TariffRow).put 0
    ⟨"Metered", false, true, false, ((100 : Int) : Fixed), ((0 : Int) : Fixed), 0, true, ((0 : Int) : Money),
      maxUploadBytesCap, false⟩
  nextId := 2

def wordyBody : TariffBody := ⟨"New", false, false, "free", "0", 0, true, "0", maxUploadBytesCap, false⟩

/-- A price that is no number is not rejected but raises; a top-up by NaN is stored, and the next task raises. -/
theorem entered_money_unchecked : ¬ meteredBooks.Meets (.createTariff wordyBody) ∧
    ¬ (meteredBooks.step (.walletDelta 1 "NaN")).Safe := by
  constructor
  · refine not_meets_of_raised rfl ?_
    have applied : applyTariff false wordyBody = .error .raised := by decide +kernel
    rw [Books.handle, applied]
    rfl
  · intro safe
    have raises : assertCanAcceptTask ⟨"Metered", false, true, false, ((100 : Int) : Fixed), ((0 : Int) : Fixed), 0, true,
      ((0 : Int) : Money), maxUploadBytesCap, false⟩ ⊤ = none := rfl
    have accepts := safe.accepts 1 ⟨0, ⊤, none⟩ 0 _ (by decide +kernel) rfl
    rw [raises] at accepts
    cases accepts

end IdigestHub.Billing
