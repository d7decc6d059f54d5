import IdigestHub.Hub.Records

/-! Amounts in thousandths, rounded down; what a worker's report costs at the prices
that the task carries. -/

set_option autoImplicit false

namespace IdigestHub.Billing

open Foundation

/-- A `Numeric(12, 3)` value in thousandths. -/
abbrev Money : Type := Fixed

def moneyPlaces : Nat := 3

def pricePlaces : Nat := 6

/-- No value where the conversion raises `InvalidOperation`. -/
def floorMoney (value : Decimal) : Option Money := value.quantizeDown moneyPlaces

def minUsageCharge : Int := 1

def usageChargeAmount (raw : Decimal) : Option Int := do
  if ← raw.nonpos then some 0
  else
    match ← floorMoney raw with
    | none => none
    | some floored => some (if 0 < floored then floored else minUsageCharge)

def parseMoney (value : Decimal) : Option Money := value.quantizeDown moneyPlaces

/-- What a `Numeric(12, 3)` column holds. -/
def storable : Money → Bool
  | none => true
  | some n => n.natAbs < 10 ^ 12

def transcribeAmount (task : Task) (audioDurationSec : Decimal) : Option Int := do
  let raw ← audioDurationSec.mul (.ofFixed pricePlaces task.snap.pricePerAudioSec)
  usageChargeAmount raw

def summaryCharUnits (length : Nat) : Nat := if length = 0 then 0 else (length + 999) / 1000

def summarizeAmount (task : Task) (body : String) : Option Int := do
  let units := summaryCharUnits body.length
  let raw ← (Decimal.finite units 0).mul (.ofFixed pricePlaces task.snap.pricePer1kSummaryChars)
  usageChargeAmount raw

/-- Subtracting a charge from a balance is exact whenever it does not raise. -/
theorem floorMoney_sub {balance result : Money} {amount : Int} {difference : Decimal}
    (subtracted : (Decimal.ofFixed moneyPlaces balance).sub (.ofFixed moneyPlaces (amount : Money))
      = some difference)
    (floored : floorMoney difference = some result) : result = balance + ((-amount : Int) : Money) := by
  exact Decimal.quantizeDown_add moneyPlaces balance ((-amount : Int) : Money) subtracted floored

theorem parseMoney_add {balance delta result : Money} {sum : Decimal}
    (added : (Decimal.ofFixed moneyPlaces balance).add (.ofFixed moneyPlaces delta) = some sum)
    (parsed : parseMoney sum = some result) : result = balance + delta :=
  Decimal.quantizeDown_add moneyPlaces balance delta added parsed

end IdigestHub.Billing
