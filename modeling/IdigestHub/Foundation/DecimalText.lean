import IdigestHub.Foundation.Decimal
import IdigestHub.Foundation.Numerals

/-! Decimals that are read from text, with the quiet and the signaling NaN, and what a `NUMERIC` column makes of them. -/

set_option autoImplicit false

namespace Foundation.DecimalText

open Text Numerals

inductive Literal where
  | value (value : Decimal)
  | signaling
  deriving DecidableEq

def asAscii (c : Char) : Option Char :=
  if 0 < c.toNat ∧ c.toNat ≤ 127 then some c
  else if isSpace c then some ' '
  else (decimal c).map fun digit => Char.ofNat (48 + digit)

/-- The text that is read: trimmed, without underscores, in ASCII. -/
def numericAsAscii (text : List Char) : Option (List Char) := ((trimBoth isSpace text).filter (· != '_')).mapM asAscii

def areDigits (text : List Char) : Bool := text.all Char.isDigit

/-- Infinities, and NaN with the digits that may follow it. -/
def special (negative : Bool) (body : List Char) : Option Literal :=
  let low := body.map Char.toLower
  if low = ['i', 'n', 'f'] ∨ low = ['i', 'n', 'f', 'i', 'n', 'i', 't', 'y'] then some (.value (.infinity negative))
  else if low.take 3 = ['n', 'a', 'n'] ∧ areDigits (low.drop 3) then some (.value .nan)
  else if low.take 4 = ['s', 'n', 'a', 'n'] ∧ areDigits (low.drop 4) then some .signaling
  else none

def exponentOf : List Char → Option Int
  | [] => some 0
  | _ :: '-' :: digits => if digits ≠ [] ∧ areDigits digits then some (-(Nat.ofDigitChars 10 digits 0 : Int)) else none
  | _ :: '+' :: digits => if digits ≠ [] ∧ areDigits digits then some (Nat.ofDigitChars 10 digits 0) else none
  | _ :: digits => if digits ≠ [] ∧ areDigits digits then some (Nat.ofDigitChars 10 digits 0) else none

/-- `MAX_EMAX` and `MIN_ETINY`. -/
def maxEmax : Int := 999999999999999999

def minEtiny : Int := -1999999999999999997

def number (negative : Bool) (body : List Char) : Option Literal := do
  let isE (c : Char) : Bool := c == 'e' || c == 'E'
  let mantissa := body.takeWhile fun c => !isE c
  let exponent ← exponentOf (body.dropWhile fun c => !isE c)
  let whole := mantissa.takeWhile (· != '.')
  let fraction := (mantissa.dropWhile (· != '.')).drop 1
  if (whole ++ fraction).isEmpty || !areDigits (whole ++ fraction) then none
  else
    let coefficient := Nat.ofDigitChars 10 (whole ++ fraction) 0
    let exponent := exponent - fraction.length
    if maxEmax < exponent + (Nat.toDigits 10 coefficient).length - 1 ∨ exponent < minEtiny then none
    else some (.value (.finite (if negative then -coefficient else coefficient) exponent))

/-- `Decimal(text)`; no value for an `InvalidOperation`. -/
def decimalOf (text : List Char) : Option Literal := do
  match ← numericAsAscii text with
  | '-' :: body => (special true body).or (number true body)
  | '+' :: body => (special false body).or (number false body)
  | body => (special false body).or (number false body)

/-- The nearest multiple of a column's last place, halves away from zero. -/
def roundAway (places : Nat) (coefficient exponent : Int) : Int :=
  if 0 ≤ exponent + places then coefficient * 10 ^ (exponent + places).toNat
  else
    let divisor := 10 ^ (-(exponent + places)).toNat
    coefficient.sign * ((2 * coefficient.natAbs + divisor) / (2 * divisor) : Nat)

/-- The value of a `NUMERIC(12, places)` column, which may be NaN; anything too large is refused. -/
def numeric (places : Nat) : Literal → Option Fixed
  | .value (.finite coefficient exponent) =>
    let units := roundAway places coefficient exponent
    if units.natAbs < 10 ^ 12 then some (units : Fixed) else none
  | .value (.infinity _) => none
  | .value .nan | .signaling => some ⊤

def Fits (value : Fixed) : Prop := ∃ n : Int, value = (n : Fixed) ∧ n.natAbs < 10 ^ 12

theorem not_finite_top : ¬ Fits ⊤ := by
  rintro ⟨n, same, _⟩
  exact absurd same (WithTop.top_ne_coe)

theorem finite_coe {n : Int} : Fits (n : Fixed) ↔ n.natAbs < 10 ^ 12 := by
  constructor
  · rintro ⟨m, same, small⟩
    rwa [WithTop.coe_inj.mp same]
  · exact fun small => ⟨n, rfl, small⟩

theorem numeric_finite {places : Nat} {literal : Literal} : (∃ value, numeric places literal = some value ∧ Fits value) ↔
    ∃ coefficient exponent, literal = .value (.finite coefficient exponent) ∧
      (roundAway places coefficient exponent).natAbs < 10 ^ 12 := by
  constructor
  · rintro ⟨value, stored, finite⟩
    cases literal with
    | signaling =>
      obtain rfl := Option.some.inj stored
      exact absurd finite not_finite_top
    | value decimal =>
      cases decimal with
      | nan =>
        obtain rfl := Option.some.inj stored
        exact absurd finite not_finite_top
      | infinity negative => contradiction
      | finite coefficient exponent =>
        refine ⟨coefficient, exponent, rfl, ?_⟩
        rw [numeric] at stored
        split at stored
        · rename_i small
          exact small
        · contradiction
  · rintro ⟨coefficient, exponent, rfl, small⟩
    exact ⟨_, if_pos small, finite_coe.mpr small⟩

end Foundation.DecimalText
