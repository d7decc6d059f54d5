import Mathlib.Algebra.Order.Monoid.WithTop
import Mathlib.Data.Nat.Log
import Mathlib.Tactic.Ring

/-! Decimal floating point in a context of 28 digits that rounds half to even, and
fixed-point numbers got from it by quantization. An operation that signals
`InvalidOperation` has no value. -/

set_option autoImplicit false

namespace Foundation

/-- `coefficient * 10 ^ exponent`, an infinity, or a quiet NaN. -/
inductive Decimal where
  | finite (coefficient : Int) (exponent : Int)
  | infinity (negative : Bool)
  | nan
  deriving DecidableEq

/-- A fixed-point number in its smallest unit; the top element is NaN, which absorbs
every addition. -/
abbrev Fixed : Type := WithTop Int

namespace Decimal

def precision : Nat := 28

/-- Half to even, for a remainder below a positive divisor. -/
def roundHalfEven (quotient remainder divisor : Nat) : Nat :=
  if 2 * remainder < divisor then quotient
  else if divisor < 2 * remainder then quotient + 1
  else if quotient % 2 = 0 then quotient else quotient + 1

/-- Round a finite number to the precision of the context. -/
def round (coefficient exponent : Int) : Decimal :=
  if coefficient.natAbs < 10 ^ precision then .finite coefficient exponent
  else
    let excess := Nat.log 10 coefficient.natAbs + 1 - precision
    let kept := roundHalfEven (coefficient.natAbs / 10 ^ excess) (coefficient.natAbs % 10 ^ excess)
      (10 ^ excess)
    .finite (coefficient.sign * kept) (exponent + excess)

def add : Decimal → Decimal → Option Decimal
  | .nan, _ | _, .nan => some .nan
  | .infinity a, .infinity b => if a = b then some (.infinity a) else none
  | .infinity a, _ | _, .infinity a => some (.infinity a)
  | .finite a ea, .finite b eb =>
    let e := min ea eb
    some (round (a * 10 ^ (ea - e).toNat + b * 10 ^ (eb - e).toNat) e)

def neg : Decimal → Decimal
  | .finite a e => .finite (-a) e
  | .infinity a => .infinity (!a)
  | .nan => .nan

def sub (a b : Decimal) : Option Decimal := a.add b.neg

def mul : Decimal → Decimal → Option Decimal
  | .nan, _ | _, .nan => some .nan
  | .infinity a, .infinity b => some (.infinity (a != b))
  | .infinity a, .finite b _ | .finite b _, .infinity a =>
    if b = 0 then none else some (.infinity (a != decide (b < 0)))
  | .finite a ea, .finite b eb => some (round (a * b) (ea + eb))

/-- `value <= 0`; an ordered comparison with NaN signals. -/
def nonpos : Decimal → Option Bool
  | .finite a _ => some (decide (a ≤ 0))
  | .infinity negative => some negative
  | .nan => none

def ofFixed (places : Nat) : Fixed → Decimal
  | none => .nan
  | some n => .finite n (-places)

/-- `coefficient * 10 ^ exponent` in units of `10 ^ -places`, truncated towards zero. -/
def truncate (places : Nat) (coefficient exponent : Int) : Int :=
  if 0 ≤ exponent + places then coefficient * 10 ^ (exponent + places).toNat
  else coefficient.tdiv (10 ^ (-(exponent + places)).toNat)

/-- `quantize` with `ROUND_DOWN`: more digits than the precision signal. -/
def quantizeDown (places : Nat) : Decimal → Option Fixed
  | .nan => some ⊤
  | .infinity _ => none
  | .finite a e =>
    let units := truncate places a e
    if units.natAbs < 10 ^ precision then some units else none

@[simp] theorem ofFixed_top (places : Nat) : ofFixed places ⊤ = .nan := rfl

@[simp] theorem ofFixed_coe (places : Nat) (n : Int) :
    ofFixed places (n : Fixed) = .finite n (-places) := rfl

theorem truncate_fixed (places : Nat) (n : Int) : truncate places n (-places) = n := by
  simp [truncate]

theorem truncate_shift (places excess : Nat) (n : Int) :
    truncate places n (-places + excess) = n * 10 ^ excess := by
  rw [truncate, if_pos (by omega), show (-(places : Int) + excess + places).toNat = excess by omega]

theorem quantizeDown_fixed (places : Nat) (n : Int) (fits : n.natAbs < 10 ^ precision) :
    quantizeDown places (.finite n (-places)) = some (n : Fixed) := by
  simp [quantizeDown, truncate_fixed, fits]

theorem le_roundHalfEven (quotient remainder divisor : Nat) :
    quotient ≤ roundHalfEven quotient remainder divisor := by
  unfold roundHalfEven
  split
  · exact Nat.le_refl _
  · split
    · omega
    · split <;> omega

/-- A fixed-point number too long for the context stays too long when it is rounded. -/
theorem quantizeDown_round (places : Nat) (n : Int) (long : 10 ^ precision ≤ n.natAbs) :
    quantizeDown places (round n (-places)) = none := by
  obtain ⟨excess, excess_def⟩ : ∃ e, e = Nat.log 10 n.natAbs + 1 - precision := ⟨_, rfl⟩
  have positive : n.natAbs ≠ 0 := by
    have : 0 < 10 ^ precision := Nat.pow_pos (by omega)
    omega
  have width : precision = 28 := rfl
  have digits : precision ≤ Nat.log 10 n.natAbs := (Nat.le_log_iff_pow_le (by omega) positive).mpr long
  have covers : excess ≤ Nat.log 10 n.natAbs := by omega
  have quotient : 10 ^ (Nat.log 10 n.natAbs - excess) ≤ n.natAbs / 10 ^ excess := by
    rw [Nat.le_div_iff_mul_le (Nat.pow_pos (by omega)), ← Nat.pow_add,
      Nat.sub_add_cancel covers]
    exact Nat.pow_log_le_self 10 positive
  have kept := quotient.trans (le_roundHalfEven _ (n.natAbs % 10 ^ excess) (10 ^ excess))
  have reached : 10 ^ precision ≤
      roundHalfEven (n.natAbs / 10 ^ excess) (n.natAbs % 10 ^ excess) (10 ^ excess) * 10 ^ excess := by
    calc 10 ^ precision ≤ 10 ^ (Nat.log 10 n.natAbs) := Nat.pow_le_pow_right (by omega) digits
      _ = 10 ^ (Nat.log 10 n.natAbs - excess) * 10 ^ excess := by
          rw [← Nat.pow_add, Nat.sub_add_cancel covers]
      _ ≤ _ := Nat.mul_le_mul_right _ kept
  have nonzero : n.sign.natAbs = 1 := by
    rw [Int.natAbs_sign, if_neg (by simpa using positive)]
  rw [round, if_neg (by omega), ← excess_def]
  simp only [quantizeDown, truncate_shift]
  rw [if_neg]
  rw [not_lt, Int.natAbs_mul, Int.natAbs_mul, nonzero, Nat.one_mul, Int.natAbs_natCast, Int.natAbs_pow]
  exact reached

/-- Adding fixed-point numbers of one scale and quantizing to it is exact or signals. -/
theorem quantizeDown_add (places : Nat) (a b : Fixed) {sum : Decimal} {result : Fixed}
    (added : add (ofFixed places a) (ofFixed places b) = some sum)
    (quantized : quantizeDown places sum = some result) : result = a + b := by
  induction a using WithTop.recTopCoe with
  | top =>
    obtain rfl : Decimal.nan = sum := by simpa [add] using added
    simpa [quantizeDown, eq_comm] using quantized
  | coe a =>
    induction b using WithTop.recTopCoe with
    | top =>
      obtain rfl : Decimal.nan = sum := by simpa [add] using added
      simpa [quantizeDown, eq_comm] using quantized
    | coe b =>
      obtain rfl : round (a + b) (-places) = sum := by simpa [add] using added
      by_cases fits : (a + b).natAbs < 10 ^ precision
      · rw [round, if_pos fits, quantizeDown_fixed places _ fits] at quantized
        simpa [eq_comm] using quantized
      · rw [quantizeDown_round places _ (by omega)] at quantized
        simp at quantized

end Decimal

end Foundation
