import IdigestHub.Foundation.Numerals
import Mathlib.Algebra.Group.Nat.Defs
import Mathlib.Data.Char
import Mathlib.Data.List.Lex

/-! Numbers with a fixed count of digits: their texts are in the order of the numbers. -/

set_option autoImplicit false

namespace Foundation.Numerals

/-- The last decimal digits of a number, as many as `width`. -/
def pad : Nat → Nat → List Char
  | 0, _ => []
  | width + 1, n => pad width (n / 10) ++ [Nat.digitChar (n % 10)]

theorem length_pad (width n : Nat) : (pad width n).length = width := by
  induction width generalizing n with
  | zero => rfl
  | succ width ih => rw [pad, List.length_append, ih, List.length_singleton]

theorem digit_of_mem_pad {width n : Nat} {c : Char} (member : c ∈ pad width n) : ∃ digit < 10, c = Nat.digitChar digit := by
  induction width generalizing n with
  | zero => exact absurd member List.not_mem_nil
  | succ width ih =>
    rcases List.mem_append.mp member with front | last
    · exact ih front
    · exact ⟨n % 10, Nat.mod_lt n (by decide), List.mem_singleton.mp last⟩

theorem ofDigitChars_pad {width n : Nat} (fits : n < 10 ^ width) (sofar : Nat) :
    Nat.ofDigitChars 10 (pad width n) sofar = 10 ^ width * sofar + n := by
  -- The last digit is split off, and the number before it has one place less.
  induction width generalizing n with
  | zero =>
    rw [pow_zero] at fits
    rw [pad, Nat.ofDigitChars_nil, pow_zero]
    omega
  | succ width ih =>
    rw [pow_succ] at fits
    rw [pad, Nat.ofDigitChars_append, ih (by omega), Nat.ofDigitChars_cons_digitChar_of_lt_ten (Nat.mod_lt n (by decide)),
      Nat.ofDigitChars_nil, pow_succ, Nat.mul_add, ← Nat.mul_assoc, Nat.mul_comm 10]
    omega

theorem append_lt_iff {first second rest rest' : List Char} (same : first.length = second.length) :
    first ++ rest < second ++ rest' ↔ first < second ∨ first = second ∧ rest < rest' := by
  induction first generalizing second with
  | nil =>
    obtain rfl := List.eq_nil_of_length_eq_zero same.symm
    simp
  | cons c first ih =>
    cases second with
    | nil => contradiction
    | cons d second =>
      rw [List.cons_append, List.cons_append, List.cons_lt_cons_iff, List.cons_lt_cons_iff, ih (Nat.succ.inj same),
        List.cons.injEq]
      tauto

theorem digitChar_lt {n m : Nat} (small : n < 10) (small' : m < 10) : Nat.digitChar n < Nat.digitChar m ↔ n < m := by
  have all : ∀ n < 10, ∀ m < 10, Nat.digitChar n < Nat.digitChar m ↔ n < m := by decide
  exact all n small m small'

theorem pad_injective {width n m : Nat} (fits : n < 10 ^ width) (fits' : m < 10 ^ width) (same : pad width n = pad width m) :
    n = m := by
  induction width generalizing n m with
  | zero =>
    rw [pow_zero] at fits fits'
    omega
  | succ width ih =>
    rw [pow_succ] at fits fits'
    have digit (k : Nat) : k % 10 < 10 := Nat.mod_lt k (by decide)
    obtain ⟨front, last⟩ := List.append_inj same (by rw [length_pad, length_pad])
    have tens : n / 10 = m / 10 := ih (by omega) (by omega) front
    have char : Nat.digitChar (n % 10) = Nat.digitChar (m % 10) := List.singleton_inj.mp last
    -- Equal digits are neither less nor more, and digits are in the order of their numbers.
    have up := (digitChar_lt (digit n) (digit m)).not.mp char.not_lt
    have down := (digitChar_lt (digit m) (digit n)).not.mp char.not_gt
    omega

theorem pad_lt {width n m : Nat} (fits : n < 10 ^ width) (fits' : m < 10 ^ width) : pad width n < pad width m ↔ n < m := by
  induction width generalizing n m with
  | zero =>
    rw [pow_zero] at fits fits'
    simp only [pad, lt_self_iff_false, false_iff]
    omega
  | succ width ih =>
    rw [pow_succ] at fits fits'
    have front (k : Nat) (small : k < 10 ^ width * 10) : k / 10 < 10 ^ width := by omega
    have digit (k : Nat) : k % 10 < 10 := Nat.mod_lt k (by decide)
    have last : [Nat.digitChar (n % 10)] < [Nat.digitChar (m % 10)] ↔ n % 10 < m % 10 := by
      rw [List.cons_lt_cons_iff, digitChar_lt (digit n) (digit m)]
      simp
    -- The texts differ in their front parts, or these are one and the last digits decide.
    have tens : pad width (n / 10) = pad width (m / 10) ↔ n / 10 = m / 10 :=
      ⟨pad_injective (front n fits) (front m fits'), congrArg (pad width)⟩
    rw [pad, pad, append_lt_iff (by rw [length_pad, length_pad]), ih (front n fits) (front m fits'), last, tens]
    omega

end Foundation.Numerals
