import IdigestHub.Foundation.Ascii
import IdigestHub.Foundation.DecimalText
import IdigestHub.Foundation.Padding

/-! The text of a fixed-point number, and the decimal that is read from it. -/

set_option autoImplicit false

namespace Foundation.DecimalText

open Text Numerals

def pointed (places n : Nat) : List Char := Nat.toDigits 10 (n / 10 ^ places) ++ '.' :: pad places (n % 10 ^ places)

/-- A number with some places behind the point, or NaN. -/
def fixedText (places : Nat) : Fixed → List Char
  | none => ['N', 'a', 'N']
  | some n =>
    if n < 0 then '-' :: pointed places n.natAbs else pointed places n.natAbs

section Reading

variable {places : Nat}

theorem digits_of_pad (width n : Nat) : ∀ c ∈ pad width n, c.isDigit = true := by
  have digits : ∀ digit < 10, (Nat.digitChar digit).isDigit = true := by decide
  intro c member
  obtain ⟨digit, small, rfl⟩ := digit_of_mem_pad member
  exact digits digit small

theorem char_of_pointed {n : Nat} {c : Char} (member : c ∈ pointed places n) : c.isDigit = true ∨ c = '.' := by
  rcases List.mem_append.mp member with whole | rest
  · exact .inl ((plain_toDigits _).digits c whole)
  · rcases List.mem_cons.mp rest with point | fraction
    · exact .inr point
    · exact .inl (digits_of_pad _ _ c fraction)

theorem takeWhile_pointed (n : Nat) : (pointed places n).takeWhile (· != '.') = Nat.toDigits 10 (n / 10 ^ places) := by
  have digits : ∀ c ∈ Nat.toDigits 10 (n / 10 ^ places), (c != '.') = true := by
    intro c member
    rw [bne_iff_ne]
    rintro rfl
    exact absurd ((plain_toDigits _).digits '.' member) (by decide)
  rw [pointed, List.takeWhile_append_of_pos digits, List.takeWhile_cons_of_neg (by decide), List.append_nil]

theorem dropWhile_pointed (n : Nat) : ((pointed places n).dropWhile (· != '.')).drop 1 = pad places (n % 10 ^ places) := by
  have digits : ∀ c ∈ Nat.toDigits 10 (n / 10 ^ places), (c != '.') = true := by
    intro c member
    rw [bne_iff_ne]
    rintro rfl
    exact absurd ((plain_toDigits _).digits '.' member) (by decide)
  rw [pointed, List.dropWhile_append_of_pos digits, List.dropWhile_cons_of_neg (by decide)]
  rfl

theorem number_pointed {n : Nat} (few : places ≤ Decimal.precision) (fits : n < 10 ^ Decimal.precision) (negative : Bool) :
    number negative (pointed places n) = some (.value (.finite (if negative then -(n : Int) else n) (-places))) := by
  have not_e : ∀ c ∈ pointed places n, (!(c == 'e' || c == 'E')) = true := by
    intro c member
    rcases char_of_pointed member with digit | rfl
    · by_cases e : c = 'e' ∨ c = 'E'
      · rcases e with rfl | rfl <;> exact absurd digit (by decide)
      · simpa using e
    · decide
  have mantissa : (pointed places n).takeWhile (fun c => !(c == 'e' || c == 'E')) = pointed places n :=
    List.takeWhile_eq_self_iff.mpr not_e
  have no_exponent : (pointed places n).dropWhile (fun c => !(c == 'e' || c == 'E')) = [] := List.dropWhile_eq_nil_iff.mpr not_e
  have positive : 0 < 10 ^ places := Nat.pow_pos (by decide)
  have coefficient : Nat.ofDigitChars 10 (Nat.toDigits 10 (n / 10 ^ places) ++ pad places (n % 10 ^ places)) 0 = n := by
    rw [Nat.ofDigitChars_append, Nat.ofDigitChars_ten_toDigits, ofDigitChars_pad (Nat.mod_lt n positive), Nat.div_add_mod]
  have all_digits : areDigits (Nat.toDigits 10 (n / 10 ^ places) ++ pad places (n % 10 ^ places)) = true := by
    rw [areDigits, List.all_append, Bool.and_eq_true, List.all_eq_true, List.all_eq_true]
    exact ⟨(plain_toDigits _).digits, digits_of_pad _ _⟩
  have some_digit : (Nat.toDigits 10 (n / 10 ^ places) ++ pad places (n % 10 ^ places)).isEmpty = false := by
    rw [List.isEmpty_eq_false_iff, Ne, List.append_eq_nil_iff]
    exact fun both => (plain_toDigits _).some_digit both.1
  have short : (Nat.toDigits 10 n).length ≤ Decimal.precision := (Nat.length_toDigits_le_iff (by decide) (by decide)).mpr fits
  have width : Decimal.precision = 28 := rfl
  have bounded : ¬ (maxEmax < (0 : Int) - (places : Nat) + (Nat.toDigits 10 n).length - 1 ∨
    (0 : Int) - (places : Nat) < minEtiny) := by
    rw [maxEmax, minEtiny]
    omega
  rw [number]
  simp only [mantissa, no_exponent, exponentOf, takeWhile_pointed, dropWhile_pointed, some_digit, all_digits,
    coefficient, length_pad, Option.bind_eq_bind, Option.bind_some, Bool.not_true, Bool.or_false, Bool.false_eq_true, if_false,
    if_neg bounded]
  rw [Int.zero_sub]

theorem head_pointed (n : Nat) : ∃ digit rest, pointed places n = digit :: rest ∧ digit.isDigit = true := by
  cases digits : Nat.toDigits 10 (n / 10 ^ places) with
  | nil => exact absurd digits (plain_toDigits _).some_digit
  | cons digit rest =>
    refine ⟨digit, _, by rw [pointed, digits, List.cons_append], ?_⟩
    exact (plain_toDigits (n / 10 ^ places)).digits digit (by rw [digits]; exact List.mem_cons_self)

theorem special_of_digit {digit : Char} (its : digit.isDigit = true) (rest : List Char) (negative : Bool) :
    special negative (digit :: rest) = none := by
  have lower : digit.toLower = digit := toLower_of_not_upper fun upper => by
    have := isUpper_iff.mp upper
    have := isDigit_iff_bounds.mp its
    omega
  have other (letter : Char) (high : 57 < letter.toNat) : digit ≠ letter := by
    rintro rfl
    have := isDigit_iff_bounds.mp its
    omega
  rw [special]
  simp [lower, other 'i' (by decide), other 'n' (by decide), other 's' (by decide)]

theorem asAscii_of_ascii {c : Char} (ascii : 0 < c.toNat ∧ c.toNat ≤ 127) : asAscii c = some c := if_pos ascii

theorem mapM_asAscii {text : List Char} (ascii : ∀ c ∈ text, 0 < c.toNat ∧ c.toNat ≤ 127) : text.mapM asAscii = some text := by
  induction text with
  | nil => rfl
  | cons c text ih =>
    rw [List.mapM_cons, asAscii_of_ascii (ascii c List.mem_cons_self), ih fun other member =>
      ascii other (List.mem_cons_of_mem c member)]
    rfl

theorem char_of_fixedText {n : Int} {c : Char} (member : c ∈ fixedText places (n : Fixed)) :
    c.isDigit = true ∨ c = '.' ∨ c = '-' := by
  change c ∈ (if n < 0 then '-' :: pointed places n.natAbs else pointed places n.natAbs) at member
  split at member
  · rcases List.mem_cons.mp member with sign | body
    · exact .inr (.inr sign)
    · exact (char_of_pointed body).imp id .inl
  · exact (char_of_pointed member).imp id .inl

theorem bounds_of_fixedText {n : Int} {c : Char} (member : c ∈ fixedText places (n : Fixed)) : 45 ≤ c.toNat ∧ c.toNat ≤ 57 := by
  rcases char_of_fixedText member with digit | rfl | rfl
  · have := isDigit_iff_bounds.mp digit
    omega
  · decide
  · decide

theorem trimBoth_fixedText (value : Fixed) : trimBoth isSpace (fixedText places value) = fixedText places value := by
  induction value using WithTop.recTopCoe with
  | top => rfl
  | coe n =>
    refine trimBoth_of_kept fun c member => ?_
    have apart : ∀ code ∈ spaces, ¬ (45 ≤ code ∧ code ≤ 57) := by decide
    by_contra space
    rw [Bool.not_eq_false] at space
    exact apart _ (mem_spaces space) (bounds_of_fixedText member)

theorem fixedText_ne_nil (value : Fixed) : fixedText places value ≠ [] := by
  induction value using WithTop.recTopCoe with
  | top => exact List.cons_ne_nil _ _
  | coe n =>
    obtain ⟨digit, rest, first, _⟩ := @head_pointed places n.natAbs
    show (if n < 0 then '-' :: pointed places n.natAbs else pointed places n.natAbs) ≠ []
    split
    · exact List.cons_ne_nil _ _
    · rw [first]
      exact List.cons_ne_nil _ _

theorem numericAsAscii_fixedText (n : Int) : numericAsAscii (fixedText places (n : Fixed)) =
    some (fixedText places (n : Fixed)) := by
  have no_underscore : (fixedText places (n : Fixed)).filter (· != '_') = fixedText places (n : Fixed) := by
    rw [List.filter_eq_self]
    intro c member
    rw [bne_iff_ne]
    rintro rfl
    exact absurd (bounds_of_fixedText member).2 (by decide)
  rw [numericAsAscii, trimBoth_fixedText, no_underscore]
  refine mapM_asAscii fun c member => ?_
  have := bounds_of_fixedText member
  omega

theorem decimalOf_fixedText (few : places ≤ Decimal.precision) {n : Int} (fits : n.natAbs < 10 ^ Decimal.precision) :
    decimalOf (fixedText places (n : Fixed)) = some (.value (.finite n (-places))) := by
  obtain ⟨digit, rest, first, its⟩ := @head_pointed places n.natAbs
  rw [decimalOf, numericAsAscii_fixedText]
  show Option.bind (some (if n < 0 then '-' :: pointed places n.natAbs else pointed places n.natAbs)) _ = _
  rw [Option.bind_some]
  by_cases negative : n < 0
  · rw [if_pos negative]
    show (special true (pointed places n.natAbs)).or (number true (pointed places n.natAbs)) = _
    rw [first, special_of_digit its, Option.none_or, ← first, number_pointed few fits, if_pos rfl]
    simp only [show -(n.natAbs : Int) = n by omega]
  · have not_minus : digit ≠ '-' := by
      rintro rfl
      exact absurd its (by decide)
    have not_plus : digit ≠ '+' := by
      rintro rfl
      exact absurd its (by decide)
    rw [if_neg negative, first]
    split
    · rename_i same
      exact absurd (List.cons.inj same).1 not_minus
    · rename_i same
      exact absurd (List.cons.inj same).1 not_plus
    · rw [special_of_digit its, Option.none_or, ← first, number_pointed few fits, if_neg Bool.false_ne_true]
      simp only [show (n.natAbs : Int) = n by omega]

theorem decimalOf_nan : decimalOf (fixedText places ⊤) = some (.value .nan) := by
  show decimalOf ['N', 'a', 'N'] = _
  decide

end Reading

end Foundation.DecimalText
