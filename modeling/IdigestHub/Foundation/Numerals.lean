import IdigestHub.Foundation.Words

/-! The digits of Unicode 15, and `int` of a text. Texts are lists of characters here. -/

set_option autoImplicit false

namespace Foundation.Numerals

open Text

/-- The zeros of the decimal digits beyond ASCII. -/
def laterZeros : List Nat := [
  0x660, 0x6F0, 0x7C0, 0x966, 0x9E6, 0xA66, 0xAE6, 0xB66, 0xBE6, 0xC66, 0xCE6, 0xD66, 0xDE6, 0xE50, 0xED0, 0xF20, 0x1040,
  0x1090, 0x17E0, 0x1810, 0x1946, 0x19D0, 0x1A80, 0x1A90, 0x1B50, 0x1BB0, 0x1C40, 0x1C50, 0xA620, 0xA8D0, 0xA900, 0xA9D0, 0xA9F0,
  0xAA50, 0xABF0, 0xFF10, 0x104A0, 0x10D30, 0x11066, 0x110F0, 0x11136, 0x111D0, 0x112F0, 0x11450, 0x114D0, 0x11650, 0x116C0,
  0x11730, 0x118E0, 0x11950, 0x11C50, 0x11D50, 0x11DA0, 0x11F50, 0x16A60, 0x16AC0, 0x16B50, 0x1D7CE, 0x1D7D8, 0x1D7E2, 0x1D7EC,
  0x1D7F6, 0x1E140, 0x1E2F0, 0x1E4F0, 0x1E950, 0x1FBF0]

/-- The zeros of the decimal digits; nine digits follow each. -/
def decimalZeros : List Nat := 0x30 :: laterZeros

/-- The first and the last of the digits that are not decimal, such as superscripts. -/
def otherDigits : List (Nat × Nat) := [
  (0xB2, 0xB3), (0xB9, 0xB9), (0x1369, 0x1371), (0x19DA, 0x19DA), (0x2070, 0x2070), (0x2074, 0x2079), (0x2080, 0x2089),
  (0x2460, 0x2468), (0x2474, 0x247C), (0x2488, 0x2490), (0x24EA, 0x24EA), (0x24F5, 0x24FD), (0x24FF, 0x24FF), (0x2776, 0x277E),
  (0x2780, 0x2788), (0x278A, 0x2792), (0x10A40, 0x10A43), (0x10E60, 0x10E68), (0x11052, 0x1105A), (0x1F100, 0x1F10A)]

def decimal (c : Char) : Option Nat :=
  (decimalZeros.find? fun start => start ≤ c.toNat && c.toNat < start + 10).map fun start => c.toNat - start

/-- `c.isdigit()`. -/
def isDigit (c : Char) : Bool :=
  (decimal c).isSome || otherDigits.any fun range => range.1 ≤ c.toNat && c.toNat ≤ range.2

/-- The whitespace that `int` drops: `strip` also drops the separators 28 to 31. -/
def intSpace (c : Char) : Bool := isSpace c && !(28 ≤ c.toNat && c.toNat ≤ 31)

def valueOf (digits : List Nat) : Nat := digits.foldl (fun sofar digit => 10 * sofar + digit) 0

/-- `sys.int_info.default_max_str_digits`. -/
def maxStrDigits : Nat := 4300

def natural (text : List Char) : Option Nat :=
  if (text.splitOn '_').all (fun group => !group.isEmpty && group.all fun c => (decimal c).isSome) &&
      (text.filter (· != '_')).length ≤ maxStrDigits then
    some (valueOf (text.filterMap decimal))
  else none

/-- `int(text)`; no value for a `ValueError`. -/
def int (text : List Char) : Option Int :=
  match trimBoth intSpace text with
  | '+' :: rest => (natural rest).map Int.ofNat
  | '-' :: rest => (natural rest).map fun n => -(n : Int)
  | rest => (natural rest).map Int.ofNat

/-- Digits as the standards of the web write them: ASCII, at least one. -/
structure Plain (text : List Char) : Prop where
  some_digit : text ≠ []
  digits : ∀ c ∈ text, c.isDigit = true

theorem isDigit_iff_bounds {c : Char} : c.isDigit = true ↔ 48 ≤ c.toNat ∧ c.toNat ≤ 57 := Char.isDigit_iff_toNat

theorem decimal_of_ascii {c : Char} (digit : c.isDigit = true) : decimal c = some (c.toNat - 48) := by
  obtain ⟨low, high⟩ := isDigit_iff_bounds.mp digit
  have first : decimalZeros.find? (fun start => start ≤ c.toNat && c.toNat < start + 10) = some 0x30 := by
    refine List.find?_cons_of_pos ?_
    rw [Bool.and_eq_true, decide_eq_true_eq, decide_eq_true_eq]
    omega
  rw [decimal, first]
  rfl

theorem Plain.value {text : List Char} (plain : Plain text) :
    valueOf (text.filterMap decimal) = Nat.ofDigitChars 10 text 0 := by
  have each (sofar : Nat) (rest : List Char) (digits : ∀ c ∈ rest, c.isDigit = true) :
      (rest.filterMap decimal).foldl (fun sofar digit => 10 * sofar + digit) sofar = Nat.ofDigitChars 10 rest sofar := by
    induction rest generalizing sofar with
    | nil => rfl
    | cons c rest ih =>
      rw [List.filterMap_cons_some (decimal_of_ascii (digits c List.mem_cons_self)), List.foldl_cons, Nat.ofDigitChars_cons]
      exact ih _ fun other member => digits other (List.mem_cons_of_mem c member)
  exact each 0 text plain.digits

def spaces : List Nat :=
  [9, 10, 11, 12, 13, 28, 29, 30, 31, 32, 0x85, 0xA0, 0x1680, 0x2000, 0x2001, 0x2002, 0x2003, 0x2004, 0x2005, 0x2006,
    0x2007, 0x2008, 0x2009, 0x200A, 0x2028, 0x2029, 0x202F, 0x205F, 0x3000]

theorem mem_spaces {c : Char} (space : isSpace c = true) : c.toNat ∈ spaces := by
  simp only [isSpace, Bool.or_eq_true, Bool.and_eq_true, decide_eq_true_eq, beq_iff_eq] at space
  simp only [spaces, List.mem_cons, List.not_mem_nil, or_false]
  omega

theorem isDigit_iff {c : Char} : isDigit c = true ↔
    (∃ start ∈ decimalZeros, start ≤ c.toNat ∧ c.toNat < start + 10) ∨ ∃ range ∈ otherDigits, range.1 ≤ c.toNat ∧
      c.toNat ≤ range.2 := by
  rw [isDigit, decimal, Option.isSome_map, Bool.or_eq_true, List.find?_isSome, List.any_eq_true]
  simp only [Bool.and_eq_true, decide_eq_true_eq]

theorem not_isSpace_of_isDigit {c : Char} (digit : isDigit c = true) : isSpace c = false := by
  have decimals : ∀ n ∈ spaces, ∀ start ∈ decimalZeros, ¬ (start ≤ n ∧ n < start + 10) := by decide +kernel
  have others : ∀ n ∈ spaces, ∀ range ∈ otherDigits, ¬ (range.1 ≤ n ∧ n ≤ range.2) := by decide +kernel
  by_contra space
  rw [Bool.not_eq_false] at space
  rcases isDigit_iff.mp digit with ⟨start, member, within⟩ | ⟨range, member, within⟩
  · exact decimals _ (mem_spaces space) start member within
  · exact others _ (mem_spaces space) range member within

theorem intSpace_of_isDigit {c : Char} (digit : isDigit c = true) : intSpace c = false := by
  rw [intSpace, not_isSpace_of_isDigit digit, Bool.false_and]

theorem isDigit_of_ascii {c : Char} (digit : c.isDigit = true) : isDigit c = true := by
  rw [isDigit, decimal_of_ascii digit]
  rfl

theorem isSpace_of_ascii {c : Char} (digit : c.isDigit = true) : isSpace c = false :=
  not_isSpace_of_isDigit (isDigit_of_ascii digit)

section Digits

variable {text : List Char} (digits : ∀ c ∈ text, isDigit c = true)
include digits

theorem not_mem_of_digits {c : Char} (other : isDigit c = false) : c ∉ text := by
  intro member
  rw [digits c member] at other
  contradiction

theorem trimBoth_of_digits {outer : Char → Bool} (kept : ∀ c, isDigit c = true → outer c = false) : trimBoth outer text = text :=
  (trimBoth_eq_self_iff text).mpr
    ⟨fun c first => kept c (digits c (List.mem_of_mem_head? first)),
      fun c last => kept c (digits c (List.mem_of_mem_getLast? last))⟩

theorem natural_of_digits (nonempty : text ≠ []) : natural text =
    if text.all (fun c => (decimal c).isSome) = true ∧ text.length ≤ maxStrDigits then
      some (valueOf (text.filterMap decimal)) else none := by
  have apart : ∀ c ∈ text, c ≠ '_' := fun c member same => not_mem_of_digits digits (c := '_') (by decide +kernel) (same ▸ member)
  have one : text.splitOn '_' = [text] := List.splitOnP_eq_singleton fun c member => beq_false_of_ne (apart c member)
  have kept : text.filter (· != '_') = text := List.filter_eq_self.mpr fun c member => bne_iff_ne.mpr (apart c member)
  have some_digit : text.isEmpty = false := List.isEmpty_eq_false_iff.mpr nonempty
  rw [natural, one, List.all_cons, List.all_nil, Bool.and_true, some_digit, kept]
  simp

theorem int_of_digits : int text = (natural text).map Int.ofNat := by
  rw [int, trimBoth_of_digits digits fun c => intSpace_of_isDigit]
  split
  · exact absurd List.mem_cons_self (not_mem_of_digits digits (by decide +kernel))
  · exact absurd List.mem_cons_self (not_mem_of_digits digits (by decide +kernel))
  · rfl

end Digits

theorem Plain.not_mem {text : List Char} (plain : Plain text) {c : Char} (other : c.isDigit = false) : c ∉ text := by
  intro member
  rw [plain.digits c member] at other
  contradiction

theorem Plain.digits' {text : List Char} (plain : Plain text) : ∀ c ∈ text, isDigit c = true :=
  fun c member => isDigit_of_ascii (plain.digits c member)

/-- Plain digits are read as they stand, up to the length that the language converts. -/
theorem Plain.int_eq {text : List Char} (plain : Plain text) :
    int text = if text.length ≤ maxStrDigits then some (Nat.ofDigitChars 10 text 0 : Int) else none := by
  have all : text.all (fun c => (decimal c).isSome) = true := List.all_eq_true.mpr fun c member => by
    rw [decimal_of_ascii (plain.digits c member), Option.isSome_some]
  rw [int_of_digits plain.digits', natural_of_digits plain.digits' plain.some_digit, plain.value]
  by_cases short : text.length ≤ maxStrDigits
  · rw [if_pos ⟨all, short⟩, if_pos short]
    rfl
  · rw [if_neg fun both => short both.2, if_neg short]
    rfl

def str (n : Int) : List Char := if n < 0 then '-' :: Nat.toDigits 10 n.natAbs else Nat.toDigits 10 n.natAbs

theorem plain_toDigits (n : Nat) : Plain (Nat.toDigits 10 n) :=
  ⟨Nat.toDigits_ne_nil, fun _ member => Nat.isDigit_of_mem_toDigits (by decide) (by decide) member⟩

theorem str_of_nonneg {n : Int} (nonneg : 0 ≤ n) : str n = Nat.toDigits 10 n.natAbs := if_neg (by omega)

theorem int_str {n : Int} (nonneg : 0 ≤ n) (short : (Nat.toDigits 10 n.natAbs).length ≤ maxStrDigits) : int (str n) = some n := by
  rw [str_of_nonneg nonneg, (plain_toDigits _).int_eq, if_pos short, Nat.ofDigitChars_ten_toDigits, Int.natAbs_of_nonneg nonneg]

end Foundation.Numerals
