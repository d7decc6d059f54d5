import Mathlib.Data.List.Basic

/-! The characters of an ASCII text, read off its bytes. -/

set_option autoImplicit false

namespace Foundation.Text

def asciiChars (text : String) : List Char := text.toByteArray.data.toList.map fun byte => Char.ofNat byte.toNat

def isAscii (text : String) : Bool := text.toByteArray.data.toList.all fun byte => byte.toNat < 128

theorem utf8EncodeChar_ascii (c : Char) (ascii : ∀ byte ∈ String.utf8EncodeChar c, byte.toNat < 128) :
    (String.utf8EncodeChar c).map (fun byte => Char.ofNat byte.toNat) = [c] := by
  unfold String.utf8EncodeChar at ascii ⊢
  dsimp only at ascii ⊢
  split
  · rename_i one_byte
    have kept : c.toNat % 256 = c.toNat := Nat.mod_eq_of_lt (by simp only [Char.toNat_val] at one_byte; omega)
    simp [kept]
  · -- A character of several bytes starts with one of 192 or more.
    rename_i long
    rw [if_neg long] at ascii
    split at ascii
    · have first := ascii _ List.mem_cons_self
      rw [UInt8.toNat_ofNat'] at first
      omega
    · split at ascii
      all_goals
        have first := ascii _ List.mem_cons_self
        rw [UInt8.toNat_ofNat'] at first
        omega

theorem toList_of_ascii {text : String} (ascii : isAscii text = true) : text.toList = asciiChars text := by
  simp only [isAscii, List.all_eq_true, decide_eq_true_eq] at ascii
  rw [asciiChars]
  rw [← String.ofList_toList (s := text)] at ascii ⊢
  rw [String.toByteArray_ofList, List.utf8Encode, List.data_toByteArray] at ascii ⊢
  rw [String.toList_ofList]
  generalize text.toList = chars at ascii ⊢
  induction chars with
  | nil => rfl
  | cons c chars ih =>
    simp only [List.flatMap_cons, List.mem_append] at ascii
    rw [List.flatMap_cons, List.map_append, ← ih fun byte inside => ascii byte (.inr inside),
      utf8EncodeChar_ascii c fun byte inside => ascii byte (.inl inside)]
    rfl

section Letters

variable {c : Char}

theorem isUpper_iff : c.isUpper = true ↔ 65 ≤ c.toNat ∧ c.toNat ≤ 90 := by
  have ranges : c.isUpper = true ↔ c.val ≥ 'A'.val ∧ c.val ≤ 'Z'.val := decide_eq_true_iff
  rw [ranges]
  simp only [ge_iff_le, UInt32.le_iff_toNat_le]
  rfl

theorem isLower_iff : c.isLower = true ↔ 97 ≤ c.toNat ∧ c.toNat ≤ 122 := by
  have ranges : c.isLower = true ↔ decide (c.val ≥ 'a'.val) = true ∧ decide (c.val ≤ 'z'.val) = true := Bool.and_eq_true_iff
  rw [ranges]
  simp only [decide_eq_true_eq, ge_iff_le, UInt32.le_iff_toNat_le]
  rfl

theorem isAlpha_iff : c.isAlpha = true ↔ c.isUpper = true ∨ c.isLower = true := Bool.or_eq_true_iff

theorem toLower_of_not_upper (lower : ¬c.isUpper = true) : c.toLower = c :=
  dif_neg fun between => lower (decide_eq_true between)

theorem toNat_toLower (upper : c.isUpper = true) : c.toLower.toNat = c.toNat + 32 := by
  have between : c.val ≥ 'A'.val ∧ c.val ≤ 'Z'.val := of_decide_eq_true upper
  have shifted : c.toLower.val = c.val + ('a'.val - 'A'.val) := congrArg Char.val (dif_pos between)
  have range := isUpper_iff.mp upper
  show c.toLower.val.toNat = _
  rw [shifted, UInt32.toNat_add]
  show (c.toNat + 32) % 2 ^ 32 = c.toNat + 32
  exact Nat.mod_eq_of_lt (by omega)

end Letters

end Foundation.Text
