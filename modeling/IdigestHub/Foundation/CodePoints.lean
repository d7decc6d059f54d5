import IdigestHub.Foundation.Numerals

/-! Texts that may hold lone surrogates, as those of the language do: what `encode`, `isdigit`, `int` and a comparison in constant
time make of them. -/

set_option autoImplicit false

namespace Foundation.CodePoints

open Numerals

inductive Point where
  | char (c : Char)
  | surrogate (low : Fin 2048)
  deriving DecidableEq

abbrev Text := List Point

/-- What may escape from the functions on texts. -/
inductive Escaped where
  | valueError | unicodeEncodeError | typeError
  deriving DecidableEq

def ofChars (text : List Char) : Text := text.map .char

def Point.char? : Point → Option Char
  | .char c => some c
  | .surrogate _ => none

/-- The characters of a text that has no surrogates; `encode` takes no other. -/
def chars : Text → Option (List Char)
  | [] => some []
  | .char c :: rest => (chars rest).map (c :: ·)
  | .surrogate _ :: _ => none

/-- `text.isdigit()`. -/
def isDigit (text : Text) : Bool := !text.isEmpty && text.all fun point => (point.char?.map Numerals.isDigit).getD false

/-- `int(text)`. -/
def int (text : Text) : Except Escaped Int :=
  match (chars text).bind Numerals.int with
  | none => .error .valueError
  | some n => .ok n

def isAscii (text : Text) : Bool := text.all fun point => (point.char?.map fun c => decide (c.toNat < 128)).getD false

/-- `hmac.compare_digest`, which compares ASCII texts only. -/
def compareDigest (first second : Text) : Except Escaped Bool :=
  if isAscii first && isAscii second then .ok (first == second) else .error .typeError

section Characters

@[simp] theorem chars_ofChars (text : List Char) : chars (ofChars text) = some text := by
  induction text with
  | nil => rfl
  | cons c rest ih => simpa [ofChars, chars] using ih

theorem chars_append (first second : Text) :
    chars (first ++ second) = (chars first).bind fun start => (chars second).map (start ++ ·) := by
  induction first with
  | nil => simp [chars]
  | cons point rest ih =>
    cases point with
    | surrogate => rfl
    | char c =>
      rw [List.cons_append, chars, ih, chars]
      cases chars rest <;> cases chars second <;> rfl

theorem isDigit_ofChars (text : List Char) : isDigit (ofChars text) = true ↔
    text ≠ [] ∧ ∀ c ∈ text, Numerals.isDigit c = true := by
  simp [isDigit, ofChars, Point.char?]

theorem exists_of_isDigit {text : Text} (digits : isDigit text = true) :
    ∃ plain, text = ofChars plain ∧ plain ≠ [] ∧ ∀ c ∈ plain, Numerals.isDigit c = true := by
  rw [isDigit, Bool.and_eq_true, List.all_eq_true] at digits
  have all : ∀ point ∈ text, ∃ c, point = .char c := by
    intro point member
    cases point with
    | char c => exact ⟨c, rfl⟩
    | surrogate low => exact absurd (digits.2 _ member) (by simp [Point.char?])
  obtain ⟨plain, rfl⟩ : ∃ plain, text = ofChars plain := by
    clear digits
    induction text with
    | nil => exact ⟨[], rfl⟩
    | cons point rest ih =>
      obtain ⟨c, rfl⟩ := all point List.mem_cons_self
      obtain ⟨plain, rfl⟩ := ih fun other member => all other (List.mem_cons_of_mem _ member)
      exact ⟨c :: plain, rfl⟩
  refine ⟨plain, rfl, (isDigit_ofChars plain).mp ?_⟩
  rw [isDigit, Bool.and_eq_true, List.all_eq_true]
  exact digits

theorem isAscii_ofChars (text : List Char) : isAscii (ofChars text) = true ↔ ∀ c ∈ text, c.toNat < 128 := by
  simp [isAscii, ofChars, Point.char?]

end Characters

end Foundation.CodePoints
