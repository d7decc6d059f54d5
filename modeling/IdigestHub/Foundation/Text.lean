import Mathlib.Data.List.Basic

/-! Text functions of the language: whitespace as `str.isspace` has it, trimming and
splitting. -/

set_option autoImplicit false

namespace Foundation.Text

def isSpace (c : Char) : Bool :=
  let n := c.toNat
  (9 ≤ n && n ≤ 13) || (28 ≤ n && n ≤ 32) || n == 0x85 || n == 0xA0 || n == 0x1680 ||
    (0x2000 ≤ n && n ≤ 0x200A) || n == 0x2028 || n == 0x2029 || n == 0x202F || n == 0x205F || n == 0x3000

def trimBoth (outer : Char → Bool) (text : List Char) : List Char :=
  ((text.dropWhile outer).reverse.dropWhile outer).reverse

def strip (text : String) : String := .ofList (trimBoth isSpace text.toList)

/-- `text.strip("c")`. -/
def stripChar (c : Char) (text : String) : String := .ofList (trimBoth (· == c) text.toList)

/-- `text.split("c")`: the parts between the separators, at least one. -/
def split (c : Char) (text : String) : List String := (text.toList.splitOn c).map String.ofList

/-- `text.split()`: the words between runs of whitespace. -/
def words (text : List Char) : List (List Char) :=
  (text.splitBy fun a b => isSpace a == isSpace b).filter fun word => !word.all isSpace

/-- `" ".join(text.split())`. -/
def squeeze (text : String) : String := .ofList (List.intercalate [' '] (words text.toList))

end Foundation.Text
