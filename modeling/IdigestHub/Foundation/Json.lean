import IdigestHub.Foundation.Decimal

/-! JSON values as a dynamically typed program meets them: truth values, lookups with
a default, and the conversions that raise. -/

set_option autoImplicit false

namespace Foundation

/-- A number keeps its written digits: `1` and `1.0` have different exponents. -/
inductive Json where
  | null
  | bool (value : Bool)
  | num (value : Decimal)
  | str (text : String)
  | arr (items : List Json)
  | obj (fields : List (String × Json))

abbrev Dict : Type := List (String × Json)

namespace Dict

def find : Dict → String → Option Json
  | [], _ => none
  | (name, value) :: rest, key => if name = key then some value else find rest key

/-- `d.get(key)`: a missing key and a stored null look the same. -/
def get (d : Dict) (key : String) : Json := (d.find key).getD .null

def set : Dict → String → Json → Dict
  | [], key, value => [(key, value)]
  | (name, old) :: rest, key, value =>
    if name = key then (key, value) :: rest else (name, old) :: set rest key value

def update (d : Dict) (fields : Dict) : Dict :=
  fields.foldl (fun d field => d.set field.1 field.2) d

def pop : Dict → String → Dict
  | [], _ => []
  | (name, value) :: rest, key => if name = key then pop rest key else (name, value) :: pop rest key

theorem find_set (d : Dict) (key other : String) (value : Json) :
    (d.set key value).find other = if other = key then some value else d.find other := by
  induction d with
  | nil => by_cases same : key = other <;> simp [set, find, same, eq_comm]
  | cons field rest ih =>
    obtain ⟨name, old⟩ := field
    rw [set]
    split
    · rename_i here
      subst here
      by_cases same : name = other
      · subst same; simp [find]
      · simp [find, same, Ne.symm same]
    · rename_i here
      by_cases same : name = other
      · subst same; simp [find, here]
      · simp [find, same, ih]

theorem find_pop (d : Dict) (key other : String) :
    (d.pop key).find other = if other = key then none else d.find other := by
  induction d with
  | nil => simp [pop, find]
  | cons field rest ih =>
    obtain ⟨name, old⟩ := field
    rw [pop]
    split
    · rename_i here
      subst here
      by_cases same : name = other
      · subst same; simp [ih]
      · simp [find, same, ih]
    · rename_i here
      by_cases same : name = other
      · subst same; simp [find, here]
      · simp [find, same, ih]

theorem get_set (d : Dict) (key other : String) (value : Json) :
    (d.set key value).get other = if other = key then value else d.get other := by
  rw [get, find_set]
  split <;> rfl

theorem get_pop (d : Dict) (key other : String) :
    (d.pop key).get other = if other = key then .null else d.get other := by
  rw [get, find_pop]
  split <;> rfl

theorem set_set (d : Dict) (key : String) (first second : Json) : (d.set key first).set key second = d.set key second := by
  induction d with
  | nil => simp [set]
  | cons field rest ih =>
    obtain ⟨name, old⟩ := field
    by_cases same : name = key
    · simp [set, same]
    · simp [set, same, ih]

theorem find_of_absent {d : Dict} {key : String} (absent : ∀ field ∈ d, field.1 ≠ key) : d.find key = none := by
  induction d with
  | nil => rfl
  | cons field rest ih =>
    rw [find, if_neg (absent field (List.mem_cons_self ..))]
    exact ih fun other member => absent other (List.mem_cons_of_mem field member)

theorem get_of_absent {d : Dict} {key : String} (absent : ∀ field ∈ d, field.1 ≠ key) : d.get key = .null := by
  rw [get, find_of_absent absent]
  rfl

theorem get_update_of_absent {fields : Dict} {key : String} (absent : ∀ field ∈ fields, field.1 ≠ key)
    (d : Dict) : (d.update fields).get key = d.get key := by
  induction fields generalizing d with
  | nil => rfl
  | cons field rest ih =>
    have later := ih (fun other member => absent other (List.mem_cons_of_mem field member)) (d.set field.1 field.2)
    rw [update, List.foldl_cons]
    rw [update] at later
    rw [later, get_set, if_neg (Ne.symm (absent field (List.mem_cons_self ..)))]

end Dict

namespace Json

def asDict : Json → Option Dict
  | .obj fields => some fields
  | _ => none

def truthy : Json → Bool
  | .null => false
  | .bool value => value
  | .num (.finite coefficient _) => coefficient != 0
  | .num _ => true
  | .str text => text != ""
  | .arr items => !items.isEmpty
  | .obj fields => !fields.isEmpty

/-- `value == "text"`. -/
def isText (text : String) : Json → Bool
  | .str other => other == text
  | _ => false

/-- Lists and dictionaries cannot be looked up in a set or as a key. -/
def hashable : Json → Bool
  | .arr _ | .obj _ => false
  | _ => true

/-- `value in {"a", "b"}`; an unhashable value raises. -/
def inTexts (texts : List String) (value : Json) : Option Bool :=
  if value.hashable then some (texts.any fun text => value.isText text) else none

def text? : Json → Option String
  | .str text => some text
  | _ => none

end Json

/-- `int(value)`: a number, a `TypeError` or `ValueError`, or an `OverflowError`. -/
inductive IntResult where
  | value (n : Int)
  | invalid
  | overflow

/-- The parts of a URL that are read: `hostname` is missing when it is empty. -/
structure Url where
  scheme : String
  hostname : Option String
  path : String

/-- What the language does with a value and is not described further: `float` with the
decimal digits it prints, `str`, the encoded size of its JSON text, `lower`, and
`urlparse`, which raises `ValueError` on some texts. -/
structure Python where
  float : Json → Option Decimal
  str : Json → String
  jsonBytes : Json → Option Nat
  int : Json → IntResult
  lower : String → String
  urlparse : String → Option Url
  str_truthy : ∀ value, value.truthy = true → str value ≠ ""

namespace Python

variable (python : Python)

/-- `str(value)`. -/
def text : Json → String
  | .str text => text
  | value => python.str value

theorem text_truthy {value : Json} (truthy : value.truthy = true) : python.text value ≠ "" := by
  cases value with
  | str text => simpa [Python.text, Json.truthy] using truthy
  | _ => exact python.str_truthy _ truthy

/-- A text that is never empty. -/
theorem question_ne_empty : "?" ≠ "" := by decide

/-- `str(value or "")`. -/
def orEmpty (value : Json) : String := if value.truthy then python.text value else ""

end Python

mutual

def Json.same : Json → Json → Bool
  | .null, .null => true
  | .bool a, .bool b => a == b
  | .num a, .num b => a == b
  | .str a, .str b => a == b
  | .arr a, .arr b => sameItems a b
  | .obj a, .obj b => sameFields a b
  | _, _ => false

def sameItems : List Json → List Json → Bool
  | [], [] => true
  | a :: as, b :: bs => a.same b && sameItems as bs
  | _, _ => false

def sameFields : List (String × Json) → List (String × Json) → Bool
  | [], [] => true
  | (name, a) :: as, (other, b) :: bs => name == other && a.same b && sameFields as bs
  | _, _ => false

end

mutual

theorem Json.same_iff : ∀ a b : Json, a.same b = true ↔ a = b
  | .null, b | .bool _, b | .num _, b | .str _, b => by cases b <;> simp [Json.same]
  | .arr as, b => by cases b <;> simp [Json.same, sameItems_iff as]
  | .obj as, b => by cases b <;> simp [Json.same, sameFields_iff as]

theorem sameItems_iff : ∀ as bs, sameItems as bs = true ↔ as = bs
  | [], bs => by cases bs <;> simp [sameItems]
  | a :: as, bs => by cases bs <;> simp [sameItems, a.same_iff, sameItems_iff as]

theorem sameFields_iff : ∀ as bs, sameFields as bs = true ↔ as = bs
  | [], bs => by cases bs <;> simp [sameFields]
  | (name, a) :: as, bs => by
    rcases bs with _ | ⟨⟨other, b⟩, bs⟩ <;> simp [sameFields, a.same_iff, sameFields_iff as, and_assoc]

end

instance : DecidableEq Json := fun a b => decidable_of_iff _ (a.same_iff b)

end Foundation
