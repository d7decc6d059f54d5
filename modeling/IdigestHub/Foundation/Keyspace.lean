import Mathlib.Order.Lattice
import IdigestHub.Foundation.Table

/-! Keys with an expiry: a key is gone from the moment at which it expires. -/

set_option autoImplicit false

namespace Foundation

structure Entry (V T : Type) where
  value : V
  expiresAt : Option T

abbrev Keyspace (K V T : Type) : Type := Table K (Entry V T)

namespace Keyspace

variable {K V T : Type} [DecidableEq K] [LinearOrder T]

def live (now : T) (entry : Entry V T) : Bool := entry.expiresAt.all fun expiry => now < expiry

def get (keys : Keyspace K V T) (now : T) (key : K) : Option (Entry V T) := (Table.find keys key).filter (live now)

/-- `INCR`: a missing key counts from zero and never expires; the expiry of another stays. -/
def incr (keys : Keyspace K Int T) (now : T) (key : K) : Int × Keyspace K Int T :=
  match get keys now key with
  | none => (1, Table.put keys key ⟨1, none⟩)
  | some entry => (entry.value + 1, Table.put keys key { entry with value := entry.value + 1 })

def expire (keys : Keyspace K V T) (now : T) (key : K) (expiry : T) : Keyspace K V T :=
  match get keys now key with
  | none => keys
  | some entry => Table.put keys key { entry with expiresAt := some expiry }

theorem get_put (keys : Keyspace K V T) (now : T) (key other : K) (entry : Entry V T) :
    get (Table.put keys key entry) now other =
      if other = key then (some entry).filter (live now) else get keys now other := by
  rw [get, Table.find_put]
  split <;> rfl

theorem get_delete (keys : Keyspace K V T) (now : T) (key other : K) :
    get (Table.delete keys key) now other = if other = key then none else get keys now other := by
  rw [get, Table.find_delete]
  split <;> rfl

end Keyspace

end Foundation
