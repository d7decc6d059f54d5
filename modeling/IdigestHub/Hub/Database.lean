import IdigestHub.Foundation.Binary64
import IdigestHub.Foundation.Decimal

/-! The two databases that the hub runs on, and what their columns give back of what is written to them. -/

set_option autoImplicit false

namespace IdigestHub

open Foundation

/-- Numbers are in thousandths, as `Numeric(12, 3)` columns have them; a value that is refused fails its statement. A truth value
may be written as a whole number, or not. -/
structure Database where
  numeric : Int → Option Int
  nan : Bool
  text : (width : Nat) → String → Bool
  truth : Bool

namespace Database

/-- What a `Numeric(12, 3)` column gives back. -/
def money (database : Database) : Fixed → Option Fixed
  | none => if database.nan then some ⊤ else none
  | some n => (database.numeric n).map fun (stored : Int) => (stored : Fixed)

/-- Numbers that are not refused are given back as they were. -/
def Exact (database : Database) : Prop := ∀ n stored, database.numeric n = some stored → stored = n

/-- SQLite keeps the nearest double, which is read with three decimals. A NaN is stored as NULL, and no text is too long. -/
def sqlite : Database where
  numeric n := some (Binary64.roundEven (Binary64.round (n / 1000) * 1000))
  nan := false
  text _ _ := true
  truth := true

/-- PostgreSQL keeps decimal digits, and refuses more than twelve. -/
def postgresql : Database where
  numeric n := if n.natAbs < 10 ^ 12 then some n else none
  nan := true
  text width value := value.length ≤ width && !value.toList.contains '\x00'
  truth := false

def bigInteger (n : Int) : Bool := -2 ^ 63 ≤ n && n < 2 ^ 63

theorem money_coe (database : Database) (n : Int) :
    database.money (n : Fixed) = (database.numeric n).map fun (stored : Int) => (stored : Fixed) := rfl

theorem Exact.money {database : Database} (exact : database.Exact) {value stored : Fixed}
    (given : database.money value = some stored) : stored = value := by
  induction value using WithTop.recTopCoe with
  | top =>
    obtain ⟨_, same⟩ : database.nan = true ∧ ⊤ = stored := by simpa [Database.money] using given
    exact same.symm
  | coe n =>
    rw [money_coe] at given
    obtain ⟨kept, its, same⟩ := Option.map_eq_some_iff.mp given
    rw [← same, exact n kept its]

theorem postgresql_exact : postgresql.Exact := by
  intro n stored given
  simp only [postgresql, Option.ite_none_right_eq_some, Option.some.injEq] at given
  exact given.2.symm

/-- SQLite gives back every number below 2 ^ 43. -/
theorem sqlite_numeric {n : Int} (small : n.natAbs < 1000 * 2 ^ 43) : sqlite.numeric n = some n := by
  refine congrArg some (Binary64.roundEven_of_near ?_)
  have bound : |(n / 1000 : ℚ)| < 2 ^ (43 : ℤ) := by
    have whole : |(n : ℚ)| < 1000 * 2 ^ 43 := by
      rw [← Int.cast_abs, Int.abs_eq_natAbs]
      exact_mod_cast small
    rw [abs_div, div_lt_iff₀ (by norm_num)]
    norm_num at whole ⊢
    linarith
  have error := Binary64.abs_round_sub_le_of_lt (by omega) bound
  have scaled : Binary64.round (n / 1000 : ℚ) * 1000 - n = (Binary64.round (n / 1000 : ℚ) - n / 1000) * 1000 := by ring
  rw [scaled, abs_mul]
  norm_num at error ⊢
  linarith

example : sqlite.numeric (1000 * 2 ^ 43 + 1) = some (1000 * 2 ^ 43 + 2) := by decide +kernel

end Database

end IdigestHub
