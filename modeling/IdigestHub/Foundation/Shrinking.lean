import Mathlib.Data.Nat.Basic
import Mathlib.Logic.Function.Iterate

/-! Rewriting under a size: each step leaves what it is given, or makes it smaller. What a chain of such steps
leaves, every step of it leaves; and repeating a step comes to an end. -/

set_option autoImplicit false

namespace Foundation

variable {A : Type} {size : A → Nat} {x y z : A}

def Shrunk (size : A → Nat) (y x : A) : Prop := y = x ∨ size y < size x

namespace Shrunk

theorem refl (x : A) : Shrunk size x x := .inl rfl

theorem trans (second : Shrunk size z y) (first : Shrunk size y x) : Shrunk size z x := by
  rcases second with rfl | smaller
  · exact first
  · rcases first with rfl | before
    · exact .inr smaller
    · exact .inr (lt_trans smaller before)

theorem le (shrunk : Shrunk size y x) : size y ≤ size x := by
  rcases shrunk with rfl | smaller
  · exact le_rfl
  · exact le_of_lt smaller

theorem eq_of_le (shrunk : Shrunk size y x) (large : size x ≤ size y) : y = x :=
  shrunk.resolve_right large.not_gt

variable {f g : A → A}

/-- Two steps one after the other leave a value when each of them does. -/
theorem comp_eq_self_iff (second : ∀ x, Shrunk size (g x) x) (first : ∀ x, Shrunk size (f x) x) (x : A) :
    g (f x) = x ↔ f x = x ∧ g x = x := by
  constructor
  · intro same
    have nothing : f x = x := (first x).eq_of_le (by
      have shrunk := (second (f x)).le
      rwa [same] at shrunk)
    rw [nothing] at same
    exact ⟨nothing, same⟩
  · rintro ⟨before, after⟩
    rw [before, after]

/-- A step that shrinks, repeated as often as the size allows, comes to rest. -/
theorem settles (shrinks : ∀ x, Shrunk size (f x) x) (x : A) : ∃ n ≤ size x, f (Nat.iterate f n x) = Nat.iterate f n x := by
  -- induction on the size: the first step shrinks it, or there is nothing to do
  induction bound : size x using Nat.strongRec generalizing x with
  | ind bound ih =>
    rcases shrinks x with rest | smaller
    · exact ⟨0, Nat.zero_le _, rest⟩
    · obtain ⟨n, below, rests⟩ := ih (size (f x)) (by omega) (f x) rfl
      exact ⟨n + 1, by omega, rests⟩

end Shrunk

end Foundation
