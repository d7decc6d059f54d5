import Mathlib.Data.List.MinMax
import Mathlib.Data.List.Perm.Basic

/-! Taking items one after the other, each time one of least score among those that are left. -/

set_option autoImplicit false

namespace Foundation.Choice

variable {A B K : Type} [LinearOrder B] [DecidableEq K] (score : A → B) (key : A → K)

def ranking : Nat → List A → List A
  | 0, _ => []
  | rounds + 1, items =>
    match items.argmin score with
    | none => []
    | some item => item :: ranking rounds (items.filter fun other => key other ≠ key item)

variable {score key} {items : List A} {item : A}

theorem ranking_subset (rounds : Nat) : ranking score key rounds items ⊆ items := by
  induction rounds generalizing items with
  | zero => exact List.nil_subset _
  | succ rounds ih =>
    rw [ranking]
    split
    · exact List.nil_subset _
    · rename_i item least
      have member := List.argmin_mem least
      exact List.cons_subset.mpr ⟨member, fun other later => List.mem_of_mem_filter (ih later)⟩

theorem cons_filter_perm (distinct : (items.map key).Nodup) (member : item ∈ items) :
    (item :: items.filter fun other => key other ≠ key item).Perm items := by
  induction items with
  | nil => contradiction
  | cons first rest ih =>
    obtain ⟨unlike, distinct⟩ := List.nodup_cons.mp distinct
    rcases List.mem_cons.mp member with rfl | later
    · have others : rest.filter (fun other => key other ≠ key item) = rest := by
        rw [List.filter_eq_self]
        intro other inside
        have different : key other ≠ key item := fun same => unlike (same ▸ List.mem_map_of_mem inside)
        simpa using different
      rw [List.filter_cons_of_neg (by simp), others]
    · have different : key first ≠ key item := fun same => unlike (same ▸ List.mem_map_of_mem later)
      rw [List.filter_cons_of_pos (by simpa using different)]
      exact (List.Perm.swap first item _).trans ((ih distinct later).cons first)

theorem others_of_pick {rounds : Nat} (distinct : (items.map key).Nodup) (member : item ∈ items)
    (enough : items.length ≤ rounds + 1) :
    ((items.filter fun other => key other ≠ key item).map key).Nodup ∧
      (items.filter fun other => key other ≠ key item).length ≤ rounds := by
  have length := (cons_filter_perm distinct member).length_eq
  rw [List.length_cons] at length
  exact ⟨distinct.sublist (List.filter_sublist.map key), by omega⟩

theorem ranking_perm (rounds : Nat) (distinct : (items.map key).Nodup) (enough : items.length ≤ rounds) :
    (ranking score key rounds items).Perm items := by
  -- Each round takes one of the items that are left, so as many rounds as items take them all.
  induction rounds generalizing items with
  | zero => rw [List.length_eq_zero_iff.mp (Nat.le_zero.mp enough), ranking]
  | succ rounds ih =>
    rw [ranking]
    split
    · rename_i none_left
      rw [List.argmin_eq_none.mp none_left]
    · rename_i item least
      obtain ⟨still_distinct, fewer⟩ := others_of_pick distinct (List.argmin_mem least) enough
      exact ((ih still_distinct fewer).cons item).trans (cons_filter_perm distinct (List.argmin_mem least))

theorem ranking_sorted (rounds : Nat) : (ranking score key rounds items).Pairwise fun a b => score a ≤ score b := by
  induction rounds generalizing items with
  | zero => exact .nil
  | succ rounds ih =>
    rw [ranking]
    split
    · exact .nil
    · rename_i item least
      refine .cons (fun other later => ?_) ih
      -- What comes later was there when the item was chosen as the least.
      have inside := List.mem_of_mem_filter (ranking_subset rounds later)
      exact List.le_of_mem_argmin inside least

def rankingFrom (first score : A → B) (key : A → K) : Nat → List A → List A
  | 0, _ => []
  | rounds + 1, items =>
    match items.argmin first with
    | none => []
    | some item => item :: ranking score key rounds (items.filter fun other => key other ≠ key item)

variable {first : A → B} {rounds : Nat}

theorem rankingFrom_self : rankingFrom score score key rounds items = ranking score key rounds items := by
  cases rounds with
  | zero => rfl
  | succ rounds => rw [rankingFrom, ranking]

theorem rankingFrom_perm (distinct : (items.map key).Nodup) (enough : items.length ≤ rounds) :
    (rankingFrom first score key rounds items).Perm items := by
  cases rounds with
  | zero => rw [List.length_eq_zero_iff.mp (Nat.le_zero.mp enough), rankingFrom]
  | succ rounds =>
    rw [rankingFrom]
    split
    · rename_i none_left
      rw [List.argmin_eq_none.mp none_left]
    · rename_i item least
      obtain ⟨still_distinct, fewer⟩ := others_of_pick distinct (List.argmin_mem least) enough
      exact ((ranking_perm rounds still_distinct fewer).cons item).trans (cons_filter_perm distinct (List.argmin_mem least))

theorem rankingFrom_head (least : (rankingFrom first score key rounds items).head? = some item) :
    ∀ other ∈ items, first item ≤ first other := by
  cases rounds with
  | zero => contradiction
  | succ rounds =>
    rw [rankingFrom] at least
    split at least
    · contradiction
    · rename_i chosen its
      obtain rfl : chosen = item := Option.some.inj least
      exact fun other member => List.le_of_mem_argmin member its

theorem rankingFrom_tail : (rankingFrom first score key rounds items).tail.Pairwise fun a b => score a ≤ score b := by
  cases rounds with
  | zero => exact .nil
  | succ rounds =>
    rw [rankingFrom]
    split
    · exact .nil
    · exact ranking_sorted rounds

end Foundation.Choice
