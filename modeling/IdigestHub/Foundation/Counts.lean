import IdigestHub.Foundation.Table

/-! Which rows of a table satisfy a condition, and how many, through its changes. -/

set_option autoImplicit false

namespace Foundation.Table

variable {K R : Type}

theorem find_keep_iff [DecidableEq K] {t : Table K R} {condition : K → R → Bool} {key : K} {row : R} :
    (t.keep condition).find key = some row ↔ t.find key = some row ∧ condition key row = true := by
  rw [find_keep, Option.filter_eq_some_iff]

theorem find_put_iff [DecidableEq K] {t : Table K R} {key other : K} {row its : R} (absent : t.find key = none) :
    (t.put key row).find other = some its ↔ other = key ∧ its = row ∨ t.find other = some its := by
  rw [find_put]
  split
  · rename_i new
    simp [new, absent, eq_comm]
  · simp [*]

theorem count_eq (t : Table K R) (condition : K → R → Bool) :
    t.count condition = t.entries.countP fun row => condition row.1 row.2 := by
  rw [count, select, List.length_map, List.countP_eq_length_filter]

theorem count_le {t : Table K R} {condition other : K → R → Bool} (weaker : ∀ key row, condition key row = true →
    other key row = true) :
    t.count condition ≤ t.count other := by
  rw [count_eq, count_eq]
  exact List.countP_mono_left fun row _ => weaker row.1 row.2

theorem count_keep (t : Table K R) (condition other : K → R → Bool) :
    (t.keep condition).count other = t.count fun key row => other key row && condition key row := by
  rw [count_eq, count_eq]
  exact List.countP_filter

theorem count_put_of_none [DecidableEq K] {t : Table K R} {key : K} (absent : t.find key = none) (row : R)
    (condition : K → R → Bool) :
    (t.put key row).count condition = t.count condition + if condition key row then 1 else 0 := by
  have entries : (t.put key row).entries = ⟨key, row⟩ :: t.entries := by
    rw [put, AList.entries_insert_of_notMem]
    exact AList.lookup_eq_none.mp absent
  rw [count_eq, count_eq, entries, List.countP_cons]

end Foundation.Table
