import IdigestHub.Foundation.Table

/-! Dictionaries that a loop builds from rows: a later row replaces an earlier one of the same key. -/

set_option autoImplicit false

namespace Foundation.Dicts

variable {A K V : Type} [DecidableEq K] (key : A → K) (value : A → V)

def collect (items : List A) : Table K V := items.foldl (fun found item => found.put (key item) (value item)) ∅

variable {key value}

/-- A key is found with the value of one of its items, or none of the items has it, by induction on the items. -/
theorem find_foldl (items : List A) (t : Table K V) (k : K) :
    (∃ item ∈ items, key item = k ∧
      (items.foldl (fun found item => found.put (key item) (value item)) t).find k = some (value item)) ∨
      (∀ item ∈ items, key item ≠ k) ∧
        (items.foldl (fun found item => found.put (key item) (value item)) t).find k = t.find k := by
  induction items generalizing t with
  | nil => exact .inr ⟨fun _ member => absurd member List.not_mem_nil, rfl⟩
  | cons item items ih =>
    rw [List.foldl_cons]
    rcases ih (t.put (key item) (value item)) with ⟨other, member, same, found⟩ | ⟨absent, found⟩
    · exact .inl ⟨other, List.mem_cons_of_mem _ member, same, found⟩
    · rw [Table.find_put] at found
      by_cases same : k = key item
      · rw [if_pos same] at found
        exact .inl ⟨item, List.mem_cons_self, same.symm, found⟩
      · rw [if_neg same] at found
        refine .inr ⟨fun other member => ?_, found⟩
        rcases List.mem_cons.mp member with rfl | member
        · exact Ne.symm same
        · exact absent other member

theorem find_collect_absent {items : List A} {k : K} (absent : ∀ item ∈ items, key item ≠ k) :
    (collect key value items).find k = none := by
  rcases find_foldl items ∅ k with ⟨item, member, same, _⟩ | ⟨_, found⟩
  · exact absurd same (absent item member)
  · exact found

theorem find_collect {items : List A} {item : A} (member : item ∈ items)
    (once : ∀ other ∈ items, key other = key item → value other = value item) :
    (collect key value items).find (key item) = some (value item) := by
  rcases find_foldl items ∅ (key item) with ⟨other, inside, same, found⟩ | ⟨absent, _⟩
  · rw [collect, found, once other inside same]
  · exact absurd rfl (absent item member)

end Foundation.Dicts
