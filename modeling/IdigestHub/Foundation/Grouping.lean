import IdigestHub.Foundation.Table
import Mathlib.Algebra.BigOperators.Group.List.Basic
import Mathlib.Data.List.Induction
import Mathlib.Data.List.Sort

/-! Rows that a loop adds up, one total for each key, and what a sorted selection of rows keeps. -/

set_option autoImplicit false

namespace Foundation.Grouping

section Groups

variable {A K T : Type} [DecidableEq K] (key : A → K) (add : T → A → T) (empty : T)

/-- One turn of the loop: the total of the row's key, which is empty at first. -/
def count (groups : Table K T) (item : A) : Table K T :=
  groups.assign (key item) (add ((groups.find (key item)).getD empty) item)

def group (items : List A) : Table K T := items.foldl (count key add empty) ∅

variable {key add empty}

theorem find_group (items : List A) (k : K) :
    (group key add empty items).find k =
      if k ∈ items.map key then some ((items.filter fun item => key item = k).foldl add empty) else none := by
  -- The loop takes the rows from the front, so the induction adds one at the end.
  induction items using List.reverseRecOn with
  | nil => rfl
  | append_singleton items item ih =>
    rw [group, List.foldl_append, List.foldl_cons, List.foldl_nil, count, Table.find_assign, ← group]
    by_cases same : k = key item
    · subst same
      -- A key that no row had before starts with the empty total.
      have before : ((group key add empty items).find (key item)).getD empty =
          (items.filter fun other => key other = key item).foldl add empty := by
        rw [ih]
        split
        · rfl
        · rename_i absent
          have none_has : (items.filter fun other => key other = key item) = [] := by
            rw [List.filter_eq_nil_iff]
            intro other member its
            exact absent (List.mem_map.mpr ⟨other, member, of_decide_eq_true its⟩)
          rw [none_has]
          rfl
      rw [if_pos rfl, if_pos (by simp), List.filter_append, List.foldl_append, before]
      simp
    · have others : (key item == k) = false := by simpa using Ne.symm same
      rw [if_neg same, ih]
      simp [same, Ne.symm same]

theorem mem_select_group {items : List A} {k : K} : k ∈ (group key add empty items).select (fun _ _ => true) ↔
    k ∈ items.map key := by
  rw [Table.mem_select, find_group]
  split
  · rename_i member
    exact ⟨fun _ => member, fun _ => ⟨_, rfl, rfl⟩⟩
  · rename_i absent
    exact ⟨fun found => by simp at found, fun member => absurd member absent⟩

end Groups

section Sums

variable {A K M : Type} [DecidableEq K] [AddCommMonoid M] {key : A → K}

theorem sum_by_key (value : A → M) {keys : List K} (distinct : keys.Nodup) {items : List A}
    (covered : ∀ item ∈ items, key item ∈ keys) :
    (keys.map fun k => ((items.filter fun item => key item = k).map value).sum).sum = (items.map value).sum := by
  induction items with
  | nil => simp
  | cons item items ih =>
    obtain ⟨front, back, split⟩ := List.append_of_mem (covered item List.mem_cons_self)
    have once (k : K) : (((item :: items).filter fun item => key item = k).map value).sum =
        (if key item = k then value item else 0) + ((items.filter fun item => key item = k).map value).sum := by
      by_cases same : key item = k
      · simp [same]
      · simp [same]
    have apart (others : List K) (absent : key item ∉ others) :
      (others.map fun k => if key item = k then value item else 0).sum = 0 := by
      refine List.sum_eq_zero fun m member => ?_
      obtain ⟨k, its, rfl⟩ := List.mem_map.mp member
      exact if_neg fun same : key item = k => absent (same ▸ its)
    -- The row counts under its own key, which is in the list once.
    have all : (keys.map fun k => if key item = k then value item else 0).sum = value item := by
      rw [split, List.nodup_append, List.nodup_cons] at distinct
      obtain ⟨_, ⟨later, _⟩, before⟩ := distinct
      rw [split, List.map_append, List.sum_append, List.map_cons, List.sum_cons, if_pos rfl, apart back later,
        apart front fun member => before _ member _ List.mem_cons_self rfl, zero_add, add_zero]
    simp only [once]
    rw [List.sum_map_add, all, ih fun other member => covered other (List.mem_cons_of_mem item member),
      List.map_cons, List.sum_cons]

end Sums

section Sorting

variable {A : Type} {r : A → A → Prop} [DecidableRel r]

theorem filter_orderedInsert [IsTrans A r] (p : A → Bool) {item : A} {items : List A} (sorted : items.Pairwise r) :
    (items.orderedInsert r item).filter p = if p item then (items.filter p).orderedInsert r item else items.filter p := by
  induction items with
  | nil =>
    rw [List.orderedInsert_nil]
    cases kept : p item <;> simp [kept]
  | cons first rest ih =>
    obtain ⟨least, sorted_rest⟩ := List.pairwise_cons.mp sorted
    by_cases before : r item first
    · rw [List.orderedInsert_cons_of_le _ _ before]
      cases kept : p item with
      | false => simp [kept]
      | true =>
        -- the item comes before every row that is kept
        have below : ∀ other ∈ (first :: rest).filter p, r item other := by
          intro other member
          rcases List.mem_cons.mp (List.mem_filter.mp member).1 with rfl | later
          · exact before
          · exact IsTrans.trans _ _ _ before (least other later)
        rw [List.filter_cons_of_pos kept, if_pos rfl]
        cases remaining : (first :: rest).filter p with
        | nil => rfl
        | cons head tail => rw [List.orderedInsert_cons_of_le _ _ (below head (remaining ▸ List.mem_cons_self))]
    · rw [List.orderedInsert_of_not_le _ _ before]
      cases other_kept : p first with
      | false => rw [List.filter_cons_of_neg (by simp [other_kept]), ih sorted_rest,
          List.filter_cons_of_neg (by simp [other_kept])]
      | true =>
        rw [List.filter_cons_of_pos other_kept, ih sorted_rest, List.filter_cons_of_pos other_kept]
        split
        · rw [List.orderedInsert_of_not_le _ _ before]
        · rfl

/-- A selection of sorted rows is the sorted selection: rows that compare equal keep their order. -/
theorem filter_insertionSort [Std.Total r] [IsTrans A r] (p : A → Bool) (items : List A) :
    (items.insertionSort r).filter p = (items.filter p).insertionSort r := by
  induction items with
  | nil => rfl
  | cons item items ih =>
    rw [List.insertionSort_cons, filter_orderedInsert p (List.pairwise_insertionSort r items), ih]
    cases kept : p item with
    | false => rw [List.filter_cons_of_neg (by simp [kept]), if_neg Bool.false_ne_true]
    | true => rw [List.filter_cons_of_pos kept, if_pos rfl, List.insertionSort_cons]

/-- Rows that are cut where a condition ends for good. -/
theorem filter_append_filter {front : A → Bool} {items : List A} (ends : items.Pairwise fun first later => front later →
    front first) :
    items.filter front ++ items.filter (fun item => !front item) = items := by
  induction items with
  | nil => rfl
  | cons item items ih =>
    obtain ⟨ends_now, rest⟩ := List.pairwise_cons.mp ends
    cases first : front item with
    | true => rw [List.filter_cons_of_pos first, List.filter_cons_of_neg (by simp [first]), List.cons_append, ih rest]
    | false =>
      have none_later : ∀ later ∈ items, front later = false := by
        intro later member
        by_contra holds
        rw [ends_now later member (by simpa using holds)] at first
        cases first
      have all : ∀ later ∈ item :: items, front later = false := List.forall_mem_cons.mpr ⟨first, none_later⟩
      rw [List.filter_eq_nil_iff.mpr fun later member => by simp [all later member],
        List.filter_eq_self.mpr fun later member => by simp [all later member], List.nil_append]

end Sorting

end Foundation.Grouping
