import Mathlib.Data.List.Basic

/-! A queue that is drained from its head, a batch of at most `limit` items at a time. An item that is handled leaves the
queue, where `handle` is `none`, or something of it stays in its place; the drain ends with the first batch of which every
item stays. -/

set_option autoImplicit false

namespace Foundation.Batches

variable {α β : Type} (handle : α → Option α) (limit : Nat)

def stays (item : α) : Bool := (handle item).isSome

def batch (items : List α) : List α :=
  (items.take limit).filterMap handle ++ items.drop limit

theorem length_batch_le (items : List α) : (batch handle limit items).length ≤ items.length := by
  have kept := List.length_filterMap_le handle (items.take limit)
  have split := congrArg List.length (List.take_append_drop limit items)
  rw [List.length_append] at split
  rw [batch, List.length_append]
  omega

def drain (items : List α) : List α :=
  if (batch handle limit items).length < items.length then drain (batch handle limit items) else batch handle limit items
termination_by items.length

theorem length_batch (items : List α) :
    (batch handle limit items).length + (items.take limit).countP (fun item => (handle item).isNone) = items.length := by
  have split := congrArg List.length (List.take_append_drop limit items)
  have counted : (items.take limit).length = (items.take limit).countP (fun item => (handle item).isSome) +
      (items.take limit).countP (fun item => (handle item).isNone) := by
    rw [List.length_eq_countP_add_countP fun item => (handle item).isSome]
    congr 2
    funext item
    cases handle item <;> rfl
  rw [List.length_append] at split
  rw [batch, List.length_append, List.length_filterMap_eq_countP]
  omega

/-- What a batch that removes nothing establishes, and every batch before it carries back. -/
theorem drain_induction {P : List α → List α → Prop}
    (removes : ∀ items final, P (batch handle limit items) final → P items final)
    (ends : ∀ items, (batch handle limit items).length = items.length → P items (batch handle limit items))
    (items : List α) : P items (drain handle limit items) := by
  induction items using drain.induct handle limit with
  | case1 items fewer ih =>
    rw [drain, if_pos fewer]
    exact removes items _ ih
  | case2 items same =>
    rw [drain, if_neg same]
    exact ends items (Nat.le_antisymm (length_batch_le handle limit items) (Nat.not_lt.mp same))

/-- Fewer than `limit` items that stay come before every item that leaves, where `passed` of them have come already. -/
def Reaches : Nat → List α → Prop
  | _, [] => True
  | passed, item :: rest =>
    if stays handle item then Reaches (passed + 1) rest else passed < limit ∧ Reaches passed rest

theorem reaches_append (passed : Nat) (front back : List α) :
    Reaches handle limit passed (front ++ back) ↔
      Reaches handle limit passed front ∧ Reaches handle limit (passed + front.countP (stays handle)) back := by
  induction front generalizing passed with
  | nil => simp [Reaches]
  | cons item front ih =>
    rw [List.cons_append, Reaches, Reaches, List.countP_cons]
    cases lasting : stays handle item with
    | true => simp only [if_true, ih, Nat.add_assoc, Nat.add_comm 1]
    | false => simp only [Bool.false_eq_true, if_false, ih, and_assoc, Nat.add_zero]

theorem reaches_of_short {passed : Nat} {items : List α} (short : passed + items.length ≤ limit) :
    Reaches handle limit passed items := by
  induction items generalizing passed with
  | nil => trivial
  | cons item rest ih =>
    rw [List.length_cons] at short
    rw [Reaches]
    split
    · exact ih (by omega)
    · exact ⟨by omega, ih (by omega)⟩

theorem stay_of_reaches {passed : Nat} {items : List α} (full : limit ≤ passed) (reaches : Reaches handle limit passed items) :
    ∀ item ∈ items, stays handle item = true := by
  induction items generalizing passed with
  | nil => simp
  | cons item rest ih =>
    rw [Reaches] at reaches
    split at reaches
    · rename_i lasting
      exact List.forall_mem_cons.mpr ⟨lasting, ih (by omega) reaches⟩
    · omega

theorem reaches_of_stay {passed : Nat} {items : List α} (lasting : ∀ item ∈ items, stays handle item = true) :
    Reaches handle limit passed items := by
  induction items generalizing passed with
  | nil => trivial
  | cons item rest ih =>
    rw [Reaches, if_pos (lasting item List.mem_cons_self)]
    exact ih fun other member => lasting other (List.mem_cons_of_mem _ member)

theorem reaches_iff (items : List α) :
    Reaches handle limit 0 items ↔
      ∀ before item after, items = before ++ item :: after → stays handle item = false →
        before.countP (stays handle) < limit := by
  constructor
  · rintro reaches before item after rfl leaves
    have here := ((reaches_append ..).mp reaches).2
    rw [Reaches, if_neg (by simp [leaves]), Nat.zero_add] at here
    exact here.1
  · intro early
    -- The prefix grows by one item at a time, and what it holds has been counted.
    suffices all : ∀ after before, items = before ++ after → Reaches handle limit (before.countP (stays handle)) after from
      all items [] rfl
    intro after
    induction after with
    | nil => intros; trivial
    | cons item after ih =>
      intro before whole
      have next := ih (before ++ [item]) (by rw [whole, List.append_assoc]; rfl)
      rw [List.countP_append, List.countP_singleton] at next
      rw [Reaches]
      split
      · rename_i lasting
        rwa [if_pos lasting] at next
      · rename_i leaves
        rw [if_neg leaves] at next
        exact ⟨early before item after whole (Bool.not_eq_true _ |>.mp leaves), next⟩

theorem batch_keys_sublist (key : α → β) (keyed : ∀ item left, handle item = some left → key left = key item)
    (items : List α) : ((batch handle limit items).map key).Sublist (items.map key) := by
  have handled (front : List α) : ((front.filterMap handle).map key).Sublist (front.map key) := by
    induction front with
    | nil => exact List.Sublist.refl _
    | cons item rest ih =>
      cases shown : handle item with
      | none =>
        rw [List.filterMap_cons_none shown]
        exact ih.cons _
      | some left =>
        rw [List.filterMap_cons_some shown, List.map_cons, List.map_cons, keyed item left shown]
        exact ih.cons_cons _
  rw [batch, List.map_append]
  conv => rhs; rw [← List.take_append_drop limit items, List.map_append]
  exact (handled _).append (List.Sublist.refl _)

section Lasting

variable (again : ∀ item left, handle item = some left → stays handle left = true)

include again

theorem filterMap_stay (items : List α) : ∀ left ∈ items.filterMap handle, stays handle left = true := by
  intro left member
  obtain ⟨item, _, handled⟩ := List.mem_filterMap.mp member
  exact again item left handled

theorem countP_filterMap (items : List α) : (items.filterMap handle).countP (stays handle) = items.countP (stays handle) := by
  rw [List.countP_eq_length.mpr (filterMap_stay handle again items), List.length_filterMap_eq_countP]
  rfl

theorem reaches_batch (items : List α) :
    Reaches handle limit 0 (batch handle limit items) ↔ Reaches handle limit 0 items := by
  have short : (items.take limit).length ≤ limit := List.length_take_le ..
  have left := Nat.le_trans (List.length_filterMap_le handle (items.take limit)) short
  have whole := reaches_append handle limit 0 (items.take limit) (items.drop limit)
  rw [List.take_append_drop] at whole
  rw [whole, batch, reaches_append, countP_filterMap handle again]
  exact and_congr_left fun _ => iff_of_true (reaches_of_short handle limit (by omega)) (reaches_of_short handle limit (by omega))

/-- The last batch: where its items all stay, the queue behind it is reached only if it is empty of other items. -/
theorem stay_batch_iff (items : List α) (same : (batch handle limit items).length = items.length) :
    (∀ item ∈ batch handle limit items, stays handle item = true) ↔ Reaches handle limit 0 items := by
  rw [← reaches_batch handle limit again]
  refine ⟨reaches_of_stay handle limit, fun reaches => ?_⟩
  rw [batch, reaches_append, Nat.zero_add, countP_filterMap handle again] at reaches
  rw [batch, List.forall_mem_append]
  refine ⟨filterMap_stay handle again _, ?_⟩
  have split := congrArg List.length (List.take_append_drop limit items)
  rw [List.length_append] at split
  rw [batch, List.length_append] at same
  have every : ∀ item ∈ items.take limit, stays handle item = true :=
    List.filterMap_length_eq_length.mp (Nat.add_right_cancel (same.trans split.symm))
  rw [List.countP_eq_length.mpr every, List.length_take] at reaches
  rcases Nat.le_total limit items.length with full | all
  · exact stay_of_reaches handle limit (by omega) reaches.2
  · rw [List.drop_eq_nil_of_le all]
    simp

/-- After a drain every item of the queue is one that stays, if and only if fewer than `limit` of these came before each of
the others. -/
theorem stay_drain_iff (items : List α) :
    (∀ item ∈ drain handle limit items, stays handle item = true) ↔ Reaches handle limit 0 items := by
  refine drain_induction handle limit (P := fun items final =>
    (∀ item ∈ final, stays handle item = true) ↔ Reaches handle limit 0 items) ?_ ?_ items
  · intro items final ih
    exact ih.trans (reaches_batch handle limit again items)
  · exact stay_batch_iff handle limit again

section Keys

variable (key : α → β) (keyed : ∀ item left, handle item = some left → key left = key item)

include keyed

theorem filter_filterMap_keys (items : List α) :
    ((items.filterMap handle).filter (stays handle)).map key = (items.filter (stays handle)).map key := by
  induction items with
  | nil => rfl
  | cons item rest ih =>
    cases handled : handle item with
    | none => rw [List.filterMap_cons_none handled, List.filter_cons_of_neg (by simp [stays, handled]), ih]
    | some left =>
      rw [List.filterMap_cons_some handled, List.filter_cons_of_pos (again item left handled),
        List.filter_cons_of_pos (by simp [stays, handled]), List.map_cons, List.map_cons, ih, keyed item left handled]

theorem filter_batch_keys (items : List α) :
    ((batch handle limit items).filter (stays handle)).map key = (items.filter (stays handle)).map key := by
  rw [batch, List.filter_append, List.map_append, filter_filterMap_keys handle again key keyed, ← List.map_append,
    ← List.filter_append, List.take_append_drop]

theorem filter_drain_keys (items : List α) :
    ((drain handle limit items).filter (stays handle)).map key = (items.filter (stays handle)).map key := by
  refine drain_induction handle limit (P := fun items final =>
    (final.filter (stays handle)).map key = (items.filter (stays handle)).map key) ?_ ?_ items
  · intro items final ih
    exact ih.trans (filter_batch_keys handle limit again key keyed items)
  · intro items _
    exact filter_batch_keys handle limit again key keyed items

theorem drain_keys_iff (items : List α) :
    (drain handle limit items).map key = (items.filter (stays handle)).map key ↔ Reaches handle limit 0 items := by
  rw [← stay_drain_iff handle limit again, ← filter_drain_keys handle limit again key keyed]
  constructor
  · intro same
    have lengths := congrArg List.length same
    rw [List.length_map, List.length_map] at lengths
    exact List.length_filter_eq_length_iff.mp lengths.symm
  · intro stay
    rw [List.filter_eq_self.mpr stay]

end Keys

end Lasting

end Foundation.Batches
