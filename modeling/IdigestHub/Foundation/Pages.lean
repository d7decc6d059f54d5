import Mathlib.Data.List.Dedup
import Mathlib.Data.List.Perm.Basic

/-! Queries that group, sort and page: `GROUP BY`, `ORDER BY`, `OFFSET` and `LIMIT` over lists of rows. -/

set_option autoImplicit false

namespace Foundation.Pages

/-- What one execution of `ORDER BY` promises: rows that tie come in any order, and not in the same one twice. -/
structure Arrangement where
  order : {A : Type} → (A → A → Bool) → List A → List A
  perm : ∀ {A : Type} (before : A → A → Bool) (rows : List A), (order before rows).Perm rows
  sorted : ∀ {A : Type} {before : A → A → Bool} (_ : ∀ a b c, before a b = true → before b c = true → before a c = true)
    (_ : ∀ a b, before a b || before b a) (rows : List A), (order before rows).Pairwise fun a b => before a b = true

def Arrangement.stable : Arrangement where
  order before rows := rows.mergeSort before
  perm before rows := List.mergeSort_perm rows before
  sorted transitive total rows := List.pairwise_mergeSort transitive total rows

section Paging

variable {A : Type}

def page (items : List A) (offset limit : Nat) : List A := (items.drop offset).take limit

/-- The pages that follow one another are the items, as far as they go. -/
theorem pages_take (items : List A) (n m : Nat) :
    (List.range m).flatMap (fun i => page items (i * n) n) = items.take (m * n) := by
  induction m with
  | zero => simp
  | succ m ih =>
    rw [List.range_succ, List.flatMap_append, ih, List.flatMap_singleton, page, Nat.succ_mul, List.take_add]

theorem pages_all {items : List A} {n m : Nat} (all : items.length ≤ m * n) :
    (List.range m).flatMap (fun i => page items (i * n) n) = items := by
  rw [pages_take, List.take_of_length_le all]

theorem page_sublist (items : List A) (offset limit : Nat) : (page items offset limit).Sublist items :=
  (List.take_sublist _ _).trans (List.drop_sublist _ _)

theorem mem_page {items : List A} {offset limit : Nat} {item : A} (member : item ∈ page items offset limit) :
    ∃ place, items[place]? = some item ∧ offset ≤ place ∧ place < offset + limit := by
  obtain ⟨place, its⟩ := List.mem_iff_getElem?.mp member
  rw [page, List.getElem?_take] at its
  split at its
  · rename_i inside
    rw [List.getElem?_drop] at its
    exact ⟨offset + place, its, by omega, by omega⟩
  · contradiction

theorem mem_page_of_place {items : List A} {offset limit : Nat} (place : Nat) {item : A}
    (its : items[offset + place]? = some item)
    (inside : place < limit) : item ∈ page items offset limit := by
  refine List.mem_of_getElem? (i := place) ?_
  rw [page, List.getElem?_take_of_lt inside, List.getElem?_drop, its]

theorem pages_disjoint {items : List A} (nodup : items.Nodup) (n : Nat) {i j : Nat} (apart : i ≠ j) {item : A}
    (first : item ∈ page items (i * n) n) : item ∉ page items (j * n) n := by
  intro second
  obtain ⟨place, here, from_, until_⟩ := mem_page first
  obtain ⟨other, there, other_from, other_until⟩ := mem_page second
  obtain ⟨inside, its⟩ := List.getElem?_eq_some_iff.mp here
  obtain ⟨_, its_other⟩ := List.getElem?_eq_some_iff.mp there
  have same : place = other := (nodup.getElem_inj_iff).mp (its.trans its_other.symm)
  subst same
  rcases Nat.lt_or_gt_of_ne apart with less | more
  · have next : (i + 1) * n ≤ j * n := Nat.mul_le_mul_right n less
    rw [Nat.succ_mul] at next
    omega
  · have next : (j + 1) * n ≤ i * n := Nat.mul_le_mul_right n more
    rw [Nat.succ_mul] at next
    omega

end Paging

section Ties

variable {A : Type} (key : A → Nat)

/-- What one execution of a query with `ORDER BY key DESC` returns of some rows: rows that tie come in any order. -/
structure Sorting where
  order : List A → List A
  perm : ∀ rows, (order rows).Perm rows
  sorted : ∀ rows, (order rows).Pairwise fun a b => key b ≤ key a

/-- Each row is on just one of the pages, as soon as there are enough of them. -/
def Once (rows : List A) (n : Nat) (pages : Nat → List A) : Prop :=
  ∀ m, rows.length ≤ m * n → ((List.range m).flatMap pages).Perm rows

/-- How many rows come before those that tie with one. -/
def ahead (rows : List A) (row : A) : Nat := rows.countP fun other => decide (key row < key other)

/-- How many rows come no later than those that tie with one. -/
def upto (rows : List A) (row : A) : Nat := rows.countP fun other => decide (key row ≤ key other)

/-- A page ends between two rows that tie. -/
def Straddles (rows : List A) (n : Nat) : Prop := ∃ row ∈ rows, ∃ i, ahead key rows row < i * n ∧ i * n < upto key rows row

variable {key}

/-- The place of a row among sorted ones is in the run of those that tie with it. -/
theorem place_within {rows : List A} (sorted : rows.Pairwise fun a b => key b ≤ key a) {place : Nat} {row : A}
    (its : rows[place]? = some row) : ahead key rows row ≤ place ∧ place < upto key rows row := by
  obtain ⟨inside, rfl⟩ := List.getElem?_eq_some_iff.mp its
  rw [List.pairwise_iff_getElem] at sorted
  have parts : rows = rows.take place ++ rows[place] :: rows.drop (place + 1) := by
    rw [List.getElem_cons_drop, List.take_append_drop]
  have length : (rows.take place).length = place := by
    rw [List.length_take]
    omega
  constructor
  · -- nothing from here on comes before
    have none_after : (rows[place] :: rows.drop (place + 1)).countP (fun other => decide (key rows[place] < key other)) = 0 := by
      rw [List.countP_eq_zero]
      intro other member
      rcases List.mem_cons.mp member with rfl | later
      · simp
      · obtain ⟨distance, there, rfl⟩ := List.mem_iff_getElem.mp later
        rw [List.length_drop] at there
        rw [List.getElem_drop]
        have := sorted place (place + 1 + distance) inside (by omega) (by omega)
        simpa using this
    have bound := List.countP_le_length (p := fun other => decide (key rows[place] < key other)) (l := rows.take place)
    rw [ahead]
    conv => lhs; arg 2; rw [parts]
    rw [List.countP_append, none_after]
    omega
  · -- everything up to here comes no later
    have all_before : (rows.take place).countP (fun other => decide (key rows[place] ≤ key other)) = place := by
      refine (List.countP_eq_length.mpr fun other member => ?_).trans length
      obtain ⟨before, there, rfl⟩ := List.mem_iff_getElem.mp member
      rw [List.length_take] at there
      rw [List.getElem_take]
      have := sorted before place (by omega) inside (by omega)
      simpa using this
    rw [upto]
    conv => rhs; arg 2; rw [parts]
    rw [List.countP_append, List.countP_cons, all_before]
    simp

/-- Sorted rows that no run of ties carries across `place` are cut there into those that come earlier and the others. -/
theorem take_perm {rows result : List A} (perm : result.Perm rows) (sorted : result.Pairwise fun a b => key b ≤ key a)
    {place : Nat}
    (apart : ∀ row ∈ rows, ¬ (ahead key rows row < place ∧ place < upto key rows row)) :
    (result.take place).Perm (rows.filter fun row => upto key rows row ≤ place) := by
  have same_upto : upto key result = upto key rows := funext fun row => perm.countP_eq _
  have same_ahead : ahead key result = ahead key rows := funext fun row => perm.countP_eq _
  have first : ∀ row ∈ result.take place, decide (upto key rows row ≤ place) = true := by
    intro row member
    obtain ⟨before, its⟩ := List.mem_iff_getElem?.mp member
    rw [List.getElem?_take] at its
    split at its
    · rename_i inside
      have within := place_within sorted its
      have outside := apart row (perm.subset (List.mem_of_getElem? its))
      rw [same_upto, same_ahead] at within
      exact decide_eq_true (by omega)
    · contradiction
  have later : ∀ row ∈ result.drop place, ¬ decide (upto key rows row ≤ place) = true := by
    intro row member
    obtain ⟨distance, its⟩ := List.mem_iff_getElem?.mp member
    rw [List.getElem?_drop] at its
    have within := place_within sorted its
    rw [same_upto] at within
    simpa using (by omega : place < upto key rows row)
  have cut : result.filter (fun row => upto key rows row ≤ place) = result.take place := by
    conv => lhs; rw [← List.take_append_drop place result]
    rw [List.filter_append, List.filter_eq_self.mpr first, List.filter_eq_nil_iff.mpr later, List.append_nil]
  rw [← cut]
  exact perm.filter _

/-- Without ties across the ends of pages, every execution has the same rows on a page. -/
theorem page_perm {rows : List A} {n : Nat} (apart : ¬ Straddles key rows n) (first second : Sorting key) (i : Nat) :
    (page (first.order rows) (i * n) n).Perm (page (second.order rows) (i * n) n) := by
  have same (j : Nat) : ((first.order rows).take (j * n)).Perm ((second.order rows).take (j * n)) := by
    have clear : ∀ row ∈ rows, ¬ (ahead key rows row < j * n ∧ j * n < upto key rows row) :=
      fun row member straddling => apart ⟨row, member, j, straddling⟩
    exact (take_perm (first.perm rows) (first.sorted rows) clear).trans
      (take_perm (second.perm rows) (second.sorted rows) clear).symm
  have whole := same (i + 1)
  rw [Nat.succ_mul, List.take_add, List.take_add] at whole
  exact (List.perm_append_left_iff _).mp (((same i).symm.append_right _).trans whole)

/-- However rows that tie come, the keys come in one order. -/
theorem keys_eq (first second : Sorting key) (rows : List A) : (first.order rows).map key = (second.order rows).map key := by
  refine List.Perm.eq_of_pairwise (fun a b _ _ above below => Nat.le_antisymm below above)
    (List.pairwise_map.mpr (first.sorted rows)) (List.pairwise_map.mpr (second.sorted rows)) ?_
  exact ((first.perm rows).trans (second.perm rows).symm).map key

theorem keys_pages {rows : List A} {n m : Nat} (engines : Nat → Sorting key) (enough : rows.length ≤ m * n) :
    ((List.range m).flatMap fun i => page ((engines i).order rows) (i * n) n).map key = ((engines 0).order rows).map key := by
  have alike (i : Nat) : (page ((engines i).order rows) (i * n) n).map key =
    page (((engines 0).order rows).map key) (i * n) n := by
    rw [page, page, List.map_take, List.map_drop, keys_eq (engines i) (engines 0)]
  rw [List.map_flatMap]
  simp only [alike]
  exact pages_all (by rw [List.length_map, ((engines 0).perm rows).length_eq]; exact enough)

/-- The pages behind the last row are empty, so it does not matter how many of them are asked for. -/
theorem pages_more {pages : Nat → List A} {m : Nat} (ended : ∀ i, m ≤ i → pages i = []) {more : Nat} (enough : m ≤ more) :
    (List.range more).flatMap pages = (List.range m).flatMap pages := by
  obtain ⟨rest, rfl⟩ := Nat.exists_eq_add_of_le enough
  have empty : ((List.range rest).map (m + ·)).flatMap pages = [] := by
    rw [List.flatMap_map]
    exact List.flatMap_eq_nil_iff.mpr fun i _ => ended (m + i) (Nat.le_add_right m i)
  rw [List.range_add, List.flatMap_append, empty, List.append_nil]

theorem once_of_apart {rows : List A} {n : Nat} (apart : ¬ Straddles key rows n) (engines : Nat → Sorting key) :
    Once rows n fun i => page ((engines i).order rows) (i * n) n := by
  intro m enough
  have one : (List.range m).flatMap (fun i => page ((engines 0).order rows) (i * n) n) = (engines 0).order rows :=
    pages_all (by rw [((engines 0).perm rows).length_eq]; exact enough)
  have alike : ((List.range m).flatMap fun i => page ((engines i).order rows) (i * n) n).Perm
      ((List.range m).flatMap fun i => page ((engines 0).order rows) (i * n) n) :=
    List.Perm.flatMap_left _ fun i _ => page_perm apart (engines i) (engines 0) i
  rw [one] at alike
  exact alike.trans ((engines 0).perm rows)

/-- An execution that leaves ties as they were. -/
def Sorting.stable (key : A → Nat) : Sorting key where
  order rows := rows.mergeSort fun a b => key b ≤ key a
  perm rows := List.mergeSort_perm rows _
  sorted rows := by
    have sorted := @List.pairwise_mergeSort _ (fun a b : A => decide (key b ≤ key a)) (fun a b c first second => by
      simp only [decide_eq_true_eq] at *
      omega) (fun a b => by simpa using Nat.le_total (key b) (key a)) rows
    exact sorted.imp fun before => of_decide_eq_true before

open Classical in
noncomputable def Sorting.returning {rows result : List A} (perm : result.Perm rows)
    (sorted : result.Pairwise fun a b => key b ≤ key a) : Sorting key where
  order others := if others = rows then result else (Sorting.stable key).order others
  perm others := by
    split
    · rename_i same
      exact same ▸ perm
    · exact (Sorting.stable key).perm others
  sorted others := by
    split
    · exact sorted
    · exact (Sorting.stable key).sorted others

/-- The first of two sorted rows that tie may come second. -/
theorem swapped {front back : List A} {x y : A} (tied : key x = key y)
    (sorted : (front ++ x :: y :: back).Pairwise fun a b => key b ≤ key a) :
    (front ++ y :: x :: back).Pairwise fun a b => key b ≤ key a := by
  have keys (rows : List A) : (rows.Pairwise fun a b => key b ≤ key a) ↔ (rows.map key).Pairwise fun k l => l ≤ k := by
    rw [List.pairwise_map]
  rw [keys] at sorted ⊢
  simpa [tied] using sorted

theorem upto_le_ahead {rows : List A} {row other : A} (later : key row < key other) :
    upto key rows other ≤ ahead key rows row := by
  refine List.countP_mono_left fun third _ covered => ?_
  simp only [decide_eq_true_eq] at covered ⊢
  omega

/-- The places of a run of ties hold rows that tie. -/
theorem key_of_place {rows : List A} (sorted : rows.Pairwise fun a b => key b ≤ key a) (row : A) {other : A} {place : Nat}
    (its : rows[place]? = some other) (from_ : ahead key rows row ≤ place) (until_ : place < upto key rows row) :
      key other = key row := by
  obtain ⟨low, high⟩ := place_within sorted its
  rcases Nat.lt_trichotomy (key other) (key row) with less | same | more
  · have := @upto_le_ahead _ key rows _ _ less
    omega
  · exact same
  · have := @upto_le_ahead _ key rows _ _ more
    omega

/-- Two executions may have a row on both sides of a page's end that a run of ties straddles. -/
theorem apart_of_once {rows : List A} (nodup : rows.Nodup) {n : Nat}
    (once : ∀ engines : Nat → Sorting key, Once rows n fun i => page ((engines i).order rows) (i * n) n) :
      ¬ Straddles key rows n := by
  rintro ⟨row, member, j, before, after⟩
  have perm := (Sorting.stable key).perm rows
  have sorted := (Sorting.stable key).sorted rows
  -- `end_` is the place where page `j` starts, with the rows `x` and `y` before and behind it
  obtain ⟨end_, at_end⟩ : ∃ end_, end_ = j * n := ⟨_, rfl⟩
  have bound : upto key rows row ≤ rows.length := List.countP_le_length
  obtain ⟨x, x_there⟩ : ∃ x, ((Sorting.stable key).order rows)[end_ - 1]? = some x :=
    ⟨_, List.getElem?_eq_getElem (by rw [perm.length_eq]; omega)⟩
  obtain ⟨y, y_there⟩ : ∃ y, ((Sorting.stable key).order rows)[end_]? = some y :=
    ⟨_, List.getElem?_eq_getElem (by rw [perm.length_eq]; omega)⟩
  have same_upto : upto key ((Sorting.stable key).order rows) row = upto key rows row := perm.countP_eq _
  have same_ahead : ahead key ((Sorting.stable key).order rows) row = ahead key rows row := perm.countP_eq _
  have tied : key x = key y := by
    rw [key_of_place sorted row x_there (by omega) (by omega), key_of_place sorted row y_there (by omega) (by omega)]
  obtain ⟨front, back, parts, length⟩ :
      ∃ front back, (Sorting.stable key).order rows = front ++ x :: y :: back ∧ front.length + 1 = end_ := by
    obtain ⟨x_in, x_is⟩ := List.getElem?_eq_some_iff.mp x_there
    obtain ⟨y_in, y_is⟩ := List.getElem?_eq_some_iff.mp y_there
    have next : end_ - 1 + 1 = end_ := by omega
    refine ⟨((Sorting.stable key).order rows).take (end_ - 1), ((Sorting.stable key).order rows).drop (end_ + 1), ?_, ?_⟩
    · rw [← x_is, ← y_is, ← List.drop_eq_getElem_cons y_in]
      conv => rhs; arg 2; arg 2; rw [← next]
      rw [← List.drop_eq_getElem_cons x_in, List.take_append_drop]
    · rw [List.length_take]
      omega
  rw [parts] at perm sorted
  have other_perm : (front ++ y :: x :: back).Perm rows := ((List.Perm.swap x y back).append_left front).trans perm
  have other_sorted := swapped tied sorted
  have positive : 0 < n := by
    rcases Nat.eq_zero_or_pos n with rfl | positive
    · omega
    · exact positive
  have later : 0 < j := by
    rcases Nat.eq_zero_or_pos j with rfl | later
    · omega
    · exact later
  have few : j < rows.length := by
    have := Nat.le_mul_of_pos_right j positive
    omega
  have all := once (fun i => if i = j then Sorting.returning other_perm other_sorted else Sorting.stable key) rows.length
    (Nat.le_mul_of_pos_right _ positive)
  have disjoint := (List.nodup_flatMap.mp (all.nodup_iff.mpr nodup)).2
  have pages := List.pairwise_iff_getElem.mp disjoint (j - 1) j (by rw [List.length_range]; omega)
    (by rw [List.length_range]; omega)
    (by omega)
  rw [List.getElem_range, List.getElem_range] at pages
  dsimp only [Function.onFun] at pages
  rw [if_pos rfl, if_neg (by omega)] at pages
  have returned : (Sorting.returning other_perm other_sorted).order rows = front ++ y :: x :: back := if_pos rfl
  refine pages (a := x) (mem_page_of_place (n - 1) ?_ (by omega)) (mem_page_of_place 0 ?_ positive)
  · have place : (j - 1) * n + (n - 1) = end_ - 1 := by
      have whole := Nat.le_mul_of_pos_left n later
      rw [Nat.sub_mul]
      omega
    rw [place]
    exact x_there
  · rw [returned, Nat.add_zero, ← at_end, ← length]
    simp

theorem once_iff {rows : List A} (nodup : rows.Nodup) (n : Nat) :
    (∀ engines : Nat → Sorting key, Once rows n fun i => page ((engines i).order rows) (i * n) n) ↔ ¬ Straddles key rows n :=
  ⟨apart_of_once nodup, once_of_apart⟩

end Ties

section Grouping

variable {R K : Type} [DecidableEq K] (key : R → K)

/-- `GROUP BY`: each key once. -/
def keys (rows : List R) : List K := (rows.map key).dedup

variable {key}

theorem mem_keys {rows : List R} {k : K} : k ∈ keys key rows ↔ ∃ row ∈ rows, key row = k := by
  rw [keys, List.mem_dedup, List.mem_map]

theorem keys_nodup (rows : List R) : (keys key rows).Nodup := List.nodup_dedup _

/-- Groups of different keys that cover the rows hold each of them once. -/
theorem groups_perm {ks : List K} (nodup : ks.Nodup) {rows : List R} (covered : ∀ row ∈ rows, key row ∈ ks) :
    (ks.flatMap fun k => rows.filter fun row => key row = k).Perm rows := by
  induction ks generalizing rows with
  | nil =>
    have none : rows = [] := List.eq_nil_iff_forall_not_mem.mpr fun row member => List.not_mem_nil (covered row member)
    rw [none, List.flatMap_nil]
  | cons k rest ih =>
    obtain ⟨absent, nodup⟩ := List.nodup_cons.mp nodup
    rw [List.flatMap_cons]
    refine List.Perm.trans ?_ (List.filter_append_perm (fun row => key row = k) rows)
    refine List.Perm.append_left _ ?_
    have others := @ih nodup (rows.filter fun row => !decide (key row = k)) fun row member => by
      obtain ⟨inside, other⟩ := List.mem_filter.mp member
      exact (List.mem_cons.mp (covered row inside)).resolve_left (by simpa using other)
    refine List.Perm.trans (List.Perm.of_eq ?_) others
    refine List.flatMap_congr fun other member => ?_
    rw [List.filter_filter]
    refine List.filter_congr fun row _ => ?_
    by_cases same : key row = other
    · have differs : ¬ other = k := fun its => absent (its ▸ member)
      simp [same, differs]
    · simp [same]

end Grouping

end Foundation.Pages
