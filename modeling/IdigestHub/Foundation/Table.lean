import Mathlib.Data.List.AList

/-! Tables of rows under a primary key. The key names at most one row by
construction; statements about a table are about `find`. -/

set_option autoImplicit false

namespace Foundation

abbrev Table (K R : Type) : Type := AList (fun _ : K => R)

namespace Table

variable {K R : Type} [DecidableEq K]

def find (t : Table K R) (key : K) : Option R := t.lookup key

/-- `UPDATE`: every row changes by `f`, under the key it has. -/
def mapRows (t : Table K R) (f : K → R → R) : Table K R :=
  ⟨t.entries.map fun row => ⟨row.1, f row.1 row.2⟩, by
    have distinct := t.nodupKeys
    simpa [List.NodupKeys, List.keys, Function.comp_def] using distinct⟩

/-- `UPDATE … WHERE key = …`: no row, no change. -/
def modify (t : Table K R) (key : K) (f : R → R) : Table K R :=
  t.mapRows fun other row => if other = key then f row else row

def put (t : Table K R) (key : K) (row : R) : Table K R := AList.insert key row t

def delete (t : Table K R) (key : K) : Table K R := AList.erase key t

def select (t : Table K R) (condition : K → R → Bool) : List K :=
  (t.entries.filter fun row => condition row.1 row.2).map Sigma.fst

def count (t : Table K R) (condition : K → R → Bool) : Nat := (t.select condition).length

/-- `DELETE` of the rows that fail a condition. -/
def keep (t : Table K R) (condition : K → R → Bool) : Table K R :=
  ⟨t.entries.filter fun row => condition row.1 row.2, by
    have distinct : (t.entries.map Sigma.fst).Nodup := t.nodupKeys
    exact distinct.sublist (List.filter_sublist.map Sigma.fst)⟩

/-- Assignment in a dictionary: a key that is there keeps its place, a new one comes last. -/
def assign (t : Table K R) (key : K) (row : R) : Table K R :=
  if present : (t.find key).isSome then t.modify key fun _ => row
  else ⟨t.entries ++ [⟨key, row⟩], by
    have absent : key ∉ t.entries.keys := fun member => present (List.dlookup_isSome.mpr member)
    have distinct : t.entries.keys.Nodup := t.nodupKeys
    rw [List.NodupKeys, List.keys, List.map_append, List.nodup_append]
    refine ⟨distinct, List.nodup_singleton _, fun other member last found same => absent ?_⟩
    obtain rfl : last = key := List.mem_singleton.mp found
    exact same ▸ member⟩

def size (t : Table K R) : Nat := t.entries.length

theorem find_put (t : Table K R) (key other : K) (row : R) :
    (t.put key row).find other = if other = key then some row else t.find other := by
  by_cases same : other = key
  · subst same; simp [find, put]
  · simp [find, put, same]

theorem find_only_iff {key other : K} {row its : R} :
    ((∅ : Table K R).put key row).find other = some its ↔ other = key ∧ row = its := by
  rw [find_put]
  split
  · simp [*]
  · exact iff_of_false nofun fun only => absurd only.1 ‹_›

@[simp] theorem find_put_self (t : Table K R) (key : K) (row : R) :
    (t.put key row).find key = some row := by
  simp [find_put]

@[simp] theorem find_mapRows (t : Table K R) (f : K → R → R) (key : K) :
    (t.mapRows f).find key = (t.find key).map (f key) :=
  List.dlookup_map₂ (γ := fun _ => R) (δ := fun _ => R) (l := t.entries) (f := f) key

theorem find_modify (t : Table K R) (key other : K) (f : R → R) :
    (t.modify key f).find other = if other = key then (t.find key).map f else t.find other := by
  rw [modify, find_mapRows]
  by_cases same : other = key
  · subst same; simp
  · simp [same]

theorem find_delete (t : Table K R) (key other : K) :
    (t.delete key).find other = if other = key then none else t.find other := by
  by_cases same : other = key
  · subst same; simp [find, delete]
  · simp [find, delete, same]

theorem mem_entries (t : Table K R) (key : K) (row : R) :
    ⟨key, row⟩ ∈ t.entries ↔ t.find key = some row :=
  (List.mem_dlookup_iff t.nodupKeys).symm

theorem mem_select (t : Table K R) (condition : K → R → Bool) (key : K) :
    key ∈ t.select condition ↔ ∃ row, t.find key = some row ∧ condition key row = true := by
  simp only [select, List.mem_map, List.mem_filter]
  constructor
  · rintro ⟨⟨key', row⟩, ⟨member, holds⟩, rfl⟩
    exact ⟨row, (mem_entries t key' row).mp member, holds⟩
  · rintro ⟨row, found, holds⟩
    exact ⟨⟨key, row⟩, ⟨(mem_entries t key row).mpr found, holds⟩, rfl⟩

theorem find_keep (t : Table K R) (condition : K → R → Bool) (key : K) :
    (t.keep condition).find key = (t.find key).filter (condition key) := by
  ext row
  rw [Option.filter_eq_some_iff, ← mem_entries, ← mem_entries]
  simp [keep]

section Witnesses

variable {t : Table K R} {key other : K} {p : R → Prop}

theorem exists_put {row : R} (lacks : ¬ p row) (found : ∃ row', (t.put key row).find other = some row' ∧ p row') :
    ∃ row', t.find other = some row' ∧ p row' := by
  obtain ⟨row', there, holds⟩ := found
  rw [find_put] at there
  split at there
  · cases there
    contradiction
  · exact ⟨row', there, holds⟩

theorem exists_mapRows {f : K → R → R} (kept : ∀ key row, p (f key row) → p row)
    (found : ∃ row', (t.mapRows f).find other = some row' ∧ p row') : ∃ row', t.find other = some row' ∧ p row' := by
  obtain ⟨row', there, holds⟩ := found
  rw [find_mapRows] at there
  obtain ⟨row, stored, rfl⟩ := Option.map_eq_some_iff.mp there
  exact ⟨row, stored, kept other row holds⟩

theorem exists_modify {f : R → R} (kept : ∀ row, p (f row) → p row)
    (found : ∃ row', (t.modify key f).find other = some row' ∧ p row') : ∃ row', t.find other = some row' ∧ p row' := by
  apply exists_mapRows _ found
  intro other row holds
  split at holds
  · exact kept row holds
  · exact holds

theorem exists_keep {condition : K → R → Bool} (found : ∃ row', (t.keep condition).find other = some row' ∧ p row') :
    ∃ row', t.find other = some row' ∧ p row' := by
  obtain ⟨row', there, holds⟩ := found
  rw [find_keep, Option.filter_eq_some_iff] at there
  exact ⟨row', there.1, holds⟩

theorem exists_delete (found : ∃ row', (t.delete key).find other = some row' ∧ p row') :
    ∃ row', t.find other = some row' ∧ p row' := by
  obtain ⟨row', there, holds⟩ := found
  rw [find_delete] at there
  split at there
  · contradiction
  · exact ⟨row', there, holds⟩

end Witnesses

theorem find_assign (t : Table K R) (key other : K) (row : R) :
    (t.assign key row).find other = if other = key then some row else t.find other := by
  unfold assign
  split
  · rename_i present
    obtain ⟨old, found⟩ := Option.isSome_iff_exists.mp present
    rw [find_modify, found]
    rfl
  · rename_i absent
    show List.dlookup other (t.entries ++ [⟨key, row⟩]) = _
    rw [List.dlookup_append]
    by_cases same : other = key
    · subst same
      have none_there : List.dlookup other t.entries = none := Option.not_isSome_iff_eq_none.mp absent
      rw [none_there, if_pos rfl]
      exact List.dlookup_cons_eq ..
    · rw [if_neg same, List.dlookup_cons_ne _ _ same]
      exact Option.or_none

theorem size_assign_le (t : Table K R) (key : K) (row : R) : (t.assign key row).size ≤ t.size + 1 := by
  unfold assign
  split
  · simp [size, modify, mapRows]
  · simp [size]

theorem size_assign_of_some {t : Table K R} {key : K} (present : (t.find key).isSome) (row : R) :
    (t.assign key row).size = t.size := by
  simp [assign, present, size, modify, mapRows]

theorem size_delete_lt {t : Table K R} {key : K} (present : (t.find key).isSome) :
    (t.delete key).size < t.size := by
  have member : key ∈ t.keys := AList.mem_keys.mp (AList.lookup_isSome.mp present)
  have shorter : (t.keys.erase key).length = t.keys.length - 1 := List.length_erase_of_mem member
  have keys_size (u : Table K R) : u.keys.length = u.size := List.length_map ..
  rw [← keys_size, ← keys_size, delete, AList.keys_erase, shorter]
  exact Nat.sub_lt (List.length_pos_of_mem member) Nat.one_pos

omit [DecidableEq K] in
theorem size_keep_le (t : Table K R) (condition : K → R → Bool) : (t.keep condition).size ≤ t.size :=
  List.length_filter_le ..

omit [DecidableEq K] in
theorem select_nodup (t : Table K R) (condition : K → R → Bool) : (t.select condition).Nodup := by
  have distinct : (t.entries.map Sigma.fst).Nodup := t.nodupKeys
  exact distinct.sublist (List.filter_sublist.map Sigma.fst)

theorem count_eq_zero (t : Table K R) (condition : K → R → Bool) :
    t.count condition = 0 ↔ ∀ key row, t.find key = some row → condition key row = false := by
  rw [count, List.length_eq_zero_iff, List.eq_nil_iff_forall_not_mem]
  constructor
  · intro none_selected key row found
    by_contra holds
    exact none_selected key ((mem_select t condition key).mpr ⟨row, found, by simpa using holds⟩)
  · intro all_fail key member
    obtain ⟨row, found, holds⟩ := (mem_select t condition key).mp member
    simp [all_fail key row found] at holds

end Table

end Foundation
