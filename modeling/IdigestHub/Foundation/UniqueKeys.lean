import Mathlib.Data.List.Basic
import Mathlib.Data.List.Nodup

/-! Rows that are written one statement at a time while no two of them may have the same key. -/

set_option autoImplicit false

namespace Foundation.UniqueKeys

variable {R I K : Type} [DecidableEq I] [DecidableEq K] (ident : R → I) (key : R → K)

/-- The row under the id of `row`, where there is one, gives way to `row`. -/
def put (rows : List R) (row : R) : List R := row :: rows.filter fun other => ident other ≠ ident row

def Free (rows : List R) (row : R) : Prop := ∀ other ∈ rows, ident other ≠ ident row → key other ≠ key row

instance (rows : List R) (row : R) : Decidable (Free ident key rows row) :=
  inferInstanceAs (Decidable (∀ other ∈ rows, ident other ≠ ident row → key other ≠ key row))

def Succeeds : List R → List R → Prop
  | _, [] => True
  | rows, row :: rest => Free ident key rows row ∧ Succeeds (put ident rows row) rest

def putAll (rows writes : List R) : List R := writes.foldl (put ident) rows

/-- Each row that is written takes the key only of rows that have been written before. -/
def Clear (rows writes : List R) : Prop :=
  ∀ before row after, writes = before ++ row :: after → ∀ other ∈ rows, ident other ≠ ident row → key other = key row →
    ∃ earlier ∈ before, ident earlier = ident other

variable {ident key}

theorem mem_put {rows : List R} {row other : R} :
    other ∈ put ident rows row ↔ other = row ∨ other ∈ rows ∧ ident other ≠ ident row := by
  simp [put]

theorem put_nodup {rows : List R} (distinct : (rows.map ident).Nodup) (row : R) : ((put ident rows row).map ident).Nodup := by
  rw [put, List.map_cons, List.nodup_cons]
  refine ⟨fun member => ?_, distinct.sublist (List.filter_sublist.map ident)⟩
  obtain ⟨other, inside, same⟩ := List.mem_map.mp member
  have differs := (List.mem_filter.mp inside).2
  simp [same] at differs

theorem putAll_nodup {rows : List R} (distinct : (rows.map ident).Nodup) (writes : List R) :
    ((putAll ident rows writes).map ident).Nodup := by
  induction writes generalizing rows with
  | nil => exact distinct
  | cons row rest ih => exact ih (put_nodup distinct row)

theorem mem_putAll {rows writes : List R} (distinct : (writes.map ident).Nodup) {other : R} :
    other ∈ putAll ident rows writes ↔ other ∈ writes ∨ other ∈ rows ∧ ∀ row ∈ writes, ident row ≠ ident other := by
  induction writes generalizing rows with
  | nil => simp [putAll]
  | cons row rest ih =>
    obtain ⟨apart, distinct⟩ := List.nodup_cons.mp distinct
    have others : ∀ later ∈ rest, ident later ≠ ident row := fun later member same =>
      apart (same ▸ List.mem_map_of_mem member)
    rw [show putAll ident rows (row :: rest) = putAll ident (put ident rows row) rest from rfl, ih distinct, mem_put]
    constructor
    · rintro (written | ⟨rfl | ⟨inside, differs⟩, untouched⟩)
      · exact .inl (List.mem_cons_of_mem row written)
      · exact .inl List.mem_cons_self
      · refine .inr ⟨inside, fun later member => ?_⟩
        rcases List.mem_cons.mp member with rfl | member
        · exact Ne.symm differs
        · exact untouched later member
    · rintro (written | ⟨inside, untouched⟩)
      · rcases List.mem_cons.mp written with rfl | written
        · exact .inr ⟨.inl rfl, others⟩
        · exact .inl written
      · exact .inr ⟨.inr ⟨inside, Ne.symm (untouched row List.mem_cons_self)⟩,
          fun later member => untouched later (List.mem_cons_of_mem row member)⟩

omit [DecidableEq K] in
/-- Rows with keys of their own are written one after the other exactly where none takes a key that is still in use. -/
theorem succeeds_iff {rows writes : List R} (own : ∀ row ∈ writes, ∀ other ∈ writes, key other = key row →
    ident other = ident row) :
    Succeeds ident key rows writes ↔ Clear ident key rows writes := by
  induction writes generalizing rows with
  | nil => exact ⟨fun _ before row after none => by simp at none, fun _ => trivial⟩
  | cons first rest ih =>
    rw [Succeeds, ih fun row member other among => own row (List.mem_cons_of_mem first member) other
      (List.mem_cons_of_mem first among)]
    constructor
    · rintro ⟨free, clear⟩ before row after parts other inside differs same
      cases before with
      | nil =>
        obtain ⟨rfl, rfl⟩ := List.cons.inj parts
        exact absurd same (free other inside differs)
      | cons start before =>
        obtain ⟨rfl, remaining⟩ := List.cons.inj parts
        by_cases its : ident other = ident first
        · exact ⟨first, List.mem_cons_self, its.symm⟩
        · obtain ⟨earlier, member, found⟩ := clear before row after remaining other
            (mem_put.mpr (.inr ⟨inside, its⟩)) differs same
          exact ⟨earlier, List.mem_cons_of_mem first member, found⟩
    · intro clear
      refine ⟨fun other inside differs same => ?_, fun before row after parts other inside differs same => ?_⟩
      · obtain ⟨earlier, member, _⟩ := clear [] first rest rfl other inside differs same
        exact absurd member List.not_mem_nil
      · rcases mem_put.mp inside with rfl | ⟨inside, its⟩
        · -- two of the rows that are written do not share a key
          have among : row ∈ rest := by
            rw [parts]
            simp
          exact absurd (own row (List.mem_cons_of_mem other among) other List.mem_cons_self same) differs
        · obtain ⟨earlier, member, found⟩ := clear (first :: before) row after (by rw [parts]; rfl) other inside differs same
          rcases List.mem_cons.mp member with rfl | member
          · exact absurd found.symm its
          · exact ⟨earlier, member, found⟩

end Foundation.UniqueKeys
