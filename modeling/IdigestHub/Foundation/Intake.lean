import IdigestHub.Foundation.Fallible
import IdigestHub.Foundation.Table
import Mathlib.Data.List.Dedup

/-! Items from outside that become rows of a table: each is read into a draft, which rewrites the row under its key or makes
a new one. New rows wait for a flush, so a draft does not see those of the drafts before it. -/

set_option autoImplicit false

namespace Foundation.Intake

open Fallible

inductive Read (D : Type) where
  | ignored
  | skipped
  | raises
  | draft (draft : D)

def Read.bind {A B : Type} (read : Read A) (next : A → Read B) : Read B :=
  match read with
  | .ignored => .ignored
  | .skipped => .skipped
  | .raises => .raises
  | .draft value => next value

instance : Monad Read where
  pure := .draft
  bind := Read.bind

def orRaises {A : Type} (value : Option A) : Read A := value.elim .raises .draft

structure Counters where
  created : Nat
  updated : Nat
  skipped : Nat
  deriving DecidableEq

/-- Rows of one kind. What a draft puts into a row decides whether the columns take it, and nobody's row changes hands. -/
structure Kind (I D R K : Type) where
  read : I → Read D
  key : D → K
  own : R → Bool
  fresh : D → R
  rewrite : D → R → R
  keyFits : K → Bool
  fits : R → Bool
  storable : D → Bool
  own_rewrite : ∀ draft row, own (rewrite draft row) = own row
  fits_fresh : ∀ draft, fits (fresh draft) = storable draft
  fits_rewrite : ∀ draft row, fits (rewrite draft row) = storable draft

/-- `touched` are the rows that were assigned, `map` leads from the keys of the drafts to those of their rows, and `drawn`
counts the new keys. -/
structure Progress (R K : Type) where
  rows : Table K R
  pending : List (K × R)
  touched : List K
  counters : Counters
  map : Table K K
  drawn : Nat

inductive Place where
  | own | foreign | absent
  deriving DecidableEq

variable {I D R K : Type} [DecidableEq K]

def Progress.start (rows : Table K R) (drawn : Nat) : Progress R K := ⟨rows, [], [], ⟨0, 0, 0⟩, ∅, drawn⟩

def Progress.skip (progress : Progress R K) : Progress R K :=
  { progress with counters := { progress.counters with skipped := progress.counters.skipped + 1 } }

def Progress.update (progress : Progress R K) (key : K) (row : R) : Progress R K :=
  { progress with
    rows := progress.rows.modify key fun _ => row
    touched := progress.touched ++ [key]
    map := progress.map.assign key key
    counters := { progress.counters with updated := progress.counters.updated + 1 } }

def Progress.create (progress : Progress R K) (old new : K) (row : R) : Progress R K :=
  { progress with
    pending := progress.pending ++ [(new, row)]
    map := progress.map.assign old new
    counters := { progress.counters with created := progress.counters.created + 1 }
    drawn := progress.drawn + 1 }

section Running

variable (kind : Kind I D R K) (keepKeys : Bool) (newKey : Nat → K)

/-- One item; no value where it raises. -/
def turn (progress : Progress R K) (item : I) : Option (Progress R K) :=
  match kind.read item with
  | .ignored => some progress
  | .skipped => some progress.skip
  | .raises => none
  | .draft draft =>
    let key := kind.key draft
    if keepKeys then
      match progress.rows.find key with
      | some row => some (if kind.own row then progress.update key (kind.rewrite draft row) else progress.skip)
      | none => some (progress.create key key (kind.fresh draft))
    else some (progress.create key (newKey progress.drawn) (kind.fresh draft))

/-- Rows that do not fit their columns, and keys that are taken, are refused. -/
def insertAll (rows : Table K R) : List (K × R) → Option (Table K R)
  | [] => some rows
  | (key, row) :: rest =>
    if kind.fits row && kind.keyFits key && (rows.find key).isNone then insertAll (rows.put key row) rest else none

def flush (progress : Progress R K) : Option (Table K R) :=
  if progress.touched.all fun key => (progress.rows.find key).all kind.fits then insertAll kind progress.rows progress.pending
  else none

def intake (rows : Table K R) (drawn : Nat) (items : List I) : Option (Progress R K × Table K R) := do
  let progress ← items.foldlM (turn kind keepKeys newKey) (.start rows drawn)
  let after ← flush kind progress
  some (progress, after)

end Running

/-- The counters are right: so many rows were inserted, and so many rewritten. -/
def Exact (rows : Table K R) (result : Progress R K × Table K R) : Prop :=
  result.2.size = rows.size + result.1.counters.created ∧ result.1.counters.updated = result.1.touched.dedup.length

namespace Kind

variable (kind : Kind I D R K)

def draftOf (item : I) : Option D :=
  match kind.read item with
  | .draft draft => some draft
  | _ => none

def drafts (items : List I) : List D := items.filterMap kind.draftOf

def place (rows : Table K R) (draft : D) : Place :=
  match rows.find (kind.key draft) with
  | some row => if kind.own row then .own else .foreign
  | none => .absent

def placed (rows : Table K R) (items : List I) (place : Place) : List D :=
  (kind.drafts items).filter fun draft => kind.place rows draft = place

def Sane (keepKeys : Bool) (rows : Table K R) (items : List I) : Prop :=
  (∀ item ∈ items, kind.read item ≠ .raises) ∧
  if keepKeys then
    ((kind.placed rows items .own).map kind.key).Nodup ∧ ((kind.placed rows items .absent).map kind.key).Nodup ∧
    (∀ draft ∈ kind.placed rows items .own, kind.storable draft = true) ∧
    ∀ draft ∈ kind.placed rows items .absent, kind.storable draft = true ∧ kind.keyFits (kind.key draft) = true
  else ∀ draft ∈ kind.drafts items, kind.storable draft = true

theorem sane_congr {kind other : Kind I D R K} (read : kind.read = other.read) (key : kind.key = other.key)
    (own : kind.own = other.own) (storable : kind.storable = other.storable) (keyFits : kind.keyFits = other.keyFits)
    {keepKeys : Bool} {rows : Table K R} {items : List I} : kind.Sane keepKeys rows items ↔ other.Sane keepKeys rows items := by
  have drafted : kind.draftOf = other.draftOf := by
    funext item
    rw [draftOf, draftOf, read]
  have placed_there : kind.place = other.place := by
    funext rows draft
    rw [Kind.place, Kind.place, key, own]
  unfold Sane placed drafts
  rw [read, drafted, placed_there, key, storable, keyFits]

end Kind

section Inserting

variable {kind : Kind I D R K}

/-- An insert succeeds for rows that fit under keys of their own, and adds that many. -/
theorem insertAll_iff {pending : List (K × R)} {rows : Table K R} : (insertAll kind rows pending).isSome ↔
    (pending.map Prod.fst).Nodup ∧
    ∀ entry ∈ pending, kind.fits entry.2 = true ∧ kind.keyFits entry.1 = true ∧ rows.find entry.1 = none := by
  induction pending generalizing rows with
  | nil => simp [insertAll]
  | cons entry rest ih =>
    obtain ⟨key, row⟩ := entry
    rw [insertAll, List.map_cons, List.nodup_cons, List.forall_mem_cons]
    by_cases taken : kind.fits row && kind.keyFits key && (rows.find key).isNone
    · rw [if_pos taken, ih]
      simp only [Bool.and_eq_true, Option.isNone_iff_eq_none] at taken
      obtain ⟨⟨fits, key_fits⟩, free⟩ := taken
      constructor
      · rintro ⟨distinct, all⟩
        have apart : key ∉ rest.map Prod.fst := by
          intro member
          obtain ⟨entry, inside, same⟩ := List.mem_map.mp member
          have found := (all entry inside).2.2
          rw [same, Table.find_put_self] at found
          cases found
        refine ⟨⟨apart, distinct⟩, ⟨fits, key_fits, free⟩, fun entry inside => ?_⟩
        obtain ⟨its_fits, its_key, absent⟩ := all entry inside
        have other : entry.1 ≠ key := fun same => apart (same ▸ (List.mem_map_of_mem inside : entry.1 ∈ rest.map Prod.fst))
        rw [Table.find_put, if_neg other] at absent
        exact ⟨its_fits, its_key, absent⟩
      · rintro ⟨⟨apart, distinct⟩, _, all⟩
        refine ⟨distinct, fun entry inside => ?_⟩
        obtain ⟨its_fits, its_key, absent⟩ := all entry inside
        have other : entry.1 ≠ key := fun same => apart (same ▸ (List.mem_map_of_mem inside : entry.1 ∈ rest.map Prod.fst))
        exact ⟨its_fits, its_key, by rw [Table.find_put, if_neg other, absent]⟩
    · rw [if_neg taken]
      refine iff_of_false (by simp) ?_
      rintro ⟨_, ⟨fits, key_fits, free⟩, _⟩
      exact taken (by simp [fits, key_fits, free])

theorem size_put {rows : Table K R} {key : K} (free : rows.find key = none) (row : R) :
    (rows.put key row).size = rows.size + 1 := by
  have absent : key ∉ rows := by
    rw [← AList.lookup_isSome, Bool.not_eq_true]
    exact Option.isSome_eq_false_iff.mpr (Option.isNone_iff_eq_none.mpr free)
  rw [Table.size, Table.put, AList.entries_insert_of_notMem absent, List.length_cons, Table.size]

theorem insertAll_size {pending : List (K × R)} {rows after : Table K R} (inserted : insertAll kind rows pending = some after) :
    after.size = rows.size + pending.length := by
  induction pending generalizing rows with
  | nil =>
    obtain rfl := Option.some.inj inserted
    rfl
  | cons entry rest ih =>
    obtain ⟨key, row⟩ := entry
    rw [insertAll] at inserted
    split at inserted
    · rename_i taken
      simp only [Bool.and_eq_true, Option.isNone_iff_eq_none] at taken
      rw [ih inserted, size_put taken.2, List.length_cons]
      omega
    · cases inserted

end Inserting

section Keeping

variable {kind : Kind I D R K} {newKey : Nat → K} {rows : Table K R} {progress : Progress R K} {done : List I}

/-- What the items so far have come to, where the drafts keep their keys. -/
structure Reached (kind : Kind I D R K) (rows : Table K R) (done : List I) (progress : Progress R K) : Prop where
  owners : ∀ key, (progress.rows.find key).map kind.own = (rows.find key).map kind.own
  touched : progress.touched = (kind.placed rows done .own).map kind.key
  pending : progress.pending = (kind.placed rows done .absent).map fun draft => (kind.key draft, kind.fresh draft)
  written : ∀ key ∈ progress.touched, ∃ draft ∈ kind.placed rows done .own, kind.key draft = key ∧
    ∃ row, progress.rows.find key = some row ∧ kind.fits row = kind.storable draft
  updated : progress.counters.updated = progress.touched.length
  created : progress.counters.created = progress.pending.length
  size : progress.rows.size = rows.size

theorem placed_append (items : List I) (item : I) (place : Place) : kind.placed rows (items ++ [item]) place =
    kind.placed rows items place ++ (kind.draftOf item).toList.filter fun draft => kind.place rows draft = place := by
  rw [Kind.placed, Kind.drafts, List.filterMap_append, List.filter_append]
  congr 2

/-- An item without a draft leaves everything but a counter. -/
theorem Reached.pass (reached : Reached kind rows done progress) {item : I} (none_drafted : kind.draftOf item = none) :
    Reached kind rows (done ++ [item]) progress := by
  have same (place : Place) : kind.placed rows (done ++ [item]) place = kind.placed rows done place := by
    rw [placed_append, none_drafted]
    exact List.append_nil _
  obtain ⟨owners, touched, pending, written, updated, created, size⟩ := reached
  exact ⟨owners, by rw [same, touched], by rw [same, pending], by rw [same]; exact written, updated, created, size⟩

theorem Reached.skip (reached : Reached kind rows done progress) : Reached kind rows done progress.skip :=
  ⟨reached.owners, reached.touched, reached.pending, reached.written, reached.updated, reached.created, reached.size⟩

theorem Reached.place_eq (reached : Reached kind rows done progress) (draft : D) :
    kind.place progress.rows draft = kind.place rows draft := by
  have owner := reached.owners (kind.key draft)
  unfold Kind.place
  cases now : progress.rows.find (kind.key draft) with
  | none =>
    rw [now, Option.map_none, eq_comm, Option.map_eq_none_iff] at owner
    rw [owner]
  | some row =>
    rw [now, Option.map_some, eq_comm, Option.map_eq_some_iff] at owner
    obtain ⟨before, found, same⟩ := owner
    simp only [found, same]

theorem size_modify (t : Table K R) (key : K) (f : R → R) : (t.modify key f).size = t.size := by
  simp [Table.size, Table.modify, Table.mapRows]

theorem Reached.foreign (reached : Reached kind rows done progress) {item : I} {draft : D}
    (drafted : kind.draftOf item = some draft)
    (place : kind.place rows draft = .foreign) : Reached kind rows (done ++ [item]) progress.skip := by
  have same (other : Place) (differs : other ≠ .foreign) : kind.placed rows (done ++ [item]) other =
    kind.placed rows done other := by
    rw [placed_append, drafted, Option.toList_some, List.filter_cons_of_neg (by simpa [place] using Ne.symm differs)]
    exact List.append_nil _
  obtain ⟨owners, touched, pending, written, updated, created, size⟩ := reached
  have own := same .own (by decide)
  exact ⟨owners, by rw [own]; exact touched, by rw [same .absent (by decide)]; exact pending, by rw [own]; exact written,
    updated, created, size⟩

theorem Reached.update (reached : Reached kind rows done progress) {item : I} {draft : D} {row : R}
    (drafted : kind.draftOf item = some draft) (found : progress.rows.find (kind.key draft) = some row)
    (place : kind.place rows draft = .own) :
    Reached kind rows (done ++ [item]) (progress.update (kind.key draft) (kind.rewrite draft row)) := by
  have own : kind.placed rows (done ++ [item]) .own = kind.placed rows done .own ++ [draft] := by
    rw [placed_append, drafted, Option.toList_some, List.filter_cons_of_pos (by simpa using place), List.filter_nil]
  have absent : kind.placed rows (done ++ [item]) .absent = kind.placed rows done .absent := by
    rw [placed_append, drafted, Option.toList_some, List.filter_cons_of_neg (by simp [place])]
    exact List.append_nil _
  obtain ⟨owners, touched, pending, written, updated, created, size⟩ := reached
  have stored (key : K) : (progress.update (kind.key draft) (kind.rewrite draft row)).rows.find key =
      if key = kind.key draft then some (kind.rewrite draft row) else progress.rows.find key := by
    rw [Progress.update, Table.find_modify, found]
    rfl
  refine ⟨fun key => ?_, ?_, ?_, fun key member => ?_, ?_, created, ?_⟩
  · rw [stored]
    split
    · rename_i same
      rw [← owners, same, found, Option.map_some, Option.map_some, kind.own_rewrite]
    · exact owners key
  · rw [own, List.map_append, ← touched]
    rfl
  · rw [absent]
    exact pending
  · rw [stored, own]
    by_cases same : key = kind.key draft
    · -- the last draft under the key has written it
      exact ⟨draft, by simp, same.symm, _, if_pos same, kind.fits_rewrite draft row⟩
    · have before : key ∈ progress.touched := by
        rcases List.mem_append.mp member with before | last
        · exact before
        · exact absurd (List.mem_singleton.mp last) same
      obtain ⟨other, inside, its_key, other_row, its_row, fits⟩ := written key before
      exact ⟨other, List.mem_append_left _ inside, its_key, other_row, by rw [if_neg same, its_row], fits⟩
  · show progress.counters.updated + 1 = (progress.touched ++ [kind.key draft]).length
    rw [updated, List.length_append, List.length_singleton]
  · exact (size_modify ..).trans size

theorem Reached.create (reached : Reached kind rows done progress) {item : I} {draft : D}
    (drafted : kind.draftOf item = some draft) (place : kind.place rows draft = .absent) :
    Reached kind rows (done ++ [item]) (progress.create (kind.key draft) (kind.key draft) (kind.fresh draft)) := by
  have own : kind.placed rows (done ++ [item]) .own = kind.placed rows done .own := by
    rw [placed_append, drafted, Option.toList_some, List.filter_cons_of_neg (by simp [place])]
    exact List.append_nil _
  have absent : kind.placed rows (done ++ [item]) .absent = kind.placed rows done .absent ++ [draft] := by
    rw [placed_append, drafted, Option.toList_some, List.filter_cons_of_pos (by simpa using place), List.filter_nil]
  obtain ⟨owners, touched, pending, written, updated, created, size⟩ := reached
  refine ⟨owners, by rw [own]; exact touched, ?_, by rw [own]; exact written, updated, ?_, size⟩
  · rw [absent, List.map_append, ← pending]
    rfl
  · show progress.counters.created + 1 = (progress.pending ++ [_]).length
    rw [created, List.length_append, List.length_singleton]

theorem Reached.turn (reached : Reached kind rows done progress) {item : I} (readable : kind.read item ≠ .raises) :
    ∃ next, turn kind true newKey progress item = some next ∧ Reached kind rows (done ++ [item]) next := by
  unfold Intake.turn
  cases its : kind.read item with
  | raises => exact absurd its readable
  | ignored => exact ⟨_, rfl, reached.pass (by rw [Kind.draftOf, its])⟩
  | skipped => exact ⟨_, rfl, (reached.pass (by rw [Kind.draftOf, its])).skip⟩
  | draft draft =>
    have drafted : kind.draftOf item = some draft := by rw [Kind.draftOf, its]
    have place := reached.place_eq draft
    simp only [if_true]
    cases found : progress.rows.find (kind.key draft) with
    | none =>
      refine ⟨_, rfl, reached.create drafted ?_⟩
      rw [← place, Kind.place, found]
    | some row =>
      refine ⟨_, rfl, ?_⟩
      cases own : kind.own row with
      | true =>
        refine reached.update drafted found ?_
        rw [← place, Kind.place, found]
        simp [own]
      | false =>
        refine reached.foreign drafted ?_
        rw [← place, Kind.place, found]
        simp [own]

theorem reached_start (drawn : Nat) : Reached kind rows [] (.start rows drawn) where
  owners _ := rfl
  touched := rfl
  pending := rfl
  written _ member := nomatch member
  updated := rfl
  created := rfl
  size := rfl

/-- All items that are read without raising, and no others, come to their end. -/
theorem run_reads {keepKeys : Bool} {items : List I} {last : Progress R K}
    (ran : items.foldlM (turn kind keepKeys newKey) progress = some last) : ∀ item ∈ items, kind.read item ≠ .raises := by
  induction items generalizing progress with
  | nil => exact fun item member => absurd member List.not_mem_nil
  | cons item rest ih =>
    rw [List.foldlM_cons] at ran
    obtain ⟨next, turned, onwards⟩ := Option.bind_eq_some_iff.mp ran
    intro other member
    rcases List.mem_cons.mp member with rfl | later
    · intro raises
      rw [turn, raises] at turned
      cases turned
    · exact ih onwards other later

theorem run_reached {items : List I} (readable : ∀ item ∈ items, kind.read item ≠ .raises) (drawn : Nat) :
    ∃ last, items.foldlM (turn kind true newKey) (.start rows drawn) = some last ∧ Reached kind rows items last := by
  refine foldlM_along (P := Reached kind rows) ?_ (reached_start drawn)
  intro done item rest progress place reached
  exact reached.turn (readable item (by rw [place]; simp))

theorem mem_placed {items : List I} {place : Place} {draft : D} : draft ∈ kind.placed rows items place ↔
    draft ∈ kind.drafts items ∧ kind.place rows draft = place := by
  rw [Kind.placed, List.mem_filter, decide_eq_true_iff]

theorem find_of_absent {draft : D} (absent : kind.place rows draft = .absent) : rows.find (kind.key draft) = none := by
  unfold Kind.place at absent
  split at absent
  · split at absent <;> cases absent
  · assumption

/-- The flush of what was reached succeeds where the rows written last fit, and the new ones do under keys of their own. -/
theorem Reached.flush_iff (reached : Reached kind rows done progress) : (flush kind progress).isSome ↔
    (∀ key ∈ progress.touched, ∀ row, progress.rows.find key = some row → kind.fits row = true) ∧
    ((kind.placed rows done .absent).map kind.key).Nodup ∧
    ∀ draft ∈ kind.placed rows done .absent, kind.storable draft = true ∧ kind.keyFits (kind.key draft) = true := by
  have touched_fit : (progress.touched.all fun key => (progress.rows.find key).all kind.fits) = true ↔
      ∀ key ∈ progress.touched, ∀ row, progress.rows.find key = some row → kind.fits row = true := by
    rw [List.all_eq_true]
    refine forall₂_congr fun key _ => ?_
    cases progress.rows.find key <;> simp
  have inserted : (insertAll kind progress.rows progress.pending).isSome ↔
      ((kind.placed rows done .absent).map kind.key).Nodup ∧
      ∀ draft ∈ kind.placed rows done .absent, kind.storable draft = true ∧ kind.keyFits (kind.key draft) = true := by
    rw [insertAll_iff, reached.pending, List.map_map, List.forall_mem_map]
    refine and_congr Iff.rfl (forall₂_congr fun draft member => ?_)
    dsimp only
    have absent : progress.rows.find (kind.key draft) = none :=
      find_of_absent ((reached.place_eq draft).trans (mem_placed.mp member).2)
    rw [kind.fits_fresh, absent]
    simp
  rw [← touched_fit, ← inserted, flush]
  split
  · rename_i fit
    simp only [fit, true_and]
  · rename_i unfit
    simp [unfit]

theorem dedup_length_iff {keys : List K} : keys.length = keys.dedup.length ↔ keys.Nodup := by
  constructor
  · intro same
    rw [← List.dedup_eq_self]
    exact (List.dedup_sublist keys).eq_of_length_le (by omega)
  · intro distinct
    rw [List.dedup_eq_self.mpr distinct]

/-- What was reached is flushed with exact counters exactly when no row is named twice and all of them fit. -/
theorem Reached.exact_iff (reached : Reached kind rows done progress) :
    (∃ after, flush kind progress = some after ∧ Exact rows (progress, after)) ↔
      ((kind.placed rows done .own).map kind.key).Nodup ∧ ((kind.placed rows done .absent).map kind.key).Nodup ∧
      (∀ draft ∈ kind.placed rows done .own, kind.storable draft = true) ∧
      ∀ draft ∈ kind.placed rows done .absent, kind.storable draft = true ∧ kind.keyFits (kind.key draft) = true := by
  have counted : progress.counters.updated = progress.touched.dedup.length ↔
      ((kind.placed rows done .own).map kind.key).Nodup := by
    rw [reached.updated, dedup_length_iff, reached.touched]
  constructor
  · rintro ⟨after, flushed, _, updated⟩
    have distinct := counted.mp updated
    obtain ⟨fit, absent_distinct, absent_fit⟩ := reached.flush_iff.mp (by rw [flushed]; rfl)
    refine ⟨distinct, absent_distinct, fun draft member => ?_, absent_fit⟩
    have touched : kind.key draft ∈ progress.touched := by
      rw [reached.touched]
      exact List.mem_map_of_mem member
    obtain ⟨writer, inside, its_key, row, found, its_fits⟩ := reached.written _ touched
    -- under keys of their own, the draft is the one that wrote the row
    obtain rfl : writer = draft := List.inj_on_of_nodup_map distinct inside member its_key
    rw [← its_fits]
    exact fit _ touched row found
  · rintro ⟨distinct, absent_distinct, own_fit, absent_fit⟩
    have fit : ∀ key ∈ progress.touched, ∀ row, progress.rows.find key = some row → kind.fits row = true := by
      intro key member row found
      obtain ⟨writer, inside, _, stored, its_row, its_fits⟩ := reached.written key member
      obtain rfl := Option.some.inj (found.symm.trans its_row)
      rw [its_fits]
      exact own_fit writer inside
    obtain ⟨after, flushed⟩ := Option.isSome_iff_exists.mp (reached.flush_iff.mpr ⟨fit, absent_distinct, absent_fit⟩)
    refine ⟨after, flushed, ?_, counted.mpr distinct⟩
    have inserted : insertAll kind progress.rows progress.pending = some after := by
      unfold flush at flushed
      split at flushed
      · exact flushed
      · cases flushed
    show after.size = rows.size + progress.counters.created
    rw [insertAll_size inserted, reached.size, reached.created]

end Keeping

section Drawing

variable {kind : Kind I D R K} {newKey : Nat → K} {rows : Table K R} {progress : Progress R K} {done : List I} {first : Nat}

/-- So many new keys differ from each other and from those in use. -/
structure NewKeys (newKey : Nat → K) (keyFits : K → Bool) (rows : Table K R) (count : Nat) : Prop where
  distinct : ∀ n < count, ∀ m < count, newKey n = newKey m → n = m
  fits : ∀ n < count, keyFits (newKey n) = true
  free : ∀ n < count, rows.find (newKey n) = none

/-- What the items so far have come to, where each draft gets a new key. -/
structure Drawn (kind : Kind I D R K) (newKey : Nat → K) (rows : Table K R) (first : Nat) (done : List I)
    (progress : Progress R K) : Prop where
  rows : progress.rows = rows
  touched : progress.touched = []
  fresh : progress.pending.map Prod.snd = (kind.drafts done).map kind.fresh
  keys : progress.pending.map Prod.fst = (List.range' first (kind.drafts done).length).map newKey
  updated : progress.counters.updated = 0
  created : progress.counters.created = progress.pending.length
  drawn : progress.drawn = first + (kind.drafts done).length

omit [DecidableEq K] in
theorem drafts_append (items : List I) (item : I) : kind.drafts (items ++ [item]) =
    kind.drafts items ++ (kind.draftOf item).toList := by
  rw [Kind.drafts, List.filterMap_append]
  congr 1

theorem Drawn.turn (reached : Drawn kind newKey rows first done progress) {item : I} (readable : kind.read item ≠ .raises) :
    ∃ next, turn kind false newKey progress item = some next ∧ Drawn kind newKey rows first (done ++ [item]) next := by
  have passed (none_drafted : kind.draftOf item = none) : kind.drafts (done ++ [item]) = kind.drafts done := by
    rw [drafts_append, none_drafted]
    exact List.append_nil _
  obtain ⟨same_rows, touched, fresh, keys, updated, created, drawn⟩ := reached
  unfold Intake.turn
  cases its : kind.read item with
  | raises => exact absurd its readable
  | ignored =>
    have same := passed (by rw [Kind.draftOf, its])
    exact ⟨_, rfl, same_rows, touched, by rw [same]; exact fresh, by rw [same]; exact keys, updated, created,
      by rw [same]; exact drawn⟩
  | skipped =>
    have same := passed (by rw [Kind.draftOf, its])
    exact ⟨_, rfl, same_rows, touched, by rw [same]; exact fresh, by rw [same]; exact keys, updated, created,
      by rw [same]; exact drawn⟩
  | draft draft =>
    have one_more : kind.drafts (done ++ [item]) = kind.drafts done ++ [draft] := by rw [drafts_append, Kind.draftOf, its]; rfl
    refine ⟨_, rfl, same_rows, touched, ?_, ?_, updated, ?_, ?_⟩
    · show (progress.pending ++ [_]).map Prod.snd = _
      rw [one_more, List.map_append, List.map_append, fresh]
      rfl
    · show (progress.pending ++ [_]).map Prod.fst = _
      rw [one_more, List.map_append, keys, List.length_append, List.length_singleton, List.range'_1_concat, List.map_append,
        ← drawn]
      rfl
    · show progress.counters.created + 1 = (progress.pending ++ [_]).length
      rw [created, List.length_append, List.length_singleton]
    · show progress.drawn + 1 = _
      rw [one_more, List.length_append, List.length_singleton, drawn]
      omega

theorem run_drawn {items : List I} (readable : ∀ item ∈ items, kind.read item ≠ .raises) (first : Nat) :
    ∃ last, items.foldlM (turn kind false newKey) (.start rows first) = some last ∧ Drawn kind newKey rows first items last := by
  refine foldlM_along (P := Drawn kind newKey rows first) ?_ ⟨rfl, rfl, rfl, rfl, rfl, rfl, rfl⟩
  intro done item rest progress place reached
  exact reached.turn (readable item (by rw [place]; simp))

omit [DecidableEq K] in
theorem drafts_length (items : List I) : (kind.drafts items).length ≤ items.length := List.length_filterMap_le ..

theorem Drawn.exact_iff (reached : Drawn kind newKey rows first done progress) {count : Nat}
    (new : NewKeys newKey kind.keyFits rows count) (enough : first + done.length ≤ count) :
    (∃ after, flush kind progress = some after ∧ Exact rows (progress, after)) ↔
      ∀ draft ∈ kind.drafts done, kind.storable draft = true := by
  have flushed : flush kind progress = insertAll kind rows progress.pending := by
    rw [flush, reached.touched, reached.rows]
    rfl
  have inserts : (insertAll kind rows progress.pending).isSome ↔ ∀ draft ∈ kind.drafts done, kind.storable draft = true := by
    have within (n : Nat) (drawn : n ∈ List.range' first (kind.drafts done).length) : n < count := by
      have few := @drafts_length I D R K kind done
      have below := (List.mem_range'_1.mp drawn).2
      omega
    have distinct : (progress.pending.map Prod.fst).Nodup := by
      rw [reached.keys]
      exact List.Nodup.map_on (fun n drawn m other => new.distinct n (within n drawn) m (within m other)) List.nodup_range'
    have keyed : ∀ entry ∈ progress.pending, kind.keyFits entry.1 = true ∧ rows.find entry.1 = none := by
      intro entry member
      have named : entry.1 ∈ progress.pending.map Prod.fst := List.mem_map_of_mem member
      rw [reached.keys] at named
      obtain ⟨n, drawn, same⟩ := List.mem_map.mp named
      rw [← same]
      exact ⟨new.fits n (within n drawn), new.free n (within n drawn)⟩
    have fit : (∀ entry ∈ progress.pending, kind.fits entry.2 = true) ↔
      ∀ draft ∈ kind.drafts done, kind.storable draft = true := by
      rw [← @List.forall_mem_map _ _ Prod.snd progress.pending fun row => kind.fits row = true, reached.fresh,
        List.forall_mem_map]
      exact forall₂_congr fun draft _ => by rw [kind.fits_fresh]
    rw [insertAll_iff, ← fit]
    constructor
    · exact fun all entry member => (all.2 entry member).1
    · exact fun all => ⟨distinct, fun entry member => ⟨all entry member, keyed entry member⟩⟩
  rw [flushed, ← inserts]
  constructor
  · rintro ⟨after, inserted, _⟩
    rw [inserted]
    rfl
  · intro inserted
    obtain ⟨after, its⟩ := Option.isSome_iff_exists.mp inserted
    refine ⟨after, its, ?_, ?_⟩
    · show after.size = rows.size + progress.counters.created
      rw [insertAll_size its, reached.created]
    · show progress.counters.updated = progress.touched.dedup.length
      rw [reached.updated, reached.touched]
      rfl

theorem turn_drawn_le {keepKeys : Bool} {item : I} {next : Progress R K}
    (turned : turn kind keepKeys newKey progress item = some next) : next.drawn ≤ progress.drawn + 1 := by
  unfold turn at turned
  split at turned
  · cases turned
    exact Nat.le_succ _
  · cases turned
    exact Nat.le_succ _
  · cases turned
  · dsimp only at turned
    split at turned
    · split at turned
      · rw [← Option.some.inj turned]
        split <;> exact Nat.le_succ _
      · cases turned
        exact Nat.le_refl _
    · cases turned
      exact Nat.le_refl _

theorem intake_drawn_le {keepKeys : Bool} {items : List I} {result : Progress R K × Table K R}
    (taken : intake kind keepKeys newKey rows first items = some result) : result.1.drawn ≤ first + items.length := by
  obtain ⟨last, ran, flushed⟩ := Option.bind_eq_some_iff.mp taken
  obtain ⟨after, _, same⟩ := Option.bind_eq_some_iff.mp flushed
  obtain rfl := Option.some.inj same
  suffices bound : ∀ (items : List I) (progress : Progress R K), items.foldlM (turn kind keepKeys newKey) progress = some last →
      last.drawn ≤ progress.drawn + items.length from bound items _ ran
  intro items
  induction items with
  | nil =>
    intro progress ended
    obtain rfl : progress = last := Option.some.inj ended
    exact Nat.le_refl _
  | cons item rest ih =>
    intro progress ran
    rw [List.foldlM_cons] at ran
    obtain ⟨next, turned, onwards⟩ := Option.bind_eq_some_iff.mp ran
    have one := turn_drawn_le turned
    have others := ih next onwards
    rw [List.length_cons]
    omega

end Drawing

/-- Items become rows, each row counted once, exactly when they are sane. -/
theorem intake_exact_iff {kind : Kind I D R K} {newKey : Nat → K} {rows : Table K R} {items : List I} (keepKeys : Bool)
    {drawn count : Nat} (new : NewKeys newKey kind.keyFits rows count) (enough : drawn + items.length ≤ count) :
    (∃ result, intake kind keepKeys newKey rows drawn items = some result ∧ Exact rows result) ↔
      kind.Sane keepKeys rows items := by
  have parts : (∃ result, intake kind keepKeys newKey rows drawn items = some result ∧ Exact rows result) ↔
      ∃ last, items.foldlM (turn kind keepKeys newKey) (.start rows drawn) = some last ∧
        ∃ after, flush kind last = some after ∧ Exact rows (last, after) := by
    constructor
    · rintro ⟨result, taken, exact_counts⟩
      obtain ⟨last, ran, flushed⟩ := Option.bind_eq_some_iff.mp taken
      obtain ⟨after, its, same⟩ := Option.bind_eq_some_iff.mp flushed
      obtain rfl := Option.some.inj same
      exact ⟨last, ran, after, its, exact_counts⟩
    · rintro ⟨last, ran, after, its, exact_counts⟩
      exact ⟨(last, after), Option.bind_eq_some_iff.mpr ⟨last, ran, Option.bind_eq_some_iff.mpr ⟨after, its, rfl⟩⟩, exact_counts⟩
  rw [parts]
  by_cases readable : ∀ item ∈ items, kind.read item ≠ .raises
  · rw [Kind.Sane, and_iff_right readable]
    cases keepKeys with
    | true =>
      have ends : ∃ last, items.foldlM (turn kind true newKey) (.start rows drawn) = some last ∧ Reached kind rows items last :=
        run_reached readable drawn
      obtain ⟨last, ran, reached⟩ := ends
      simp only [ran, Option.some.injEq, exists_eq_left', if_true]
      exact reached.exact_iff
    | false =>
      have ends : ∃ last, items.foldlM (turn kind false newKey) (.start rows drawn) = some last ∧
          Drawn kind newKey rows drawn items last := run_drawn readable drawn
      obtain ⟨last, ran, reached⟩ := ends
      simp only [ran, Option.some.injEq, exists_eq_left', Bool.false_eq_true, if_false]
      exact reached.exact_iff new enough
  · refine iff_of_false ?_ fun sane => readable sane.1
    rintro ⟨last, ran, _⟩
    exact readable (run_reads ran)

end Foundation.Intake
