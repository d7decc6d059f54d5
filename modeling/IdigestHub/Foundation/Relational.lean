import IdigestHub.Foundation.Table
import Mathlib.Data.Fintype.Basic

/-! Tables that refer to each other by foreign keys. A statement deletes or changes rows; the rows that
refer to a deleted one by a cascading key go with it, and any other reference to it makes the
statement fail. -/

set_option autoImplicit false

namespace Foundation.Relational

/-- A column of references to the rows of a table. Without `cascades` it has no action on deletion. -/
structure ForeignKey (T R : Type) where
  target : T
  cascades : Bool
  get : R → Option Nat

structure Schema (T : Type) where
  Row : T → Type
  keys : (t : T) → List (ForeignKey T (Row t))

abbrev Db {T : Type} (S : Schema T) : Type := (t : T) → Table Nat (S.Row t)

variable {T : Type} {S : Schema T}

/-- Nothing refers to the rows of a table that cascading keys empty, so a cascade stops where it starts. -/
def Schema.Shallow (S : Schema T) : Prop :=
  ∀ t, ∀ key ∈ S.keys t, key.cascades = true → ∀ other, ∀ key' ∈ S.keys other, key'.target ≠ t

/-- The rows that one statement, or one flush, deletes or changes. -/
inductive Op (S : Schema T) where
  | delete (doomed : (t : T) → Nat → S.Row t → Bool)
  | change (f : (t : T) → Nat → S.Row t → S.Row t)

namespace Op

def fate (op : Op S) (t : T) (id : Nat) (row : S.Row t) : Option (S.Row t) :=
  match op with
  | delete doomed => if doomed t id row then none else some row
  | change f => some (f t id row)

def apply (op : Op S) (db : Db S) : Db S := fun t =>
  match op with
  | delete doomed => (db t).keep fun id row => !doomed t id row
  | change f => (db t).mapRows (f t)

/-- `DELETE FROM` a table. -/
def deleteFrom [DecidableEq T] (t : T) (condition : Nat → S.Row t → Bool) : Op S :=
  delete fun other id row => if same : other = t then condition id (same ▸ row) else false

/-- `UPDATE` of a table. -/
def changeIn [DecidableEq T] (t : T) (f : Nat → S.Row t → S.Row t) : Op S :=
  change fun other id row => if same : other = t then same ▸ f id (same ▸ row) else row

/-- What a row becomes under several statements. -/
def fates (ops : List (Op S)) (t : T) (id : Nat) (row : S.Row t) : Option (S.Row t) :=
  ops.foldlM (fun row op => op.fate t id row) row

end Op

namespace Db

def present (db : Db S) (t : T) (id : Nat) : Bool := ((db t).find id).isSome

def dangles (db : Db S) {R : Type} (key : ForeignKey T R) (row : R) : Bool :=
  (key.get row).any fun id => !db.present key.target id

/-- The database enforces its foreign keys. -/
def Integral (db : Db S) : Prop :=
  ∀ t id row, (db t).find id = some row → ∀ key ∈ S.keys t, db.dangles key row = false

def settled (db : Db S) : Db S := fun t =>
  (db t).keep fun _ row => !(S.keys t).any fun key => key.cascades && db.dangles key row

instance [Fintype T] (db : Db S) : Decidable db.Integral :=
  decidable_of_iff (∀ t, (db t).entries.all fun row => (S.keys t).all fun key => !db.dangles key row.2) <| by
    apply forall_congr'
    intro t
    simp only [List.all_eq_true, Bool.not_eq_true']
    constructor
    · intro all id row found
      exact all ⟨id, row⟩ ((Table.mem_entries ..).mpr found)
    · intro all row member
      exact all row.1 row.2 ((Table.mem_entries ..).mp member)

def execute [Fintype T] (db : Db S) (op : Op S) : Option (Db S) :=
  if (op.apply db).settled.Integral then some (op.apply db).settled else none

def run [Fintype T] (db : Db S) (ops : List (Op S)) : Option (Db S) := ops.foldlM execute db

end Db

section Rows

variable {op : Op S} {ops : List (Op S)} {db now : Db S} {t : T} {id : Nat} {row row' : S.Row t}

@[simp] theorem fates_nil : Op.fates [] t id row = some row := rfl

theorem fates_cons : Op.fates (op :: ops) t id row = (op.fate t id row).bind (Op.fates ops t id) := rfl

theorem fates_append (first second : List (Op S)) :
    Op.fates (first ++ second) t id row = (Op.fates first t id row).bind (Op.fates second t id) :=
  List.foldlM_append

/-- Statements that only delete from a table leave the rows that none of them deletes. -/
theorem fates_eq_some_iff (deletes : ∀ op ∈ ops, ∀ row row', op.fate t id row = some row' → row' = row) :
    Op.fates ops t id row = some row' ↔ row' = row ∧ ∀ op ∈ ops, op.fate t id row = some row := by
  induction ops with
  | nil => simp [eq_comm]
  | cons op rest ih =>
    rw [fates_cons, Option.bind_eq_some_iff, List.forall_mem_cons]
    have rest_deletes := fun other member => deletes other (List.mem_cons_of_mem _ member)
    constructor
    · rintro ⟨between, first, later⟩
      have same := deletes op List.mem_cons_self row between first
      subst same
      obtain ⟨same, kept⟩ := (ih rest_deletes).mp later
      exact ⟨same, first, kept⟩
    · rintro ⟨same, first, kept⟩
      exact ⟨row, first, (ih rest_deletes).mpr ⟨same, kept⟩⟩

theorem fates_of_untouched (untouched : ∀ op ∈ ops, ∀ row, op.fate t id row = some row) :
    Op.fates ops t id row = some row := by
  induction ops with
  | nil => rfl
  | cons op rest ih =>
    rw [fates_cons, untouched op List.mem_cons_self row, Option.bind_some]
    exact ih fun other member => untouched other (List.mem_cons_of_mem _ member)

section Single

variable [DecidableEq T] {other : T} {condition : Nat → S.Row t → Bool} {f : Nat → S.Row t → S.Row t}

theorem fate_deleteFrom : (Op.deleteFrom t condition).fate t id row = if condition id row then none else some row := by
  simp [Op.deleteFrom, Op.fate]

@[simp] theorem fate_deleteFrom_ne (different : other ≠ t) (row : S.Row other) :
    (Op.deleteFrom t condition).fate other id row = some row := by
  simp [Op.deleteFrom, Op.fate, different]

theorem fate_changeIn : (Op.changeIn t f).fate t id row = some (f id row) := by
  simp [Op.changeIn, Op.fate]

@[simp] theorem fate_changeIn_ne (different : other ≠ t) (row : S.Row other) :
    (Op.changeIn t f).fate other id row = some row := by
  simp [Op.changeIn, Op.fate, different]

@[simp] theorem fates_deleteFrom : Op.fates (.deleteFrom t condition :: ops) t id row =
    if condition id row then none else Op.fates ops t id row := by
  rw [fates_cons, fate_deleteFrom]
  split <;> rfl

@[simp] theorem fates_deleteFrom_ne {row : S.Row other} (different : other ≠ t) :
    Op.fates (.deleteFrom t condition :: ops) other id row = Op.fates ops other id row := by
  rw [fates_cons, fate_deleteFrom_ne different, Option.bind_some]

@[simp] theorem fates_changeIn : Op.fates (.changeIn t f :: ops) t id row = Op.fates ops t id (f id row) := by
  rw [fates_cons, fate_changeIn, Option.bind_some]

@[simp] theorem fates_changeIn_ne {row : S.Row other} (different : other ≠ t) :
    Op.fates (.changeIn t f :: ops) other id row = Op.fates ops other id row := by
  rw [fates_cons, fate_changeIn_ne different, Option.bind_some]

end Single

theorem find_apply (op : Op S) (db : Db S) (t : T) (id : Nat) :
    ((op.apply db) t).find id = ((db t).find id).bind (op.fate t id) := by
  cases op with
  | delete doomed =>
    rw [Op.apply, Table.find_keep]
    cases found : (db t).find id with
    | none => rfl
    | some row => cases gone : doomed t id row <;> simp [Op.fate, Option.filter, gone]
  | change f =>
    rw [Op.apply, Table.find_mapRows]
    cases (db t).find id <;> rfl

theorem find_settled (db : Db S) (t : T) (id : Nat) : (db.settled t).find id =
    ((db t).find id).filter fun row => !(S.keys t).any fun key => key.cascades && db.dangles key row :=
  Table.find_keep ..

theorem settled_some : (db.settled t).find id = some row ↔
    (db t).find id = some row ∧ ∀ key ∈ S.keys t, key.cascades = true → db.dangles key row = false := by
  rw [find_settled, Option.filter_eq_some_iff]
  simp

theorem find_settled_of_plain (plain : ∀ key ∈ S.keys t, key.cascades = false) :
    (db.settled t).find id = (db t).find id := by
  ext row
  rw [settled_some]
  constructor
  · exact And.left
  · intro found
    refine ⟨found, ?_⟩
    intro key member cascades
    rw [plain key member] at cascades
    contradiction

theorem dangles_eq_false {R : Type} {key : ForeignKey T R} {row : R} :
    db.dangles key row = false ↔ ∀ id, key.get row = some id → db.present key.target id = true := by
  rw [Db.dangles]
  cases key.get row <;> simp

end Rows

section Enforcement

variable {op : Op S} {ops : List (Op S)} {db now : Db S}

theorem present_settled (shallow : S.Shallow) {t : T} {key : ForeignKey T (S.Row t)} (member : key ∈ S.keys t)
    (id : Nat) : db.settled.present key.target id = db.present key.target id := by
  rw [Db.present, Db.present, find_settled_of_plain]
  intro other inside
  by_contra cascades
  rw [Bool.not_eq_false] at cascades
  exact shallow key.target other inside cascades t key member rfl

theorem dangles_settled (shallow : S.Shallow) {t : T} {key : ForeignKey T (S.Row t)} (member : key ∈ S.keys t)
    (row : S.Row t) : db.settled.dangles key row = db.dangles key row := by
  rw [Db.dangles, Db.dangles]
  simp only [present_settled shallow member]

theorem integral_settled_iff (shallow : S.Shallow) : db.settled.Integral ↔
    ∀ t id row, (db.settled t).find id = some row → ∀ key ∈ S.keys t, key.cascades = false → db.dangles key row = false := by
  constructor
  · intro integral t id row found key member _
    rw [← dangles_settled shallow member]
    exact integral t id row found key member
  · intro kept t id row found key member
    rw [dangles_settled shallow member]
    cases cascades : key.cascades with
    | false => exact kept t id row found key member cascades
    | true => exact (settled_some.mp found).2 key member cascades

/-- The statement makes no reference dangle that has no action: it deletes nothing that such a key refers
to, and a reference that it changes is to a row that is there. -/
def Op.Harmless (db : Db S) : Op S → Prop
  | delete doomed => ∀ t, ∀ key ∈ S.keys t, key.cascades = false → ∀ id row, doomed key.target id row = false
  | change f => ∀ t id row, ∀ key ∈ S.keys t, ∀ v, key.get (f t id row) = some v →
      key.get row = some v ∨ key.cascades = false ∧ db.present key.target v = true

def SameTargets (db now : Db S) : Prop :=
  ∀ t, ∀ key ∈ S.keys t, key.cascades = false → ∀ id, now.present key.target id = db.present key.target id

theorem sameTargets_apply (harmless : op.Harmless now) : SameTargets now (op.apply now) := by
  intro t key member plain id
  rw [Db.present, Db.present, find_apply]
  cases found : (now key.target).find id with
  | none => rfl
  | some row =>
    cases op with
    | delete doomed => simp [Op.fate, harmless t key member plain id row]
    | change f => rfl

theorem integral_of_harmless (shallow : S.Shallow) (integral : now.Integral) (harmless : op.Harmless now) :
    (op.apply now).settled.Integral := by
  rw [integral_settled_iff shallow]
  intro t id row found key member plain
  rw [dangles_eq_false]
  intro v refers
  rw [sameTargets_apply harmless t key member plain]
  have applied := (settled_some.mp found).1
  rw [find_apply] at applied
  obtain ⟨old, before, became⟩ := Option.bind_eq_some_iff.mp applied
  have was_there := dangles_eq_false.mp (integral t id old before key member)
  cases op with
  | delete doomed =>
    have same : row = old := by
      simp only [Op.fate, Option.ite_none_left_eq_some, Option.some.injEq] at became
      exact became.2.symm
    exact was_there v (same ▸ refers)
  | change f =>
    have same : f t id old = row := Option.some.inj became
    rcases harmless t id old key member v (same ▸ refers) with kept | ⟨_, there⟩
    · exact was_there v kept
    · exact there

variable [Fintype T]

theorem execute_eq_some : db.execute op = some now ↔ (op.apply db).settled.Integral ∧ (op.apply db).settled = now := by
  rw [Db.execute, Option.ite_none_right_eq_some, Option.some.injEq]

@[simp] theorem run_nil : db.run [] = some db := rfl

@[simp] theorem run_cons : db.run (op :: ops) = (db.execute op).bind fun next => next.run ops := rfl

theorem run_append (first second : List (Op S)) :
    db.run (first ++ second) = (db.run first).bind fun next => next.run second :=
  List.foldlM_append

/-- Statements that do no harm, whatever else has been done, succeed. -/
theorem run_of_harmless (shallow : S.Shallow) (integral : db.Integral)
    (harmless : ∀ op ∈ ops, ∀ now, SameTargets db now → op.Harmless now) :
    ∃ now, db.run ops = some now ∧ now.Integral ∧ SameTargets db now := by
  induction ops generalizing db with
  | nil => exact ⟨db, rfl, integral, fun _ _ _ _ _ => rfl⟩
  | cons op rest ih =>
    have first := harmless op List.mem_cons_self db fun _ _ _ _ _ => rfl
    have next_integral := integral_of_harmless shallow integral first
    have executed : db.execute op = some (op.apply db).settled := execute_eq_some.mpr ⟨next_integral, rfl⟩
    have next_targets : SameTargets db (op.apply db).settled := by
      intro t key member plain id
      rw [present_settled shallow member, sameTargets_apply first t key member plain]
    have later : ∀ op' ∈ rest, ∀ now, SameTargets (op.apply db).settled now → op'.Harmless now := by
      intro op' member now same
      apply harmless op' (List.mem_cons_of_mem _ member)
      intro t key inside plain id
      rw [same t key inside plain, next_targets t key inside plain]
    obtain ⟨now, ran, now_integral, same⟩ := ih next_integral later
    refine ⟨now, ?_, now_integral, ?_⟩
    · rw [run_cons, executed]
      exact ran
    · intro t key inside plain id
      rw [same t key inside plain, next_targets t key inside plain]

theorem integral_of_run (integral : db.Integral) (ran : db.run ops = some now) : now.Integral := by
  induction ops generalizing db with
  | nil => exact Option.some.inj ran ▸ integral
  | cons op rest ih =>
    obtain ⟨next, executed, later⟩ := Option.bind_eq_some_iff.mp ran
    obtain ⟨next_integral, same⟩ := execute_eq_some.mp executed
    exact ih (same ▸ next_integral) later

variable {t : T} {id : Nat}

theorem fates_of_run {row : S.Row t} (ran : db.run ops = some now) (found : (now t).find id = some row) :
    ((db t).find id).bind (Op.fates ops t id) = some row := by
  induction ops generalizing db with
  | nil =>
    rw [← Option.some.inj ran] at found
    rw [found]
    rfl
  | cons op rest ih =>
    obtain ⟨next, executed, later⟩ := Option.bind_eq_some_iff.mp ran
    obtain ⟨_, same⟩ := execute_eq_some.mp executed
    have through := ih later
    rw [← same] at through
    obtain ⟨between, there, became⟩ := Option.bind_eq_some_iff.mp through
    have applied := (settled_some.mp there).1
    rw [find_apply] at applied
    obtain ⟨first, before, became_between⟩ := Option.bind_eq_some_iff.mp applied
    rw [before, Option.bind_some, fates_cons, became_between]
    exact became

/-- A table without cascading keys holds what the statements make of its rows. -/
theorem find_run (plain : ∀ key ∈ S.keys t, key.cascades = false) (ran : db.run ops = some now) :
    (now t).find id = ((db t).find id).bind (Op.fates ops t id) := by
  induction ops generalizing db with
  | nil =>
    rw [← Option.some.inj ran]
    cases (db t).find id <;> rfl
  | cons op rest ih =>
    obtain ⟨next, executed, later⟩ := Option.bind_eq_some_iff.mp ran
    obtain ⟨_, same⟩ := execute_eq_some.mp executed
    rw [ih later, ← same, find_settled_of_plain plain, find_apply, Option.bind_assoc]
    rfl

/-- A row with cascading keys stays when no statement touches it, or deletes from the tables that
it refers to by them. -/
theorem find_run_of_untouched {row : S.Row t} (integral : db.Integral) (ran : db.run ops = some now)
    (found : (db t).find id = some row) (untouched : ∀ op ∈ ops, op.fate t id row = some row)
    (left : ∀ key ∈ S.keys t, key.cascades = true → ∀ op ∈ ops, ∀ v row, (op.fate key.target v row).isSome = true) :
    (now t).find id = some row := by
  induction ops generalizing db with
  | nil => exact Option.some.inj ran ▸ found
  | cons op rest ih =>
    obtain ⟨next, executed, later⟩ := Option.bind_eq_some_iff.mp ran
    obtain ⟨next_integral, same⟩ := execute_eq_some.mp executed
    subst same
    apply ih next_integral later ?_ (fun other member => untouched other (List.mem_cons_of_mem _ member))
      fun key inside cascades other member => left key inside cascades other (List.mem_cons_of_mem _ member)
    rw [settled_some, find_apply, found]
    refine ⟨untouched op List.mem_cons_self, ?_⟩
    intro key inside cascades
    rw [dangles_eq_false]
    intro v refers
    have there := dangles_eq_false.mp (integral t id row found key inside) v refers
    obtain ⟨target, stored⟩ := Option.isSome_iff_exists.mp there
    rw [Db.present, find_apply, stored]
    exact left key inside cascades op List.mem_cons_self v target

/-- A deletion succeeds when no row that stays refers to a deleted one by a key without action. -/
theorem execute_delete_iff (shallow : S.Shallow) (integral : db.Integral) (doomed : (t : T) → Nat → S.Row t → Bool) :
    (db.execute (.delete doomed)).isSome ↔
      ∀ t id row, (((Op.delete doomed).apply db).settled t).find id = some row → ∀ key ∈ S.keys t, key.cascades = false →
        ∀ v, key.get row = some v → ∀ old, (db key.target).find v = some old → doomed key.target v old = false := by
  rw [Db.execute, Option.isSome_ite, integral_settled_iff shallow]
  refine forall_congr' fun t => forall_congr' fun id => forall_congr' fun row => forall_congr' fun found =>
    forall_congr' fun key => forall_congr' fun member => forall_congr' fun plain => ?_
  rw [dangles_eq_false]
  refine forall_congr' fun v => forall_congr' fun refers => ?_
  have applied := (settled_some.mp found).1
  rw [find_apply] at applied
  obtain ⟨old, before, became⟩ := Option.bind_eq_some_iff.mp applied
  simp only [Op.fate, Option.ite_none_left_eq_some, Option.some.injEq] at became
  have there := dangles_eq_false.mp (integral t id old before key member) v (became.2 ▸ refers)
  obtain ⟨target, stored⟩ := Option.isSome_iff_exists.mp there
  rw [Db.present, find_apply, stored]
  simp [Op.fate]

end Enforcement

end Foundation.Relational
