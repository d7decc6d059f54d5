import Mathlib.Logic.Relation

/-! A unit of work over a committed store: a session reads and edits its own copy,
flushes it, and makes it durable by committing. A computation may raise; what it
committed before stays, what it did not commit is lost with the session. Memory of the
process is outside of all this: nothing undoes it. -/

set_option autoImplicit false

namespace Foundation.UnitOfWork

open Relation

/-- `working` is what the loaded objects hold, `flushed` what a query sees, and
`committed` what every other session sees. -/
structure Session (D M : Type) where
  committed : D
  flushed : D
  working : D
  memory : M

variable {D M E A B : Type}

namespace Session

def start (d : D) (m : M) : Session D M := ⟨d, d, d, m⟩

def flush (s : Session D M) : Session D M := { s with flushed := s.working }

def commit (s : Session D M) : Session D M := { s with committed := s.working, flushed := s.working }

def rollback (s : Session D M) : Session D M := { s with flushed := s.committed, working := s.committed }

def edit (s : Session D M) (d : D) : Session D M := { s with working := d }

variable (s : Session D M) (d : D)

@[simp] theorem flush_working : s.flush.working = s.working := rfl
@[simp] theorem flush_flushed : s.flush.flushed = s.working := rfl
@[simp] theorem flush_committed : s.flush.committed = s.committed := rfl
@[simp] theorem flush_memory : s.flush.memory = s.memory := rfl
@[simp] theorem commit_working : s.commit.working = s.working := rfl
@[simp] theorem commit_flushed : s.commit.flushed = s.working := rfl
@[simp] theorem commit_committed : s.commit.committed = s.working := rfl
@[simp] theorem commit_memory : s.commit.memory = s.memory := rfl
@[simp] theorem rollback_working : s.rollback.working = s.committed := rfl
@[simp] theorem rollback_committed : s.rollback.committed = s.committed := rfl
@[simp] theorem rollback_memory : s.rollback.memory = s.memory := rfl
@[simp] theorem edit_working : (s.edit d).working = d := rfl
@[simp] theorem edit_flushed : (s.edit d).flushed = s.flushed := rfl
@[simp] theorem edit_committed : (s.edit d).committed = s.committed := rfl
@[simp] theorem edit_memory : (s.edit d).memory = s.memory := rfl

end Session

/-- A computation against one session, which ends in a value or an exception. -/
def Tx (D M E A : Type) : Type := Session D M → Except E A × Session D M

namespace Tx

def run (t : Tx D M E A) (s : Session D M) : Except E A × Session D M := t s

protected def pure (a : A) : Tx D M E A := fun s => (.ok a, s)

protected def bind (t : Tx D M E A) (k : A → Tx D M E B) : Tx D M E B := fun s =>
  match t s with
  | (.ok a, s') => k a s'
  | (.error e, s') => (.error e, s')

instance : Monad (Tx D M E) where
  pure := Tx.pure
  bind := Tx.bind

instance : LawfulMonad (Tx D M E) := LawfulMonad.mk' (Tx D M E)
  (fun t => by
    funext s
    show Tx.bind t _ s = t s
    unfold Tx.bind
    cases t s with
    | mk outcome after => cases outcome <;> rfl)
  (fun _ _ => rfl)
  (fun t k l => by
    funext s
    show Tx.bind (Tx.bind t k) l s = Tx.bind t (fun a => Tx.bind (k a) l) s
    unfold Tx.bind
    cases t s with
    | mk outcome after => cases outcome <;> rfl)

def raise (e : E) : Tx D M E A := fun s => (.error e, s)

def read : Tx D M E D := fun s => (.ok s.working, s)

def query : Tx D M E D := fun s => (.ok s.flushed, s)

def recollect : Tx D M E M := fun s => (.ok s.memory, s)

def update (f : D → D) : Tx D M E Unit := fun s => (.ok (), s.edit (f s.working))

def remember (f : M → M) : Tx D M E Unit := fun s => (.ok (), { s with memory := f s.memory })

def flush : Tx D M E Unit := fun s => (.ok (), s.flush)

def commit : Tx D M E Unit := fun s => (.ok (), s.commit)

def rollback : Tx D M E Unit := fun s => (.ok (), s.rollback)

/-- Raise unless the computation has a value. -/
def lift (r : Except E A) : Tx D M E A := fun s => (r, s)

/-- Run a computation and hand its exception on as a value. -/
def attempt (t : Tx D M E A) : Tx D M E (Except E A) := fun s =>
  match t s with
  | (r, s') => (.ok r, s')

def forEach {X : Type} : List X → (X → Tx D M E Unit) → Tx D M E Unit
  | [], _ => pure ()
  | x :: rest, body => do
    body x
    forEach rest body

end Tx

/-- From `s`, a value of `t` meets `Q` and an exception of `t` meets `R`. -/
def wp (t : Tx D M E A) (Q : A → Session D M → Prop) (R : E → Session D M → Prop)
    (s : Session D M) : Prop :=
  match t s with
  | (.ok a, s') => Q a s'
  | (.error e, s') => R e s'

section Rules

variable (Q : A → Session D M → Prop) (R : E → Session D M → Prop) (s : Session D M)

@[simp] theorem wp_pure (a : A) : wp (pure a : Tx D M E A) Q R s = Q a s := rfl

@[simp] theorem wp_bind (t : Tx D M E B) (k : B → Tx D M E A) :
    wp (t >>= k) Q R s = wp t (fun b s' => wp (k b) Q R s') R s := by
  simp only [wp, bind, Tx.bind]
  cases t s with
  | mk outcome after => cases outcome <;> rfl

@[simp] theorem wp_raise (e : E) : wp (Tx.raise e : Tx D M E A) Q R s = R e s := rfl

@[simp] theorem wp_ite (c : Prop) [Decidable c] (t u : Tx D M E A) :
    wp (if c then t else u) Q R s = if c then wp t Q R s else wp u Q R s := by
  split <;> rfl

end Rules

section Rules

variable (R : E → Session D M → Prop) (s : Session D M)

@[simp] theorem wp_read (Q : D → Session D M → Prop) :
    wp (Tx.read : Tx D M E D) Q R s = Q s.working s := rfl

@[simp] theorem wp_query (Q : D → Session D M → Prop) :
    wp (Tx.query : Tx D M E D) Q R s = Q s.flushed s := rfl

@[simp] theorem wp_recollect (Q : M → Session D M → Prop) :
    wp (Tx.recollect : Tx D M E M) Q R s = Q s.memory s := rfl

@[simp] theorem wp_update (f : D → D) (Q : Unit → Session D M → Prop) :
    wp (Tx.update f : Tx D M E Unit) Q R s = Q () (s.edit (f s.working)) := rfl

@[simp] theorem wp_remember (f : M → M) (Q : Unit → Session D M → Prop) :
    wp (Tx.remember f : Tx D M E Unit) Q R s = Q () { s with memory := f s.memory } := rfl

@[simp] theorem wp_flush (Q : Unit → Session D M → Prop) :
    wp (Tx.flush : Tx D M E Unit) Q R s = Q () s.flush := rfl

@[simp] theorem wp_commit (Q : Unit → Session D M → Prop) :
    wp (Tx.commit : Tx D M E Unit) Q R s = Q () s.commit := rfl

@[simp] theorem wp_rollback (Q : Unit → Session D M → Prop) :
    wp (Tx.rollback : Tx D M E Unit) Q R s = Q () s.rollback := rfl

theorem wp_lift (r : Except E A) (Q : A → Session D M → Prop) :
    wp (Tx.lift r : Tx D M E A) Q R s ↔ (∀ a, r = .ok a → Q a s) ∧ (∀ e, r = .error e → R e s) := by
  cases r <;> simp [wp, Tx.lift]

theorem wp_attempt (t : Tx D M E A) (Q : Except E A → Session D M → Prop) :
    wp (Tx.attempt t) Q R s ↔ wp t (fun a => Q (.ok a)) (fun e => Q (.error e)) s := by
  simp only [wp, Tx.attempt]
  cases t s with
  | mk outcome after => cases outcome <;> rfl

end Rules

theorem wp_mono {t : Tx D M E A} {Q Q' : A → Session D M → Prop} {R R' : E → Session D M → Prop}
    {s : Session D M} (holds : wp t Q R s) (value : ∀ a s', Q a s' → Q' a s')
    (exception : ∀ e s', R e s' → R' e s') : wp t Q' R' s := by
  simp only [wp] at holds ⊢
  cases same : t s with
  | mk outcome after =>
    rw [same] at holds
    cases outcome with
    | ok a => exact value a after holds
    | error e => exact exception e after holds

theorem wp_and {t : Tx D M E A} {Q Q' : A → Session D M → Prop} {R R' : E → Session D M → Prop} {s : Session D M}
    (first : wp t Q R s) (second : wp t Q' R' s) :
    wp t (fun a s' => Q a s' ∧ Q' a s') (fun e s' => R e s' ∧ R' e s') s := by
  simp only [wp] at first second ⊢
  cases same : t s with
  | mk outcome after =>
    rw [same] at first second
    cases outcome with
    | ok a => exact ⟨first, second⟩
    | error e => exact ⟨first, second⟩

theorem wp_trivial (t : Tx D M E A) (s : Session D M) : wp t (fun _ _ => True) (fun _ _ => True) s := by
  simp only [wp]
  cases t s with
  | mk outcome after => cases outcome <;> trivial

theorem wp_cases {c : Prop} [Decidable c] {t u : Tx D M E A} {Q : A → Session D M → Prop} {R : E → Session D M → Prop}
    {s : Session D M} (yes : c → wp t Q R s) (no : ¬c → wp u Q R s) : wp (if c then t else u) Q R s := by
  split
  · exact yes ‹_›
  · exact no ‹_›

/-- What every iteration keeps, the loop keeps. -/
theorem wp_forEach {X : Type} {body : X → Tx D M E Unit} {I : Session D M → Prop}
    {R : E → Session D M → Prop} {items : List X} {s : Session D M} (entry : I s)
    (iteration : ∀ x ∈ items, ∀ s', I s' → wp (body x) (fun _ => I) R s') :
    wp (Tx.forEach items body) (fun _ => I) R s := by
  induction items generalizing s with
  | nil => exact entry
  | cons x rest ih =>
    rw [Tx.forEach, wp_bind]
    refine wp_mono (iteration x (List.mem_cons_self ..) s entry) ?_ (fun _ _ raised => raised)
    intro _ s' kept
    exact ih kept fun y member => iteration y (List.mem_cons_of_mem x member)

theorem wp_forEach_each {X : Type} {body : X → Tx D M E Unit} {I : Session D M → Prop} {P : X → Session D M → Prop}
    {R : E → Session D M → Prop} {items : List X} {s : Session D M} (entry : I s)
    (iteration : ∀ x ∈ items, ∀ s', I s' → wp (body x) (fun _ after => I after ∧ P x after ∧ ∀ y, P y s' → P y after) R s') :
    wp (Tx.forEach items body) (fun _ after => I after ∧ ∀ x ∈ items, P x after) R s := by
  suffices ∀ done : List X, (∀ x ∈ done, P x s) →
      wp (Tx.forEach items body) (fun _ after => I after ∧ ∀ x ∈ done ++ items, P x after) R s by
    exact this [] fun x none => absurd none List.not_mem_nil
  induction items generalizing s with
  | nil => exact fun done each => ⟨entry, by rwa [List.append_nil]⟩
  | cons x rest ih =>
    intro done each
    rw [Tx.forEach, wp_bind]
    refine wp_mono (iteration x (List.mem_cons_self ..) s entry) ?_ fun _ _ raised => raised
    rintro _ s' ⟨kept, itself, others⟩
    have ran := ih kept (fun y member => iteration y (List.mem_cons_of_mem x member)) (done ++ [x]) fun y member => by
      rcases List.mem_append.mp member with earlier | last
      · exact others y (each y earlier)
      · exact List.mem_singleton.mp last ▸ itself
    rwa [List.append_assoc] at ran

section Endings

variable {t : Tx D M E A} {k : A → Tx D M E B} {s : Session D M}

/-- The computation ends without an exception. -/
def Finishes (t : Tx D M E A) (s : Session D M) : Prop := wp t (fun _ _ => True) (fun _ _ => False) s

/-- What holds of the value and the session that a computation leaves, if it does not raise. -/
def Then (t : Tx D M E A) (P : A → Session D M → Prop) (s : Session D M) : Prop := wp t P (fun _ _ => True) s

instance Finishes.decidable (t : Tx D M E A) (s : Session D M) : Decidable (Finishes t s) :=
  decidable_of_iff ((t s).1.isOk = true) <| by
    simp only [Finishes, wp]
    cases t s with
    | mk outcome after => cases outcome <;> simp [Except.isOk, Except.toBool]

theorem then_of_wp {P : A → Session D M → Prop} {R : E → Session D M → Prop} (holds : wp t P R s) : Then t P s :=
  wp_mono holds (fun _ _ held => held) fun _ _ _ => trivial

/-- A computation whose end tells whether `P`. -/
theorem finishes_iff {P : Prop} (known : wp t (fun _ _ => P) (fun _ _ => ¬P) s) : Finishes t s ↔ P := by
  simp only [Finishes, wp] at known ⊢
  cases run : t s with
  | mk outcome after =>
    rw [run] at known
    cases outcome <;> simpa using known

theorem Then.mono {P P' : A → Session D M → Prop} (holds : Then t P s) (implied : ∀ a s', P a s' → P' a s') :
    Then t P' s := wp_mono holds implied fun _ _ _ => trivial

theorem Then.and {P P' : A → Session D M → Prop} (first : Then t P s) (second : Then t P' s) :
    Then t (fun a s' => P a s' ∧ P' a s') s := by
  simp only [Then, wp] at first second ⊢
  cases same : t s with
  | mk outcome after =>
    rw [same] at first second
    cases outcome with
    | ok a => exact ⟨first, second⟩
    | error e => trivial

/-- Under what is known of a computation, two properties of what it leaves are the same. -/
theorem Then.congr {P P' Q : A → Session D M → Prop} (known : Then t Q s)
    (same : ∀ a s', Q a s' → (P a s' ↔ P' a s')) : Then t P s ↔ Then t P' s := by
  constructor
  · exact fun holds => (known.and holds).mono fun a s' both => (same a s' both.1).mp both.2
  · exact fun holds => (known.and holds).mono fun a s' both => (same a s' both.1).mpr both.2

theorem finishes_bind : Finishes (t >>= k) s ↔ Finishes t s ∧ Then t (fun a s' => Finishes (k a) s') s := by
  simp only [Finishes, Then, wp_bind]
  simp only [wp]
  cases t s with
  | mk outcome after => cases outcome <;> simp

/-- When the rest ends exactly if `P`, whatever the first part leaves. -/
theorem finishes_bind_of {P : Prop} {Q : A → Session D M → Prop} (known : Then t Q s)
    (rest : ∀ a s', Q a s' → (Finishes (k a) s' ↔ P)) : Finishes (t >>= k) s ↔ Finishes t s ∧ P := by
  rw [finishes_bind, Then.congr known rest]
  simp only [Finishes, Then, wp]
  cases t s with
  | mk outcome after => cases outcome <;> simp

variable {X : Type} {body : X → Tx D M E Unit}

/-- Every iteration of a loop meets a property of the session that it starts from. -/
def Throughout (body : X → Tx D M E Unit) (P : X → Session D M → Prop) : List X → Session D M → Prop
  | [], _ => True
  | x :: rest, s => P x s ∧ Then (body x) (fun _ => Throughout body P rest) s

/-- A loop ends exactly when each iteration does. -/
theorem finishes_forEach {P : X → Session D M → Prop} {I : Session D M → Prop} {items : List X} (entry : I s)
    (iteration : ∀ x ∈ items, ∀ s', I s' → (Finishes (body x) s' ↔ P x s') ∧ Then (body x) (fun _ => I) s') :
    Finishes (Tx.forEach items body) s ↔ Throughout body P items s := by
  induction items generalizing s with
  | nil => exact Iff.rfl
  | cons x rest ih =>
    obtain ⟨exactly, keeps⟩ := iteration x (List.mem_cons_self ..) s entry
    rw [Tx.forEach, finishes_bind, exactly, Throughout]
    refine and_congr_right fun _ => Then.congr keeps fun _ s' held => ?_
    exact ih held fun y member => iteration y (List.mem_cons_of_mem x member)

end Endings

section Invariants

variable {I : Session D M → Prop} {P : D → Prop} {t : Tx D M E A} {k : A → Tx D M E B}

/-- A computation that keeps an assertion about its session, also when it raises. -/
def Maintains (I : Session D M → Prop) (t : Tx D M E A) : Prop := ∀ s, I s → wp t (fun _ => I) (fun _ => I) s

theorem maintains_pure (a : A) : Maintains I (pure a : Tx D M E A) := fun _ holds => holds

theorem maintains_raise (e : E) : Maintains I (Tx.raise e : Tx D M E A) := fun _ holds => holds

theorem Maintains.bind (first : Maintains I t) (second : ∀ a, Maintains I (k a)) : Maintains I (t >>= k) := by
  intro s holds
  rw [wp_bind]
  exact wp_mono (first s holds) (fun a after held => second a after held) fun _ _ held => held

theorem Maintains.ite {c : Prop} [Decidable c] {u : Tx D M E A} (yes : c → Maintains I t) (no : ¬c → Maintains I u) :
    Maintains I (if c then t else u) := by
  split
  · exact yes ‹_›
  · exact no ‹_›

theorem Maintains.attempt (kept : Maintains I t) : Maintains I (Tx.attempt t) := by
  intro s holds
  rw [wp_attempt]
  exact kept s holds

theorem maintains_read : Maintains I (Tx.read : Tx D M E D) := fun _ holds => holds

theorem maintains_query : Maintains I (Tx.query : Tx D M E D) := fun _ holds => holds

theorem maintains_recollect : Maintains I (Tx.recollect : Tx D M E M) := fun _ holds => holds

/-- Assertions that survive the end of a transaction, and a flush. -/
class Transactional (I : Session D M → Prop) : Prop where
  flush : ∀ s, I s → I s.flush
  commit : ∀ s, I s → I s.commit
  rollback : ∀ s, I s → I s.rollback

theorem maintains_flush [Transactional I] : Maintains I (Tx.flush : Tx D M E Unit) := Transactional.flush

theorem maintains_commit [Transactional I] : Maintains I (Tx.commit : Tx D M E Unit) := Transactional.commit

theorem maintains_rollback [Transactional I] : Maintains I (Tx.rollback : Tx D M E Unit) := Transactional.rollback

/-- A property of what is committed, of what is flushed and of the loaded objects. -/
structure Everywhere (P : D → Prop) (s : Session D M) : Prop where
  committed : P s.committed
  flushed : P s.flushed
  working : P s.working

instance Everywhere.transactional : Transactional (Everywhere P : Session D M → Prop) where
  flush _ holds := ⟨holds.committed, holds.working, holds.working⟩
  commit _ holds := ⟨holds.working, holds.working, holds.working⟩
  rollback _ holds := ⟨holds.committed, holds.committed, holds.committed⟩

theorem everywhere_start {d : D} (holds : P d) (m : M) : Everywhere P (Session.start d m) := ⟨holds, holds, holds⟩

theorem Everywhere.commit {s : Session D M} (holds : Everywhere P s) : Everywhere P s.commit :=
  Transactional.commit s holds

/-- A computation that keeps a property of the store. -/
abbrev Preserves (P : D → Prop) (t : Tx D M E A) : Prop := Maintains (Everywhere P) t

theorem preserves_read {k : D → Tx D M E B} (next : ∀ d, P d → Preserves P (k d)) : Preserves P (Tx.read >>= k) :=
  fun s holds => next s.working holds.working s holds

theorem preserves_update {f : D → D} (kept : ∀ d, P d → P (f d)) : Preserves P (Tx.update f : Tx D M E Unit) :=
  fun _ holds => ⟨holds.committed, holds.flushed, kept _ holds.working⟩

theorem Preserves.committed (kept : Preserves P t) {d : D} (holds : P d) (m : M) :
    P (t.run (Session.start d m)).2.committed := by
  have after := kept _ (everywhere_start holds m)
  simp only [wp] at after
  simp only [Tx.run]
  generalize t (Session.start d m) = result at after ⊢
  obtain ⟨outcome, last⟩ := result
  cases outcome with
  | ok a => exact after.committed
  | error e => exact after.committed

end Invariants

section Silence

variable {t : Tx D M E A} {k : A → Tx D M E B}

def Silent (t : Tx D M E A) : Prop :=
  ∀ s, wp t (fun _ after => after.committed = s.committed) (fun _ after => after.committed = s.committed) s

def AllOrNothing (t : Tx D M E A) : Prop := ∀ s, wp t (fun _ _ => True) (fun _ after => after.committed = s.committed) s

theorem silent_pure (a : A) : Silent (pure a : Tx D M E A) := fun _ => rfl

theorem silent_raise (e : E) : Silent (Tx.raise e : Tx D M E A) := fun _ => rfl

theorem silent_read : Silent (Tx.read : Tx D M E D) := fun _ => rfl

theorem silent_update (f : D → D) : Silent (Tx.update f : Tx D M E Unit) := fun _ => rfl

theorem silent_flush : Silent (Tx.flush : Tx D M E Unit) := fun _ => rfl

theorem Silent.bind (first : Silent t) (second : ∀ a, Silent (k a)) : Silent (t >>= k) := by
  intro s
  rw [wp_bind]
  exact wp_mono (first s) (fun a after same => wp_mono (second a after) (fun _ _ held => held.trans same) fun _ _ held =>
    held.trans same) fun _ _ held => held

theorem Silent.ite {c : Prop} [Decidable c] {u : Tx D M E A} (yes : c → Silent t) (no : ¬c → Silent u) :
    Silent (if c then t else u) := by
  split
  · exact yes ‹_›
  · exact no ‹_›

theorem Silent.all (silent : Silent t) : AllOrNothing t :=
  fun s => wp_mono (silent s) (fun _ _ _ => trivial) fun _ _ held => held

theorem Silent.before (first : Silent t) (second : ∀ a, AllOrNothing (k a)) : AllOrNothing (t >>= k) := by
  intro s
  rw [wp_bind]
  exact wp_mono (first s) (fun a after same => wp_mono (second a after) (fun _ _ _ => trivial) fun _ _ held =>
    held.trans same) fun _ _ held => held

theorem AllOrNothing.map (first : AllOrNothing t) (f : A → B) : AllOrNothing (do let a ← t; pure (f a)) := by
  intro s
  rw [wp_bind]
  exact wp_mono (first s) (fun _ _ _ => trivial) fun _ _ held => held

theorem AllOrNothing.ite {c : Prop} [Decidable c] {u : Tx D M E A} (yes : c → AllOrNothing t) (no : ¬c → AllOrNothing u) :
    AllOrNothing (if c then t else u) := by
  split
  · exact yes ‹_›
  · exact no ‹_›

end Silence

/-- The committed state was reached from `origin` by `step`s, and the working copy
from the committed state: a commit at this point saves a reachable state. -/
structure Follows (step : D → D → Prop) (origin : D) (s : Session D M) : Prop where
  saved : ReflTransGen step origin s.committed
  pending : ReflTransGen step s.committed s.working

namespace Follows

variable {step : D → D → Prop} {origin : D} {s : Session D M}

theorem start (d : D) (m : M) : Follows step d (Session.start d m) := ⟨.refl, .refl⟩

theorem whole (follows : Follows step origin s) : ReflTransGen step origin s.working :=
  follows.saved.trans follows.pending

theorem commit (follows : Follows step origin s) : Follows step origin s.commit :=
  ⟨follows.whole, .refl⟩

theorem rollback (saved : ReflTransGen step origin s.committed) : Follows step origin s.rollback :=
  ⟨saved, .refl⟩

theorem flush (follows : Follows step origin s) : Follows step origin s.flush :=
  ⟨follows.saved, follows.pending⟩

theorem edit (follows : Follows step origin s) {d : D} (path : ReflTransGen step s.working d) :
    Follows step origin (s.edit d) := ⟨follows.saved, follows.pending.trans path⟩

theorem remember (follows : Follows step origin s) (m : M) :
    Follows step origin { s with memory := m } := ⟨follows.saved, follows.pending⟩

end Follows

/-- Run by run, `t` changes the store by `step`s only, whether or not it raises. -/
theorem committed_path {step : D → D → Prop} {t : Tx D M E A} {d : D} {m : M}
    (holds : wp t (fun _ => Follows step d) (fun _ s' => ReflTransGen step d s'.committed)
      (Session.start d m)) :
    ReflTransGen step d (t.run (Session.start d m)).2.committed := by
  simp only [wp] at holds
  simp only [Tx.run]
  cases same : t (Session.start d m) with
  | mk outcome after =>
    rw [same] at holds
    cases outcome with
    | ok a => exact holds.saved
    | error e => exact holds

end Foundation.UnitOfWork
