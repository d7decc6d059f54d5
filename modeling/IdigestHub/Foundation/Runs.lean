import Mathlib.Data.List.Basic
import Mathlib.Data.List.Induction

/-! Runs of a deterministic machine over a list of events, and what holds all along one. -/

set_option autoImplicit false

namespace Foundation.Runs

variable {S E : Type} (step : S → E → S)

def run (s : S) (events : List E) : S := events.foldl step s

def Along (good : S → E → Prop) : S → List E → Prop
  | _, [] => True
  | s, e :: rest => good s e ∧ Along good (step s e) rest

/-- A property of every state of the run, its first and its last included. -/
def Always (I : S → Prop) (s : S) (events : List E) : Prop :=
  ∀ done rest, events = done ++ rest → I (run step s done)

instance Along.decidable (good : S → E → Prop) [∀ s e, Decidable (good s e)] :
    ∀ s events, Decidable (Along step good s events)
  | _, [] => .isTrue trivial
  | s, e :: rest => have := Along.decidable good (step s e) rest; inferInstanceAs (Decidable (_ ∧ _))

variable {step}

@[simp] theorem run_nil (s : S) : run step s [] = s := rfl

@[simp] theorem run_cons (s : S) (e : E) (rest : List E) :
    run step s (e :: rest) = run step (step s e) rest := rfl

theorem run_append (s : S) (first second : List E) :
    run step s (first ++ second) = run step (run step s first) second := List.foldl_append ..

/-- What the start satisfies and each step keeps, knowing the events so far, holds after every run. -/
theorem run_induction {I : List E → S → Prop} {s : S} (start : I [] s)
    (kept : ∀ done e s', I done s' → I (done ++ [e]) (step s' e)) (events : List E) :
    I events (run step s events) := by
  induction events using List.reverseRecOn with
  | nil => exact start
  | append_singleton done e ih =>
    rw [run_append]
    exact kept done e _ ih

theorem always_cons {I : S → Prop} {s : S} {e : E} {rest : List E} :
    Always step I s (e :: rest) ↔ I s ∧ Always step I (step s e) rest := by
  constructor
  · intro always
    refine ⟨always [] (e :: rest) rfl, ?_⟩
    intro done left same
    exact always (e :: done) left (by rw [same]; rfl)
  · rintro ⟨now, later⟩ done left same
    cases done with
    | nil => exact now
    | cons first done =>
      obtain ⟨here, tail⟩ := List.cons.inj same
      subst here
      exact later done left tail

/-- Steps that keep an invariant when they are good keep it along a good run. -/
theorem always_of_along {I : S → Prop} {good : S → E → Prop}
    (kept : ∀ s e, I s → good s e → I (step s e)) {s : S} (start : I s) {events : List E}
    (along : Along step good s events) : Always step I s events := by
  induction events generalizing s with
  | nil =>
    intro done rest same
    obtain ⟨rfl, _⟩ := List.append_eq_nil_iff.mp same.symm
    exact start
  | cons e rest ih =>
    obtain ⟨good_now, later⟩ := along
    exact always_cons.mpr ⟨start, ih (kept s e start good_now) later⟩

theorem along_of_invariant {I : S → Prop} {good promised : S → E → Prop}
    (kept : ∀ s e, I s → good s e → I (step s e)) (promise : ∀ s e, I s → good s e → promised s e) {s : S} (start : I s)
    {events : List E} (along : Along step good s events) : Along step promised s events := by
  induction events generalizing s with
  | nil => trivial
  | cons e rest ih => exact ⟨promise s e start along.1, ih (kept s e start along.1) along.2⟩

theorem along_of_kept {I : S → Prop} {promised : S → E → Prop} (kept : ∀ s e, I s → I (step s e))
    (promise : ∀ s e, I s → promised s e) {s : S} (start : I s) (events : List E) : Along step promised s events := by
  induction events generalizing s with
  | nil => trivial
  | cons e rest ih => exact ⟨promise s e start, ih (kept s e start)⟩

theorem along_and {first second : S → E → Prop} {s : S} {events : List E} (one : Along step first s events)
    (other : Along step second s events) : Along step (fun s e => first s e ∧ second s e) s events := by
  induction events generalizing s with
  | nil => trivial
  | cons e rest ih => exact ⟨⟨one.1, other.1⟩, ih one.2 other.2⟩

theorem along_append {good : S → E → Prop} {s : S} {first second : List E} :
    Along step good s (first ++ second) ↔ Along step good s first ∧ Along step good (run step s first) second := by
  induction first generalizing s with
  | nil => simp [Along]
  | cons e rest ih => rw [List.cons_append, Along, Along, ih, and_assoc, run_cons]

/-- Where two conditions on a step agree, they agree along a run. -/
theorem along_congr {A : S → Prop} {good good' : S → E → Prop} (kept : ∀ s e, A s → A (step s e))
    (same : ∀ s e, A s → (good s e ↔ good' s e)) {s : S} (sound : A s) {events : List E} :
    Along step good s events ↔ Along step good' s events := by
  induction events generalizing s with
  | nil => exact Iff.rfl
  | cons e rest ih => exact and_congr (same s e sound) (ih (kept s e sound))

/-- When a good step is exactly one that keeps the invariant, the runs on which it
always holds are the runs of good steps. -/
theorem always_iff_along {I : S → Prop} {good : S → E → Prop}
    (exact_step : ∀ s e, I s → (I (step s e) ↔ good s e)) {s : S} (start : I s) {events : List E} :
    Always step I s events ↔ Along step good s events := by
  constructor
  · intro always
    induction events generalizing s with
    | nil => trivial
    | cons e rest ih =>
      obtain ⟨_, later⟩ := always_cons.mp always
      have next : I (step s e) := later [] rest rfl
      exact ⟨(exact_step s e start).mp next, ih next later⟩
  · exact always_of_along (fun s e now good_now => (exact_step s e now).mpr good_now) start

theorem always_iff_along_where {A I : S → Prop} {allowed good : S → E → Prop} (kept : ∀ s e, A s → A (step s e))
    (exact_step : ∀ s e, A s → allowed s e → I s → (I (step s e) ↔ good s e)) {s : S} (sound : A s) (start : I s)
    {events : List E} (along : Along step allowed s events) : Always step I s events ↔ Along step good s events := by
  induction events generalizing s with
  | nil =>
    refine iff_of_true ?_ trivial
    intro done rest same
    obtain ⟨rfl, _⟩ := List.append_eq_nil_iff.mp same.symm
    exact start
  | cons e rest ih =>
    have now := exact_step s e sound along.1 start
    rw [always_cons, Along]
    constructor
    · rintro ⟨_, later⟩
      have next : I (step s e) := later [] rest rfl
      exact ⟨now.mp next, (ih (kept s e sound) next along.2).mp later⟩
    · rintro ⟨good_now, later⟩
      exact ⟨start, (ih (kept s e sound) (now.mpr good_now) along.2).mpr later⟩

theorem always_iff_along_of {A I : S → Prop} {good : S → E → Prop} (kept : ∀ s e, A s → A (step s e))
    (exact_step : ∀ s e, A s → I s → (I (step s e) ↔ good s e)) {s : S} (sound : A s) (start : I s)
    {events : List E} : Always step I s events ↔ Along step good s events := by
  have all : ∀ s : S, Along step (fun _ _ => True) s events := by
    induction events with
    | nil => exact fun _ => trivial
    | cons e rest ih => exact fun s => ⟨trivial, ih (step s e)⟩
  exact always_iff_along_where kept (fun s e sound _ now => exact_step s e sound now) sound start (all s)

end Foundation.Runs
