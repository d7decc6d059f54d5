import IdigestHub.Capture.Polling
import IdigestHub.System.Recordings
import Std.Data.String.ToNat

/-! How long the finalization of a stopped capture can last. -/

set_option autoImplicit false

namespace IdigestHub.System

open Foundation Foundation.UnitOfWork Capture

structure StoppedCapture (clock : Clock) extends RunningCapture where
  process : Process
  node : Nat
  since : Option Nat
  pollable : Pollable clock id process since task

section Runs

variable {world : World} {clock : Clock} (stuck : Int) (capture : StoppedCapture clock)
  (heard : Nat → Heard world.python)

def StoppedCapture.opened : Polling := ⟨capture.hub, capture.process, true⟩

def StoppedCapture.after (n : Nat) : Polling :=
  capture.opened.after world clock stuck capture.id capture.node heard n

/-- A finalization that the loop sees from its poll `first` on began then; the first one may have begun
before the thread did. -/
def StoppedCapture.began (first : Nat) : Nat :=
  if first = 0 then capture.since.getD (heard 0).time else (heard first).time

/-- The poll is made more than the bound after finalization began. -/
def StoppedCapture.Late (n : Nat) : Prop := stuck < ((heard n).time : Int) - capture.began heard 0

/-- Finalization is bounded: the first late poll leaves the task terminal, and so the loop ends. -/
structure StoppedCapture.Bounded : Prop where
  punctual : ∀ n, capture.Late stuck heard n → (capture.after stuck heard (n + 1)).Left capture.id
  ends : (∀ time, ∃ n, time < (heard n).time) → ∃ n, (capture.after stuck heard n).Left capture.id

/-- The worker is at work from one poll to another, without interruption, and was not just before. -/
structure Stretch (first last : Nat) : Prop where
  le : first ≤ last
  active : ∀ k, first ≤ k → k ≤ last → (heard k).active = true
  begins : first = 0 ∨ (heard (first - 1)).active = false

/-- The worker has been at work for too long. -/
def StoppedCapture.Overlong (n : Nat) : Prop :=
  ∃ first, Stretch heard first n ∧ stuck < ((heard n).time : Int) - capture.began heard first

variable {heard}

theorem Stretch.unique {first other last : Nat} (stretch : Stretch heard first last)
    (its : Stretch heard other last) : first = other := by
  have not_before {first other : Nat} (stretch : Stretch heard first last) (its : Stretch heard other last) :
      ¬first < other := by
    intro before
    rcases its.begins with zero | idle
    · omega
    · have active := stretch.active (other - 1) (by omega) (by have le := its.le; omega)
      rw [active] at idle
      contradiction
  exact Nat.le_antisymm (Nat.not_lt.mp (not_before its stretch)) (Nat.not_lt.mp (not_before stretch its))

variable (heard)

def StoppedCapture.timers : Nat → Option Nat
  | 0 => capture.since
  | n + 1 => (heard n).timer (StoppedCapture.timers n)

theorem exists_stretch {n : Nat} (active : (heard n).active = true) :
    ∃ first, Stretch heard first n ∧ (capture.timers heard n).getD (heard n).time = capture.began heard first := by
  induction n with
  | zero =>
    refine ⟨0, ⟨Nat.le_refl 0, fun k _ last => ?_, .inl rfl⟩, rfl⟩
    obtain rfl := Nat.le_zero.mp last
    exact active
  | succ n ih =>
    rw [StoppedCapture.timers, Heard.timer]
    cases before : (heard n).active with
    | false =>
      refine ⟨n + 1, ⟨Nat.le_refl _, fun k first last => ?_, .inr before⟩, rfl⟩
      obtain rfl := Nat.le_antisymm last first
      exact active
    | true =>
      obtain ⟨first, stretch, began⟩ := ih before
      refine ⟨first, ⟨Nat.le_succ_of_le stretch.le, fun k after last => ?_, stretch.begins⟩, began⟩
      rcases Nat.le_succ_iff.mp last with earlier | rfl
      · exact stretch.active k after earlier
      · exact active

theorem overdue_iff_overlong (n : Nat) :
    (heard n).overdue stuck (capture.timers heard n) = true ↔ capture.Overlong stuck heard n := by
  constructor
  · intro overdue
    obtain ⟨active, late⟩ := Bool.and_eq_true_iff.mp overdue
    obtain ⟨first, stretch, began⟩ := exists_stretch capture heard active
    exact ⟨first, stretch, began ▸ of_decide_eq_true late⟩
  · rintro ⟨first, stretch, late⟩
    have active := stretch.active n stretch.le (Nat.le_refl n)
    obtain ⟨other, its, began⟩ := exists_stretch capture heard active
    obtain rfl := stretch.unique its
    exact Bool.and_eq_true_iff.mpr ⟨active, decide_eq_true (began ▸ late)⟩

def StoppedCapture.endsAt (n : Nat) : Bool :=
  (heard n).ends stuck (capture.process.cancelled.contains capture.id) (capture.timers heard n)

variable {stuck}

theorem after_succ (n : Nat) : capture.after stuck heard (n + 1) =
    (capture.after stuck heard n).step world clock stuck capture.id capture.node (heard n) := rfl

theorem going_after {n : Nat} (none : ∀ k < n, capture.endsAt stuck heard k = false) :
    (capture.after stuck heard n).Going clock capture.id capture.process (capture.timers heard n) := by
  induction n with
  | zero => exact ⟨rfl, rfl, capture.task, capture.stored, capture.pollable⟩
  | succ n ih =>
    have step := (ih fun k before => none k (Nat.lt_succ_of_lt before)).step capture.node stuck (heard n)
    rwa [show (heard n).ends _ _ _ = false from none n (Nat.lt_succ_self n), if_neg Bool.false_ne_true] at step

theorem left_after {n : Nat} (ends : ∃ k ≤ n, capture.endsAt stuck heard k = true) :
    (capture.after stuck heard (n + 1)).Left capture.id := by
  induction n with
  | zero =>
    obtain ⟨k, last, ends⟩ := ends
    obtain rfl := Nat.le_zero.mp last
    have going : (capture.after stuck heard 0).Going clock capture.id capture.process (capture.timers heard 0) :=
      going_after capture heard (by simp)
    have step := going.step capture.node stuck (heard 0)
    rwa [show (heard 0).ends _ _ _ = true from ends, if_pos rfl] at step
  | succ n ih =>
    by_cases before : ∃ k ≤ n, capture.endsAt stuck heard k = true
    · have left := ih before
      rwa [after_succ, Polling.step_of_left _ _ _ left.1]
    · have none : ∀ k < n + 1, capture.endsAt stuck heard k = false := fun k earlier =>
        Bool.eq_false_iff.mpr fun ends => before ⟨k, Nat.le_of_lt_succ earlier, ends⟩
      obtain ⟨k, last, ends⟩ := ends
      obtain rfl : k = n + 1 := by
        rcases Nat.le_succ_iff.mp last with earlier | same
        · exact absurd ⟨k, earlier, ends⟩ before
        · exact same
      have step := (going_after capture heard none).step capture.node stuck (heard (n + 1))
      rwa [show (heard (n + 1)).ends _ _ _ = true from ends, if_pos rfl] at step

theorem left_after_iff (n : Nat) :
    (capture.after stuck heard (n + 1)).Left capture.id ↔ ∃ k ≤ n, capture.endsAt stuck heard k = true := by
  refine ⟨fun left => ?_, left_after capture heard⟩
  by_contra none
  push Not at none
  have going : (capture.after stuck heard (n + 1)).Going clock capture.id capture.process (capture.timers heard (n + 1)) :=
    going_after capture heard fun k before => Bool.eq_false_iff.mpr (none k (Nat.le_of_lt_succ before))
  exact Bool.noConfusion (going.going.symm.trans left.1)

/-- A finalization is bounded exactly when, by each poll that comes too late, the task was canceled, or a
poll failed for good, or the worker was at work for too long without interruption. -/
theorem finalization_bounded_iff :
    capture.Bounded stuck heard ↔ ∀ n, capture.Late stuck heard n → ∃ k ≤ n,
      capture.id ∈ capture.process.cancelled ∨ (heard k).fatal = true ∨ capture.Overlong stuck heard k := by
  have ends_iff (k : Nat) : capture.endsAt stuck heard k = true ↔
      capture.id ∈ capture.process.cancelled ∨ (heard k).fatal = true ∨ capture.Overlong stuck heard k := by
    rw [StoppedCapture.endsAt, Heard.ends, Bool.or_eq_true, Bool.or_eq_true, overdue_iff_overlong, or_assoc,
      List.contains_iff_mem]
  simp only [← ends_iff, ← left_after_iff]
  constructor
  · exact fun bounded => bounded.punctual
  · intro punctual
    refine ⟨punctual, fun unbounded => ?_⟩
    obtain ⟨n, late⟩ := unbounded (capture.began heard 0 + stuck.toNat)
    exact ⟨n + 1, punctual n (by rw [StoppedCapture.Late]; omega)⟩

end Runs

section Samples

def decimalClock : Clock := ⟨Nat.repr, String.toNat?, Nat.toNat?_repr⟩

def stoppedMeeting : StoppedCapture decimalClock where
  toRunningCapture := meeting
  process := { spawned with stopRequested := [5] }
  node := 1
  since := none
  pollable := ⟨rfl, rfl⟩

/-- The worker says that it is done, with a file that never becomes ready. -/
def fileless (n : Nat) : Heard silentWorld.python where
  reply := .answer 200 [("status", .str "success"), ("artifact", .obj [("ready", .bool false)])]
  time := n * 2000000
  detail := ""
  unready := by
    rintro code poll same
    obtain ⟨rfl, rfl⟩ := Reply.answer.inj same
    decide +kernel

/-- The loop polls for ever. -/
theorem fileless_capture_never_ends : ¬stoppedMeeting.Bounded 1200000000 fileless ∧
    ∀ n, (stoppedMeeting.after 1200000000 fileless n).going = true := by
  have never (k : Nat) : stoppedMeeting.endsAt 1200000000 fileless k = false := by
    have overdue : (fileless k).overdue 1200000000 (stoppedMeeting.timers fileless k) = false := rfl
    rw [StoppedCapture.endsAt, Heard.ends, overdue]
    rfl
  have going (n : Nat) := (going_after stoppedMeeting fileless fun k (_ : k < n) => never k).going
  refine ⟨fun bounded => ?_, going⟩
  have left := bounded.punctual 601 (show (1200000000 : Int) < (601 * 2000000 : Nat) - (0 * 2000000 : Nat) by decide)
  exact Bool.noConfusion ((going 602).symm.trans left.1)

end Samples

end IdigestHub.System
