import Mathlib.Order.Lattice
import IdigestHub.Foundation.Table

/-! Fixed windows: the first hit of a key opens a window, every hit that it covers counts,
and as many hits are allowed as the limit of the key says. -/

set_option autoImplicit false

namespace Foundation.FixedWindow

variable {K T : Type} [DecidableEq K] [LinearOrder T]

/-- Which moments a window covers that a key has opened, and how many hits it allows. -/
structure Policy (K T : Type) [LE T] where
  covers : K → T → T → Bool
  limit : K → Nat
  antitone : ∀ {key opened now later}, now ≤ later → covers key opened later = true → covers key opened now = true

structure Window (T : Type) where
  opened : T
  hits : Nat

abbrev Windows (K T : Type) : Type := Table K (Window T)

variable (policy : Policy K T)

def current (windows : Windows K T) (now : T) (key : K) : Option (Window T) :=
  (windows.find key).filter fun window => policy.covers key window.opened now

def counted (windows : Windows K T) (now : T) (key : K) : Window T :=
  match current policy windows now key with
  | none => ⟨now, 1⟩
  | some window => { window with hits := window.hits + 1 }

def hit (windows : Windows K T) (now : T) (key : K) : Windows K T := windows.put key (counted policy windows now key)

def allows (windows : Windows K T) (now : T) (key : K) : Bool :=
  (counted policy windows now key).hits ≤ policy.limit key

def liveKeys (windows : Windows K T) (now : T) : Nat :=
  windows.count fun key window => policy.covers key window.opened now

/-- What one hit was answered; `opens` if it started a window. -/
structure Hit (K T : Type) where
  key : K
  time : T
  opens : Bool
  allowed : Bool

def recorded (windows : Windows K T) (now : T) (key : K) : Hit K T where
  key := key
  time := now
  opens := (current policy windows now key).isNone
  allowed := allows policy windows now key

def allowedIn (log : List (Hit K T)) (key : K) (start : T) : Nat :=
  log.countP fun hit => hit.key == key && hit.allowed && decide (start ≤ hit.time) && policy.covers key start hit.time

def Bounded (log : List (Hit K T)) : Prop :=
  ∀ first ∈ log, first.opens = true → allowedIn policy log first.key first.time ≤ policy.limit first.key

/-- What the windows know of the hits so far. A window need not cover the moment that opens it. -/
structure Kept (now : T) (windows : Windows K T) (log : List (Hit K T)) : Prop where
  past : ∀ hit ∈ log, hit.time ≤ now
  opened : ∀ key window, windows.find key = some window → window.opened ≤ now ∧ 0 < window.hits
  window : ∀ hit ∈ log, ∃ window, windows.find hit.key = some window ∧
    (window.opened < hit.time → policy.covers hit.key window.opened hit.time = true)
  count : ∀ key window, windows.find key = some window →
    allowedIn policy log key window.opened ≤ min window.hits (policy.limit key)
  earlier : ∀ first ∈ log, first.opens = true → ∀ window, windows.find first.key = some window →
    first.time = window.opened ∨ policy.covers first.key first.time window.opened = false
  bounded : Bounded policy log

variable {policy} {windows : Windows K T} {now later : T} {log : List (Hit K T)} {key : K}

theorem current_eq_some {window : Window T} :
    current policy windows now key = some window ↔
      windows.find key = some window ∧ policy.covers key window.opened now = true := by
  simp [current, Option.filter_eq_some_iff]

theorem ended_of_none {window : Window T} (none_current : current policy windows now key = none)
    (found : windows.find key = some window) : policy.covers key window.opened now = false := by
  simpa [current, found] using none_current

omit [DecidableEq K] in
theorem ended_later {opened : T} (ended : policy.covers key opened now = false) (le : now ≤ later) :
    policy.covers key opened later = false := by
  rw [← Bool.not_eq_true] at ended ⊢
  exact fun covered => ended (policy.antitone le covered)

omit [LinearOrder T] in
@[simp] theorem find_put_of_ne {other : K} {window : Window T} (different : other ≠ key) :
    (windows.put key window).find other = windows.find other := by
  rw [Table.find_put, if_neg different]

theorem allowedIn_append (entry : Hit K T) (start : T) :
    allowedIn policy (log ++ [entry]) key start = allowedIn policy log key start +
      if entry.key = key ∧ entry.allowed = true ∧ start ≤ entry.time ∧ policy.covers key start entry.time = true
      then 1 else 0 := by
  simp [allowedIn, List.countP_append, List.countP_cons, and_assoc]

/-- A hit outside of the window changes nothing in its count. -/
theorem allowedIn_outside {entry : Hit K T} {start : T}
    (outside : entry.key = key → policy.covers key start entry.time = false) :
    allowedIn policy (log ++ [entry]) key start = allowedIn policy log key start := by
  rw [allowedIn_append, if_neg, Nat.add_zero]
  rintro ⟨same, _, _, inside⟩
  rw [outside same] at inside
  contradiction

theorem kept_empty (now : T) : Kept policy now (∅ : Windows K T) [] where
  past := by simp
  opened := by simp [Table.find]
  window := by simp
  count := by simp [Table.find]
  earlier := by simp
  bounded := by simp [Bounded]

theorem Kept.mono (kept : Kept policy now windows log) (le : now ≤ later) : Kept policy later windows log :=
  { kept with
    past := fun hit member => (kept.past hit member).trans le
    opened := fun key window found => ((kept.opened key window found).imp_left fun begun => begun.trans le) }

section Hits

theorem Kept.none_counted (kept : Kept policy now windows log)
    (closed : current policy windows now key = none) : allowedIn policy log key now = 0 := by
  rw [allowedIn, List.countP_eq_zero]
  intro entry member counted
  simp only [Bool.and_eq_true, beq_iff_eq, decide_eq_true_eq] at counted
  obtain ⟨⟨⟨rfl, _⟩, since⟩, covered⟩ := counted
  have at_now : entry.time = now := (kept.past entry member).antisymm since
  obtain ⟨window, found, inside⟩ := kept.window entry member
  have ended := ended_of_none closed found
  rw [at_now] at covered inside
  -- the window of the key was opened before, and covers its hits; or right now, as a new one would be
  rcases (kept.opened entry.key window found).1.lt_or_eq with before | right_now
  · rw [inside before] at ended
    contradiction
  · rw [right_now, covered] at ended
    contradiction

theorem Kept.all_ended (kept : Kept policy now windows log) (closed : current policy windows now key = none)
    {first : Hit K T} (member : first ∈ log) (same : first.key = key) (opens : first.opens = true) :
    policy.covers key first.time now = false := by
  subst same
  obtain ⟨window, found, _⟩ := kept.window first member
  rcases kept.earlier first member opens window found with start | before
  · rw [start]
    exact ended_of_none closed found
  · exact ended_later before (kept.opened first.key window found).1

theorem Kept.opens (kept : Kept policy now windows log) (closed : current policy windows now key = none) :
    Kept policy now (windows.put key ⟨now, 1⟩) (log ++ [⟨key, now, true, decide (1 ≤ policy.limit key)⟩]) := by
  -- The key's last window has ended, so of the hits only the one that opens the new window counts in it.
  have fresh : allowedIn policy (log ++ [⟨key, now, true, decide (1 ≤ policy.limit key)⟩]) key now ≤
      min 1 (policy.limit key) := by
    rw [allowedIn_append, kept.none_counted closed]
    simp only [true_and, decide_eq_true_eq, Nat.zero_add]
    split <;> omega
  constructor
  · simp only [List.mem_append, List.mem_singleton]
    rintro entry (before | rfl)
    · exact kept.past entry before
    · exact le_rfl
  · intro other window found
    by_cases same : other = key
    · subst same
      obtain rfl : Window.mk now 1 = window := by simpa using found
      exact ⟨le_rfl, Nat.one_pos⟩
    · exact kept.opened other window (by simpa [same] using found)
  · simp only [List.mem_append, List.mem_singleton]
    rintro entry (before | rfl)
    · by_cases same : entry.key = key
      · refine ⟨⟨now, 1⟩, by rw [same, Table.find_put_self], fun ahead => ?_⟩
        exact absurd ahead (kept.past entry before).not_gt
      · obtain ⟨window, found, inside⟩ := kept.window entry before
        exact ⟨window, by rw [find_put_of_ne same, found], inside⟩
    · exact ⟨⟨now, 1⟩, Table.find_put_self .., fun ahead => absurd ahead (lt_irrefl now)⟩
  · intro other window found
    by_cases same : other = key
    · subst same
      obtain rfl : Window.mk now 1 = window := by simpa using found
      exact fresh
    · rw [allowedIn_outside fun here => absurd here.symm same]
      exact kept.count other window (by simpa [same] using found)
  · simp only [List.mem_append, List.mem_singleton]
    rintro first (before | rfl) opens window found
    · by_cases same : first.key = key
      · obtain rfl : Window.mk now 1 = window := by simpa [same] using found
        rw [same]
        exact .inr (kept.all_ended closed before same opens)
      · exact kept.earlier first before opens window (by simpa [same] using found)
    · obtain rfl : Window.mk now 1 = window := by simpa using found
      exact .inl rfl
  · simp only [Bounded, List.mem_append, List.mem_singleton]
    rintro first (before | rfl) opens
    · rw [allowedIn_outside fun here => ?_]
      · exact kept.bounded first before opens
      · rw [← here]
        exact kept.all_ended closed before here.symm opens
    · exact fresh.trans (Nat.min_le_right ..)

theorem Kept.counts (kept : Kept policy now windows log) {window : Window T}
    (open_window : current policy windows now key = some window) :
    Kept policy now (windows.put key { window with hits := window.hits + 1 })
      (log ++ [⟨key, now, false, decide (window.hits + 1 ≤ policy.limit key)⟩]) := by
  obtain ⟨found, inside⟩ := current_eq_some.mp open_window
  have begun := (kept.opened key window found).1
  -- the hit counts only while the limit is not reached
  have total : allowedIn policy (log ++ [⟨key, now, false, decide (window.hits + 1 ≤ policy.limit key)⟩]) key
      window.opened ≤ min (window.hits + 1) (policy.limit key) := by
    have before := kept.count key window found
    rw [allowedIn_append]
    simp only [true_and, decide_eq_true_eq, begun, inside, and_true]
    split <;> omega
  constructor
  · simp only [List.mem_append, List.mem_singleton]
    rintro entry (before | rfl)
    · exact kept.past entry before
    · exact le_rfl
  · intro other window' found'
    by_cases same : other = key
    · subst same
      obtain rfl : { window with hits := window.hits + 1 } = window' := by simpa using found'
      exact ⟨begun, Nat.succ_pos _⟩
    · exact kept.opened other window' (by simpa [same] using found')
  · simp only [List.mem_append, List.mem_singleton]
    rintro entry (before | rfl)
    · obtain ⟨window', found', inside'⟩ := kept.window entry before
      by_cases same : entry.key = key
      · obtain rfl : window = window' := Option.some.inj (found.symm.trans (same ▸ found'))
        exact ⟨{ window with hits := window.hits + 1 }, by rw [same, Table.find_put_self], inside'⟩
      · exact ⟨window', by rw [find_put_of_ne same, found'], inside'⟩
    · exact ⟨_, Table.find_put_self .., fun _ => inside⟩
  · intro other window' found'
    by_cases same : other = key
    · subst same
      obtain rfl : { window with hits := window.hits + 1 } = window' := by simpa using found'
      exact total
    · rw [allowedIn_outside fun here => absurd here.symm same]
      exact kept.count other window' (by simpa [same] using found')
  · simp only [List.mem_append, List.mem_singleton]
    rintro first (before | rfl) opens window' found'
    · by_cases same : first.key = key
      · obtain rfl : { window with hits := window.hits + 1 } = window' := by simpa [same] using found'
        exact kept.earlier first before opens window (same ▸ found)
      · exact kept.earlier first before opens window' (by simpa [same] using found')
    · contradiction
  · simp only [Bounded, List.mem_append, List.mem_singleton]
    rintro first (before | rfl) opens
    · by_cases same : first.key = key
      -- an entry of the window of now meets the new total; an earlier one its own
      · rcases kept.earlier first before opens window (same ▸ found) with start | ended
        · rw [same, start]
          exact total.trans (Nat.min_le_right ..)
        · rw [allowedIn_outside fun _ => ended_later ended begun]
          exact kept.bounded first before opens
      · rw [allowedIn_outside fun here => absurd here.symm same]
        exact kept.bounded first before opens
    · contradiction

/-- Every hit at a time that is not before the last one keeps the windows in step with the log. -/
theorem Kept.hit (kept : Kept policy now windows log) (le : now ≤ later) (key : K) :
    Kept policy later (hit policy windows later key) (log ++ [recorded policy windows later key]) := by
  have moved := kept.mono le
  cases open_window : current policy windows later key with
  | none =>
    have opened := moved.opens open_window
    simpa [FixedWindow.hit, recorded, allows, counted, open_window] using opened
  | some window =>
    have counts := moved.counts open_window
    simpa [FixedWindow.hit, recorded, allows, counted, open_window] using counts

end Hits

section Agreement

variable {other : Policy K T}

/-- Where both policies cover or leave the moment of the window of the key, its hit is the same for both. -/
theorem current_congr
    (same : ∀ window ∈ windows.find key, policy.covers key window.opened now = other.covers key window.opened now) :
    current policy windows now key = current other windows now key := by
  cases found : windows.find key with
  | none => simp [current, found]
  | some window => simp [current, found, Option.filter_some, same window found]

theorem hit_congr (same : current policy windows now key = current other windows now key) :
    hit policy windows now key = hit other windows now key := by
  rw [hit, hit, counted, counted, same]

theorem allows_congr (same : current policy windows now key = current other windows now key)
    (limits : policy.limit key = other.limit key) : allows policy windows now key = allows other windows now key := by
  rw [allows, allows, counted, counted, same, limits]

end Agreement

end Foundation.FixedWindow
