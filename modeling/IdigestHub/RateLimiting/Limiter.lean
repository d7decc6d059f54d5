import IdigestHub.RateLimiting.Stores

/-! The store that a server is configured with, and the checks of a request against it. -/

set_option autoImplicit false

namespace IdigestHub.RateLimiting

open Foundation

inductive RateLimitStore where
  | memory (store : MemoryRateLimitStore)
  | valkey (keys : ValkeyRateLimitStore)

namespace RateLimitStore

def backend : RateLimitStore → Backend
  | .memory _ => .memory
  | .valkey _ => .valkey

def hit (key : String) (limit : Int) (windowSec now later : ℚ) : RateLimitStore → Verdict × RateLimitStore
  | .memory store =>
    let (verdict, store) := store.hit key limit windowSec now later
    (verdict, .memory store)
  | .valkey keys =>
    let (verdict, keys) := ValkeyRateLimitStore.hit keys key limit windowSec now
    (verdict, .valkey keys)

/-- A hit of the key at the moment starts a window. -/
def opens (now : ℚ) (key : String) : RateLimitStore → Bool
  | .memory store => ((store.counted (monotonic now)).buckets.find key).all fun bucket => bucket.expiresAt ≤ monotonic now
  | .valkey keys => (Keyspace.get keys now (keyPrefix ++ key)).isNone

def purge (now : ℚ) : RateLimitStore → RateLimitStore
  | .memory store => .memory (store.purge now)
  | .valkey keys => .valkey keys

@[simp] theorem hit_backend (store : RateLimitStore) (key : String) (limit : Int) (windowSec now later : ℚ) :
    (store.hit key limit windowSec now later).2.backend = store.backend := by
  cases store <;> rfl

@[simp] theorem purge_backend (store : RateLimitStore) (now : ℚ) : (store.purge now).backend = store.backend := by
  cases store <;> rfl

def Counts (limits : Limits) (windows : FixedWindow.Windows String ℚ) (now : ℚ) : RateLimitStore → Prop
  | .memory store => MemoryCounts limits windows now store.buckets
  | .valkey keys => ValkeyCounts limits windows now keys

theorem Counts.later {limits : Limits} {windows : FixedWindow.Windows String ℚ} {now later : ℚ}
    {store : RateLimitStore} (counts : store.Counts limits windows now) (le : now ≤ later) :
    store.Counts limits windows later := by
  cases store with
  | memory store => exact MemoryCounts.mono counts le
  | valkey keys => exact ValkeyCounts.mono counts le

def Room (limits : Limits) (windows : FixedWindow.Windows String ℚ) (later : ℚ) : RateLimitStore → Prop
  | .memory _ => FixedWindow.liveKeys (limits.policy .memory) windows later < maxBuckets
  | .valkey _ => True

instance (limits : Limits) (windows : FixedWindow.Windows String ℚ) (later : ℚ) :
    ∀ store, Decidable (Room limits windows later store)
  | .memory _ => inferInstanceAs (Decidable (_ < _))
  | .valkey _ => inferInstanceAs (Decidable True)

end RateLimitStore

/-- The store under its clock, which does not go back. The hits and the windows are kept for the
statements only. -/
structure Limiter where
  store : RateLimitStore
  hits : List (FixedWindow.Hit String ℚ)
  windows : FixedWindow.Windows String ℚ
  clock : ℚ

/-- A check of a key, which reads the clock twice. -/
structure Check where
  key : String
  now : ℚ
  later : ℚ

namespace Limiter

def fresh (store : RateLimitStore) : Limiter := ⟨store, [], ∅, 0⟩

def hit (limits : Limits) (limiter : Limiter) (check : Check) : Bool × Limiter :=
  let now := max limiter.clock check.now
  let later := max now check.later
  let limit := limits.limit check.key
  let (verdict, store) := limiter.store.hit check.key limit (limits.windowSec check.key) now later
  (verdict.1, {
    store
    hits :=
      if limit ≤ 0 then limiter.hits
      else limiter.hits ++ [⟨check.key, now, limiter.store.opens now check.key, verdict.1⟩]
    windows :=
      if limit ≤ 0 then limiter.windows
      else FixedWindow.hit (limits.policy limiter.store.backend) limiter.windows now check.key
    clock := later })

def enforceChecks (limits : Limits) : Limiter → List Check → Bool × Limiter
  | limiter, [] => (true, limiter)
  | limiter, check :: rest =>
    let (allowed, limiter) := limiter.hit limits check
    let (passes, limiter) := enforceChecks limits limiter rest
    (allowed && passes, limiter)

def purge (limiter : Limiter) (now : ℚ) : Limiter :=
  { limiter with store := limiter.store.purge (max limiter.clock now), clock := max limiter.clock now }

def Room (limits : Limits) : Limiter → List Check → Prop
  | _, [] => True
  | limiter, check :: rest =>
    limiter.store.Room limits limiter.windows (max (max limiter.clock check.now) check.later) ∧
      Room limits (limiter.hit limits check).2 rest

instance Room.decidable (limits : Limits) : ∀ limiter checks, Decidable (Room limits limiter checks)
  | _, [] => inferInstanceAs (Decidable True)
  | limiter, check :: rest =>
    have := Room.decidable limits (limiter.hit limits check).2 rest
    inferInstanceAs (Decidable (_ ∧ _))

structure Counting (limits : Limits) (limiter : Limiter) : Prop where
  counts : limiter.store.Counts limits limiter.windows limiter.clock
  kept : FixedWindow.Kept (limits.policy limiter.store.backend) limiter.clock limiter.windows limiter.hits

section Counting

variable {limits : Limits} {limiter : Limiter}

theorem Counting.later (counting : Counting limits limiter) {later : ℚ} (le : limiter.clock ≤ later) :
    Counting limits { limiter with clock := later } := by
  exact ⟨counting.counts.later le, counting.kept.mono le⟩

variable (limits limiter) in
@[simp] theorem backend_hit (check : Check) : (limiter.hit limits check).2.store.backend = limiter.store.backend := by
  simp [Limiter.hit]

@[simp] theorem backend_enforceChecks (checks : List Check) :
    (limiter.enforceChecks limits checks).2.store.backend = limiter.store.backend := by
  induction checks generalizing limiter with
  | nil => rfl
  | cons check rest ih => exact ih.trans (backend_hit limits limiter check)

theorem Counting.purge (counting : Counting limits limiter) (now : ℚ) : Counting limits (limiter.purge now) := by
  have kept := counting.kept.mono (le_max_left limiter.clock now)
  refine ⟨?_, by simpa only [Limiter.purge, RateLimitStore.purge_backend] using kept⟩
  have counts := counting.counts
  simp only [Limiter.purge]
  cases kind : limiter.store with
  | memory store =>
    rw [kind] at counts
    exact MemoryCounts.purge counts (le_max_left ..)
  | valkey keys =>
    rw [kind] at counts
    exact ValkeyCounts.mono counts (le_max_left ..)

theorem Counting.limited_hit (counting : Counting limits limiter) {check : Check} (limited : 0 < limits.limit check.key)
    (room : limiter.store.Room limits limiter.windows (max (max limiter.clock check.now) check.later)) :
    (limiter.hit limits check).2.store.Counts limits
        (FixedWindow.hit (limits.policy limiter.store.backend) limiter.windows (max limiter.clock check.now) check.key)
        (max (max limiter.clock check.now) check.later) ∧
      (⟨check.key, max limiter.clock check.now, limiter.store.opens (max limiter.clock check.now) check.key,
        (limiter.hit limits check).1⟩ : FixedWindow.Hit String ℚ) =
        FixedWindow.recorded (limits.policy limiter.store.backend) limiter.windows (max limiter.clock check.now) check.key := by
  have counts := counting.counts
  have since : limiter.clock ≤ max limiter.clock check.now := le_max_left ..
  have le : max limiter.clock check.now ≤ max (max limiter.clock check.now) check.later := le_max_left ..
  cases kind : limiter.store with
  | memory store =>
    rw [kind] at counts room
    have answered := memory_hit counts limited since le room
    simp only [Limiter.hit, kind, RateLimitStore.hit, RateLimitStore.opens, RateLimitStore.backend, FixedWindow.recorded]
    exact ⟨answered.2.1, by rw [answered.1, answered.2.2]⟩
  | valkey keys =>
    rw [kind] at counts
    have answered := valkey_hit counts limited since fun window found => (counting.kept.opened check.key window found).2
    simp only [Limiter.hit, kind, RateLimitStore.hit, RateLimitStore.opens, RateLimitStore.backend, FixedWindow.recorded]
    refine ⟨ValkeyCounts.mono answered.2 le, ?_⟩
    rw [answered.1, counts _ since, Option.isNone_map]

theorem Counting.hit (counting : Counting limits limiter) {check : Check}
    (room : limiter.store.Room limits limiter.windows (max (max limiter.clock check.now) check.later)) :
    Counting limits (limiter.hit limits check).2 := by
  have since : limiter.clock ≤ max (max limiter.clock check.now) check.later :=
    (le_max_left ..).trans (le_max_left ..)
  by_cases unlimited : limits.limit check.key ≤ 0
  · -- Without a limit only the clock moves.
    have same : (limiter.hit limits check).2 =
        { limiter with clock := max (max limiter.clock check.now) check.later } := by
      cases kind : limiter.store with
      | memory store => simp [Limiter.hit, kind, RateLimitStore.hit, MemoryRateLimitStore.hit, unlimited]
      | valkey keys => simp [Limiter.hit, kind, RateLimitStore.hit, ValkeyRateLimitStore.hit, unlimited]
    rw [same]
    exact counting.later since
  · have answered := counting.limited_hit (lt_of_not_ge unlimited) room
    have kept := (counting.kept.hit (le_max_left ..) check.key).mono
      (le_max_left (max limiter.clock check.now) check.later)
    rw [← answered.2] at kept
    constructor
    · simpa only [Limiter.hit, if_neg unlimited] using answered.1
    · rw [backend_hit]
      simpa only [Limiter.hit, if_neg unlimited] using kept

theorem Counting.enforceChecks (counting : Counting limits limiter) {checks : List Check}
    (room : limiter.Room limits checks) : Counting limits (limiter.enforceChecks limits checks).2 := by
  induction checks generalizing limiter with
  | nil => exact counting
  | cons check rest ih => exact ih (counting.hit room.1) room.2

end Counting

section Hits

variable {limits : Limits} {limiter : Limiter}

variable (limits limiter) in
theorem hit_hits (check : Check) : ∃ added, (limiter.hit limits check).2.hits = limiter.hits ++ added ∧
    (added = [] ↔ limits.limit check.key ≤ 0) := by
  by_cases unlimited : limits.limit check.key ≤ 0
  · exact ⟨[], by simp [Limiter.hit, unlimited], by simp [unlimited]⟩
  · exact ⟨_, by simp only [Limiter.hit, if_neg unlimited]; rfl, by simp [unlimited]⟩

variable (limits limiter) in
/-- The checks only add hits, and add none exactly when no key has a limit. -/
theorem enforceChecks_hits (checks : List Check) : ∃ added,
    (limiter.enforceChecks limits checks).2.hits = limiter.hits ++ added ∧
    (added = [] ↔ ∀ check ∈ checks, limits.limit check.key ≤ 0) := by
  induction checks generalizing limiter with
  | nil => exact ⟨[], by simp [Limiter.enforceChecks], by simp⟩
  | cons check rest ih =>
    obtain ⟨first, at_first, none_first⟩ := hit_hits limits limiter check
    obtain ⟨later, at_rest, none_later⟩ := ih (limiter.hit limits check).2
    refine ⟨first ++ later, ?_, ?_⟩
    · rw [Limiter.enforceChecks, ← List.append_assoc, ← at_first]
      exact at_rest
    · rw [List.append_eq_nil_iff, none_first, none_later, List.forall_mem_cons]

theorem enforceChecks_first {check : Check} (limited : 0 < limits.limit check.key) (rest : List Check) :
    ∃ opens allowed added, (limiter.enforceChecks limits (check :: rest)).2.hits =
        limiter.hits ++ [⟨check.key, max limiter.clock check.now, opens, allowed⟩] ++ added ∧
      ((limiter.enforceChecks limits (check :: rest)).1 = true → allowed = true) := by
  obtain ⟨added, same, _⟩ := enforceChecks_hits limits (limiter.hit limits check).2 rest
  refine ⟨limiter.store.opens (max limiter.clock check.now) check.key, (limiter.hit limits check).1, added, ?_, ?_⟩
  · have hit : (limiter.hit limits check).2.hits = limiter.hits ++
        [⟨check.key, max limiter.clock check.now, limiter.store.opens (max limiter.clock check.now) check.key,
          (limiter.hit limits check).1⟩] := by
      rw [Limiter.hit]
      exact if_neg limited.not_ge
    rw [← hit]
    exact same
  · intro passes
    rw [Limiter.enforceChecks, Bool.and_eq_true] at passes
    exact passes.1

theorem enforceChecks_unlimited {checks : List Check} (unlimited : ∀ check ∈ checks, limits.limit check.key ≤ 0) :
    (limiter.enforceChecks limits checks).1 = true := by
  induction checks generalizing limiter with
  | nil => rfl
  | cons check rest ih =>
    have passes : (limiter.hit limits check).1 = true := by
      have free := unlimited check List.mem_cons_self
      cases kind : limiter.store with
      | memory store => simp [Limiter.hit, kind, RateLimitStore.hit, MemoryRateLimitStore.hit, free]
      | valkey keys => simp [Limiter.hit, kind, RateLimitStore.hit, ValkeyRateLimitStore.hit, free]
    simp only [Limiter.enforceChecks, passes, Bool.true_and]
    exact ih fun other inside => unlimited other (List.mem_cons_of_mem _ inside)

theorem allowedIn_mono (policy : FixedWindow.Policy String ℚ) (log added : List (FixedWindow.Hit String ℚ)) (key : String)
    (start : ℚ) : FixedWindow.allowedIn policy log key start ≤ FixedWindow.allowedIn policy (log ++ added) key start := by
  rw [FixedWindow.allowedIn, FixedWindow.allowedIn, List.countP_append]
  exact Nat.le_add_right ..

end Hits

end Limiter

end IdigestHub.RateLimiting
