import IdigestHub.Foundation.Binary64
import IdigestHub.Foundation.FixedWindow
import IdigestHub.Foundation.Keyspace
import IdigestHub.Foundation.Runs
import Mathlib.Algebra.Order.Floor.Ring
import Mathlib.Data.List.MinMax
import Mathlib.Data.Rat.Floor
import Mathlib.Tactic.Linarith

/-! The two counters behind the rate limits, and that both count fixed windows. Times are seconds;
the memory store computes with doubles. -/

set_option autoImplicit false

namespace IdigestHub.RateLimiting

open Foundation Foundation.Runs

def maxBuckets : Nat := 20000

def purgeEvery : Nat := 100

/-- `time.monotonic()` at a moment. -/
def monotonic (moment : ℚ) : ℚ := Binary64.round moment

structure Bucket where
  count : Int
  expiresAt : ℚ

abbrev Buckets : Type := Table String Bucket

/-- Whether a request may pass, and the seconds after which it may be tried again. -/
abbrev Verdict : Type := Bool × Int

def purgeExpired (now : ℚ) (buckets : Buckets) : Buckets := buckets.keep fun _ bucket => now < bucket.expiresAt

def oldestKey (buckets : Buckets) : Option String :=
  (buckets.entries.argmin fun entry => entry.2.expiresAt).map Sigma.fst

/-- The loop of `_evict_if_needed`; each turn takes a bucket away. -/
def evictOldest : Nat → Buckets → Buckets
  | 0, buckets => buckets
  | turns + 1, buckets =>
    if maxBuckets ≤ buckets.size then
      match oldestKey buckets with
      | none => buckets
      | some key => evictOldest turns (buckets.delete key)
    else buckets

/-- `_evict_if_needed`, which reads the clock once more. -/
def evictIfNeeded (later : ℚ) (buckets : Buckets) : Buckets :=
  if buckets.size < maxBuckets then buckets
  else
    let left := purgeExpired later buckets
    evictOldest left.size left

structure MemoryRateLimitStore where
  buckets : Buckets
  hitCount : Nat

namespace MemoryRateLimitStore

def opened (store : MemoryRateLimitStore) (key : String) (windowSec now later : ℚ) : MemoryRateLimitStore :=
  { store with buckets := (evictIfNeeded later store.buckets).assign key ⟨1, Binary64.round (now + windowSec)⟩ }

def counted (store : MemoryRateLimitStore) (now : ℚ) : MemoryRateLimitStore :=
  let hitCount := store.hitCount + 1
  ⟨if hitCount % purgeEvery = 0 then purgeExpired now store.buckets else store.buckets, hitCount⟩

def hit (store : MemoryRateLimitStore) (key : String) (limit : Int) (windowSec now later : ℚ) :
    Verdict × MemoryRateLimitStore :=
  if limit ≤ 0 then ((true, 0), store)
  else
    let now := monotonic now
    let store := store.counted now
    match store.buckets.find key with
    | none => ((true, 0), store.opened key windowSec now (monotonic later))
    | some bucket =>
      if bucket.expiresAt ≤ now then ((true, 0), store.opened key windowSec now (monotonic later))
      else if limit ≤ bucket.count then ((false, max 1 ⌈Binary64.round (bucket.expiresAt - now)⌉), store)
      else ((true, 0), { store with buckets := store.buckets.assign key { bucket with count := bucket.count + 1 } })

def purge (store : MemoryRateLimitStore) (now : ℚ) : MemoryRateLimitStore :=
  { store with buckets := purgeExpired (monotonic now) store.buckets }

end MemoryRateLimitStore

abbrev ValkeyRateLimitStore : Type := Keyspace String Int ℚ

def keyPrefix : String := "hub:rl:"

def pttl (keys : ValkeyRateLimitStore) (now : ℚ) (key : String) : Int :=
  match Keyspace.get keys now key with
  | none => -2
  | some entry => entry.expiresAt.elim (-1) fun expiry => ⌊(expiry - now) * 1000⌋

def windowMs (windowSec : ℚ) : Int := max 1 ⌈Binary64.round (windowSec * 1000)⌉

/-- The key counted up; the first count starts its expiry. -/
def ValkeyRateLimitStore.counted (keys : ValkeyRateLimitStore) (key : String) (windowSec now : ℚ) :
    Int × ValkeyRateLimitStore :=
  let (count, keys) := Keyspace.incr keys now key
  (count, if count = 1 then Keyspace.expire keys now key (now + windowMs windowSec / 1000) else keys)

def ValkeyRateLimitStore.hit (keys : ValkeyRateLimitStore) (key : String) (limit : Int) (windowSec now : ℚ) :
    Verdict × ValkeyRateLimitStore :=
  if limit ≤ 0 then ((true, 0), keys)
  else
    let (count, keys) := ValkeyRateLimitStore.counted keys (keyPrefix ++ key) windowSec now
    if limit < count then
      let ttlMs := pttl keys now (keyPrefix ++ key)
      let ttlMs := if ttlMs < 0 then windowMs windowSec else ttlMs
      ((false, max 1 ⌈Binary64.round (ttlMs / 1000)⌉), keys)
    else ((true, 0), keys)

inductive Backend where
  | memory | valkey

def Backend.covers (windowSec opened now : ℚ) : Backend → Bool
  | .memory => monotonic now < Binary64.round (monotonic opened + windowSec)
  | .valkey => now < opened + windowMs windowSec / 1000

theorem monotonic_mono : Monotone monotonic := Binary64.round_mono

theorem Backend.covers_antitone {windowSec opened now later : ℚ} (le : now ≤ later) :
    ∀ backend : Backend, backend.covers windowSec opened later = true → backend.covers windowSec opened now = true := by
  rintro (_ | _) covered <;> simp only [Backend.covers, decide_eq_true_eq] at covered ⊢
  · exact (monotonic_mono le).trans_lt covered
  · exact le.trans_lt covered

structure Limits where
  limit : String → Int
  windowSec : String → ℚ

def Limits.policy (limits : Limits) (backend : Backend) : FixedWindow.Policy String ℚ where
  covers key opened now := backend.covers (limits.windowSec key) opened now
  limit key := (limits.limit key).toNat
  antitone le := Backend.covers_antitone le backend

/-- Both stores under the same hits. The windows and the hits are kept for the statements only. -/
structure Stores where
  memory : MemoryRateLimitStore
  valkey : ValkeyRateLimitStore
  answers : List (Bool × Bool)
  hits : List (FixedWindow.Hit String ℚ)
  windows : FixedWindow.Windows String ℚ
  clock : ℚ

inductive Event where
  | hit (key : String) (now later : ℚ)
  | purge (now : ℚ)

namespace Stores

def fresh (clock : ℚ) : Stores := ⟨⟨∅, 0⟩, ∅, [], [], ∅, clock⟩

def observed (stores : Stores) (limits : Limits) (key : String) (now later : ℚ) : FixedWindow.Hit String ℚ where
  key := key
  time := now
  opens := ((stores.memory.counted (monotonic now)).buckets.find key).all fun bucket => bucket.expiresAt ≤ monotonic now
  allowed := (stores.memory.hit key (limits.limit key) (limits.windowSec key) now later).1.1

def step (limits : Limits) (stores : Stores) : Event → Stores
  | .hit key now later =>
    let limit := limits.limit key
    let windowSec := limits.windowSec key
    let (inMemory, memory) := stores.memory.hit key limit windowSec now later
    let (inValkey, valkey) := ValkeyRateLimitStore.hit stores.valkey key limit windowSec now
    { memory
      valkey
      answers := stores.answers ++ [(inMemory.1, inValkey.1)]
      hits := if limit ≤ 0 then stores.hits else stores.hits ++ [stores.observed limits key now later]
      windows := if limit ≤ 0 then stores.windows else FixedWindow.hit (limits.policy .memory) stores.windows now key
      clock := later }
  | .purge now => { stores with memory := stores.memory.purge now, clock := now }

/-- No hit of a key falls between the ends that the two stores give its window. -/
def Clear (limits : Limits) (stores : Stores) (now : ℚ) (key : String) : Prop :=
  ∀ window ∈ stores.windows.find key,
    Backend.covers (limits.windowSec key) window.opened now .memory =
      Backend.covers (limits.windowSec key) window.opened now .valkey

/-- The clock does not go back, both stores see the hits on the same side of a window's end, and fewer keys are live than the
memory store has buckets. -/
def Orderly (limits : Limits) (stores : Stores) : Event → Prop
  | .hit key now later => stores.clock ≤ now ∧ now ≤ later ∧ stores.Clear limits now key ∧
      FixedWindow.liveKeys (limits.policy .memory) stores.windows later < maxBuckets
  | .purge now => stores.clock ≤ now

instance (limits : Limits) (stores : Stores) (now : ℚ) (key : String) : Decidable (stores.Clear limits now key) :=
  inferInstanceAs (Decidable (∀ _ ∈ _, _))

instance (limits : Limits) (stores : Stores) : ∀ event, Decidable (stores.Orderly limits event)
  | .hit .. => inferInstanceAs (Decidable (_ ∧ _ ∧ _ ∧ _))
  | .purge _ => inferInstanceAs (Decidable (_ ≤ _))

end Stores

section Memory

theorem evictOldest_size (turns : Nat) (buckets : Buckets) (enough : buckets.size ≤ turns) :
    (evictOldest turns buckets).size < maxBuckets := by
  induction turns generalizing buckets with
  | zero =>
    rw [evictOldest, Nat.le_zero.mp enough]
    decide
  | succ turns ih =>
    rw [evictOldest]
    split
    · rename_i full
      cases oldest : oldestKey buckets with
      | none =>
        have empty : buckets.entries = [] := by simpa [oldestKey] using oldest
        have none_left : buckets.size = 0 := by simp [Table.size, empty]
        rw [none_left] at full
        contradiction
      | some key =>
        obtain ⟨entry, least, rfl⟩ := Option.map_eq_some_iff.mp oldest
        have found := (Table.mem_entries buckets entry.1 entry.2).mp (List.argmin_mem least)
        have present : (Table.find buckets entry.1).isSome := by simp [found]
        have smaller := Table.size_delete_lt present
        exact ih _ (by omega)
    · exact Nat.lt_of_not_le ‹_›

theorem evictIfNeeded_size (later : ℚ) (buckets : Buckets) : (evictIfNeeded later buckets).size < maxBuckets := by
  unfold evictIfNeeded
  split
  · assumption
  · exact evictOldest_size _ _ le_rfl

theorem purgeExpired_size (now : ℚ) (buckets : Buckets) : (purgeExpired now buckets).size ≤ buckets.size :=
  Table.size_keep_le ..

theorem counted_size {store : MemoryRateLimitStore} {now : ℚ} :
    (store.counted now).buckets.size ≤ store.buckets.size := by
  unfold MemoryRateLimitStore.counted
  dsimp only
  split
  · exact purgeExpired_size ..
  · exact le_rfl

theorem opened_size (store : MemoryRateLimitStore) (key : String) (windowSec now later : ℚ) :
    (store.opened key windowSec now later).buckets.size ≤ maxBuckets :=
  (Table.size_assign_le ..).trans (evictIfNeeded_size later store.buckets)

/-- The memory store never holds more buckets than its bound. -/
theorem hit_size {store : MemoryRateLimitStore} (fits : store.buckets.size ≤ maxBuckets) (key : String)
    (limit : Int) (windowSec now later : ℚ) :
    (store.hit key limit windowSec now later).2.buckets.size ≤ maxBuckets := by
  unfold MemoryRateLimitStore.hit
  split
  · exact fits
  · dsimp only
    split
    · exact opened_size ..
    · rename_i bucket found
      split
      · exact opened_size ..
      · split
        · exact counted_size.trans fits
        · rw [Table.size_assign_of_some (by simp [found])]
          exact counted_size.trans fits

end Memory

section Windows

variable {limits : Limits} {windows : FixedWindow.Windows String ℚ} {now later : ℚ}

def liveBucket (buckets : Buckets) (now : ℚ) (key : String) : Option Bucket :=
  (buckets.find key).filter fun bucket => now < bucket.expiresAt

/-- A window as the memory store holds it: it stops counting at the limit. -/
def Limits.bucket (limits : Limits) (key : String) (window : FixedWindow.Window ℚ) : Bucket :=
  ⟨(min window.hits (limits.limit key).toNat : Nat), Binary64.round (monotonic window.opened + limits.windowSec key)⟩

def Limits.entry (limits : Limits) (key : String) (window : FixedWindow.Window ℚ) : Entry Int ℚ :=
  ⟨window.hits, some (window.opened + windowMs (limits.windowSec key) / 1000)⟩

def MemoryCounts (limits : Limits) (windows : FixedWindow.Windows String ℚ) (now : ℚ) (buckets : Buckets) : Prop :=
  ∀ t ≥ now, ∀ key,
    liveBucket buckets (monotonic t) key = (FixedWindow.current (limits.policy .memory) windows t key).map (limits.bucket key)

def ValkeyCounts (limits : Limits) (windows : FixedWindow.Windows String ℚ) (now : ℚ)
    (keys : ValkeyRateLimitStore) : Prop :=
  ∀ t ≥ now, ∀ key, Keyspace.get keys t (keyPrefix ++ key) =
    (FixedWindow.current (limits.policy .valkey) windows t key).map (limits.entry key)

theorem current_put (policy : FixedWindow.Policy String ℚ) (t : ℚ) (key other : String) (window : FixedWindow.Window ℚ) :
    FixedWindow.current policy (windows.put key window) t other =
      if other = key then (some window).filter fun window => policy.covers other window.opened t
      else FixedWindow.current policy windows t other := by
  rw [FixedWindow.current, Table.find_put]
  split <;> rfl

theorem liveBucket_purge {p t : ℚ} (le : p ≤ t) (buckets : Buckets) (key : String) :
    liveBucket (purgeExpired p buckets) t key = liveBucket buckets t key := by
  rw [liveBucket, purgeExpired, Table.find_keep, Option.filter_filter, liveBucket]
  congr 1
  funext bucket
  by_cases ahead : t < bucket.expiresAt
  · simp [ahead, le.trans_lt ahead]
  · simp [ahead]

theorem liveBucket_assign (t : ℚ) (buckets : Buckets) (key other : String) (bucket : Bucket) :
    liveBucket (buckets.assign key bucket) t other =
      if other = key then (some bucket).filter fun bucket => decide (t < bucket.expiresAt)
      else liveBucket buckets t other := by
  rw [liveBucket, Table.find_assign]
  split <;> rfl

theorem MemoryCounts.mono {buckets : Buckets} (counts : MemoryCounts limits windows now buckets) (le : now ≤ later) :
    MemoryCounts limits windows later buckets := fun t since => counts t (le.trans since)

theorem ValkeyCounts.mono {keys : ValkeyRateLimitStore} (counts : ValkeyCounts limits windows now keys) (le : now ≤ later) :
    ValkeyCounts limits windows later keys := fun t since => counts t (le.trans since)

theorem MemoryCounts.purge {buckets : Buckets} (counts : MemoryCounts limits windows now buckets) (le : now ≤ later) :
    MemoryCounts limits windows later (purgeExpired (monotonic later) buckets) := by
  intro t since key
  rw [liveBucket_purge (monotonic_mono since)]
  exact counts.mono le t since key

theorem MemoryCounts.counted {store : MemoryRateLimitStore} (counts : MemoryCounts limits windows now store.buckets)
    (le : now ≤ later) : MemoryCounts limits windows later (store.counted (monotonic later)).buckets := by
  unfold MemoryRateLimitStore.counted
  dsimp only
  split
  · exact counts.purge le
  · exact counts.mono le

theorem MemoryCounts.few {buckets : Buckets} (counts : MemoryCounts limits windows now buckets) :
    (purgeExpired (monotonic now) buckets).size ≤ FixedWindow.liveKeys (limits.policy .memory) windows now := by
  have distinct : ((purgeExpired (monotonic now) buckets).entries.map Sigma.fst).Nodup :=
    (purgeExpired (monotonic now) buckets).nodupKeys
  have subset : (purgeExpired (monotonic now) buckets).entries.map Sigma.fst ⊆
      windows.select fun key window => (limits.policy .memory).covers key window.opened now := by
    intro key member
    obtain ⟨entry, there, rfl⟩ := List.mem_map.mp member
    have found := (Table.mem_entries _ entry.1 entry.2).mp there
    rw [purgeExpired, Table.find_keep] at found
    have window := counts now le_rfl entry.1
    rw [liveBucket, found] at window
    obtain ⟨window, current, _⟩ := Option.map_eq_some_iff.mp window.symm
    obtain ⟨stored, ahead⟩ := FixedWindow.current_eq_some.mp current
    exact (Table.mem_select ..).mpr ⟨window, stored, ahead⟩
  have fewer := (List.subperm_of_subset distinct subset).length_le
  simpa [Table.size, FixedWindow.liveKeys, Table.count] using fewer

theorem MemoryCounts.evict {buckets : Buckets} (counts : MemoryCounts limits windows now buckets) (le : now ≤ later)
    (few : FixedWindow.liveKeys (limits.policy .memory) windows later < maxBuckets) :
    MemoryCounts limits windows later (evictIfNeeded (monotonic later) buckets) := by
  have moved := counts.mono le
  unfold evictIfNeeded
  split
  · exact moved
  · have room : (purgeExpired (monotonic later) buckets).size < maxBuckets := moved.few.trans_lt few
    have stays (turns : Nat) : evictOldest turns (purgeExpired (monotonic later) buckets) =
        purgeExpired (monotonic later) buckets := by
      cases turns with
      | zero => rfl
      | succ turns => rw [evictOldest, if_neg room.not_ge]
    dsimp only
    rw [stays]
    exact counts.purge le

section Counted

variable {policy : FixedWindow.Policy String ℚ}

theorem counted_of_none {key : String} (closed : FixedWindow.current policy windows now key = none) :
    FixedWindow.counted policy windows now key = ⟨now, 1⟩ := by rw [FixedWindow.counted, closed]

theorem counted_of_some {key : String} {window : FixedWindow.Window ℚ}
    (open_window : FixedWindow.current policy windows now key = some window) :
    FixedWindow.counted policy windows now key = { window with hits := window.hits + 1 } := by
  rw [FixedWindow.counted, open_window]

end Counted

theorem allows_iff {backend : Backend} {key : String} : FixedWindow.allows (limits.policy backend) windows now key = true ↔
    (FixedWindow.counted (limits.policy backend) windows now key).hits ≤ (limits.limit key).toNat := decide_eq_true_iff

theorem MemoryCounts.assign {buckets : Buckets} (counts : MemoryCounts limits windows now buckets) (key : String)
    (window : FixedWindow.Window ℚ) :
    MemoryCounts limits (windows.put key window) now (buckets.assign key (limits.bucket key window)) := by
  intro t since other
  rw [liveBucket_assign, current_put]
  by_cases same : other = key
  · subst same
    simp only [if_true, Option.filter_some, Limits.bucket, Limits.policy, Backend.covers]
    split <;> simp [Limits.bucket]
  · simp only [if_neg same]
    exact counts t since other

theorem MemoryCounts.open_hit {store : MemoryRateLimitStore} {key : String}
    (counts : MemoryCounts limits windows now store.buckets) (limited : 0 < limits.limit key) (le : now ≤ later)
    (few : FixedWindow.liveKeys (limits.policy .memory) windows later < maxBuckets) :
    MemoryCounts limits (windows.put key ⟨now, 1⟩) later
      (store.opened key (limits.windowSec key) (monotonic now) (monotonic later)).buckets := by
  have bucket : (⟨1, Binary64.round (monotonic now + limits.windowSec key)⟩ : Bucket) = limits.bucket key ⟨now, 1⟩ := by
    have one : min 1 (limits.limit key).toNat = 1 := by omega
    simp [Limits.bucket, one]
  rw [MemoryRateLimitStore.opened, bucket]
  exact (counts.evict le few).assign _ _

/-- Where the limit is reached, the window still counts its hits and the bucket stays as it is. -/
theorem MemoryCounts.full_hit {buckets : Buckets} {key : String} {window : FixedWindow.Window ℚ}
    (counts : MemoryCounts limits windows now buckets) (found : buckets.find key = some (limits.bucket key window))
    (reached : (limits.limit key).toNat ≤ window.hits) :
    MemoryCounts limits (windows.put key { window with hits := window.hits + 1 }) now buckets := by
  intro t after other
  rw [← counts.assign key { window with hits := window.hits + 1 } t after other, liveBucket_assign]
  split
  · rename_i at_key
    subst at_key
    have unchanged : limits.bucket other { window with hits := window.hits + 1 } = limits.bucket other window := by
      simp only [Limits.bucket, Bucket.mk.injEq, and_true]
      omega
    rw [unchanged, liveBucket, found]
  · rfl

theorem memory_hit {store : MemoryRateLimitStore} {key : String} {clock : ℚ}
    (counts : MemoryCounts limits windows clock store.buckets) (limited : 0 < limits.limit key) (since : clock ≤ now)
    (le : now ≤ later) (few : FixedWindow.liveKeys (limits.policy .memory) windows later < maxBuckets) :
    (store.hit key (limits.limit key) (limits.windowSec key) now later).1.1 =
      FixedWindow.allows (limits.policy .memory) windows now key ∧
    MemoryCounts limits (FixedWindow.hit (limits.policy .memory) windows now key) later
      (store.hit key (limits.limit key) (limits.windowSec key) now later).2.buckets ∧
    ((store.counted (monotonic now)).buckets.find key).all (fun bucket => decide (bucket.expiresAt ≤ monotonic now)) =
      (FixedWindow.current (limits.policy .memory) windows now key).isNone := by
  have here := counts.counted since
  have bucket := here now le_rfl key
  have some_limit : 1 ≤ (limits.limit key).toNat := by omega
  have opens (closed : FixedWindow.current (limits.policy .memory) windows now key = none) :
      true = FixedWindow.allows (limits.policy .memory) windows now key ∧
      MemoryCounts limits (FixedWindow.hit (limits.policy .memory) windows now key) later
        ((store.counted (monotonic now)).opened key (limits.windowSec key) (monotonic now) (monotonic later)).buckets := by
    refine ⟨(allows_iff.mpr ?_).symm, ?_⟩
    · rw [counted_of_none closed]
      exact some_limit
    · rw [FixedWindow.hit, counted_of_none closed]
      exact here.open_hit limited le few
  rw [MemoryRateLimitStore.hit, if_neg limited.not_ge]
  dsimp only
  rw [liveBucket] at bucket
  cases found : (store.counted (monotonic now)).buckets.find key with
  | none =>
    have closed : FixedWindow.current (limits.policy .memory) windows now key = none := by simpa [found] using bucket.symm
    exact ⟨(opens closed).1, (opens closed).2, by simp [closed]⟩
  | some stored =>
    rw [found] at bucket
    dsimp only
    by_cases expired : stored.expiresAt ≤ monotonic now
    · have closed : FixedWindow.current (limits.policy .memory) windows now key = none := by
        simpa [Option.filter_some, expired.not_gt] using bucket.symm
      rw [if_pos expired]
      exact ⟨(opens closed).1, (opens closed).2, by simp [closed, expired]⟩
    · have ahead : monotonic now < stored.expiresAt := lt_of_not_ge expired
      rw [Option.filter_some, if_pos (by simpa using ahead)] at bucket
      obtain ⟨window, open_window, same⟩ := Option.map_eq_some_iff.mp bucket.symm
      have count : stored.count = (min window.hits (limits.limit key).toNat : Nat) := by rw [← same]; rfl
      have expiry : stored.expiresAt = (limits.bucket key window).expiresAt := by rw [← same]
      have moved := here.mono le
      rw [if_neg expired, FixedWindow.hit, counted_of_some open_window]
      split
      · rename_i reached
        refine ⟨?_, moved.full_hit (found.trans (congrArg some same.symm)) (by omega), by simp [open_window, ahead]⟩
        symm
        rw [← Bool.not_eq_true, allows_iff, counted_of_some open_window]
        dsimp only
        omega
      · rename_i below
        refine ⟨?_, ?_, by simp [open_window, ahead]⟩
        · symm
          rw [allows_iff, counted_of_some open_window]
          dsimp only
          omega
        · have raised : ({ stored with count := stored.count + 1 } : Bucket) =
              limits.bucket key { window with hits := window.hits + 1 } := by
            simp only [Limits.bucket, Bucket.mk.injEq]
            exact ⟨by omega, expiry⟩
          rw [raised]
          exact moved.assign key { window with hits := window.hits + 1 }

theorem keyPrefix_inj {key other : String} : keyPrefix ++ other = keyPrefix ++ key ↔ other = key := by
  constructor
  · intro same
    have texts := congrArg String.toList same
    rw [String.toList_append, String.toList_append, List.append_cancel_left_eq] at texts
    exact String.toList_inj.mp texts
  · rintro rfl
    rfl

theorem ValkeyCounts.put {keys : ValkeyRateLimitStore} (counts : ValkeyCounts limits windows now keys) (key : String)
    (window : FixedWindow.Window ℚ) :
    ValkeyCounts limits (windows.put key window) now (Table.put keys (keyPrefix ++ key) (limits.entry key window)) := by
  intro t since other
  rw [Keyspace.get_put, current_put]
  by_cases same : other = key
  · subst same
    by_cases ahead : t < window.opened + windowMs (limits.windowSec other) / 1000 <;>
      simp [Option.filter_some, Keyspace.live, Limits.entry, Limits.policy, Backend.covers, ahead]
  · rw [if_neg (fun at_key => same (keyPrefix_inj.mp at_key)), if_neg same]
    exact counts t since other

/-- What `INCR` and `PEXPIRE` leave. -/
theorem valkey_counted {keys : ValkeyRateLimitStore} {key : String} {clock : ℚ}
    (counts : ValkeyCounts limits windows clock keys) (since : clock ≤ now)
    (counted : ∀ window, windows.find key = some window → 0 < window.hits) :
    let window := FixedWindow.counted (limits.policy .valkey) windows now key
    ValkeyRateLimitStore.counted keys (keyPrefix ++ key) (limits.windowSec key) now =
      ((window.hits : Int), Table.put keys (keyPrefix ++ key) (limits.entry key window)) := by
  have here := counts now since key
  rw [ValkeyRateLimitStore.counted, Keyspace.incr, here]
  cases open_window : FixedWindow.current (limits.policy .valkey) windows now key with
  | none =>
    rw [counted_of_none open_window]
    have stored : Keyspace.get (Table.put keys (keyPrefix ++ key) ⟨1, none⟩) now (keyPrefix ++ key) =
        some (⟨1, none⟩ : Entry Int ℚ) := by simp [Keyspace.get_put, Keyspace.live]
    simp only [Option.map_none, if_true, Keyspace.expire, stored]
    rw [Table.put, Table.put, AList.insert_insert]
    rfl
  | some window =>
    obtain ⟨found, _⟩ := FixedWindow.current_eq_some.mp open_window
    have more : ((window.hits : Int) + 1 = 1) = False := by
      have := counted window found
      simp only [eq_iff_iff, iff_false]
      omega
    rw [counted_of_some open_window]
    simp only [Option.map_some, Limits.entry, more, if_false]
    rfl

theorem valkey_hit {keys : ValkeyRateLimitStore} {key : String} {clock : ℚ}
    (counts : ValkeyCounts limits windows clock keys) (limited : 0 < limits.limit key) (since : clock ≤ now)
    (counted : ∀ window, windows.find key = some window → 0 < window.hits) :
    (ValkeyRateLimitStore.hit keys key (limits.limit key) (limits.windowSec key) now).1.1 =
      FixedWindow.allows (limits.policy .valkey) windows now key ∧
    ValkeyCounts limits (FixedWindow.hit (limits.policy .valkey) windows now key) now
      (ValkeyRateLimitStore.hit keys key (limits.limit key) (limits.windowSec key) now).2 := by
  have follows := (counts.mono since).put key (FixedWindow.counted (limits.policy .valkey) windows now key)
  rw [ValkeyRateLimitStore.hit, if_neg limited.not_ge, valkey_counted counts since counted]
  dsimp only
  split
  · refine ⟨?_, follows⟩
    symm
    rw [← Bool.not_eq_true, allows_iff]
    omega
  · refine ⟨?_, follows⟩
    symm
    rw [allows_iff]
    omega

end Windows

/-- A hit is clear if it is farther from the end of a window of whole milliseconds than the doubles can be off before 2 ^ k
seconds. -/
theorem clear_of_apart {limits : Limits} {stores : Stores} {now : ℚ} {key : String} {k : ℤ} (normal : -1021 ≤ k)
    (whole : (windowMs (limits.windowSec key) : ℚ) / 1000 = limits.windowSec key) (early : |now| < 2 ^ k)
    (apart : ∀ window ∈ stores.windows.find key, |window.opened| < 2 ^ k ∧
      |monotonic window.opened + limits.windowSec key| < 2 ^ k ∧
      3 * 2 ^ (k - 54) < |now - (window.opened + limits.windowSec key)|) : stores.Clear limits now key := by
  intro window found
  obtain ⟨begun, ended, far⟩ := apart window found
  have of_now := abs_le.mp (Binary64.abs_round_sub_le_of_lt normal early)
  have of_start := abs_le.mp (Binary64.abs_round_sub_le_of_lt normal begun)
  have of_end := abs_le.mp (Binary64.abs_round_sub_le_of_lt normal ended)
  have unit := Binary64.unit_pos (k - 54)
  simp only [Backend.covers, whole, monotonic] at of_end ⊢
  refine decide_eq_decide.mpr ?_
  rcases lt_abs.mp far with after | before
  · exact iff_of_false (by linarith) (by linarith)
  · exact iff_of_true (by linarith) (by linarith)

structure InStep (limits : Limits) (stores : Stores) : Prop where
  memory : MemoryCounts limits stores.windows stores.clock stores.memory.buckets
  valkey : ValkeyCounts limits stores.windows stores.clock stores.valkey
  kept : ∀ backend, FixedWindow.Kept (limits.policy backend) stores.clock stores.windows stores.hits
  answers : ∀ answer ∈ stores.answers, answer.1 = answer.2

section Steps

variable {limits : Limits} {stores : Stores}

theorem InStep.fresh (clock : ℚ) : InStep limits (.fresh clock) where
  memory t _ key := by simp [Stores.fresh, liveBucket, FixedWindow.current, Table.find]
  valkey t _ key := by simp [Stores.fresh, Keyspace.get, FixedWindow.current, Table.find]
  kept _ := FixedWindow.kept_empty clock
  answers := by simp [Stores.fresh]

theorem Stores.Clear.current {now : ℚ} {key : String} (clear : stores.Clear limits now key) (backend : Backend) :
    FixedWindow.current (limits.policy .memory) stores.windows now key =
      FixedWindow.current (limits.policy backend) stores.windows now key := by
  cases backend with
  | memory => rfl
  | valkey => exact FixedWindow.current_congr clear

theorem Stores.Clear.hit {now : ℚ} {key : String} (clear : stores.Clear limits now key) (backend : Backend) :
    FixedWindow.hit (limits.policy .memory) stores.windows now key =
      FixedWindow.hit (limits.policy backend) stores.windows now key :=
  FixedWindow.hit_congr (clear.current backend)

theorem Stores.Clear.allows {now : ℚ} {key : String} (clear : stores.Clear limits now key) (backend : Backend) :
    FixedWindow.allows (limits.policy .memory) stores.windows now key =
      FixedWindow.allows (limits.policy backend) stores.windows now key :=
  FixedWindow.allows_congr (clear.current backend) rfl

theorem Stores.Clear.recorded {now : ℚ} {key : String} (clear : stores.Clear limits now key) (backend : Backend) :
    FixedWindow.recorded (limits.policy .memory) stores.windows now key =
      FixedWindow.recorded (limits.policy backend) stores.windows now key := by
  rw [FixedWindow.recorded, FixedWindow.recorded, clear.current backend, clear.allows backend]

theorem InStep.step (now : InStep limits stores) {event : Event} (orderly : stores.Orderly limits event) :
    InStep limits (stores.step limits event) := by
  cases event with
  | purge moment =>
    exact ⟨now.memory.purge orderly, now.valkey.mono orderly, fun backend => (now.kept backend).mono orderly, now.answers⟩
  | hit key moment later =>
    obtain ⟨since, le, clear, few⟩ := orderly
    by_cases unlimited : limits.limit key ≤ 0
    · have memory : stores.memory.hit key (limits.limit key) (limits.windowSec key) moment later =
          ((true, 0), stores.memory) := if_pos unlimited
      have valkey : ValkeyRateLimitStore.hit stores.valkey key (limits.limit key) (limits.windowSec key) moment =
          ((true, 0), stores.valkey) := if_pos unlimited
      simp only [Stores.step, memory, valkey, if_pos unlimited]
      have elapsed := since.trans le
      refine ⟨now.memory.mono elapsed, now.valkey.mono elapsed, fun backend => (now.kept backend).mono elapsed,
        fun answer member => ?_⟩
      rcases List.mem_append.mp member with before | last
      · exact now.answers answer before
      · rw [List.mem_singleton.mp last]
    · have limited : 0 < limits.limit key := lt_of_not_ge unlimited
      have in_memory := memory_hit now.memory limited since le few
      have in_valkey := valkey_hit now.valkey limited since fun window found => ((now.kept .valkey).opened key window found).2
      have observed : stores.observed limits key moment later =
          FixedWindow.recorded (limits.policy .memory) stores.windows moment key := by
        rw [Stores.observed, FixedWindow.recorded, in_memory.1, in_memory.2.2]
      have kept (backend : Backend) : FixedWindow.Kept (limits.policy backend) later
          (FixedWindow.hit (limits.policy .memory) stores.windows moment key)
          (stores.hits ++ [FixedWindow.recorded (limits.policy .memory) stores.windows moment key]) := by
        rw [clear.hit backend, clear.recorded backend]
        exact ((now.kept backend).hit since key).mono le
      rw [← clear.hit .valkey, ← clear.allows .valkey] at in_valkey
      simp only [Stores.step, if_neg unlimited, observed]
      refine ⟨in_memory.2.1, in_valkey.2.mono le, kept, fun answer member => ?_⟩
      rcases List.mem_append.mp member with before | last
      · exact now.answers answer before
      · rw [List.mem_singleton.mp last]
        exact in_memory.1.trans in_valkey.1.symm

/-- No order of hits and purges fills the memory store above its bound. -/
theorem step_size (limits : Limits) (event : Event) (fits : stores.memory.buckets.size ≤ maxBuckets) :
    (stores.step limits event).memory.buckets.size ≤ maxBuckets := by
  cases event with
  | purge moment => exact (purgeExpired_size ..).trans fits
  | hit key moment later => exact hit_size fits ..

end Steps

/-- When time does not go back, no hit of a key falls between the two ends of its window and fewer keys are live than there
is room for, both stores answer every hit alike; a window that a hit opens allows at most as many hits as the limit, and the
memory store keeps its bound. -/
theorem stores_agree (limits : Limits) (clock : ℚ) {events : List Event}
    (orderly : Along (Stores.step limits) (Stores.Orderly limits) (.fresh clock) events) :
    Always (Stores.step limits) (fun stores => (∀ answer ∈ stores.answers, answer.1 = answer.2) ∧
      (∀ backend, FixedWindow.Bounded (limits.policy backend) stores.hits) ∧ stores.memory.buckets.size ≤ maxBuckets)
      (.fresh clock) events := by
  have inStep : Always (Stores.step limits) (fun stores => InStep limits stores ∧ stores.memory.buckets.size ≤ maxBuckets)
      (.fresh clock) events := by
    refine always_of_along (fun stores event now good => ?_) ⟨.fresh clock, Nat.zero_le _⟩ orderly
    exact ⟨now.1.step good, step_size limits event now.2⟩
  intro done rest same
  obtain ⟨now, fits⟩ := inStep done rest same
  exact ⟨now.answers, fun backend => (now.kept backend).bounded, fits⟩

def minuteLimits : Limits := ⟨fun _ => 2, fun _ => 60⟩

theorem stores_agree_minute :
    Always (Stores.step minuteLimits) (fun stores => (∀ answer ∈ stores.answers, answer.1 = answer.2) ∧
      (∀ backend, FixedWindow.Bounded (minuteLimits.policy backend) stores.hits) ∧ stores.memory.buckets.size ≤ maxBuckets)
      (.fresh 0)
      [.hit "login:ip:a" 0 0, .hit "login:ip:b" 1 1, .hit "login:ip:a" 2 2, .hit "login:ip:a" 59 59, .purge 60,
        .hit "login:ip:a" 60 60] :=
  stores_agree minuteLimits 0 (by decide +kernel)

/-- A window that Valkey rounds up to two milliseconds. -/
def fractionLimits : Limits := ⟨fun _ => 1, fun _ => 3 / 2048⟩

def onceLimits : Limits := ⟨fun _ => 1, fun _ => 60⟩

/-- The memory store's window ends before that of Valkey where that is rounded up, and after it where the double of the end is
larger than the end. -/
theorem stores_disagree_between_ends :
    let fraction : List Event := [.hit "login:ip:a" 0 0, .hit "login:ip:a" (13 / 8192) (13 / 8192)]
    let minute : List Event := [.hit "login:ip:a" (1096 / 1000) (1096 / 1000), .hit "login:ip:a" (61096 / 1000) (61096 / 1000)]
    (run (Stores.step fractionLimits) (.fresh 0) fraction).answers = [(true, true), (true, false)] ∧
    (run (Stores.step onceLimits) (.fresh 0) minute).answers = [(true, true), (false, true)] ∧
    ¬∀ answer ∈ (run (Stores.step onceLimits) (.fresh 0) minute).answers, answer.1 = answer.2 := by
  decide +kernel

end IdigestHub.RateLimiting
