import IdigestHub.Foundation.Runs
import IdigestHub.Sessions.Registry

/-! The same calls on both session stores, one after the other. -/

set_option autoImplicit false

namespace IdigestHub.Sessions

open Foundation Foundation.Runs

/-- A call with its raw token, its draws, and nothing that a store returned: `touch` and
`set_impersonate` take the record of the lookup before them. -/
inductive Call where
  | create (id userId : Nat) (raw : String) (ttl : Int)
  | lookup (raw : String)
  | touch (ttl : Int)
  | deleteByRawToken (raw : String)
  | deleteUserSessions (userId : Nat)
  | setImpersonate (target : Option Nat)
  | clearImpersonationTarget (target : Nat)
  | countActive

inductive Answer where
  | found (record : Option SessionRecord)
  | count (active : Nat)
  deriving DecidableEq

/-- Both stores. `last` is what each lookup returned to the caller, as later calls have changed it. -/
structure Backends where
  db : DbSessionStore
  keys : Keys
  clock : Int
  last : Option SessionRecord × Option SessionRecord
  answers : List (Answer × Answer)

namespace Backends

def fresh (clock : Int) : Backends := ⟨∅, ∅, clock, (none, none), []⟩

variable (hashSecret : String → String)

def silent (backends : Backends) (db : DbSessionStore) (keys : Keys) : Backends :=
  { backends with db, keys, last := (none, none) }

/-- A write of the record that the caller holds, in each store if it found one. -/
def rewrite (backends : Backends) (inDb : SessionRecord → DbSessionStore × SessionRecord)
    (inValkey : SessionRecord → Script Unit) (change : SessionRecord → SessionRecord) : Backends :=
  let inDb := backends.last.1.map inDb
  { backends with
    db := (inDb.map Prod.fst).getD backends.db
    keys := (backends.last.2.map fun record => ((inValkey record).run backends.clock backends.keys).2).getD backends.keys
    last := (inDb.map Prod.snd, backends.last.2.map change) }

def call (backends : Backends) : Call → Backends
  | .create id userId raw ttl =>
    backends.silent (backends.db.create id userId (hashSecret raw) ttl backends.clock)
      ((ValkeySessionStore.create id userId (hashSecret raw) ttl backends.clock).run backends.clock backends.keys).2
  | .lookup raw =>
    let inDb := backends.db.lookup (hashSecret raw) backends.clock
    let (inValkey, keys) := (ValkeySessionStore.lookup (hashSecret raw)).run backends.clock backends.keys
    { backends with
      keys
      last := (inDb, inValkey)
      answers := backends.answers ++ [(.found inDb, .found inValkey)] }
  | .touch ttl =>
    backends.rewrite (fun record => backends.db.touch record ttl backends.clock)
      (fun record => ValkeySessionStore.touch record ttl backends.clock) fun record => record.touched ttl backends.clock
  | .deleteByRawToken raw =>
    backends.silent (backends.db.deleteByRawToken (hashSecret raw))
      ((ValkeySessionStore.deleteByRawToken (hashSecret raw)).run backends.clock backends.keys).2
  | .deleteUserSessions userId =>
    backends.silent (backends.db.deleteUserSessions userId)
      ((ValkeySessionStore.deleteUserSessions userId).run backends.clock backends.keys).2
  | .setImpersonate target =>
    backends.rewrite (fun record => backends.db.setImpersonate record target)
      (fun record => ValkeySessionStore.setImpersonate record target backends.clock)
      fun record => record.impersonating target
  | .clearImpersonationTarget target =>
    backends.silent (backends.db.clearImpersonationTarget target)
      ((ValkeySessionStore.clearImpersonationTarget target).run backends.clock backends.keys).2
  | .countActive =>
    let (inValkey, keys) := ValkeySessionStore.countActive.run backends.clock backends.keys
    { backends with
      keys
      last := (none, none)
      answers := backends.answers ++ [(.count (backends.db.countActive backends.clock), .count inValkey)] }

def step (backends : Backends) (event : Int × Call) : Backends :=
  { backends with clock := event.1 }.call hashSecret event.2

/-- The clock does not go back, and a new session's id and token are new. -/
def Allowed (backends : Backends) (event : Int × Call) : Prop :=
  backends.clock ≤ event.1 ∧
    match event.2 with
    | .create id _ raw _ => Table.find backends.db id = none ∧
      (∀ other row, Table.find backends.db other = some row → row.tokenHash ≠ hashSecret raw) ∧
      ∀ user, hashSecret raw ∉ backends.keys.listed (.user user)
    | _ => True

/-- What the two stores need to agree on a call: an expiry is a whole number of seconds away
when a record is rewritten with it, and sessions are counted only while the keys under the
prefix are those of sessions that have not ended. -/
def Agreeable (backends : Backends) (event : Int × Call) : Prop :=
  backends.Allowed hashSecret event ∧
    match event.2 with
    | .setImpersonate _ => ∀ record, backends.last.1 = some record → WholeLeft record event.1
    | .clearImpersonationTarget target => ∀ tokenHash record, backends.keys.record event.1 tokenHash = some record →
      record.impersonateUserId = some target → WholeLeft record event.1
    | .countActive => ∀ key ∈ backends.keys.scan event.1, ∃ tokenHash record, key = .session tokenHash ∧
      backends.keys.record event.1 tokenHash = some record ∧ event.1 < record.expiresAt
    | _ => True

end Backends

structure Agree (backends : Backends) (registry : Registry) : Prop where
  db : DbHolds backends.db registry
  keys : ValkeyHolds backends.keys registry backends.clock
  same : backends.last.1 = backends.last.2
  last : ∀ record, backends.last.1 = some record → registry record.tokenHash = some record ∧
    ∀ target, record.impersonateUserId = some target →
      record.tokenHash ∈ backends.keys.listed (.impersonatorOf target)
  answers : ∀ answer ∈ backends.answers, answer.1 = answer.2

section Calls

variable {backends : Backends} {registry : Registry} {hashSecret : String → String}

theorem Agree.at_clock (agree : Agree backends registry) {now : Int} (le : backends.clock ≤ now) :
    Agree { backends with clock := now } registry := { agree with keys := agree.keys.later le }

theorem Agree.silent (agree : Agree backends registry) {after : Registry} {db : DbSessionStore} {keys : Keys}
    (in_db : DbHolds db after) (in_keys : ValkeyHolds keys after backends.clock) : Agree (backends.silent db keys) after where
  db := in_db
  keys := in_keys
  same := rfl
  last record there := by simp [Backends.silent] at there
  answers := agree.answers

theorem Agree.create (agree : Agree backends registry) {id userId : Nat} {raw : String} {ttl : Int}
    (new_id : Table.find backends.db id = none)
    (new_hash : ∀ other row, Table.find backends.db other = some row → row.tokenHash ≠ hashSecret raw)
    (unlisted : ∀ user, hashSecret raw ∉ backends.keys.listed (.user user)) :
    Agree (backends.call hashSecret (.create id userId raw ttl))
      (registry.put (.new id userId (hashSecret raw) ttl backends.clock)) := by
  have unknown : registry (hashSecret raw) = none := by
    rw [Option.eq_none_iff_forall_ne_some]
    intro record there
    obtain ⟨hash, row, found, of_row⟩ := agree.db.session _ record there
    have row_hash : row.tokenHash = record.tokenHash := congrArg SessionRecord.tokenHash of_row
    exact new_hash record.id row found (row_hash.trans hash)
  refine agree.silent (agree.db.create new_id unknown) ?_
  refine agree.keys.save (.inr ?_) (fun user member => absurd member (unlisted user)) fun target impersonates => ?_
  · simp [SessionRecord.new]
  · simp [SessionRecord.new] at impersonates

theorem Agree.lookup (agree : Agree backends registry) (raw : String) :
    Agree (backends.call hashSecret (.lookup raw)) registry := by
  obtain ⟨in_valkey, keys⟩ := agree.keys.lookup (hashSecret raw)
  have in_db := agree.db.lookup backends.clock (hashSecret raw)
  constructor
  · exact agree.db
  · exact keys
  · exact in_db.trans in_valkey.symm
  · intro record there
    obtain ⟨known, alive⟩ := Option.filter_eq_some_iff.mp (in_db.symm.trans there)
    have hash := agree.keys.hashes _ record known
    refine ⟨hash ▸ known, fun target impersonates => ?_⟩
    have present := keys.found backends.clock le_rfl _ record known (by simpa using alive)
    exact hash ▸ keys.targets _ record target present impersonates
  · intro answer member
    rcases List.mem_append.mp member with before | last
    · exact agree.answers answer before
    · rw [List.mem_singleton.mp last]
      exact congrArg Answer.found (in_db.trans in_valkey.symm)

theorem Agree.rewrite (agree : Agree backends registry) {inDb : SessionRecord → DbSessionStore × SessionRecord}
    {inValkey : SessionRecord → Script Unit} {change : SessionRecord → SessionRecord}
    (hash : ∀ record, (change record).tokenHash = record.tokenHash)
    (db : ∀ record, registry record.tokenHash = some record →
      DbHolds (inDb record).1 (registry.put (change record)) ∧ (inDb record).2 = change record)
    (keys : ∀ record, backends.last.1 = some record →
      ValkeyHolds ((inValkey record).run backends.clock backends.keys).2 (registry.put (change record)) backends.clock ∧
      ∀ target, (change record).impersonateUserId = some target →
        record.tokenHash ∈ Keys.listed ((inValkey record).run backends.clock backends.keys).2 (.impersonatorOf target)) :
    ∃ after, Agree (backends.rewrite inDb inValkey change) after := by
  have same := agree.same
  cases held : backends.last.1 with
  | none =>
    rw [held] at same
    refine ⟨registry, ?_⟩
    have unchanged : backends.rewrite inDb inValkey change = backends.silent backends.db backends.keys := by
      simp [Backends.rewrite, Backends.silent, held, ← same]
    rw [unchanged]
    exact agree.silent agree.db agree.keys
  | some record =>
    rw [held] at same
    obtain ⟨there, _⟩ := agree.last record held
    obtain ⟨in_db, changed⟩ := db record there
    obtain ⟨in_keys, listed⟩ := keys record held
    refine ⟨registry.put (change record), ?_⟩
    have written : backends.rewrite inDb inValkey change = { backends with
        db := (inDb record).1
        keys := ((inValkey record).run backends.clock backends.keys).2
        last := (some (change record), some (change record)) } := by
      simp [Backends.rewrite, held, ← same, changed]
    rw [written]
    constructor
    · exact in_db
    · exact in_keys
    · rfl
    · intro other returned
      obtain rfl : change record = other := Option.some.inj returned
      exact ⟨by rw [Registry.put, Function.update_self], fun target impersonates => hash record ▸ listed target impersonates⟩
    · exact agree.answers

theorem Agree.touch (agree : Agree backends registry) (ttl : Int) :
    ∃ after, Agree (backends.call hashSecret (.touch ttl)) after := by
  refine agree.rewrite (fun _ => rfl) (fun record there => agree.db.touch there) fun record held => ?_
  obtain ⟨there, listed⟩ := agree.last record held
  have whole : WholeLeft (record.touched ttl backends.clock) backends.clock := by
    refine .inr ?_
    show (backends.clock + ttl * second - backends.clock) % second = 0
    rw [add_sub_cancel_left]
    exact Int.mul_emod_left ..
  rw [ValkeySessionStore.touch, Keys.run_save]
  refine ⟨agree.keys.save whole (fun userId member => agree.keys.owned userId _ member record there) listed, ?_⟩
  intro target impersonates
  exact (Keys.save_listed agree.keys.stay).mpr (.inl (listed target impersonates))

theorem Agree.setImpersonate (agree : Agree backends registry) (target : Option Nat)
    (whole : ∀ record, backends.last.1 = some record → WholeLeft record backends.clock) :
    ∃ after, Agree (backends.call hashSecret (.setImpersonate target)) after := by
  refine agree.rewrite (fun _ => rfl) (fun record there => agree.db.setImpersonate there) fun record held => ?_
  obtain ⟨there, _⟩ := agree.last record held
  exact ⟨agree.keys.setImpersonate (whole record held) there target,
    (run_setImpersonate agree.keys.stay record target).2.2.2.2⟩

theorem Agree.deleteByRawToken (agree : Agree backends registry) (raw : String) :
    Agree (backends.call hashSecret (.deleteByRawToken raw)) (registry.drop (hashSecret raw)) := by
  refine agree.silent (agree.db.drop (hashSecret raw)) ?_
  rw [ValkeySessionStore.deleteByRawToken, Keys.run_drop]
  exact agree.keys.drop (hashSecret raw)

theorem Agree.deleteUserSessions (agree : Agree backends registry) (userId : Nat) :
    Agree (backends.call hashSecret (.deleteUserSessions userId)) (registry.dropUser userId) :=
  agree.silent (agree.db.dropUser userId) (agree.keys.deleteUserSessions userId)

theorem Agree.clearImpersonationTarget (agree : Agree backends registry) (target : Nat)
    (whole : ∀ tokenHash record, backends.keys.record backends.clock tokenHash = some record →
      record.impersonateUserId = some target → WholeLeft record backends.clock) :
    Agree (backends.call hashSecret (.clearImpersonationTarget target)) (registry.clear target) :=
  agree.silent (agree.db.clear target) (agree.keys.clear target whole)

theorem Key.session_prefix (tokenHash : String) : keyPrefix.toList.isPrefixOf (Key.session tokenHash).text.toList = true := by
  have text : (Key.session tokenHash).text = keyPrefix ++ tokenHash := rfl
  rw [text, String.toList_append]
  exact List.isPrefixOf_iff_prefix.mpr (List.prefix_append ..)

theorem mem_scan {keys : Keys} {now : Int} {tokenHash : String} {record : SessionRecord}
    (present : keys.record now tokenHash = some record) : .session tokenHash ∈ keys.scan now := by
  have entered : ∃ entry, Keyspace.get keys now (.session tokenHash) = some entry := by
    rw [← Option.isSome_iff_exists, Option.isSome_iff_ne_none]
    intro missing
    simp [Keys.record, missing] at present
  obtain ⟨entry, got⟩ := entered
  obtain ⟨found, live⟩ := Option.filter_eq_some_iff.mp got
  rw [Keys.scan, Table.mem_select]
  exact ⟨entry, found, by rw [live, Key.session_prefix, Bool.true_and]⟩

theorem Agree.scanned (agree : Agree backends registry)
    (alive : ∀ key ∈ backends.keys.scan backends.clock, ∃ tokenHash record, key = .session tokenHash ∧
      backends.keys.record backends.clock tokenHash = some record ∧ backends.clock < record.expiresAt) :
    backends.db.countActive backends.clock = (backends.keys.scan backends.clock).length := by
  let ids := Table.select backends.db fun _ row => backends.clock < row.expiresAt
  let keyOf (id : Nat) : Key := .session (((Table.find backends.db id).map AuthSession.tokenHash).getD "")
  have at_row {id : Nat} {row : AuthSession} (found : Table.find backends.db id = some row) :
      keyOf id = .session row.tokenHash := by simp [keyOf, found]
  have distinct : (ids.map keyOf).Nodup := by
    refine (Table.select_nodup ..).map_on fun id member other other_member same => ?_
    obtain ⟨row, found, _⟩ := (Table.mem_select ..).mp member
    obtain ⟨other_row, other_found, _⟩ := (Table.mem_select ..).mp other_member
    rw [at_row found, at_row other_found] at same
    have record := agree.db.row id row found
    rw [Key.session.inj same, agree.db.row other other_row other_found] at record
    exact congrArg SessionRecord.id (Option.some.inj record).symm
  have same_keys (key : Key) : key ∈ ids.map keyOf ↔ key ∈ backends.keys.scan backends.clock := by
    rw [List.mem_map]
    constructor
    · rintro ⟨id, member, rfl⟩
      obtain ⟨row, found, ahead⟩ := (Table.mem_select ..).mp member
      rw [at_row found]
      have not_ended : backends.clock < row.expiresAt := by simpa using ahead
      exact mem_scan (agree.keys.found backends.clock le_rfl _ _ (agree.db.row id row found) not_ended)
    · intro member
      obtain ⟨tokenHash, record, rfl, present, ahead⟩ := alive key member
      obtain ⟨hash, row, found, of_row⟩ := agree.db.session tokenHash record (agree.keys.stored tokenHash record present)
      have row_hash : row.tokenHash = record.tokenHash := congrArg SessionRecord.tokenHash of_row
      have row_expiry : row.expiresAt = record.expiresAt := congrArg SessionRecord.expiresAt of_row
      exact ⟨record.id, (Table.mem_select ..).mpr ⟨row, found, by simpa [row_expiry] using ahead⟩,
        by rw [at_row found, row_hash, hash]⟩
  have perm := (List.perm_ext_iff_of_nodup distinct (Table.select_nodup ..)).mpr same_keys
  calc backends.db.countActive backends.clock
    _ = (ids.map keyOf).length := (List.length_map ..).symm
    _ = (backends.keys.scan backends.clock).length := perm.length_eq

theorem Agree.countActive (agree : Agree backends registry)
    (alive : ∀ key ∈ backends.keys.scan backends.clock, ∃ tokenHash record, key = .session tokenHash ∧
      backends.keys.record backends.clock tokenHash = some record ∧ backends.clock < record.expiresAt) :
    Agree (backends.call hashSecret .countActive) registry := by
  constructor
  · exact agree.db
  · exact agree.keys
  · rfl
  · intro record returned
    simp [Backends.call] at returned
  · intro answer member
    rcases List.mem_append.mp member with before | last
    · exact agree.answers answer before
    · rw [List.mem_singleton.mp last]
      exact congrArg Answer.count (agree.scanned alive)

theorem Agree.step (agree : Agree backends registry) {event : Int × Call}
    (agreeable : backends.Agreeable hashSecret event) : ∃ after, Agree (backends.step hashSecret event) after := by
  obtain ⟨now, call⟩ := event
  obtain ⟨⟨le, allowed⟩, needed⟩ := agreeable
  have moved := agree.at_clock le
  cases call with
  | create id userId raw ttl =>
    obtain ⟨new_id, new_hash, unlisted⟩ := allowed
    exact ⟨_, moved.create new_id new_hash unlisted⟩
  | lookup raw => exact ⟨_, moved.lookup raw⟩
  | touch ttl => exact moved.touch ttl
  | deleteByRawToken raw => exact ⟨_, moved.deleteByRawToken raw⟩
  | deleteUserSessions userId => exact ⟨_, moved.deleteUserSessions userId⟩
  | setImpersonate target => exact moved.setImpersonate target needed
  | clearImpersonationTarget target => exact ⟨_, moved.clearImpersonationTarget target needed⟩
  | countActive => exact ⟨_, moved.countActive needed⟩

end Calls

theorem agree_fresh (clock : Int) : Agree (.fresh clock) fun _ => none where
  db := db_empty
  keys := valkey_empty clock
  same := rfl
  last record there := by simp [Backends.fresh] at there
  answers answer member := by simp [Backends.fresh] at member

/-- All along a run of calls on which the stores can agree, they have given the same answers. -/
theorem session_stores_agree (hashSecret : String → String) (clock : Int) (events : List (Int × Call))
    (agreeable : Along (Backends.step hashSecret) (Backends.Agreeable hashSecret) (.fresh clock) events) :
    Always (Backends.step hashSecret) (fun backends => ∀ answer ∈ backends.answers, answer.1 = answer.2)
      (.fresh clock) events := by
  have agreeing : Always (Backends.step hashSecret) (fun backends => ∃ registry, Agree backends registry)
      (.fresh clock) events :=
    always_of_along (fun _ _ ⟨_, agree⟩ good => agree.step good) ⟨_, agree_fresh clock⟩ agreeable
  intro done rest split
  obtain ⟨_, agree⟩ := agreeing done rest split
  exact agree.answers

theorem allowed_first (now : Int) (id userId : Nat) (raw : String) (ttl clock : Int) (le : clock ≤ now) :
    (Backends.fresh clock).Allowed (fun token => token) (now, .create id userId raw ttl) := by
  refine ⟨le, rfl, fun other row found => ?_, fun user member => ?_⟩
  · simp [Backends.fresh, Table.find] at found
  · simp [Backends.fresh, Keys.listed, Table.find] at member

/-- A session of an hour, touched, used to impersonate after ten seconds, and ended by its token. -/
theorem session_stores_agree_impersonated :
    let events : List (Int × Call) := [(0, .create 1 7 "t" 3600), (5 * second, .lookup "t"), (5 * second, .touch 3600),
      (10 * second, .lookup "t"), (10 * second, .setImpersonate (some 9)), (3000 * second, .lookup "t"),
      (3001 * second, .deleteByRawToken "t"), (3002 * second, .lookup "t")]
    Always (Backends.step fun token => token) (fun backends => ∀ answer ∈ backends.answers, answer.1 = answer.2)
      (.fresh 0) events := by
  refine session_stores_agree (fun token => token) 0 _ ⟨⟨allowed_first 0 1 7 "t" 3600 0 le_rfl, trivial⟩,
    ⟨⟨by decide, trivial⟩, trivial⟩, ⟨⟨by decide +kernel, trivial⟩, trivial⟩, ⟨⟨by decide +kernel, trivial⟩, trivial⟩,
    ⟨⟨by decide +kernel, trivial⟩, fun record held => ?_⟩, ⟨⟨by decide +kernel, trivial⟩, trivial⟩,
    ⟨⟨by decide +kernel, trivial⟩, trivial⟩, ⟨⟨by decide +kernel, trivial⟩, trivial⟩, trivial⟩
  have expiry : record.expiresAt = 3605 * second := by
    refine Option.some.inj ((congrArg (Option.map SessionRecord.expiresAt) held).symm.trans ?_)
    decide +kernel
  rw [WholeLeft, expiry]
  decide

/-- The set of a user's sessions counts as a session, and a rewritten record expires up to a second early. -/
theorem session_stores_disagree :
    (Along (Backends.step fun token => token) (Backends.Allowed fun token => token) (.fresh 0)
        [(0, .create 1 7 "t" 100), (0, .countActive)] ∧
      (run (Backends.step fun token => token) (.fresh 0) [(0, .create 1 7 "t" 100), (0, .countActive)]).answers =
        [(.count 1, .count 2)]) ∧
    (Along (Backends.step fun token => token) (Backends.Allowed fun token => token) (.fresh 0)
        [(0, .create 1 7 "t" 100), (500000, .lookup "t"), (500000, .setImpersonate (some 9)), (99700000, .lookup "t")] ∧
      (run (Backends.step fun token => token) (.fresh 0)
        [(0, .create 1 7 "t" 100), (500000, .lookup "t"), (500000, .setImpersonate (some 9)),
          (99700000, .lookup "t")]).answers.getLast? =
        some (.found (some ⟨1, 7, "t", some 9, 100 * second, 0, 0⟩), .found none)) := by
  have created := allowed_first 0 1 7 "t" 100 0 le_rfl
  refine ⟨⟨⟨created, ⟨by decide, trivial⟩, trivial⟩, ?_⟩, ⟨created, ⟨by decide, trivial⟩, ⟨by decide +kernel, trivial⟩,
    ⟨by decide +kernel, trivial⟩, trivial⟩, ?_⟩
  · decide +kernel
  · decide +kernel

end IdigestHub.Sessions
