import IdigestHub.Sessions.Stores

/-! Both session stores against one registry of sessions, which knows nothing of rows, keys
or sets: the database holds it, and Valkey holds what of it has not expired. -/

set_option autoImplicit false

namespace IdigestHub.Sessions

open Foundation

/-- The sessions that have been created and not deleted, under their token hashes. -/
abbrev Registry : Type := String → Option SessionRecord

namespace Registry

def put (registry : Registry) (record : SessionRecord) : Registry :=
  Function.update registry record.tokenHash (some record)

def drop (registry : Registry) (tokenHash : String) : Registry := Function.update registry tokenHash none

def dropUser (registry : Registry) (userId : Nat) : Registry :=
  fun tokenHash => (registry tokenHash).filter fun record => record.userId != userId

def clear (registry : Registry) (target : Nat) : Registry :=
  fun tokenHash => (registry tokenHash).map fun record =>
    if record.impersonateUserId = some target then record.impersonating none else record

def lookup (registry : Registry) (tokenHash : String) (now : Int) : Option SessionRecord :=
  (registry tokenHash).filter fun record => now < record.expiresAt

end Registry

structure DbHolds (rows : DbSessionStore) (registry : Registry) : Prop where
  row : ∀ id row, Table.find rows id = some row → registry row.tokenHash = some (recordFromRow id row)
  session : ∀ tokenHash record, registry tokenHash = some record →
    record.tokenHash = tokenHash ∧ ∃ row, Table.find rows record.id = some row ∧ recordFromRow record.id row = record

section Db

variable {rows : DbSessionStore} {registry : Registry} {now : Int}

theorem db_empty : DbHolds ∅ fun _ => none :=
  ⟨fun id row found => by simp [Table.find] at found, fun _ _ there => by simp at there⟩

theorem DbHolds.put_row (holds : DbHolds rows registry) {after : DbSessionStore} {record : SessionRecord}
    (row : AuthSession) (found : ∀ id, Table.find after id = if id = record.id then some row else Table.find rows id)
    (same : recordFromRow record.id row = record)
    (alone : ∀ id other, Table.find rows id = some other → (other.tokenHash = record.tokenHash ↔ id = record.id)) :
    DbHolds after (registry.put record) := by
  have hash : row.tokenHash = record.tokenHash := congrArg SessionRecord.tokenHash same
  constructor
  · intro id other here
    rw [found] at here
    split at here
    · rename_i at_id
      obtain rfl := Option.some.inj here
      subst at_id
      rw [Registry.put, hash, Function.update_self, same]
    · rename_i elsewhere
      have different : other.tokenHash ≠ record.tokenHash := fun same_hash => elsewhere ((alone id other here).mp same_hash)
      rw [Registry.put, Function.update_of_ne different]
      exact holds.row id other here
  · intro tokenHash other there
    by_cases at_hash : tokenHash = record.tokenHash
    · subst at_hash
      obtain rfl : record = other := by simpa [Registry.put] using there
      exact ⟨rfl, row, by rw [found, if_pos rfl], same⟩
    · rw [Registry.put, Function.update_of_ne at_hash] at there
      obtain ⟨its_hash, stored, here, of_row⟩ := holds.session tokenHash other there
      have elsewhere : other.id ≠ record.id := by
        intro at_id
        have same_hash := (alone other.id stored here).mpr at_id
        have : stored.tokenHash = other.tokenHash := congrArg SessionRecord.tokenHash of_row
        exact at_hash (by rw [← its_hash, ← this, same_hash])
      exact ⟨its_hash, stored, by rw [found, if_neg elsewhere, here], of_row⟩

theorem DbHolds.create (holds : DbHolds rows registry) {id userId : Nat} {tokenHash : String} {ttl : Int}
    (new_id : Table.find rows id = none) (new_hash : registry tokenHash = none) :
    DbHolds (DbSessionStore.create rows id userId tokenHash ttl now) (registry.put (.new id userId tokenHash ttl now)) := by
  refine holds.put_row ⟨userId, tokenHash, none, now + ttl * second, now, now⟩ (fun other => ?_) rfl ?_
  · rw [DbSessionStore.create, Table.find_put]
    rfl
  · intro other row found
    constructor
    · intro same
      have there := holds.row other row found
      rw [same] at there
      exact absurd (new_hash.symm.trans there) (by simp)
    · intro same
      rw [show (SessionRecord.new id userId tokenHash ttl now).id = id from rfl] at same
      rw [same, new_id] at found
      contradiction

theorem DbHolds.change (holds : DbHolds rows registry) {record : SessionRecord} {f : AuthSession → AuthSession}
    (after : SessionRecord) (there : registry record.tokenHash = some record)
    (id : after.id = record.id) (hash : after.tokenHash = record.tokenHash)
    (changes : ∀ row, recordFromRow record.id row = record → recordFromRow record.id (f row) = after) :
    DbHolds (Table.modify rows record.id f) (registry.put after) := by
  obtain ⟨_, row, found, of_row⟩ := holds.session record.tokenHash record there
  refine holds.put_row (f row) (fun other => ?_) (by rw [id]; exact changes row of_row) ?_
  · rw [Table.find_modify, id, found]
    rfl
  · intro other stored here
    rw [hash, id]
    constructor
    · intro same
      have its_record := holds.row other stored here
      rw [same, there] at its_record
      exact congrArg SessionRecord.id (Option.some.inj its_record).symm
    · rintro rfl
      rw [found] at here
      rw [← Option.some.inj here]
      exact congrArg SessionRecord.tokenHash of_row

theorem DbHolds.touch (holds : DbHolds rows registry) {record : SessionRecord} {ttl : Int}
    (there : registry record.tokenHash = some record) :
    DbHolds (DbSessionStore.touch rows record ttl now).1 (registry.put (record.touched ttl now)) ∧
      (DbSessionStore.touch rows record ttl now).2 = record.touched ttl now := by
  obtain ⟨_, row, found, _⟩ := holds.session record.tokenHash record there
  rw [DbSessionStore.touch, if_pos (by rw [found]; rfl)]
  dsimp only
  refine ⟨holds.change (record.touched ttl now) there rfl rfl fun row of_row => ?_, rfl⟩
  conv_rhs => rw [← of_row]
  rfl

theorem DbHolds.setImpersonate (holds : DbHolds rows registry) {record : SessionRecord} {target : Option Nat}
    (there : registry record.tokenHash = some record) :
    DbHolds (DbSessionStore.setImpersonate rows record target).1 (registry.put (record.impersonating target)) ∧
      (DbSessionStore.setImpersonate rows record target).2 = record.impersonating target := by
  obtain ⟨_, row, found, _⟩ := holds.session record.tokenHash record there
  rw [DbSessionStore.setImpersonate, if_pos (by rw [found]; rfl)]
  dsimp only
  refine ⟨holds.change (record.impersonating target) there rfl rfl fun row of_row => ?_, rfl⟩
  conv_rhs => rw [← of_row]
  rfl

theorem DbHolds.keep (holds : DbHolds rows registry) {after : Registry} {kept : AuthSession → Bool}
    (record_kept : SessionRecord → Bool) (same : ∀ id row, record_kept (recordFromRow id row) = kept row)
    (filtered : ∀ tokenHash, after tokenHash = (registry tokenHash).filter record_kept) :
    DbHolds (Table.keep rows fun _ row => kept row) after := by
  constructor
  · intro id row found
    rw [Table.find_keep] at found
    obtain ⟨here, passes⟩ := Option.filter_eq_some_iff.mp found
    rw [filtered, holds.row id row here, Option.filter_some, if_pos (by rw [same, passes])]
  · intro tokenHash record there
    rw [filtered] at there
    obtain ⟨before, passes⟩ := Option.filter_eq_some_iff.mp there
    obtain ⟨hash, row, found, of_row⟩ := holds.session tokenHash record before
    refine ⟨hash, row, ?_, of_row⟩
    rw [Table.find_keep, found, Option.filter_some, if_pos]
    rw [← same record.id row, of_row, passes]

theorem DbHolds.drop (holds : DbHolds rows registry) (tokenHash : String) :
    DbHolds (DbSessionStore.deleteByRawToken rows tokenHash) (registry.drop tokenHash) := by
  refine holds.keep (fun record => record.tokenHash != tokenHash) (fun _ _ => rfl) fun other => ?_
  by_cases same : other = tokenHash
  · subst same
    rw [Registry.drop, Function.update_self]
    symm
    rw [Option.filter_eq_none_iff]
    intro record there
    simp [(holds.session other record there).1]
  · rw [Registry.drop, Function.update_of_ne same]
    cases there : registry other with
    | none => rfl
    | some record => simp [Option.filter_some, (holds.session other record there).1, same]

theorem DbHolds.dropUser (holds : DbHolds rows registry) (userId : Nat) :
    DbHolds (DbSessionStore.deleteUserSessions rows userId) (registry.dropUser userId) :=
  holds.keep (fun record => record.userId != userId) (fun _ _ => rfl) fun _ => rfl

theorem DbHolds.clear (holds : DbHolds rows registry) (target : Nat) :
    DbHolds (DbSessionStore.clearImpersonationTarget rows target) (registry.clear target) := by
  have same (id : Nat) (row : AuthSession) :
      recordFromRow id (if row.impersonateUserId = some target then { row with impersonateUserId := none } else row) =
        if (recordFromRow id row).impersonateUserId = some target then (recordFromRow id row).impersonating none
        else recordFromRow id row := by
    by_cases impersonates : row.impersonateUserId = some target <;>
      simp [recordFromRow, impersonates, SessionRecord.impersonating]
  constructor
  · intro id row found
    rw [DbSessionStore.clearImpersonationTarget, Table.find_mapRows] at found
    obtain ⟨before, here, rfl⟩ := Option.map_eq_some_iff.mp found
    have hash : (if before.impersonateUserId = some target then { before with impersonateUserId := none } else before).tokenHash =
        before.tokenHash := by split <;> rfl
    rw [hash, Registry.clear, holds.row id before here, Option.map_some, same]
  · intro tokenHash record there
    obtain ⟨before, here, changed⟩ := Option.map_eq_some_iff.mp there
    obtain ⟨hash, row, found, of_row⟩ := holds.session tokenHash before here
    have id : record.id = before.id := by
      rw [← changed]
      split <;> rfl
    refine ⟨?_, _, by rw [id, DbSessionStore.clearImpersonationTarget, Table.find_mapRows, found]; rfl, ?_⟩
    · rw [← changed, ← hash]
      split <;> rfl
    · rw [id, same, of_row, changed]

theorem DbHolds.lookup (holds : DbHolds rows registry) (now : Int) (tokenHash : String) :
    DbSessionStore.lookup rows tokenHash now = registry.lookup tokenHash now := by
  have selected (id : Nat) : id ∈ Table.select rows (fun _ row => row.tokenHash == tokenHash && decide (now < row.expiresAt)) ↔
      ∃ record, registry.lookup tokenHash now = some record ∧ id = record.id := by
    rw [Table.mem_select]
    constructor
    · rintro ⟨row, found, passes⟩
      simp only [Bool.and_eq_true, beq_iff_eq, decide_eq_true_eq] at passes
      obtain ⟨rfl, alive⟩ := passes
      have ahead : decide (now < (recordFromRow id row).expiresAt) = true := decide_eq_true alive
      exact ⟨_, by rw [Registry.lookup, holds.row id row found, Option.filter_some, if_pos ahead], rfl⟩
    · rintro ⟨record, looked, rfl⟩
      obtain ⟨there, alive⟩ := Option.filter_eq_some_iff.mp looked
      obtain ⟨hash, row, found, of_row⟩ := holds.session tokenHash record there
      have row_hash : row.tokenHash = record.tokenHash := congrArg SessionRecord.tokenHash of_row
      have row_expiry : row.expiresAt = record.expiresAt := congrArg SessionRecord.expiresAt of_row
      exact ⟨row, found, by simpa [row_hash, hash, row_expiry] using alive⟩
  rw [DbSessionStore.lookup]
  cases looked : registry.lookup tokenHash now with
  | none =>
    have empty : Table.select rows (fun _ row => row.tokenHash == tokenHash && decide (now < row.expiresAt)) = [] := by
      rw [List.eq_nil_iff_forall_not_mem]
      intro id member
      obtain ⟨record, there, _⟩ := (selected id).mp member
      rw [looked] at there
      contradiction
    rw [empty]
    rfl
  | some record =>
    have member := (selected record.id).mpr ⟨record, looked, rfl⟩
    obtain ⟨first, rest, ids⟩ := List.exists_cons_of_ne_nil (List.ne_nil_of_mem member)
    obtain ⟨other, there, same⟩ := (selected first).mp (by rw [ids]; exact List.mem_cons_self)
    obtain rfl : record = other := Option.some.inj (looked.symm.trans there)
    obtain ⟨_, row, found, of_row⟩ := holds.session tokenHash record (Option.filter_eq_some_iff.mp looked).1
    simp [ids, same, found, of_row]

end Db

def WholeLeft (record : SessionRecord) (now : Int) : Prop :=
  record.expiresAt ≤ now ∨ (record.expiresAt - now) % second = 0

namespace Keys

def save (keys : Keys) (now : Int) (record : SessionRecord) : Keys :=
  (Write.sadd (.user record.userId) record.tokenHash).apply now
    ((Write.set record (ttlSec record.expiresAt now)).apply now keys)

def drop (keys : Keys) (now : Int) (tokenHash : String) : Keys :=
  (Write.del (.session tokenHash)).apply now
    (match keys.record now tokenHash with
      | none => keys
      | some record => (ValkeySessionStore.removeIndexes record).foldl (Write.apply now) keys)

variable {keys : Keys} {now t : Int} {record : SessionRecord}

theorem save_stay (stay : keys.Stay) : (keys.save now record).Stay := (stay.apply _).apply _

theorem save_record (tokenHash : String) : (keys.save now record).record t tokenHash =
    if tokenHash = record.tokenHash then
      (if t < now + ttlSec record.expiresAt now * second then some record else none)
    else keys.record t tokenHash := by
  rw [save, record_sadd, record_set]

theorem save_listed (stay : keys.Stay) {index : Index} {tokenHash : String} :
    tokenHash ∈ (keys.save now record).listed index ↔
      tokenHash ∈ keys.listed index ∨ (index = .user record.userId ∧ tokenHash = record.tokenHash) := by
  rw [save, mem_sadd (stay.apply _), listed_set]

theorem removed_spec (stay : keys.Stay) :
    ((ValkeySessionStore.removeIndexes record).foldl (Write.apply now) keys).Stay ∧
    (∀ tokenHash, ((ValkeySessionStore.removeIndexes record).foldl (Write.apply now) keys).record t tokenHash =
      keys.record t tokenHash) ∧
    ∀ index tokenHash, (tokenHash ∈ ((ValkeySessionStore.removeIndexes record).foldl (Write.apply now) keys).listed index →
      tokenHash ∈ keys.listed index) ∧ (tokenHash ≠ record.tokenHash → tokenHash ∈ keys.listed index →
        tokenHash ∈ ((ValkeySessionStore.removeIndexes record).foldl (Write.apply now) keys).listed index) := by
  have first : ((Write.srem (.user record.userId) record.tokenHash).apply now keys).Stay := stay.apply _
  cases impersonates : record.impersonateUserId with
  | none =>
    simp only [ValkeySessionStore.removeIndexes, impersonates, Option.toList_none, List.map_nil, List.foldl_cons,
      List.foldl_nil]
    refine ⟨first, fun tokenHash => record_srem .., fun index tokenHash => ?_⟩
    rw [mem_srem stay]
    exact ⟨And.left, fun different there => ⟨there, fun same => different same.2⟩⟩
  | some target =>
    simp only [ValkeySessionStore.removeIndexes, impersonates, Option.toList_some, List.map_cons, List.map_nil,
      List.foldl_cons, List.foldl_nil]
    refine ⟨first.apply _, fun tokenHash => by simp, fun index tokenHash => ?_⟩
    rw [mem_srem first, mem_srem stay]
    exact ⟨fun there => there.1.1, fun different there =>
      ⟨⟨there, fun same => different same.2⟩, fun same => different same.2⟩⟩

theorem drop_stay (stay : keys.Stay) (tokenHash : String) : (keys.drop now tokenHash).Stay := by
  rw [drop]
  split
  · exact stay.apply _
  · exact (removed_spec (t := now) stay).1.apply _

theorem drop_record (stay : keys.Stay) (tokenHash other : String) : (keys.drop now tokenHash).record t other =
    if other = tokenHash then none else keys.record t other := by
  rw [drop, record_del_session]
  split
  · rfl
  · split
    · rfl
    · exact (removed_spec stay).2.1 other

theorem drop_listed (stay : keys.Stay) {index : Index} {tokenHash other : String}
    (there : other ∈ (keys.drop now tokenHash).listed index) : other ∈ keys.listed index := by
  rw [drop, listed_del_session] at there
  split at there
  · exact there
  · exact ((removed_spec (t := now) stay).2.2 index other).1 there

theorem drop_keeps (stay : keys.Stay) {index : Index} {tokenHash other : String}
    (hash : ∀ record, keys.record now tokenHash = some record → record.tokenHash = tokenHash)
    (different : other ≠ tokenHash) (there : other ∈ keys.listed index) :
    other ∈ (keys.drop now tokenHash).listed index := by
  rw [drop, listed_del_session]
  split
  · exact there
  · rename_i record present
    exact ((removed_spec (t := now) stay).2.2 index other).2 (hash record present ▸ different) there

theorem run_save {A : Type} (next : Script A) :
    (ValkeySessionStore.save record now next).run now keys = next.run now (keys.save now record) := rfl

theorem run_drop {A : Type} (tokenHash : String) (next : Script A) :
    (ValkeySessionStore.deleteByHash tokenHash next).run now keys = next.run now (keys.drop now tokenHash) := by
  rw [ValkeySessionStore.deleteByHash, Script.run, drop]
  cases keys.record now tokenHash <;> rfl

end Keys

theorem ttl_covers {record : SessionRecord} {now t : Int} (whole : WholeLeft record now) (le : now ≤ t)
    (alive : t < record.expiresAt) : t < now + ttlSec record.expiresAt now * second := by
  rcases whole with ended | whole
  · omega
  · have positive : 0 < record.expiresAt - now := by omega
    have exact_div : (record.expiresAt - now).tdiv second * second = record.expiresAt - now :=
      Int.tdiv_mul_cancel (Int.dvd_of_emod_eq_zero whole)
    have most : (record.expiresAt - now).tdiv second ≤ ttlSec record.expiresAt now := le_max_right ..
    have scaled : (record.expiresAt - now).tdiv second * second ≤ ttlSec record.expiresAt now * second :=
      Int.mul_le_mul_of_nonneg_right most (by decide)
    omega

structure ValkeyHolds (keys : Keys) (registry : Registry) (now : Int) : Prop where
  stay : keys.Stay
  stored : ∀ tokenHash record, keys.record now tokenHash = some record → registry tokenHash = some record
  found : ∀ t ≥ now, ∀ tokenHash record, registry tokenHash = some record → t < record.expiresAt →
    keys.record t tokenHash = some record
  users : ∀ tokenHash record, keys.record now tokenHash = some record →
    tokenHash ∈ keys.listed (.user record.userId)
  owned : ∀ userId, ∀ tokenHash ∈ keys.listed (.user userId), ∀ record, registry tokenHash = some record →
    record.userId = userId
  targets : ∀ tokenHash record target, keys.record now tokenHash = some record →
    record.impersonateUserId = some target → tokenHash ∈ keys.listed (.impersonatorOf target)
  hashes : ∀ tokenHash record, registry tokenHash = some record → record.tokenHash = tokenHash

section Valkey

variable {keys : Keys} {registry : Registry} {now : Int}

theorem valkey_empty (now : Int) : ValkeyHolds ∅ (fun _ => none) now where
  stay index entry found := by simp [Table.find] at found
  stored tokenHash record there := by simp [Keys.record, Keyspace.get, Table.find] at there
  found t _ tokenHash record there := by simp at there
  users tokenHash record there := by simp [Keys.record, Keyspace.get, Table.find] at there
  owned userId tokenHash _ record there := by simp at there
  targets tokenHash record target there := by simp [Keys.record, Keyspace.get, Table.find] at there
  hashes tokenHash record there := by simp at there

theorem ValkeyHolds.later (holds : ValkeyHolds keys registry now) {t : Int} (le : now ≤ t) : ValkeyHolds keys registry t :=
  { holds with
    stored := fun tokenHash record there => holds.stored tokenHash record (Keys.record_earlier le there)
    found := fun t' since => holds.found t' (le.trans since)
    users := fun tokenHash record there => holds.users tokenHash record (Keys.record_earlier le there)
    targets := fun tokenHash record target there => holds.targets tokenHash record target (Keys.record_earlier le there) }

/-- Sessions that have ended may come and go. -/
theorem ValkeyHolds.congr (holds : ValkeyHolds keys registry now) {after : Registry}
    (stored : ∀ tokenHash record, keys.record now tokenHash = some record → after tokenHash = some record)
    (found : ∀ tokenHash record, after tokenHash = some record → now < record.expiresAt →
      registry tokenHash = some record)
    (owned : ∀ userId, ∀ tokenHash ∈ keys.listed (.user userId), ∀ record, after tokenHash = some record →
      record.userId = userId)
    (hashes : ∀ tokenHash record, after tokenHash = some record → record.tokenHash = tokenHash) :
    ValkeyHolds keys after now :=
  { holds with
    stored
    found := fun t since tokenHash record there alive =>
      holds.found t since tokenHash record (found tokenHash record there (lt_of_le_of_lt since alive)) alive
    owned
    hashes }

/-- A record has been saved whose hash no other user's set lists, and its targets' sets are right. -/
theorem ValkeyHolds.saved (holds : ValkeyHolds keys registry now) {after : Keys} {record : SessionRecord}
    (whole : WholeLeft record now)
    (owner : ∀ userId, record.tokenHash ∈ keys.listed (.user userId) → record.userId = userId)
    (stay : after.Stay)
    (records : ∀ t tokenHash, after.record t tokenHash =
      if tokenHash = record.tokenHash then (if t < now + ttlSec record.expiresAt now * second then some record else none)
      else keys.record t tokenHash)
    (users : ∀ userId tokenHash, tokenHash ∈ after.listed (.user userId) ↔
      tokenHash ∈ keys.listed (.user userId) ∨ (userId = record.userId ∧ tokenHash = record.tokenHash))
    (others : ∀ target tokenHash, tokenHash ≠ record.tokenHash → tokenHash ∈ keys.listed (.impersonatorOf target) →
      tokenHash ∈ after.listed (.impersonatorOf target))
    (listed : ∀ target, record.impersonateUserId = some target →
      record.tokenHash ∈ after.listed (.impersonatorOf target)) :
    ValkeyHolds after (registry.put record) now := by
  -- a key that is there is the new one or was there before; so is a row of the registry
  have present {t : Int} {tokenHash : String} {other : SessionRecord} (there : after.record t tokenHash = some other) :
      (tokenHash = record.tokenHash ∧ other = record) ∨ (tokenHash ≠ record.tokenHash ∧
        keys.record t tokenHash = some other) := by
    rw [records] at there
    split at there
    · split at there
      · exact .inl ⟨‹_›, (Option.some.inj there).symm⟩
      · contradiction
    · exact .inr ⟨‹_›, there⟩
  have known {tokenHash : String} {other : SessionRecord} (there : registry.put record tokenHash = some other) :
      (tokenHash = record.tokenHash ∧ other = record) ∨ (tokenHash ≠ record.tokenHash ∧ registry tokenHash = some other) := by
    by_cases same : tokenHash = record.tokenHash
    · subst same
      exact .inl ⟨rfl, by simpa [Registry.put] using there.symm⟩
    · exact .inr ⟨same, by simpa [Registry.put, same] using there⟩
  constructor
  · exact stay
  · intro tokenHash other there
    rcases present there with ⟨rfl, rfl⟩ | ⟨different, before⟩
    · simp [Registry.put]
    · rw [Registry.put, Function.update_of_ne different]
      exact holds.stored tokenHash other before
  · intro t since tokenHash other there alive
    rw [records]
    rcases known there with ⟨rfl, rfl⟩ | ⟨different, before⟩
    -- the expiry in whole seconds is not before that of the record
    · rw [if_pos rfl, if_pos (ttl_covers whole since alive)]
    · rw [if_neg different]
      exact holds.found t since tokenHash other before alive
  · intro tokenHash other there
    rw [users]
    rcases present there with ⟨rfl, rfl⟩ | ⟨_, before⟩
    · exact .inr ⟨rfl, rfl⟩
    · exact .inl (holds.users tokenHash other before)
  · intro userId tokenHash member other there
    rcases known there with ⟨rfl, rfl⟩ | ⟨different, before⟩
    · rcases (users userId _).mp member with listed_before | ⟨same, _⟩
      · exact owner userId listed_before
      · exact same.symm
    · rcases (users userId _).mp member with listed_before | ⟨_, same⟩
      · exact holds.owned userId tokenHash listed_before other before
      · exact absurd same different
  · intro tokenHash other target there impersonates
    rcases present there with ⟨rfl, rfl⟩ | ⟨different, before⟩
    · exact listed target impersonates
    · exact others target tokenHash different (holds.targets tokenHash other target before impersonates)
  · intro tokenHash other there
    rcases known there with ⟨rfl, rfl⟩ | ⟨_, before⟩
    · rfl
    · exact holds.hashes tokenHash other before

theorem ValkeyHolds.save (holds : ValkeyHolds keys registry now) {record : SessionRecord}
    (whole : WholeLeft record now)
    (owner : ∀ userId, record.tokenHash ∈ keys.listed (.user userId) → record.userId = userId)
    (listed : ∀ target, record.impersonateUserId = some target →
      record.tokenHash ∈ keys.listed (.impersonatorOf target)) :
    ValkeyHolds (keys.save now record) (registry.put record) now := by
  refine holds.saved whole owner (Keys.save_stay holds.stay) (fun _ _ => Keys.save_record _) ?_ ?_ ?_
  · intro userId tokenHash
    rw [Keys.save_listed holds.stay, Index.user.injEq]
  · intro target tokenHash _ there
    exact (Keys.save_listed holds.stay).mpr (.inl there)
  · intro target impersonates
    exact (Keys.save_listed holds.stay).mpr (.inl (listed target impersonates))

/-- The keys after `set_impersonate`. -/
theorem run_setImpersonate (stay : keys.Stay) (record : SessionRecord) (target : Option Nat) :
    let after := ((ValkeySessionStore.setImpersonate record target now).run now keys).2
    after.Stay ∧
    (∀ t tokenHash, after.record t tokenHash = (keys.save now (record.impersonating target)).record t tokenHash) ∧
    (∀ userId tokenHash, tokenHash ∈ after.listed (.user userId) ↔
      tokenHash ∈ (keys.save now (record.impersonating target)).listed (.user userId)) ∧
    (∀ user tokenHash, tokenHash ≠ record.tokenHash → tokenHash ∈ keys.listed (.impersonatorOf user) →
      tokenHash ∈ after.listed (.impersonatorOf user)) ∧
    ∀ user, target = some user → record.tokenHash ∈ after.listed (.impersonatorOf user) := by
  -- The commands for the new target run last, on whatever keys those for the old one have left.
  have joins (middle : Keys) (stay : middle.Stay)
      (others : ∀ user tokenHash, tokenHash ≠ record.tokenHash → tokenHash ∈ keys.listed (.impersonatorOf user) →
        tokenHash ∈ middle.listed (.impersonatorOf user)) :
      let after := ((ValkeySessionStore.joinTarget record target).run now middle).2
      after.Stay ∧ (∀ t tokenHash, after.record t tokenHash = middle.record t tokenHash) ∧
      (∀ userId tokenHash, tokenHash ∈ after.listed (.user userId) ↔ tokenHash ∈ middle.listed (.user userId)) ∧
      (∀ user tokenHash, tokenHash ≠ record.tokenHash → tokenHash ∈ keys.listed (.impersonatorOf user) →
        tokenHash ∈ after.listed (.impersonatorOf user)) ∧
      ∀ user, target = some user → record.tokenHash ∈ after.listed (.impersonatorOf user) := by
    cases target with
    | none => exact ⟨stay, fun _ _ => rfl, fun _ _ => .rfl, others, fun user same => by simp at same⟩
    | some user =>
      refine ⟨stay.apply (.sadd (.impersonatorOf user) record.tokenHash), fun t tokenHash => Keys.record_sadd ..,
        fun userId tokenHash => ?_, ?_, ?_⟩
      · rw [ValkeySessionStore.joinTarget, Script.run, Script.run, List.foldl_cons, List.foldl_nil, Keys.mem_sadd stay]
        simp
      · intro other tokenHash different there
        exact (Keys.mem_sadd stay).mpr (.inl (others other tokenHash different there))
      · intro other same
        obtain rfl := Option.some.inj same
        exact (Keys.mem_sadd stay).mpr (.inr ⟨rfl, rfl⟩)
  have saved : (keys.save now (record.impersonating target)).Stay := Keys.save_stay stay
  have kept (user : Nat) (tokenHash : String) (there : tokenHash ∈ keys.listed (.impersonatorOf user)) :
      tokenHash ∈ (keys.save now (record.impersonating target)).listed (.impersonatorOf user) :=
    (Keys.save_listed stay).mpr (.inl there)
  have stays := joins (keys.save now (record.impersonating target)) saved fun user tokenHash _ there =>
    kept user tokenHash there
  rw [ValkeySessionStore.setImpersonate, Keys.run_save]
  cases record.impersonateUserId with
  | none => exact stays
  | some previous =>
    dsimp only
    split
    · -- the previous target's set loses the session
      have left : ((Write.srem (.impersonatorOf previous) record.tokenHash).apply now
          (keys.save now (record.impersonating target))).Stay := saved.apply _
      obtain ⟨stay', records, users, others, listed⟩ := joins _ left fun user tokenHash different there =>
        (Keys.mem_srem saved).mpr ⟨kept user tokenHash there, fun same => different same.2⟩
      refine ⟨stay', fun t tokenHash => (records t tokenHash).trans (Keys.record_srem ..), fun userId tokenHash => ?_,
        others, listed⟩
      refine (users userId tokenHash).trans ?_
      rw [Keys.mem_srem saved]
      simp
    · exact stays

theorem ValkeyHolds.setImpersonate (holds : ValkeyHolds keys registry now) {record : SessionRecord}
    (whole : WholeLeft record now) (there : registry record.tokenHash = some record) (target : Option Nat) :
    ValkeyHolds ((ValkeySessionStore.setImpersonate record target now).run now keys).2
      (registry.put (record.impersonating target)) now := by
  obtain ⟨stay, records, users, others, listed⟩ := run_setImpersonate holds.stay record target
  refine holds.saved whole (fun userId member => holds.owned userId _ member record there) stay (fun t tokenHash => ?_)
    (fun userId tokenHash => ?_) others listed
  · rw [records, Keys.save_record]
  · rw [users, Keys.save_listed holds.stay, Index.user.injEq]

theorem ValkeyHolds.drop (holds : ValkeyHolds keys registry now) (tokenHash : String) :
    ValkeyHolds (keys.drop now tokenHash) (registry.drop tokenHash) now := by
  have hash (record : SessionRecord) (there : keys.record now tokenHash = some record) : record.tokenHash = tokenHash :=
    holds.hashes tokenHash record (holds.stored tokenHash record there)
  have before {t : Int} {other : String} {record : SessionRecord}
      (there : (keys.drop now tokenHash).record t other = some record) :
      other ≠ tokenHash ∧ keys.record t other = some record := by
    rw [Keys.drop_record holds.stay] at there
    split at there
    · contradiction
    · exact ⟨‹_›, there⟩
  have kept {other : String} {record : SessionRecord} (there : registry.drop tokenHash other = some record) :
      other ≠ tokenHash ∧ registry other = some record := by
    by_cases same : other = tokenHash
    · simp [Registry.drop, same] at there
    · exact ⟨same, by simpa [Registry.drop, same] using there⟩
  constructor
  · exact Keys.drop_stay holds.stay tokenHash
  · intro other record there
    obtain ⟨different, here⟩ := before there
    rw [Registry.drop, Function.update_of_ne different]
    exact holds.stored other record here
  · intro t since other record there alive
    obtain ⟨different, here⟩ := kept there
    rw [Keys.drop_record holds.stay, if_neg different]
    exact holds.found t since other record here alive
  · intro other record there
    obtain ⟨different, here⟩ := before there
    exact Keys.drop_keeps holds.stay hash different (holds.users other record here)
  · intro userId other member record there
    exact holds.owned userId other (Keys.drop_listed holds.stay member) record (kept there).2
  · intro other record target there impersonates
    obtain ⟨different, here⟩ := before there
    exact Keys.drop_keeps holds.stay hash different (holds.targets other record target here impersonates)
  · exact fun other record there => holds.hashes other record (kept there).2

/-- A lookup deletes a session that has ended, and nothing else. -/
theorem ValkeyHolds.lookup (holds : ValkeyHolds keys registry now) (tokenHash : String) :
    ((ValkeySessionStore.lookup tokenHash).run now keys).1 = registry.lookup tokenHash now ∧
      ValkeyHolds ((ValkeySessionStore.lookup tokenHash).run now keys).2 registry now := by
  rw [ValkeySessionStore.lookup, Script.run]
  cases present : keys.record now tokenHash with
  | none =>
    refine ⟨?_, holds⟩
    rw [Registry.lookup]
    symm
    rw [Script.run, Option.filter_eq_none_iff]
    intro record there alive
    have stored := holds.found now le_rfl tokenHash record there (by simpa using alive)
    rw [present] at stored
    contradiction
  | some record =>
    have there := holds.stored tokenHash record present
    dsimp only
    split
    · rename_i ended
      rw [Keys.run_drop, Registry.lookup, there, Option.filter_some, if_neg (by simpa using ended)]
      refine ⟨rfl, ?_⟩
      have dropped := holds.drop tokenHash
      have back (other : String) (known : SessionRecord) (here : registry other = some known)
          (alive : now < known.expiresAt) : registry.drop tokenHash other = some known := by
        have different : other ≠ tokenHash := by
          rintro rfl
          obtain rfl : record = known := Option.some.inj (there.symm.trans here)
          omega
        simpa [Registry.drop, different] using here
      refine dropped.congr (fun other known here => ?_) back (fun userId other member known here => ?_) holds.hashes
      · rw [Keys.drop_record holds.stay] at here
        split at here
        · contradiction
        · exact holds.stored other known here
      · exact holds.owned userId other (Keys.drop_listed holds.stay member) known here
    · rename_i ahead
      rw [Registry.lookup, there, Option.filter_some, if_pos (by simpa using ahead)]
      exact ⟨rfl, holds⟩

/-- The loop of `delete_user_sessions`. -/
theorem run_deleteEach (userId : Nat) (hashes : List String) (keys : Keys) :
    ((ValkeySessionStore.deleteEach userId hashes).run now keys).2 =
      (Write.del (.index (.user userId))).apply now (hashes.foldl (fun keys tokenHash => keys.drop now tokenHash) keys) := by
  induction hashes generalizing keys with
  | nil => rfl
  | cons tokenHash rest ih => rw [ValkeySessionStore.deleteEach, Keys.run_drop, ih, List.foldl_cons]

theorem ValkeyHolds.dropAll (hashes : List String) (holds : ValkeyHolds keys registry now) :
    ValkeyHolds (hashes.foldl (fun keys tokenHash => keys.drop now tokenHash) keys) (hashes.foldl Registry.drop registry) now ∧
    (∀ tokenHash, tokenHash ∈ hashes → hashes.foldl Registry.drop registry tokenHash = none) ∧
    (∀ tokenHash, tokenHash ∉ hashes → hashes.foldl Registry.drop registry tokenHash = registry tokenHash) ∧
    ∀ index tokenHash, tokenHash ∈ (hashes.foldl (fun keys tokenHash => keys.drop now tokenHash) keys).listed index →
      tokenHash ∈ keys.listed index := by
  induction hashes generalizing keys registry with
  | nil => exact ⟨holds, by simp, fun _ _ => rfl, fun _ _ there => there⟩
  | cons first rest ih =>
    obtain ⟨all, gone, kept, listed⟩ := ih (holds.drop first)
    refine ⟨all, fun tokenHash member => ?_, fun tokenHash absent => ?_, fun index tokenHash there => ?_⟩
    · by_cases later : tokenHash ∈ rest
      · exact gone tokenHash later
      · have same : tokenHash = first := (List.mem_cons.mp member).resolve_right later
        rw [List.foldl_cons, kept tokenHash later, same]
        simp [Registry.drop]
    · obtain ⟨different, later⟩ := List.ne_and_not_mem_of_not_mem_cons absent
      rw [List.foldl_cons, kept tokenHash later, Registry.drop, Function.update_of_ne different]
    · exact Keys.drop_listed holds.stay (listed index tokenHash there)

/-- A set goes when no session belongs in it. -/
theorem ValkeyHolds.del_index (holds : ValkeyHolds keys registry now) (index : Index)
    (none_user : ∀ tokenHash record, keys.record now tokenHash = some record → index ≠ .user record.userId)
    (none_target : ∀ tokenHash record target, keys.record now tokenHash = some record →
      record.impersonateUserId = some target → index ≠ .impersonatorOf target) :
    ValkeyHolds ((Write.del (.index index)).apply now keys) registry now where
  stay := holds.stay.apply _
  stored tokenHash record there := holds.stored tokenHash record (by simpa using there)
  found t since tokenHash record there alive := by
    rw [Keys.record_del_index]
    exact holds.found t since tokenHash record there alive
  users tokenHash record there := by
    rw [Keys.record_del_index] at there
    exact Keys.mem_del_index.mpr ⟨(none_user tokenHash record there).symm, holds.users tokenHash record there⟩
  owned userId tokenHash member record there := holds.owned userId tokenHash (Keys.mem_del_index.mp member).2 record there
  targets tokenHash record target there impersonates := by
    rw [Keys.record_del_index] at there
    exact Keys.mem_del_index.mpr ⟨(none_target tokenHash record target there impersonates).symm,
      holds.targets tokenHash record target there impersonates⟩
  hashes := holds.hashes

theorem ValkeyHolds.deleteUserSessions (holds : ValkeyHolds keys registry now) (userId : Nat) :
    ValkeyHolds ((ValkeySessionStore.deleteUserSessions userId).run now keys).2 (registry.dropUser userId) now := by
  obtain ⟨all, gone, kept, listed⟩ := holds.dropAll (keys.listed (.user userId))
  have unlisted (tokenHash : String) (record : SessionRecord)
      (there : (keys.listed (.user userId)).foldl Registry.drop registry tokenHash = some record) :
      tokenHash ∉ keys.listed (.user userId) ∧ registry tokenHash = some record := by
    by_cases member : tokenHash ∈ keys.listed (.user userId)
    · rw [gone tokenHash member] at there
      contradiction
    · exact ⟨member, (kept tokenHash member).symm.trans there⟩
  have others (tokenHash : String) (record : SessionRecord)
      (there : ((keys.listed (.user userId)).foldl (fun keys tokenHash => keys.drop now tokenHash) keys).record now tokenHash =
        some record) : registry tokenHash = some record ∧ record.userId ≠ userId := by
    obtain ⟨absent, before⟩ := unlisted tokenHash record (all.stored tokenHash record there)
    refine ⟨before, ?_⟩
    rintro rfl
    exact absent (listed _ _ (all.users tokenHash record there))
  rw [ValkeySessionStore.deleteUserSessions, Script.run, holds.stay.members, run_deleteEach]
  have deleted := all.del_index (.user userId)
    (fun tokenHash record there same => (others tokenHash record there).2 (Index.user.inj same).symm)
    (fun tokenHash record target there _ same => by contradiction)
  refine deleted.congr (fun tokenHash record there => ?_) (fun tokenHash record there alive => ?_)
    (fun user tokenHash member record there => ?_) (fun tokenHash record there => ?_)
  · rw [Keys.record_del_index] at there
    obtain ⟨before, different⟩ := others tokenHash record there
    simp [Registry.dropUser, before, Option.filter_some, different]
  · obtain ⟨before, different⟩ := Option.filter_eq_some_iff.mp there
    rw [kept tokenHash, before]
    intro member
    have owner := holds.owned userId tokenHash member record before
    simp [owner] at different
  · have before := (Option.filter_eq_some_iff.mp there).1
    exact holds.owned user tokenHash (listed _ _ (Keys.mem_del_index.mp member).2) record before
  · exact holds.hashes tokenHash record (Option.filter_eq_some_iff.mp there).1

def Registry.PartlyCleared (registry after : Registry) (target : Nat) : Prop :=
  ∀ tokenHash, after tokenHash = registry tokenHash ∨ ∃ record, registry tokenHash = some record ∧
    record.impersonateUserId = some target ∧ after tokenHash = some (record.impersonating none)

/-- The loop of `clear_impersonation_target` reaches every session that impersonates the target. -/
theorem ValkeyHolds.clearEach (target : Nat) (hashes : List String) (holds : ValkeyHolds keys registry now)
    (listed : ∀ tokenHash record, keys.record now tokenHash = some record →
      record.impersonateUserId = some target → tokenHash ∈ hashes ∧ WholeLeft record now) :
    ∃ (middle : Keys) (after : Registry),
      ((ValkeySessionStore.clearEach target now hashes).run now keys).2 =
        (Write.del (.index (.impersonatorOf target))).apply now middle ∧
      ValkeyHolds middle after now ∧ registry.PartlyCleared after target ∧
      ∀ tokenHash record, middle.record now tokenHash = some record → record.impersonateUserId ≠ some target := by
  induction hashes generalizing keys registry with
  | nil =>
    refine ⟨keys, registry, rfl, holds, fun _ => .inl rfl, fun tokenHash record there impersonates => ?_⟩
    exact absurd (listed tokenHash record there impersonates).1 List.not_mem_nil
  | cons first rest ih =>
    rw [ValkeySessionStore.clearEach, Script.run]
    cases present : keys.record now first with
    | none =>
      refine ih holds fun tokenHash record there impersonates => ?_
      obtain ⟨member, whole⟩ := listed tokenHash record there impersonates
      refine ⟨(List.mem_cons.mp member).resolve_left ?_, whole⟩
      rintro rfl
      rw [present] at there
      contradiction
    | some record =>
      rw [ValkeySessionStore.clearRecord]
      split
      · rename_i impersonates
        have hash := holds.hashes first record (holds.stored first record present)
        -- the record goes back without its target, under the same owner
        have saved := holds.save (show WholeLeft (record.impersonating none) now
          from (listed first record present impersonates).2)
          (fun userId member => holds.owned userId _ member record (by
            rw [show (record.impersonating none).tokenHash = first from hash]
            exact holds.stored first record present)) (fun other same => by contradiction)
        -- what still impersonates the target is in the rest of the list
        have later (tokenHash : String) (other : SessionRecord)
            (there : (keys.save now (record.impersonating none)).record now tokenHash = some other)
            (other_impersonates : other.impersonateUserId = some target) : tokenHash ∈ rest ∧ WholeLeft other now := by
          rw [Keys.save_record] at there
          split at there
          · split at there
            · rw [← Option.some.inj there] at other_impersonates
              contradiction
            · contradiction
          · rename_i different
            obtain ⟨member, whole⟩ := listed tokenHash other there other_impersonates
            refine ⟨(List.mem_cons.mp member).resolve_left fun same => different ?_, whole⟩
            rw [same]
            exact hash.symm
        obtain ⟨middle, after, ran, kept, partly, none_left⟩ := ih saved later
        refine ⟨middle, after, ran, kept, fun tokenHash => ?_, none_left⟩
        -- only the first entry has changed since the registry of the induction
        by_cases at_first : tokenHash = first
        · subst at_first
          refine .inr ⟨record, holds.stored tokenHash record present, impersonates, ?_⟩
          have cleared : registry.put (record.impersonating none) tokenHash = some (record.impersonating none) := by
            rw [Registry.put, show (record.impersonating none).tokenHash = tokenHash from hash, Function.update_self]
          rcases partly tokenHash with same | ⟨other, there, other_impersonates, _⟩
          · rw [same, cleared]
          · rw [cleared] at there
            rw [← Option.some.inj there] at other_impersonates
            contradiction
        · have same : registry.put (record.impersonating none) tokenHash = registry tokenHash := by
            rw [Registry.put, show (record.impersonating none).tokenHash = first from hash,
              Function.update_of_ne at_first]
          rw [← same]
          exact partly tokenHash
      · rename_i not_target
        refine ih holds fun tokenHash other there impersonates => ?_
        obtain ⟨member, whole⟩ := listed tokenHash other there impersonates
        refine ⟨(List.mem_cons.mp member).resolve_left ?_, whole⟩
        rintro rfl
        rw [← Option.some.inj (present.symm.trans there)] at impersonates
        exact not_target impersonates

theorem ValkeyHolds.clear (holds : ValkeyHolds keys registry now) (target : Nat)
    (whole : ∀ tokenHash record, keys.record now tokenHash = some record →
      record.impersonateUserId = some target → WholeLeft record now) :
    ValkeyHolds ((ValkeySessionStore.clearImpersonationTarget target).run now keys).2 (registry.clear target) now := by
  rw [ValkeySessionStore.clearImpersonationTarget, Script.run, holds.stay.members]
  obtain ⟨middle, after, ran, kept, partly, none_left⟩ := holds.clearEach target
    (keys.listed (.impersonatorOf target)) fun tokenHash record there impersonates =>
      ⟨holds.targets tokenHash record target there impersonates, whole tokenHash record there impersonates⟩
  rw [ran]
  have deleted := kept.del_index (.impersonatorOf target) (fun tokenHash record there same => by contradiction)
    fun tokenHash record other there impersonates same => by
      obtain rfl := Index.impersonatorOf.inj same
      exact none_left tokenHash record there impersonates
  -- `owner` goes from the registry to the keys after the command, `uncleared` back from the cleared registry.
  have uncleared {tokenHash : String} {record : SessionRecord} (there : registry.clear target tokenHash = some record) :
      ∃ before, registry tokenHash = some before ∧ record.userId = before.userId ∧ record.tokenHash = before.tokenHash ∧
        record.expiresAt = before.expiresAt ∧
        record = if before.impersonateUserId = some target then before.impersonating none else before := by
    obtain ⟨before, here, changed⟩ := Option.map_eq_some_iff.mp there
    refine ⟨before, here, ?_, ?_, ?_, changed.symm⟩ <;> rw [← changed] <;> split <;> rfl
  have owner {tokenHash : String} {before : SessionRecord} (there : registry tokenHash = some before) :
      ∃ record, after tokenHash = some record ∧ record.userId = before.userId ∧ record.expiresAt = before.expiresAt ∧
        (record = before ∨ (before.impersonateUserId = some target ∧ record = before.impersonating none)) := by
    rcases partly tokenHash with same | ⟨other, here, impersonates, cleared⟩
    · exact ⟨before, same.trans there, rfl, rfl, .inl rfl⟩
    · obtain rfl := Option.some.inj (here.symm.trans there)
      exact ⟨_, cleared, rfl, rfl, .inr ⟨impersonates, rfl⟩⟩
  refine deleted.congr (fun tokenHash record there => ?_) (fun tokenHash record there alive => ?_)
    (fun user tokenHash member record there => ?_) fun tokenHash record there => ?_
  · rw [Keys.record_del_index] at there
    have stored := kept.stored tokenHash record there
    rcases partly tokenHash with same | ⟨before, here, impersonates, cleared⟩
    · rw [same] at stored
      rw [Registry.clear, stored, Option.map_some, if_neg (none_left tokenHash record there)]
    · rw [cleared] at stored
      rw [Registry.clear, here, Option.map_some, if_pos impersonates, stored]
  · obtain ⟨before, here, _, _, expiry, changed⟩ := uncleared there
    obtain ⟨other, is_after, _, other_expiry, which⟩ := owner here
    rcases which with rfl | ⟨impersonates, rfl⟩
    · have live := kept.found now le_rfl tokenHash other is_after (by omega)
      rw [changed, if_neg (none_left tokenHash other live), is_after]
    · rw [changed, if_pos impersonates, is_after]
  · obtain ⟨before, here, same_user, _⟩ := uncleared there
    obtain ⟨other, is_after, other_user, _⟩ := owner here
    rw [same_user, ← other_user]
    exact kept.owned user tokenHash (Keys.mem_del_index.mp member).2 other is_after
  · obtain ⟨before, here, _, same_hash, _⟩ := uncleared there
    rw [same_hash]
    exact holds.hashes tokenHash before here

end Valkey

end IdigestHub.Sessions
