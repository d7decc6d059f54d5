import IdigestHub.Foundation.Keyspace
import Mathlib.Algebra.Order.Group.Int

/-! The two stores of browser sessions: a table of the database, and keys of Valkey that
expire. Times are microseconds; each operation on Valkey is a script of commands. -/

set_option autoImplicit false

namespace IdigestHub.Sessions

open Foundation

def second : Int := 1000000

structure SessionRecord where
  id : Nat
  userId : Nat
  tokenHash : String
  impersonateUserId : Option Nat
  expiresAt : Int
  createdAt : Int
  lastSeenAt : Int
  deriving DecidableEq

def SessionRecord.new (id userId : Nat) (tokenHash : String) (ttlSec now : Int) : SessionRecord :=
  ⟨id, userId, tokenHash, none, now + ttlSec * second, now, now⟩

def SessionRecord.touched (record : SessionRecord) (ttlSec now : Int) : SessionRecord :=
  { record with lastSeenAt := now, expiresAt := now + ttlSec * second }

def SessionRecord.impersonating (record : SessionRecord) (target : Option Nat) : SessionRecord :=
  { record with impersonateUserId := target }

structure AuthSession where
  userId : Nat
  tokenHash : String
  impersonateUserId : Option Nat
  expiresAt : Int
  createdAt : Int
  lastSeenAt : Int

def recordFromRow (id : Nat) (row : AuthSession) : SessionRecord :=
  ⟨id, row.userId, row.tokenHash, row.impersonateUserId, row.expiresAt, row.createdAt, row.lastSeenAt⟩

abbrev DbSessionStore : Type := Table Nat AuthSession

namespace DbSessionStore

def create (rows : DbSessionStore) (id userId : Nat) (tokenHash : String) (ttlSec now : Int) : DbSessionStore :=
  Table.put rows id ⟨userId, tokenHash, none, now + ttlSec * second, now, now⟩

def lookup (rows : DbSessionStore) (tokenHash : String) (now : Int) : Option SessionRecord := do
  let id ← (Table.select rows fun _ row => row.tokenHash == tokenHash && now < row.expiresAt).head?
  let row ← Table.find rows id
  some (recordFromRow id row)

def touch (rows : DbSessionStore) (record : SessionRecord) (ttlSec now : Int) : DbSessionStore × SessionRecord :=
  if (Table.find rows record.id).isSome then
    (Table.modify rows record.id fun row => { row with lastSeenAt := now, expiresAt := now + ttlSec * second },
      record.touched ttlSec now)
  else (rows, record)

def deleteByRawToken (rows : DbSessionStore) (tokenHash : String) : DbSessionStore :=
  Table.keep rows fun _ row => row.tokenHash != tokenHash

def deleteUserSessions (rows : DbSessionStore) (userId : Nat) : DbSessionStore :=
  Table.keep rows fun _ row => row.userId != userId

def clearImpersonationTarget (rows : DbSessionStore) (target : Nat) : DbSessionStore :=
  Table.mapRows rows fun _ row =>
    if row.impersonateUserId = some target then { row with impersonateUserId := none } else row

def setImpersonate (rows : DbSessionStore) (record : SessionRecord) (target : Option Nat) :
    DbSessionStore × SessionRecord :=
  if (Table.find rows record.id).isSome then
    (Table.modify rows record.id fun row => { row with impersonateUserId := target }, record.impersonating target)
  else (rows, record)

def countActive (rows : DbSessionStore) (now : Int) : Nat := Table.count rows fun _ row => now < row.expiresAt

end DbSessionStore

/-- A set of token hashes: the sessions of a user, and those that impersonate a user. -/
inductive Index where
  | user (userId : Nat)
  | impersonatorOf (userId : Nat)
  deriving DecidableEq

inductive Key where
  | session (tokenHash : String)
  | index (index : Index)
  deriving DecidableEq

def keyPrefix : String := "hub:sess:"

def Key.text : Key → String
  | .session tokenHash => keyPrefix ++ tokenHash
  | .index (.user userId) => "hub:sess:user:" ++ toString userId
  | .index (.impersonatorOf userId) => "hub:sess:impersonator_of:" ++ toString userId

/-- A string, which is a serialized record, or a set of token hashes. -/
inductive Value where
  | record (record : SessionRecord)
  | members (members : List String)

abbrev Keys : Type := Keyspace Key Value Int

namespace Keys

/-- `GET` and `json.loads`. -/
def record (keys : Keys) (now : Int) (tokenHash : String) : Option SessionRecord :=
  match (Keyspace.get keys now (.session tokenHash)).map Entry.value with
  | some (.record record) => some record
  | _ => none

def members (keys : Keys) (now : Int) (index : Index) : List String :=
  match (Keyspace.get keys now (.index index)).map Entry.value with
  | some (.members members) => members
  | _ => []

def scan (keys : Keys) (now : Int) : List Key :=
  Table.select keys fun key entry => Keyspace.live now entry && keyPrefix.toList.isPrefixOf key.text.toList

end Keys

/-- A command that writes. A set that becomes empty is gone. -/
inductive Write where
  | set (record : SessionRecord) (ex : Int)
  | sadd (index : Index) (member : String)
  | srem (index : Index) (member : String)
  | del (key : Key)

def Write.apply (now : Int) (keys : Keys) : Write → Keys
  | .set record ex => Table.put keys (.session record.tokenHash) ⟨.record record, some (now + ex * second)⟩
  | .sadd index member => Table.put keys (.index index)
      ⟨.members ((keys.members now index).insert member), (Keyspace.get keys now (.index index)).bind Entry.expiresAt⟩
  | .srem index member =>
    let left := (keys.members now index).filter fun other => other != member
    if left.isEmpty then Table.delete keys (.index index)
    else Table.put keys (.index index) ⟨.members left, (Keyspace.get keys now (.index index)).bind Entry.expiresAt⟩
  | .del key => Table.delete keys key

/-- An operation as its commands; a reply comes with the time at which it is read. -/
inductive Script (A : Type) where
  | done (value : A)
  | get (tokenHash : String) (next : Int → Option SessionRecord → Script A)
  | smembers (index : Index) (next : Int → List String → Script A)
  | scan (next : List Key → Script A)
  | write (writes : List Write) (next : Script A)

namespace Script

variable {A : Type}

def step (now : Int) (keys : Keys) : Script A → Script A × Keys
  | .done value => (.done value, keys)
  | .get tokenHash next => (next now (keys.record now tokenHash), keys)
  | .smembers index next => (next now (keys.members now index), keys)
  | .scan next => (next (keys.scan now), keys)
  | .write writes next => (next, writes.foldl (Write.apply now) keys)

def run (now : Int) (keys : Keys) : Script A → A × Keys
  | .done value => (value, keys)
  | .get tokenHash next => (next now (keys.record now tokenHash)).run now keys
  | .smembers index next => (next now (keys.members now index)).run now keys
  | .scan next => (next (keys.scan now)).run now keys
  | .write writes next => next.run now (writes.foldl (Write.apply now) keys)

end Script

/-- `_ttl_sec`: whole seconds, at least one. -/
def ttlSec (expiresAt now : Int) : Int := max 1 ((expiresAt - now).tdiv second)

namespace ValkeySessionStore

variable {A : Type}

def save (record : SessionRecord) (now : Int) (next : Script A) : Script A :=
  .write [.set record (ttlSec record.expiresAt now), .sadd (.user record.userId) record.tokenHash] next

def removeIndexes (record : SessionRecord) : List Write :=
  .srem (.user record.userId) record.tokenHash ::
    (record.impersonateUserId.toList.map fun target => .srem (.impersonatorOf target) record.tokenHash)

/-- A session's key goes, and its entries in the sets of the record that is there. -/
def dropSession (tokenHash : String) (payload : Option SessionRecord) (next : Script A) : Script A :=
  match payload with
  | none => .write [.del (.session tokenHash)] next
  | some record => .write (removeIndexes record) (.write [.del (.session tokenHash)] next)

def create (id userId : Nat) (tokenHash : String) (ttl now : Int) : Script Unit :=
  save (.new id userId tokenHash ttl now) now (.done ())

def deleteByHash (tokenHash : String) (next : Script A) : Script A :=
  .get tokenHash fun _ payload => dropSession tokenHash payload next

def deleteByRawToken (tokenHash : String) : Script Unit := deleteByHash tokenHash (.done ())

def lookup (tokenHash : String) : Script (Option SessionRecord) :=
  .get tokenHash fun now payload =>
    match payload with
    | none => .done none
    | some record => if record.expiresAt ≤ now then deleteByHash tokenHash (.done none) else .done (some record)

/-- The record as the caller sees it afterwards is `record.touched`. -/
def touch (record : SessionRecord) (ttl now : Int) : Script Unit := save (record.touched ttl now) now (.done ())

/-- The loop of `delete_user_sessions`, and the set at its end. -/
def deleteEach (userId : Nat) : List String → Script Unit
  | [] => .write [.del (.index (.user userId))] (.done ())
  | tokenHash :: rest => deleteByHash tokenHash (deleteEach userId rest)

def deleteUserSessions (userId : Nat) : Script Unit := .smembers (.user userId) fun _ hashes => deleteEach userId hashes

/-- One turn of the loop of `clear_impersonation_target`. -/
def clearRecord (target : Nat) (now : Int) (payload : Option SessionRecord) (next : Script A) : Script A :=
  match payload with
  | none => next
  | some record => if record.impersonateUserId = some target then save (record.impersonating none) now next else next

/-- The loop, with the clock read before it. -/
def clearEach (target : Nat) (now : Int) : List String → Script Unit
  | [] => .write [.del (.index (.impersonatorOf target))] (.done ())
  | tokenHash :: rest => .get tokenHash fun _ payload => clearRecord target now payload (clearEach target now rest)

def clearImpersonationTarget (target : Nat) : Script Unit :=
  .smembers (.impersonatorOf target) fun now hashes => clearEach target now hashes

/-- The end of `set_impersonate`: the session enters the set of the target. -/
def joinTarget (record : SessionRecord) (target : Option Nat) : Script Unit :=
  match target with
  | none => .done ()
  | some user => .write [.sadd (.impersonatorOf user) record.tokenHash] (.done ())

def setImpersonate (record : SessionRecord) (target : Option Nat) (now : Int) : Script Unit :=
  save (record.impersonating target) now
    (match record.impersonateUserId with
      | some previous =>
        if some previous ≠ target then
          .write [.srem (.impersonatorOf previous) record.tokenHash] (joinTarget record target)
        else joinTarget record target
      | none => joinTarget record target)

def countActive : Script Nat := .scan fun keys => .done keys.length

end ValkeySessionStore

namespace Keys

variable {keys : Keys} {now t : Int}

/-- The members of a set, whose key never expires. -/
def listed (keys : Keys) (index : Index) : List String :=
  match (Table.find keys (.index index)).map Entry.value with
  | some (.members members) => members
  | _ => []

def Stay (keys : Keys) : Prop := ∀ index entry, Table.find keys (.index index) = some entry → entry.expiresAt = none

theorem Stay.get (stay : keys.Stay) (index : Index) : Keyspace.get keys now (.index index) = Table.find keys (.index index) := by
  rw [Keyspace.get]
  cases found : Table.find keys (.index index) with
  | none => rfl
  | some entry => simp [Keyspace.live, stay index entry found]

theorem Stay.members (stay : keys.Stay) (index : Index) : keys.members now index = keys.listed index := by
  rw [Keys.members, stay.get, Keys.listed]

theorem Stay.expiry (stay : keys.Stay) (index : Index) :
    (Keyspace.get keys now (.index index)).bind Entry.expiresAt = none := by
  rw [stay.get]
  cases found : Table.find keys (.index index) with
  | none => rfl
  | some entry => exact stay index entry found

theorem Stay.put (stay : keys.Stay) (index : Index) (members : List String) :
    Stay (Table.put keys (.index index) ⟨.members members, none⟩) := by
  intro other entry found
  rw [Table.find_put] at found
  split at found
  · rw [← Option.some.inj found]
  · exact stay other entry found

theorem Stay.delete (stay : keys.Stay) (key : Key) : Stay (Table.delete keys key) := by
  intro other entry found
  rw [Table.find_delete] at found
  split at found
  · contradiction
  · exact stay other entry found

theorem Stay.apply (stay : keys.Stay) (write : Write) : (write.apply now keys).Stay := by
  cases write with
  | set record ex =>
    intro index entry found
    rw [Write.apply, Table.find_put, if_neg (by simp)] at found
    exact stay index entry found
  | sadd index member =>
    rw [Write.apply, stay.expiry]
    exact stay.put index _
  | srem index member =>
    rw [Write.apply, stay.expiry]
    split
    · exact stay.delete _
    · exact stay.put index _
  | del key => exact stay.delete key

theorem listed_put (index other : Index) (members : List String) :
    Keys.listed (Table.put keys (.index index) ⟨.members members, none⟩) other =
      if other = index then members else keys.listed other := by
  rw [Keys.listed, Table.find_put]
  by_cases same : other = index
  · simp [same]
  · simp [same, Keys.listed]

theorem mem_sadd (stay : keys.Stay) {index other : Index} {member tokenHash : String} :
    tokenHash ∈ ((Write.sadd index member).apply now keys).listed other ↔
      tokenHash ∈ keys.listed other ∨ (other = index ∧ tokenHash = member) := by
  rw [Write.apply, stay.expiry, stay.members, listed_put]
  by_cases same : other = index
  · subst same
    simp [List.mem_insert_iff, or_comm]
  · simp [same]

theorem mem_srem (stay : keys.Stay) {index other : Index} {member tokenHash : String} :
    tokenHash ∈ ((Write.srem index member).apply now keys).listed other ↔
      tokenHash ∈ keys.listed other ∧ ¬(other = index ∧ tokenHash = member) := by
  rw [Write.apply, stay.expiry, stay.members]
  split
  · rename_i empty
    by_cases same : other = index
    · subst same
      have only : ∀ x ∈ keys.listed other, x = member := by simpa using empty
      simp only [Keys.listed, Table.find_delete, if_true, true_and]
      constructor
      · intro absurd
        simp at absurd
      · rintro ⟨there, different⟩
        exact absurd (only tokenHash there) different
    · simp [Keys.listed, Table.find_delete, same]
  · rw [listed_put]
    by_cases same : other = index
    · subst same
      simp
    · simp [same]

theorem mem_del_index {index other : Index} {tokenHash : String} :
    tokenHash ∈ ((Write.del (.index index)).apply now keys).listed other ↔
      other ≠ index ∧ tokenHash ∈ keys.listed other := by
  simp only [Write.apply, Keys.listed, Table.find_delete, Key.index.injEq]
  by_cases same : other = index <;> simp [same]

@[simp] theorem listed_set (record : SessionRecord) (ex : Int) (index : Index) :
    ((Write.set record ex).apply now keys).listed index = keys.listed index := by
  simp [Write.apply, Keys.listed, Table.find_put]

@[simp] theorem listed_del_session (tokenHash : String) (index : Index) :
    ((Write.del (.session tokenHash)).apply now keys).listed index = keys.listed index := by
  simp [Write.apply, Keys.listed, Table.find_delete]

theorem record_put_index (index : Index) (entry : Entry Value Int) (tokenHash : String) :
    Keys.record (Table.put keys (.index index) entry) t tokenHash = keys.record t tokenHash := by
  simp [Keys.record, Keyspace.get_put]

theorem record_delete_index (index : Index) (tokenHash : String) :
    Keys.record (Table.delete keys (.index index)) t tokenHash = keys.record t tokenHash := by
  simp [Keys.record, Keyspace.get_delete]

@[simp] theorem record_sadd (index : Index) (member tokenHash : String) :
    ((Write.sadd index member).apply now keys).record t tokenHash = keys.record t tokenHash :=
  record_put_index ..

@[simp] theorem record_srem (index : Index) (member tokenHash : String) :
    ((Write.srem index member).apply now keys).record t tokenHash = keys.record t tokenHash := by
  rw [Write.apply]
  split
  · exact record_delete_index ..
  · exact record_put_index ..

@[simp] theorem record_del_index (index : Index) (tokenHash : String) :
    ((Write.del (.index index)).apply now keys).record t tokenHash = keys.record t tokenHash :=
  record_delete_index ..

theorem record_del_session (deleted tokenHash : String) :
    ((Write.del (.session deleted)).apply now keys).record t tokenHash =
      if tokenHash = deleted then none else keys.record t tokenHash := by
  by_cases same : tokenHash = deleted <;> simp [Write.apply, Keys.record, Keyspace.get_delete, same]

theorem record_set (record : SessionRecord) (ex : Int) (tokenHash : String) :
    ((Write.set record ex).apply now keys).record t tokenHash =
      if tokenHash = record.tokenHash then (if t < now + ex * second then some record else none)
      else keys.record t tokenHash := by
  by_cases same : tokenHash = record.tokenHash
  · subst same
    by_cases ahead : t < now + ex * second <;>
      simp [Write.apply, Keys.record, Keyspace.get_put, Option.filter_some, Keyspace.live, ahead]
  · simp [Write.apply, Keys.record, Keyspace.get_put, same]

theorem record_earlier {record : SessionRecord} {tokenHash : String} (le : now ≤ t)
    (later : keys.record t tokenHash = some record) : keys.record now tokenHash = some record := by
  have still (entry : Entry Value Int) (alive : Keyspace.live t entry = true) : Keyspace.live now entry = true := by
    unfold Keyspace.live at alive ⊢
    cases expiry : entry.expiresAt with
    | none => rfl
    | some moment =>
      simp only [expiry, Option.all_some, decide_eq_true_eq] at alive ⊢
      exact le.trans_lt alive
  unfold Keys.record Keyspace.get at later ⊢
  cases found : Table.find keys (.session tokenHash) with
  | none => simp [found] at later
  | some entry =>
    rw [found] at later
    by_cases alive : Keyspace.live t entry = true
    · simpa [Option.filter_some, alive, still entry alive] using later
    · simp [Option.filter_some, alive] at later

end Keys

end IdigestHub.Sessions
