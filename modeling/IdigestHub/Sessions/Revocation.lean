import IdigestHub.Foundation.Runs
import IdigestHub.Sessions.Registry

/-! Requests that use the Valkey store at the same time, one command of one of them after the other. -/

set_option autoImplicit false

namespace IdigestHub.Sessions

open Foundation Foundation.Runs

namespace Script

variable {A : Type}

def writes : Script A → List Write
  | .write writes _ => writes
  | _ => []

/-- The set that the next command reads. -/
def asks : Script A → Option Index
  | .smembers index _ => some index
  | _ => none

end Script

inductive Work where
  | lookup (script : Script (Option SessionRecord))
  | save (script : Script Unit)
  | delete (ends : String → Bool) (script : Script Unit)
  | clear (target : Nat) (script : Script Unit)

namespace Work

def writes : Work → List Write
  | .lookup script => script.writes
  | .save script | .delete _ script | .clear _ script => script.writes

def asks : Work → Option Index
  | .lookup script => script.asks
  | .save script | .delete _ script | .clear _ script => script.asks

def Ends : Work → String → SessionRecord → Prop
  | .delete ends _, tokenHash, _ => ends tokenHash = true
  | .clear target _, _, record => record.impersonateUserId = some target
  | _, _, _ => False

end Work

structure Thread where
  held : Option SessionRecord
  work : Option Work

/-- The store and its requests. `owner` knows the sessions that were ever created, `revoked` those
whose deletion has completed, and `cleared` the users that no session is to impersonate. -/
structure Server where
  keys : Keys
  clock : Int
  threads : Nat → Thread
  owner : String → Option Nat
  revoked : String → Bool
  cleared : Nat → Bool

/-- A call by a request; `touch` and `set_impersonate` are given the record that it holds. -/
inductive Request where
  | lookup (tokenHash : String)
  | touch (ttl : Int)
  | setImpersonate (target : Option Nat)
  | deleteByRawToken (tokenHash : String)
  | deleteUserSessions (userId : Nat)
  | clearImpersonationTarget (target : Nat)

/-- `step` is the next command of a request, or its return; `abort` its failure. `started` is when
`create` read the clock. -/
inductive Event where
  | tick (time : Nat)
  | create (id userId : Nat) (tokenHash : String) (ttl started : Int)
  | call (thread : Nat) (request : Request)
  | step (thread : Nat)
  | abort (thread : Nat)

namespace Server

def fresh (clock : Int) : Server := ⟨∅, clock, fun _ => ⟨none, none⟩, fun _ => none, fun _ => false, fun _ => false⟩

def put (server : Server) (thread : Nat) (held : Option SessionRecord) (work : Option Work) : Server :=
  { server with threads := Function.update server.threads thread ⟨held, work⟩ }

def call (server : Server) (thread : Nat) (request : Request) : Server :=
  let held := (server.threads thread).held
  match request with
  | .lookup tokenHash => server.put thread none (some (.lookup (ValkeySessionStore.lookup tokenHash)))
  | .touch ttl =>
    match held with
    | none => server
    | some record => server.put thread (some (record.touched ttl server.clock))
        (some (.save (ValkeySessionStore.touch record ttl server.clock)))
  | .setImpersonate target =>
    match held with
    | none => server
    | some record =>
      { server with cleared := fun user => server.cleared user && target != some user }.put thread
        (some (record.impersonating target)) (some (.save (ValkeySessionStore.setImpersonate record target server.clock)))
  | .deleteByRawToken tokenHash => server.put thread held
      (some (.delete (fun other => other == tokenHash && (server.owner other).isSome)
        (ValkeySessionStore.deleteByRawToken tokenHash)))
  | .deleteUserSessions userId => server.put thread held
      (some (.delete (fun tokenHash => server.owner tokenHash == some userId) (ValkeySessionStore.deleteUserSessions userId)))
  | .clearImpersonationTarget target => server.put thread held
      (some (.clear target (ValkeySessionStore.clearImpersonationTarget target)))

def command {A : Type} (server : Server) (thread : Nat) (script : Script A) (work : Script A → Work) : Server :=
  let (next, keys) := script.step server.clock server.keys
  { server with keys }.put thread (server.threads thread).held (some (work next))

def advance (server : Server) (thread : Nat) : Server :=
  let held := (server.threads thread).held
  match (server.threads thread).work with
  | none => server
  | some (.lookup (.done found)) => server.put thread found none
  | some (.save (.done _)) => server.put thread held none
  | some (.delete ends (.done _)) =>
    { server with revoked := fun tokenHash => server.revoked tokenHash || ends tokenHash }.put thread held none
  | some (.clear target (.done _)) =>
    { server with cleared := fun user => server.cleared user || user == target }.put thread held none
  | some (.lookup script) => server.command thread script .lookup
  | some (.save script) => server.command thread script .save
  | some (.delete ends script) => server.command thread script (.delete ends)
  | some (.clear target script) => server.command thread script (.clear target)

def step (server : Server) : Event → Server
  | .tick time => { server with clock := server.clock + time }
  | .create id userId tokenHash ttl started =>
    { server with
      keys := ((ValkeySessionStore.create id userId tokenHash ttl started).run server.clock server.keys).2
      owner := Function.update server.owner tokenHash (some userId) }
  | .call thread request =>
    -- a request makes one call after the other
    if (server.threads thread).work.isSome then server else server.call thread request
  | .step thread => server.advance thread
  | .abort thread => server.put thread (server.threads thread).held none

/-- A deleted session is not found, and nobody impersonates a user who is no target any more. -/
def Final (server : Server) : Prop :=
  (∀ tokenHash, server.revoked tokenHash = true →
    ((ValkeySessionStore.lookup tokenHash).run server.clock server.keys).1 = none) ∧
  ∀ target, server.cleared target = true → ∀ tokenHash record,
    server.keys.record server.clock tokenHash = some record → record.impersonateUserId ≠ some target

/-- The target has not been cleared since the last call that sets it, and is not being cleared by a
request that has read its set. -/
def Open (server : Server) (target : Nat) : Prop :=
  server.cleared target = false ∧ ∀ thread script,
    (server.threads thread).work = some (.clear target script) → script.asks.isSome = true

/-- A command that writes a record back finds the session still there, and with the same target
unless that is open; a set that is read lists the sessions that it is read for. -/
def Safe (server : Server) : Event → Prop
  | .create _ _ tokenHash _ _ => server.owner tokenHash = none
  | .step thread => ∀ work, (server.threads thread).work = some work →
    (∀ record ex, .set record ex ∈ work.writes → ∃ stored,
      server.keys.record server.clock record.tokenHash = some stored ∧
      ∀ target, record.impersonateUserId = some target → stored.impersonateUserId = some target ∨ server.Open target) ∧
    ∀ index, work.asks = some index → ∀ tokenHash record, server.keys.record server.clock tokenHash = some record →
      work.Ends tokenHash record → tokenHash ∈ server.keys.members server.clock index
  | _ => True

end Server

def Write.Replaces (tokenHash : String) : Write → Prop
  | .set record _ => record.tokenHash = tokenHash
  | .del key => key = .session tokenHash
  | _ => False

/-- From the sessions in `left` on, the script rids the store of the records that `ends`
describes: what it reads and deletes leaves none of them. -/
def Script.Sweeps (ends : String → SessionRecord → Prop) : (String → Prop) → Script Unit → Prop
  | left, .done _ => ∀ tokenHash, ¬ left tokenHash
  | left, .get tokenHash next => ∀ now payload, (∀ record, payload = some record → record.tokenHash = tokenHash) →
    (next now payload).Sweeps ends fun other =>
      left other ∧ (other = tokenHash → ∃ record, payload = some record ∧ ends tokenHash record)
  | left, .write writes next => (∀ record ex, .set record ex ∈ writes → ¬ ends record.tokenHash record) ∧
    next.Sweeps ends fun other => left other ∧ ∀ write ∈ writes, ¬ write.Replaces other
  | _, _ => False

/-- A sweep that has still to read its set, or one that has `left` to go. -/
inductive Script.Sweeping (ends : String → SessionRecord → Prop) (keys : Keys) (now : Int) : Script Unit → Prop
  | before {index : Index} {next : Int → List String → Script Unit}
      (after : ∀ time members, (next time members).Sweeps ends fun tokenHash => tokenHash ∈ members) :
      Sweeping ends keys now (.smembers index next)
  | after {script : Script Unit} {left : String → Prop} (sweeps : script.Sweeps ends left)
      (there : ∀ tokenHash record, keys.record now tokenHash = some record → ends tokenHash record → left tokenHash) :
      Sweeping ends keys now script

section Sweeps

variable {ends : String → SessionRecord → Prop} {script : Script Unit}

theorem Script.Sweeps.fewer {left less : String → Prop} (sweeps : script.Sweeps ends left)
    (fewer : ∀ tokenHash, less tokenHash → left tokenHash) : script.Sweeps ends less := by
  induction script generalizing left less with
  | done value => exact fun tokenHash there => sweeps tokenHash (fewer tokenHash there)
  | get tokenHash next ih =>
    intro now payload hash
    exact ih now payload (sweeps now payload hash) fun other there => ⟨fewer other there.1, there.2⟩
  | smembers index next ih => exact sweeps
  | scan next ih => exact sweeps
  | write writes next ih => exact ⟨sweeps.1, ih sweeps.2 fun other there => ⟨fewer other there.1, there.2⟩⟩

theorem sweeps_deleteByHash {left : String → Prop} {tokenHash : String}
    (next : script.Sweeps ends fun other => left other ∧ other ≠ tokenHash) :
    (ValkeySessionStore.deleteByHash tokenHash script).Sweeps ends left := by
  intro now payload _
  have dropped (less : String → Prop) (fewer : ∀ other, less other → left other) :
      (Script.write [.del (.session tokenHash)] script).Sweeps ends less := by
    refine ⟨fun record ex member => by simp at member, next.fewer fun other there => ⟨fewer other there.1, ?_⟩⟩
    rintro rfl
    exact there.2 _ (List.mem_singleton.mpr rfl) rfl
  cases payload with
  | none => exact dropped _ fun other there => there.1
  | some record =>
    refine ⟨fun other ex member => ?_, dropped _ fun other there => there.1.1⟩
    cases impersonates : record.impersonateUserId <;> simp [ValkeySessionStore.removeIndexes, impersonates] at member

theorem sweeps_deleteByRawToken (tokenHash : String) :
    (ValkeySessionStore.deleteByRawToken tokenHash).Sweeps ends fun other => other = tokenHash :=
  sweeps_deleteByHash fun _ there => there.2 there.1

theorem sweeps_deleteEach (userId : Nat) (hashes : List String) :
    (ValkeySessionStore.deleteEach userId hashes).Sweeps ends fun tokenHash => tokenHash ∈ hashes := by
  induction hashes with
  | nil => exact ⟨fun record ex member => by simp at member, fun other there => List.not_mem_nil there.1⟩
  | cons first rest ih =>
    exact sweeps_deleteByHash (ih.fewer fun other there => (List.mem_cons.mp there.1).resolve_left there.2)

theorem sweeps_clearEach (target : Nat) (now : Int) (hashes : List String) :
    (ValkeySessionStore.clearEach target now hashes).Sweeps (fun _ record => record.impersonateUserId = some target)
      fun tokenHash => tokenHash ∈ hashes := by
  induction hashes with
  | nil => exact ⟨fun record ex member => by simp at member, fun other there => List.not_mem_nil there.1⟩
  | cons first rest ih =>
    intro time payload hash
    cases payload with
    | none =>
      refine ih.fewer fun other there => (List.mem_cons.mp there.1).resolve_left fun same => ?_
      obtain ⟨record, absurd, _⟩ := there.2 same
      contradiction
    | some record =>
      dsimp only [ValkeySessionStore.clearRecord]
      split
      · refine ⟨fun saved ex member => ?_, ih.fewer fun other there => ?_⟩
        · simp only [List.mem_cons, Write.set.injEq, reduceCtorEq, List.not_mem_nil, or_false] at member
          rw [member.1]
          simp [SessionRecord.impersonating]
        · refine (List.mem_cons.mp there.1.1).resolve_left fun same => ?_
          refine there.2 _ List.mem_cons_self ?_
          rw [same]
          exact hash record rfl
      · rename_i not_target
        refine ih.fewer fun other there => (List.mem_cons.mp there.1).resolve_left fun same => ?_
        obtain ⟨read, same_record, impersonates⟩ := there.2 same
        rw [← Option.some.inj same_record] at impersonates
        exact not_target impersonates

end Sweeps

section Records

variable {keys : Keys} {now t : Int} {tokenHash : String} {record : SessionRecord}

theorem record_apply {write : Write} (there : (write.apply now keys).record t tokenHash = some record) :
    (keys.record t tokenHash = some record ∧ ¬ write.Replaces tokenHash) ∨
      (record.tokenHash = tokenHash ∧ ∃ ex, write = .set record ex) := by
  cases write with
  | set saved ex =>
    rw [Keys.record_set] at there
    split at there
    · rename_i same
      split at there
      · obtain rfl := Option.some.inj there
        exact .inr ⟨same.symm, ex, rfl⟩
      · contradiction
    · rename_i different
      exact .inl ⟨there, fun same => different same.symm⟩
  | sadd index member => exact .inl ⟨by simpa using there, id⟩
  | srem index member => exact .inl ⟨by simpa using there, id⟩
  | del key =>
    cases key with
    | session deleted =>
      rw [Keys.record_del_session] at there
      split at there
      · contradiction
      · rename_i different
        exact .inl ⟨there, fun same => different (Key.session.inj same).symm⟩
    | index index => exact .inl ⟨by simpa using there, fun same => by simp [Write.Replaces] at same⟩

theorem record_applied {writes : List Write} (there : (writes.foldl (Write.apply now) keys).record t tokenHash = some record) :
    (keys.record t tokenHash = some record ∧ ∀ write ∈ writes, ¬ write.Replaces tokenHash) ∨
      (record.tokenHash = tokenHash ∧ ∃ ex, .set record ex ∈ writes) := by
  induction writes generalizing keys with
  | nil => exact .inl ⟨there, fun write member => absurd member List.not_mem_nil⟩
  | cons first rest ih =>
    rcases ih there with ⟨middle, kept⟩ | ⟨hash, ex, member⟩
    · rcases record_apply middle with ⟨before, untouched⟩ | ⟨hash, ex, same⟩
      · exact .inl ⟨before, List.forall_mem_cons.mpr ⟨untouched, kept⟩⟩
      · exact .inr ⟨hash, ex, by rw [same]; exact List.mem_cons_self⟩
    · exact .inr ⟨hash, ex, List.mem_cons_of_mem _ member⟩

theorem Script.step_keys {A : Type} (script : Script A) :
    (script.step now keys).2 = script.writes.foldl (Write.apply now) keys := by
  cases script <;> rfl

end Records

section Sweeping

variable {ends : String → SessionRecord → Prop} {script : Script Unit} {keys : Keys} {now : Int}

theorem Script.Sweeping.step (sweeping : script.Sweeping ends keys now)
    (hashes : ∀ tokenHash record, keys.record now tokenHash = some record → record.tokenHash = tokenHash)
    (lists : ∀ index, script.asks = some index → ∀ tokenHash record, keys.record now tokenHash = some record →
      ends tokenHash record → tokenHash ∈ keys.members now index) :
    (script.step now keys).1.Sweeping ends (script.step now keys).2 now := by
  cases sweeping with
  | before after => exact .after (after now _) (lists _ rfl)
  | after sweeps there =>
    cases script with
    | done value => exact .after sweeps there
    | get tokenHash next =>
      refine .after (sweeps now _ (hashes tokenHash)) fun other record here ended => ⟨there other record here ended, ?_⟩
      rintro rfl
      exact ⟨record, here, ended⟩
    | smembers index next => exact sweeps.elim
    | scan next => exact sweeps.elim
    | write writes next =>
      refine .after sweeps.2 fun other record here ended => ?_
      rcases record_applied here with ⟨before, untouched⟩ | ⟨rfl, ex, member⟩
      · exact ⟨there other record before ended, untouched⟩
      · exact absurd ended (sweeps.1 record ex member)

/-- A sweep that has read its set is kept while no record comes that it ends. -/
theorem Script.Sweeping.stays (sweeping : script.Sweeping ends keys now) {after : Keys} {time : Int}
    (none_new : script.asks = none → ∀ tokenHash record, after.record time tokenHash = some record → ends tokenHash record →
      ∃ before, keys.record now tokenHash = some before ∧ ends tokenHash before) :
    script.Sweeping ends after time := by
  cases sweeping with
  | before still => exact .before still
  | @after _ left sweeps there =>
    refine .after sweeps fun tokenHash record here ended => ?_
    have asked : script.asks = none := by
      cases script with
      | smembers index next => exact sweeps.elim
      | _ => rfl
    obtain ⟨before, was, ended_before⟩ := none_new asked tokenHash record here ended
    exact there tokenHash before was ended_before

theorem Script.Sweeping.done {value : Unit} (sweeping : (Script.done value).Sweeping ends keys now) (tokenHash : String)
    (record : SessionRecord) (there : keys.record now tokenHash = some record) : ¬ ends tokenHash record := by
  cases sweeping with
  | after sweeps left => exact fun ended => sweeps tokenHash (left tokenHash record there ended)

end Sweeping

/-- What a deletion ends has been created, and what is to be swept is not swept in vain. -/
def Work.Guarded (server : Server) : Work → Prop
  | .delete ends script => (∀ tokenHash, ends tokenHash = true → server.owner tokenHash ≠ none) ∧
    script.Sweeping (fun tokenHash _ => ends tokenHash = true) server.keys server.clock
  | .clear target script =>
    script.Sweeping (fun _ record => record.impersonateUserId = some target) server.keys server.clock
  | _ => True

structure Server.Guarded (server : Server) : Prop where
  hashes : ∀ tokenHash record, server.keys.record server.clock tokenHash = some record → record.tokenHash = tokenHash
  revoked : ∀ tokenHash, server.revoked tokenHash = true →
    server.owner tokenHash ≠ none ∧ server.keys.record server.clock tokenHash = none
  cleared : ∀ target, server.cleared target = true → ∀ tokenHash record,
    server.keys.record server.clock tokenHash = some record → record.impersonateUserId ≠ some target
  threads : ∀ thread work, (server.threads thread).work = some work → work.Guarded server

section Server

variable {server : Server}

theorem Server.Guarded.final (guarded : server.Guarded) : server.Final := by
  refine ⟨fun tokenHash revoked => ?_, guarded.cleared⟩
  rw [ValkeySessionStore.lookup, Script.run, (guarded.revoked tokenHash revoked).2]
  rfl

/-- The keys change, and each record that is there is of a new session without a target, or was
there before with its target, if that is not open. -/
theorem Server.Guarded.moved (guarded : server.Guarded) {keys : Keys} {clock : Int} {owner : String → Option Nat}
    (grown : ∀ tokenHash, server.owner tokenHash ≠ none → owner tokenHash ≠ none)
    (records : ∀ tokenHash record, keys.record clock tokenHash = some record → record.tokenHash = tokenHash ∧
      ((server.owner tokenHash = none ∧ record.impersonateUserId = none) ∨
        ∃ before, server.keys.record server.clock tokenHash = some before ∧ ∀ target,
          record.impersonateUserId = some target → before.impersonateUserId = some target ∨ server.Open target)) :
    Guarded { server with keys, clock, owner } := by
  have present {tokenHash : String} {record : SessionRecord} (there : keys.record clock tokenHash = some record)
      (created : server.owner tokenHash ≠ none) : ∃ before, server.keys.record server.clock tokenHash = some before := by
    rcases (records tokenHash record there).2 with ⟨new, _⟩ | ⟨before, was, _⟩
    · exact absurd new created
    · exact ⟨before, was⟩
  have impersonated {tokenHash : String} {record : SessionRecord} {target : Nat}
      (there : keys.record clock tokenHash = some record) (impersonates : record.impersonateUserId = some target)
      (shut : ¬ server.Open target) : ∃ before, server.keys.record server.clock tokenHash = some before ∧
        before.impersonateUserId = some target := by
    rcases (records tokenHash record there).2 with ⟨_, none_there⟩ | ⟨before, was, same⟩
    · rw [none_there] at impersonates
      contradiction
    · exact ⟨before, was, (same target impersonates).resolve_right shut⟩
  constructor
  · exact fun tokenHash record there => (records tokenHash record there).1
  · intro tokenHash revoked
    obtain ⟨created, gone⟩ := guarded.revoked tokenHash revoked
    refine ⟨grown tokenHash created, Option.eq_none_iff_forall_ne_some.mpr fun record there => ?_⟩
    obtain ⟨before, was⟩ := present there created
    rw [gone] at was
    contradiction
  · intro target cleared tokenHash record there impersonates
    have shut : ¬ server.Open target := fun is_open => by simp [is_open.1] at cleared
    obtain ⟨before, was, impersonated_before⟩ := impersonated there impersonates shut
    exact guarded.cleared target cleared tokenHash before was impersonated_before
  · intro thread work running
    have going := guarded.threads thread work running
    cases work with
    | lookup script => trivial
    | save script => trivial
    | delete ends script =>
      refine ⟨fun tokenHash ended => grown tokenHash (going.1 tokenHash ended), going.2.stays ?_⟩
      intro _ tokenHash record there ended
      obtain ⟨before, was⟩ := present there (going.1 tokenHash ended)
      exact ⟨before, was, ended⟩
    -- A target that is open has a command whose members are still to be read, so none has been asked for.
    | clear target script =>
      refine going.stays fun asked tokenHash record there impersonates => impersonated there impersonates fun is_open => ?_
      have unread := is_open.2 thread script running
      simp [asked] at unread

theorem Server.Guarded.put (guarded : server.Guarded) (thread : Nat) (held : Option SessionRecord) (work : Option Work)
    (going : ∀ its, work = some its → its.Guarded server) : (server.put thread held work).Guarded := by
  refine ⟨guarded.hashes, guarded.revoked, guarded.cleared, fun other its running => ?_⟩
  by_cases same : other = thread
  · subst same
    exact going its (by simpa [Server.put] using running)
  · exact guarded.threads other its (by simpa [Server.put, same] using running)

theorem Server.Guarded.command (guarded : server.Guarded) {A : Type} (thread : Nat) (script : Script A)
    (work : Script A → Work)
    (sets : ∀ record ex, .set record ex ∈ script.writes → ∃ stored,
      server.keys.record server.clock record.tokenHash = some stored ∧
      ∀ target, record.impersonateUserId = some target → stored.impersonateUserId = some target ∨ server.Open target)
    (next : (work (script.step server.clock server.keys).1).Guarded
      { server with keys := (script.step server.clock server.keys).2 }) :
    (server.command thread script work).Guarded := by
  have moved : Guarded { server with keys := (script.step server.clock server.keys).2 } := by
    refine guarded.moved (fun _ => id) fun tokenHash record there => ?_
    rw [Script.step_keys] at there
    rcases record_applied there with ⟨before, _⟩ | ⟨rfl, ex, member⟩
    · exact ⟨guarded.hashes tokenHash record before, .inr ⟨record, before, fun target same => .inl same⟩⟩
    · exact ⟨rfl, .inr (sets record ex member)⟩
  exact moved.put thread _ _ fun its same => Option.some.inj same ▸ next

theorem Server.Guarded.create (guarded : server.Guarded) {tokenHash : String} (id userId : Nat) (ttl started : Int)
    (new : server.owner tokenHash = none) : (server.step (.create id userId tokenHash ttl started)).Guarded := by
  refine guarded.moved (fun other created => ?_) fun other record there => ?_
  · by_cases same : other = tokenHash <;> simp [same, created]
  · have entered : (([.set (.new id userId tokenHash ttl started) (ttlSec (started + ttl * second) started),
        .sadd (.user userId) tokenHash] : List Write).foldl (Write.apply server.clock) server.keys).record
          server.clock other = some record := there
    rcases record_applied entered with ⟨before, _⟩ | ⟨rfl, ex, member⟩
    · exact ⟨guarded.hashes other record before, .inr ⟨record, before, fun target same => .inl same⟩⟩
    · simp only [List.mem_cons, Write.set.injEq, reduceCtorEq, List.not_mem_nil, or_false] at member
      rw [member.1]
      exact ⟨rfl, .inl ⟨new, rfl⟩⟩

theorem Server.Guarded.call (guarded : server.Guarded) (thread : Nat) (request : Request) :
    (server.call thread request).Guarded := by
  cases request with
  | lookup tokenHash => exact guarded.put thread _ _ fun its same => by obtain rfl := Option.some.inj same; trivial
  | touch ttl =>
    dsimp only [Server.call]
    split
    · exact guarded
    · exact guarded.put thread _ _ fun its same => by obtain rfl := Option.some.inj same; trivial
  | setImpersonate target =>
    dsimp only [Server.call]
    split
    · exact guarded
    · have opened : Guarded { server with cleared := fun user => server.cleared user && target != some user } :=
        ⟨guarded.hashes, guarded.revoked, fun user cleared => guarded.cleared user (Bool.and_eq_true_iff.mp cleared).1,
          guarded.threads⟩
      exact opened.put thread _ _ fun its same => by obtain rfl := Option.some.inj same; trivial
  | deleteByRawToken tokenHash =>
    refine guarded.put thread _ _ fun its same => ?_
    obtain rfl := Option.some.inj same
    refine ⟨fun other ended => ?_, .after (sweeps_deleteByRawToken tokenHash) fun other record there ended => ?_⟩
    · rw [Bool.and_eq_true_iff] at ended
      exact Option.isSome_iff_ne_none.mp ended.2
    · exact eq_of_beq (Bool.and_eq_true_iff.mp ended).1
  | deleteUserSessions userId =>
    refine guarded.put thread _ _ fun its same => ?_
    obtain rfl := Option.some.inj same
    refine ⟨fun tokenHash owned => ?_, .before fun _ members => sweeps_deleteEach userId members⟩
    rw [eq_of_beq owned]
    simp
  | clearImpersonationTarget target =>
    refine guarded.put thread _ _ fun its same => ?_
    obtain rfl := Option.some.inj same
    exact .before fun now members => sweeps_clearEach target now members

/-- A request returns: what its deletion was to end is revoked, or its target is cleared. -/
theorem Server.Guarded.advance (guarded : server.Guarded) (thread : Nat) (safe : server.Safe (.step thread)) :
    (server.advance thread).Guarded := by
  unfold Server.advance
  cases running : (server.threads thread).work with
  | none => exact guarded
  | some work =>
    obtain ⟨sets, lists⟩ := safe work running
    have going := guarded.threads thread work running
    have idle (held : Option SessionRecord) : (server.put thread held none).Guarded :=
      guarded.put thread held none fun its same => by contradiction
    cases work with
    | lookup script =>
      cases script with
      | done found => exact idle found
      | _ => exact guarded.command thread _ _ sets trivial
    | save script =>
      cases script with
      | done value => exact idle _
      | _ => exact guarded.command thread _ _ sets trivial
    | delete ends script =>
      have next := going.2.step guarded.hashes lists
      cases script with
      | done value =>
        have revoked : Guarded { server with revoked := fun tokenHash => server.revoked tokenHash || ends tokenHash } := by
          refine ⟨guarded.hashes, fun tokenHash either => ?_, guarded.cleared, guarded.threads⟩
          rcases Bool.or_eq_true_iff.mp either with before | ended
          · exact guarded.revoked tokenHash before
          · refine ⟨going.1 tokenHash ended, Option.eq_none_iff_forall_ne_some.mpr fun record there => ?_⟩
            exact going.2.done tokenHash record there ended
        exact revoked.put thread _ none fun its same => by contradiction
      | _ => exact guarded.command thread _ _ sets ⟨going.1, next⟩
    | clear target script =>
      have next := going.step guarded.hashes lists
      cases script with
      | done value =>
        have cleared : Guarded { server with cleared := fun user => server.cleared user || user == target } := by
          refine ⟨guarded.hashes, guarded.revoked, fun user either => ?_, guarded.threads⟩
          rcases Bool.or_eq_true_iff.mp either with before | same
          · exact guarded.cleared user before
          · rw [eq_of_beq same]
            exact going.done
        exact cleared.put thread _ none fun its same => by contradiction
      | _ => exact guarded.command thread _ _ sets next

theorem Server.Guarded.step (guarded : server.Guarded) {event : Event} (safe : server.Safe event) :
    (server.step event).Guarded := by
  cases event with
  | tick time =>
    have later : server.clock ≤ server.clock + time := by omega
    refine guarded.moved (fun _ => id) fun tokenHash record there => ?_
    have before := Keys.record_earlier later there
    exact ⟨guarded.hashes tokenHash record before, .inr ⟨record, before, fun target same => .inl same⟩⟩
  | create id userId tokenHash ttl started => exact guarded.create id userId ttl started safe
  | call thread request =>
    dsimp only [Server.step]
    split
    · exact guarded
    · exact guarded.call thread request
  | step thread => exact guarded.advance thread safe
  | abort thread => exact guarded.put thread _ none fun its same => by contradiction

end Server

theorem guarded_fresh (clock : Int) : (Server.fresh clock).Guarded where
  hashes tokenHash record there := by simp [Server.fresh, Keys.record, Keyspace.get, Table.find] at there
  revoked tokenHash absurd := by contradiction
  cleared target absurd := by contradiction
  threads thread work running := by contradiction

/-- Along a run whose writes find what they replace and whose sets are complete when they are read,
revocation is final in every state. -/
theorem revocation_is_final (clock : Int) (events : List Event)
    (safe : Along Server.step Server.Safe (.fresh clock) events) :
    Always Server.step Server.Final (.fresh clock) events := by
  have guarded : Always Server.step Server.Guarded (.fresh clock) events :=
    always_of_along (fun _ _ now good => now.step good) (guarded_fresh clock) safe
  intro done rest split
  exact (guarded done rest split).final

/-- The next command of a request reads no set, and sets only the record of a session that is there
and that it leaves without a target. -/
def Server.plain (server : Server) (thread : Nat) : Bool :=
  (server.threads thread).work.all fun work => work.asks.isNone && work.writes.all fun write =>
    match write with
    | .set record _ => record.impersonateUserId.isNone && (server.keys.record server.clock record.tokenHash).isSome
    | _ => true

theorem Server.safe_of_plain {server : Server} {thread : Nat} (plain : server.plain thread = true) :
    server.Safe (.step thread) := by
  intro work running
  simp only [Server.plain, running, Option.all_some, Bool.and_eq_true, Option.isNone_iff_eq_none, List.all_eq_true] at plain
  refine ⟨fun record ex member => ?_, fun index asks => ?_⟩
  · obtain ⟨no_target, there⟩ := Bool.and_eq_true_iff.mp (plain.2 _ member)
    obtain ⟨stored, present⟩ := Option.isSome_iff_exists.mp there
    refine ⟨stored, present, fun target impersonates => ?_⟩
    simp [impersonates] at no_target
  · rw [plain.1] at asks
    contradiction

/-- A request looks a session up and touches it while another one, which has read it, deletes it. -/
def logout : List Event :=
  [.create 1 7 "t" 3600 0, .call 0 (.lookup "t"), .step 0, .step 0, .call 1 (.deleteByRawToken "t"), .step 1,
    .call 0 (.touch 3600), .step 0, .step 0, .tick 5, .step 1, .step 1, .step 1, .tick 5, .call 2 (.lookup "t"), .step 2]

theorem revocation_is_final_logout : (run Server.step (.fresh 0) logout).revoked "t" = true ∧
    Always Server.step Server.Final (.fresh 0) logout := by
  refine ⟨by decide +kernel, revocation_is_final 0 logout ⟨rfl, trivial, ?_, ?_, trivial, ?_, trivial, ?_, ?_, trivial,
    ?_, ?_, ?_, trivial, trivial, ?_, trivial⟩⟩
  all_goals exact Server.safe_of_plain (by decide +kernel)

/-- The touch of a request that has looked the session up before its deletion brings it back, and
that of one before the end of an impersonation brings the target back. -/
theorem revocation_is_undone :
    (let deleted := run Server.step (.fresh 0)
      [.create 1 7 "t" 3600 0, .call 0 (.lookup "t"), .step 0, .step 0, .call 1 (.deleteByRawToken "t"), .step 1, .step 1,
        .step 1, .step 1, .call 0 (.touch 3600), .step 0]
    deleted.revoked "t" = true ∧
      ((ValkeySessionStore.lookup "t").run deleted.clock deleted.keys).1 = some ⟨1, 7, "t", none, 3600 * second, 0, 0⟩) ∧
    (let cleared := run Server.step (.fresh 0)
      [.create 1 7 "t" 3600 0, .call 0 (.lookup "t"), .step 0, .step 0, .call 0 (.setImpersonate (some 9)), .step 0, .step 0,
        .step 0, .call 0 (.lookup "t"), .step 0, .step 0, .call 1 (.clearImpersonationTarget 9), .step 1, .step 1, .step 1,
        .step 1, .step 1, .call 0 (.touch 3600), .step 0]
    cleared.cleared 9 = true ∧
      cleared.keys.record cleared.clock "t" = some ⟨1, 7, "t", some 9, 3600 * second, 0, 0⟩) := by
  refine ⟨⟨?_, ?_⟩, ?_, ?_⟩
  all_goals decide +kernel

end IdigestHub.Sessions
