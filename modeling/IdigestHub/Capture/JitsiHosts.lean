import IdigestHub.Capture.Meeting
import IdigestHub.Foundation.UniqueKeys
import IdigestHub.Hub.Database
import Mathlib.Data.List.Induction
import Mathlib.Data.String.Basic

/-! The Jitsi hosts of an organization, replaced as a whole. -/

set_option autoImplicit false

namespace IdigestHub.Capture.JitsiHosts

open Foundation Foundation.UniqueKeys

/-- A row of `org_capture_jitsi_hosts` of the organization. -/
structure JitsiHost where
  id : String
  host : String
  jwtSecretEncrypted : Option String
  jwtAppId : Option String
  createdAt : Nat
  updatedAt : Nat
  deriving DecidableEq

structure Item where
  host : String
  id : String
  jwtSecret : Option String
  jwtAppId : Option String
  clearJwtSecret : Bool
  deriving DecidableEq

/-- The rows of an organization under the unique constraint on its hosts, and the ids of new rows, which are in use nowhere. -/
structure Stored where
  rows : List JitsiHost
  distinct : (rows.map JitsiHost.id).Nodup
  unique : (rows.map JitsiHost.host).Nodup
  newId : Nat → String
  fresh : ∀ i, newId i ∉ rows.map JitsiHost.id
  injective : Function.Injective newId

inductive Fault where
  | valueError | integrityError | dataError
  deriving DecidableEq

structure Env where
  python : Python
  database : Database
  encrypt : String → String
  now : Nat

section Replace

variable (env : Env)

def normalizeJwtAppId (raw : Option String) : Option String :=
  raw.bind fun raw => if Text.strip raw = "" then none else some (Text.strip raw)

def secretOf (item : Item) : Option String :=
  item.jwtSecret.bind fun secret => if Text.strip secret = "" then none else some (Text.strip secret)

def rewritten (item : Item) (host : String) (row : JitsiHost) : JitsiHost :=
  { row with
    host := host
    updatedAt := env.now
    jwtAppId := normalizeJwtAppId item.jwtAppId
    jwtSecretEncrypted :=
      if item.clearJwtSecret then none
      else
        match secretOf item with
        | some secret => some (env.encrypt secret)
        | none => row.jwtSecretEncrypted }

def newRow (item : Item) (host id : String) : JitsiHost where
  id := id
  host := host
  jwtSecretEncrypted := (secretOf item).map env.encrypt
  jwtAppId := normalizeJwtAppId item.jwtAppId
  createdAt := env.now
  updatedAt := env.now

/-- The session while the items are taken one by one: the hosts that have been seen, the rows as they have been changed, those
that have been added, and the ids to keep. -/
structure Progress where
  seenHosts : List String
  rows : List JitsiHost
  added : List JitsiHost
  keptIds : List String

def takeItem (newId : Nat → String) (progress : Progress) (item : Item) : Except Fault Progress :=
  match normalizeHost env.python item.host with
  | .error _ => .error .valueError
  | .ok host =>
    if host = "" then .error .valueError
    else if progress.seenHosts.contains host then .error .valueError
    else
      let rowId := Text.strip item.id
      let seenHosts := host :: progress.seenHosts
      if rowId ≠ "" ∧ rowId ∈ progress.rows.map JitsiHost.id then
        .ok { progress with
          seenHosts
          rows := progress.rows.map fun row => if row.id = rowId then rewritten env item host row else row
          keptIds := rowId :: progress.keptIds }
      else
        let row := newRow env item host (newId progress.added.length)
        .ok { progress with seenHosts, added := progress.added ++ [row], keptIds := row.id :: progress.keptIds }

/-- `String(255)` and `String(128)`, as far as the database minds them. -/
def fits (row : JitsiHost) : Bool := env.database.text 255 row.host && row.jwtAppId.all (env.database.text 128)

/-- The statements of a flush that update and insert rows, one at a time. -/
def writeAll : List JitsiHost → List JitsiHost → Except Fault (List JitsiHost)
  | table, [] => .ok table
  | table, row :: rest =>
    if !fits env row then .error .dataError
    else if Free JitsiHost.id JitsiHost.host table row then writeAll (put JitsiHost.id table row) rest
    else .error .integrityError

/-- The order in which a flush writes the rows that have changed and those that are new. -/
structure Flush where
  order : List JitsiHost → List JitsiHost
  perm : ∀ rows, (order rows).Perm rows

/-- `replace_org_jitsi_hosts`: the rows in the end, sorted by their hosts. What has been written is rolled back with an error. -/
def replaceOrgJitsiHosts (flush : Flush) (stored : Stored) (items : List Item) : Except Fault (List JitsiHost) := do
  let progress ← items.foldlM (takeItem env stored.newId) ⟨[], stored.rows, [], []⟩
  let changed := progress.rows.filter fun row => progress.keptIds.contains row.id
  let written ← writeAll env stored.rows (flush.order (changed ++ progress.added))
  let left := written.filter fun row => !(stored.rows.any fun old => old.id = row.id && !progress.keptIds.contains old.id)
  return left.mergeSort fun a b => a.host ≤ b.host

end Replace

section Items

variable (env : Env)

def hostOf (item : Item) : Option String :=
  match normalizeHost env.python item.host with
  | .error _ => none
  | .ok host => if host = "" then none else some host

structure Good (items : List Item) : Prop where
  valid : ∀ item ∈ items, (hostOf env item).isSome = true
  distinct : (items.map (hostOf env)).Nodup

def names (item : Item) (row : JitsiHost) : Bool := Text.strip item.id != "" && row.id == Text.strip item.id

def touch (row : JitsiHost) (item : Item) : JitsiHost :=
  if names item row then rewritten env item ((hostOf env item).getD "") row else row

def touched (items : List Item) (row : JitsiHost) : JitsiHost := items.foldl (touch env) row

def isNamed (stored : Stored) (item : Item) : Bool := stored.rows.any (names item)

def writes (stored : Stored) (items : List Item) : List JitsiHost :=
  (stored.rows.filter fun row => items.any (names · row)).map (touched env items) ++
    (items.filter fun item => !isNamed stored item).mapIdx fun i item =>
      newRow env item ((hostOf env item).getD "") (stored.newId i)

def advance (stored : Stored) (progress : Progress) (item : Item) : Progress :=
  let host := (hostOf env item).getD ""
  let seenHosts := host :: progress.seenHosts
  if isNamed stored item then
    { progress with
      seenHosts
      rows := progress.rows.map fun row => touch env row item
      keptIds := Text.strip item.id :: progress.keptIds }
  else
    { progress with
      seenHosts
      added := progress.added ++ [newRow env item host (stored.newId progress.added.length)]
      keptIds := stored.newId progress.added.length :: progress.keptIds }

end Items

section Taking

variable {env : Env} {stored : Stored}

theorem rewritten_id (item : Item) (host : String) (row : JitsiHost) : (rewritten env item host row).id = row.id := by
  rw [rewritten]

theorem rewritten_host (item : Item) (host : String) (row : JitsiHost) : (rewritten env item host row).host = host := by
  rw [rewritten]

theorem rewritten_secret (item : Item) (host : String) (row : JitsiHost) : (rewritten env item host row).jwtSecretEncrypted =
    if item.clearJwtSecret then none else ((secretOf item).map env.encrypt).or row.jwtSecretEncrypted := by
  rw [rewritten]
  dsimp only
  cases secretOf item <;> rfl

theorem touch_id (row : JitsiHost) (item : Item) : (touch env row item).id = row.id := by
  rw [touch]
  split
  · exact rewritten_id item _ row
  · exact Eq.refl row.id

theorem touched_nil (row : JitsiHost) : touched env [] row = row := by rw [touched, List.foldl_nil]

theorem touched_cons (item : Item) (rest : List Item) (row : JitsiHost) :
    touched env (item :: rest) row = touched env rest (touch env row item) := by rw [touched, touched, List.foldl_cons]

theorem touched_id (items : List Item) (row : JitsiHost) : (touched env items row).id = row.id := by
  induction items generalizing row with
  | nil => rw [touched_nil]
  | cons item rest ih => rw [touched_cons, ih, touch_id]

theorem names_iff {item : Item} {row : JitsiHost} : names item row = true ↔
    Text.strip item.id ≠ "" ∧ row.id = Text.strip item.id := by
  simp [names]

/-- The session after the items: every row as they have changed it, the new rows, and the ids to keep. -/
structure After (env : Env) (stored : Stored) (items : List Item) (progress : Progress) : Prop where
  seen : ∀ host, host ∈ progress.seenHosts ↔ ∃ item ∈ items, (hostOf env item).getD "" = host
  rows : progress.rows = stored.rows.map (touched env items)
  added : progress.added = (items.filter fun item => !isNamed stored item).mapIdx fun i item =>
    newRow env item ((hostOf env item).getD "") (stored.newId i)
  kept : ∀ id, id ∈ progress.keptIds ↔ (∃ item ∈ items, ∃ row ∈ stored.rows, names item row = true ∧ row.id = id) ∨
    ∃ row ∈ progress.added, row.id = id

theorem after_start (env : Env) (stored : Stored) : After env stored [] ⟨[], stored.rows, [], []⟩ where
  seen := by simp
  rows := (List.map_id' stored.rows).symm
  added := rfl
  kept := by simp

theorem After.ids {items : List Item} {progress : Progress} (after : After env stored items progress) :
    progress.rows.map JitsiHost.id = stored.rows.map JitsiHost.id := by
  rw [after.rows, List.map_map]
  exact List.map_congr_left fun row _ => touched_id items row

theorem isNamed_iff {item : Item} : isNamed stored item = true ↔
    Text.strip item.id ≠ "" ∧ Text.strip item.id ∈ stored.rows.map JitsiHost.id := by
  simp only [isNamed, List.any_eq_true, names_iff, List.mem_map]
  constructor
  · rintro ⟨row, member, given, same⟩
    exact ⟨given, row, member, same⟩
  · rintro ⟨given, row, member, same⟩
    exact ⟨row, member, given, same⟩

theorem after_advance {items : List Item} {progress : Progress} (after : After env stored items progress) (item : Item) :
    After env stored (items ++ [item]) (advance env stored progress item) := by
  -- an item names a stored row and touches it, or adds a new one
  by_cases named : isNamed stored item = true
  · have step : advance env stored progress item = { progress with
        seenHosts := (hostOf env item).getD "" :: progress.seenHosts
        rows := progress.rows.map fun row => touch env row item
        keptIds := Text.strip item.id :: progress.keptIds } := if_pos named
    rw [step]
    refine ⟨fun host => ?_, ?_, ?_, fun id => ?_⟩
    · simp [after.seen, or_comm, eq_comm]
    · rw [after.rows, List.map_map]
      exact List.map_congr_left fun row _ => by simp [touched]
    · rw [after.added]
      simp [named]
    · rw [List.mem_cons, after.kept]
      obtain ⟨given, its⟩ := isNamed_iff.mp named
      constructor
      · rintro (rfl | ⟨other, member, row, found, its⟩ | added)
        · obtain ⟨row, found, same⟩ := List.mem_map.mp its
          exact .inl ⟨item, by simp, row, found, names_iff.mpr ⟨given, same⟩, same⟩
        · exact .inl ⟨other, List.mem_append_left _ member, row, found, its⟩
        · exact .inr added
      · rintro (⟨other, member, row, found, naming, rfl⟩ | added)
        · rcases List.mem_append.mp member with before | last
          · exact .inr (.inl ⟨other, before, row, found, naming, rfl⟩)
          · obtain rfl := List.mem_singleton.mp last
            exact .inl (names_iff.mp naming).2
        · exact .inr (.inr added)
  · have step : advance env stored progress item = { progress with
        seenHosts := (hostOf env item).getD "" :: progress.seenHosts
        added := progress.added ++ [newRow env item ((hostOf env item).getD "") (stored.newId progress.added.length)]
        keptIds := stored.newId progress.added.length :: progress.keptIds } := if_neg named
    -- no stored row is named, so none is touched
    have unnamed (row : JitsiHost) (member : row ∈ stored.rows) : names item row = false := by
      by_contra naming
      exact named (List.any_eq_true.mpr ⟨row, member, by simpa using naming⟩)
    rw [step]
    refine ⟨fun host => ?_, ?_, ?_, fun id => ?_⟩
    · simp [after.seen, or_comm, eq_comm]
    · rw [after.rows]
      refine List.map_congr_left fun row member => ?_
      have other : names item (touched env items row) = false := by
        have same := unnamed row member
        simpa [names, touched_id] using same
      simp [touched, touch] at other ⊢
      simp [other]
    · have length : progress.added.length = (items.filter fun item => !isNamed stored item).length := by
        rw [after.added, List.length_mapIdx]
      simp [named, after.added, List.mapIdx_append]
    · rw [List.mem_cons, after.kept]
      constructor
      · rintro (rfl | ⟨other, member, rest⟩ | ⟨row, member, same⟩)
        · exact .inr ⟨_, List.mem_append_right _ List.mem_cons_self, rfl⟩
        · exact .inl ⟨other, List.mem_append_left _ member, rest⟩
        · exact .inr ⟨row, List.mem_append_left _ member, same⟩
      · rintro (⟨other, member, row, found, naming, rfl⟩ | ⟨row, member, rfl⟩)
        · rcases List.mem_append.mp member with before | last
          · exact .inr (.inl ⟨other, before, row, found, naming, rfl⟩)
          · obtain rfl := List.mem_singleton.mp last
            rw [unnamed row found] at naming
            contradiction
        · rcases List.mem_append.mp member with before | last
          · exact .inr (.inr ⟨row, before, rfl⟩)
          · obtain rfl := List.mem_singleton.mp last
            exact .inl rfl

theorem takeItem_invalid {progress : Progress} {item : Item} (invalid : hostOf env item = none) :
    takeItem env stored.newId progress item = .error .valueError := by
  rw [hostOf] at invalid
  rw [takeItem]
  cases normalized : normalizeHost env.python item.host with
  | error => rfl
  | ok host =>
    rw [normalized] at invalid
    have empty : host = "" := by
      by_contra given
      simp [given] at invalid
    simp [empty]

theorem takeItem_valid {items : List Item} {progress : Progress} (after : After env stored items progress) {item : Item}
    {host : String}
    (valid : hostOf env item = some host) : takeItem env stored.newId progress item =
      if host ∈ progress.seenHosts then .error .valueError else .ok (advance env stored progress item) := by
  have parts : normalizeHost env.python item.host = .ok host ∧ host ≠ "" := by
    rw [hostOf] at valid
    cases normalized : normalizeHost env.python item.host with
    | error => simp [normalized] at valid
    | ok its =>
      rw [normalized] at valid
      by_cases empty : its = ""
      · simp [empty] at valid
      · simp only [empty, if_false, Option.some.injEq] at valid
        exact ⟨by rw [valid], valid ▸ empty⟩
  have known : (Text.strip item.id ≠ "" ∧ Text.strip item.id ∈ progress.rows.map JitsiHost.id) ↔ isNamed stored item = true := by
    rw [after.ids, isNamed_iff]
  rw [takeItem, parts.1]
  dsimp only
  rw [if_neg parts.2]
  by_cases seen : host ∈ progress.seenHosts
  · rw [if_pos seen, if_pos (List.contains_iff_mem.mpr seen)]
  · rw [if_neg seen, if_neg fun contains => seen (List.contains_iff_mem.mp contains)]
    rw [advance, valid]
    by_cases named : isNamed stored item = true
    · rw [if_pos (known.mpr named), if_pos named]
      have given := (isNamed_iff.mp named).1
      have rows (row : JitsiHost) : (if row.id = Text.strip item.id then rewritten env item host row else row) =
        touch env row item := by
        simp [touch, names, given, valid]
      simp [rows]
    · rw [if_neg (known.not.mpr named), if_neg named]
      rfl

theorem foldlM_takeItem (env : Env) (stored : Stored) (items : List Item) :
    (Good env items → ∃ progress, items.foldlM (takeItem env stored.newId) ⟨[], stored.rows, [], []⟩ = .ok progress ∧
      After env stored items progress) ∧
    (¬ Good env items → items.foldlM (takeItem env stored.newId) ⟨[], stored.rows, [], []⟩ = .error .valueError) := by
  induction items using List.reverseRecOn with
  | nil => exact ⟨fun _ => ⟨_, rfl, after_start env stored⟩, fun bad => absurd ⟨by simp, by simp⟩ bad⟩
  | append_singleton items item ih =>
    rw [List.foldlM_append]
    -- a bad item stops the fold, and what follows it cannot mend that
    by_cases good : Good env items
    · obtain ⟨progress, taken, after⟩ := ih.1 good
      rw [taken]
      have bound (next : Progress → Except Fault Progress) : (Except.ok progress >>= next) = next progress := rfl
      have last : [item].foldlM (takeItem env stored.newId) progress = takeItem env stored.newId progress item := by
        rw [List.foldlM_cons]
        cases takeItem env stored.newId progress item <;> rfl
      rw [bound, last]
      cases valid : hostOf env item with
      | none =>
        rw [takeItem_invalid valid]
        refine ⟨fun all => ?_, fun _ => rfl⟩
        have its := all.valid item (by simp)
        rw [valid] at its
        exact absurd its (by decide)
      | some host =>
        rw [takeItem_valid after valid]
        have seen : host ∈ progress.seenHosts ↔ hostOf env item ∈ items.map (hostOf env) := by
          rw [after.seen, valid, List.mem_map]
          refine exists_congr fun other => and_congr_right fun member => ?_
          obtain ⟨its, same⟩ := Option.isSome_iff_exists.mp (good.valid other member)
          simp [same]
        -- a good start stays good with a host not seen yet
        have whole : Good env (items ++ [item]) ↔ host ∉ progress.seenHosts := by
          rw [seen]
          constructor
          · intro all repeated
            have distinct := all.distinct
            rw [List.map_append, List.nodup_append] at distinct
            exact distinct.2.2 _ repeated _ (by simp) rfl
          · intro apart
            refine ⟨fun other member => ?_, ?_⟩
            · rcases List.mem_append.mp member with before | last
              · exact good.valid other before
              · rw [List.mem_singleton.mp last, valid, Option.isSome_some]
            · rw [List.map_append, List.nodup_append]
              refine ⟨good.distinct, by simp, fun other before last found => ?_⟩
              rintro rfl
              rw [List.map_singleton, List.mem_singleton] at found
              exact apart (found ▸ before)
        rw [whole]
        by_cases repeated : host ∈ progress.seenHosts
        · exact ⟨fun apart => absurd repeated apart, fun _ => if_pos repeated⟩
        · exact ⟨fun _ => ⟨_, if_neg repeated, after_advance after item⟩, fun bad => absurd repeated bad⟩
    · rw [ih.2 good]
      refine ⟨fun all => absurd ⟨fun other member => all.valid other (List.mem_append_left _ member), ?_⟩ good, fun _ => rfl⟩
      have distinct := all.distinct
      rw [List.map_append] at distinct
      exact distinct.of_append_left

end Taking

section Writing

variable {env : Env} {stored : Stored}

theorem After.kept_iff {items : List Item} {progress : Progress} (after : After env stored items progress) {row : JitsiHost}
    (member : row ∈ stored.rows) : row.id ∈ progress.keptIds ↔ ∃ item ∈ items, names item row = true := by
  rw [after.kept]
  constructor
  · rintro (⟨item, among, other, found, naming, same⟩ | ⟨row', added, same⟩)
    · refine ⟨item, among, ?_⟩
      rw [names_iff] at naming ⊢
      exact ⟨naming.1, same ▸ naming.2⟩
    · -- new ids are in use nowhere
      rw [after.added] at added
      obtain ⟨i, _, rfl⟩ := List.mem_mapIdx.mp added
      exact absurd (List.mem_map.mpr ⟨row, member, same.symm⟩) (stored.fresh i)
  · rintro ⟨item, among, naming⟩
    exact .inl ⟨item, among, row, member, naming, rfl⟩

theorem After.writes_eq {items : List Item} {progress : Progress} (after : After env stored items progress) :
    (progress.rows.filter fun row => progress.keptIds.contains row.id) ++ progress.added = writes env stored items := by
  have kept : ∀ row ∈ stored.rows, progress.keptIds.contains (touched env items row).id = items.any (names · row) := by
    intro row member
    rw [Bool.eq_iff_iff, List.contains_iff_mem, touched_id, after.kept_iff member, List.any_eq_true]
  rw [writes, after.rows, after.added, List.filter_map]
  congr 2
  exact List.filter_congr kept

theorem mem_writes {items : List Item} {row : JitsiHost} : row ∈ writes env stored items ↔
    (∃ old ∈ stored.rows, (∃ item ∈ items, names item old = true) ∧ row = touched env items old) ∨
      ∃ i item, (items.filter fun item => !isNamed stored item)[i]? = some item ∧
        row = newRow env item ((hostOf env item).getD "") (stored.newId i) := by
  rw [writes, List.mem_append]
  refine or_congr ?_ ?_
  · simp only [List.mem_map, List.mem_filter, List.any_eq_true]
    constructor
    · rintro ⟨old, ⟨member, named⟩, rfl⟩
      exact ⟨old, member, named, rfl⟩
    · rintro ⟨old, member, named, rfl⟩
      exact ⟨old, ⟨member, named⟩, rfl⟩
  · rw [List.mem_mapIdx]
    constructor
    · rintro ⟨i, inside, rfl⟩
      exact ⟨i, _, List.getElem?_eq_getElem inside, rfl⟩
    · rintro ⟨i, item, its, rfl⟩
      obtain ⟨inside, rfl⟩ := List.getElem?_eq_some_iff.mp its
      exact ⟨i, inside, rfl⟩

theorem writes_distinct (items : List Item) : ((writes env stored items).map JitsiHost.id).Nodup := by
  rw [writes, List.map_append, List.nodup_append]
  refine ⟨?_, ?_, ?_⟩
  · have ids : ((stored.rows.filter fun row => items.any (names · row)).map (touched env items)).map JitsiHost.id =
        (stored.rows.filter fun row => items.any (names · row)).map JitsiHost.id := by
      rw [List.map_map]
      exact List.map_congr_left fun row _ => touched_id items row
    rw [ids]
    exact stored.distinct.sublist (List.filter_sublist.map _)
  · rw [List.Nodup, List.pairwise_map]
    refine List.pairwise_iff_getElem.mpr fun i j _ _ less => ?_
    rw [List.getElem_mapIdx, List.getElem_mapIdx]
    exact fun same => absurd (stored.injective same) (Nat.ne_of_lt less)
  · intro id old id' new same
    obtain ⟨row, member, rfl⟩ := List.mem_map.mp old
    obtain ⟨before, among, rfl⟩ := List.mem_map.mp member
    obtain ⟨row', added, rfl⟩ := List.mem_map.mp new
    obtain ⟨i, _, rfl⟩ := List.mem_mapIdx.mp added
    rw [touched_id] at same
    exact stored.fresh i (List.mem_map.mpr ⟨before, (List.mem_filter.mp among).1, same⟩)

def Unshared (stored : Stored) (items : List Item) : Prop :=
  items.Pairwise fun a b => ∀ row ∈ stored.rows, ¬ (names a row = true ∧ names b row = true)

theorem touched_of_unnamed {items : List Item} {row : JitsiHost} (unnamed : ∀ item ∈ items, names item row = false) :
    touched env items row = row := by
  induction items with
  | nil => exact touched_nil row
  | cons item rest ih =>
    have same : touch env row item = row := if_neg (by rw [unnamed item List.mem_cons_self]; decide)
    rw [touched_cons, same]
    exact ih fun other member => unnamed other (List.mem_cons_of_mem item member)

theorem touched_of_named {items : List Item} (unshared : Unshared stored items) {item : Item} (member : item ∈ items)
    {row : JitsiHost}
    (found : row ∈ stored.rows) (naming : names item row = true) :
    touched env items row = rewritten env item ((hostOf env item).getD "") row := by
  obtain ⟨before, after, rfl⟩ := List.append_of_mem member
  rw [Unshared, List.pairwise_append, List.pairwise_cons] at unshared
  have earlier : ∀ other ∈ before, names other row = false := fun other among => by
    by_contra its
    exact unshared.2.2 other among item List.mem_cons_self row found ⟨by simpa using its, naming⟩
  have once : touch env row item = rewritten env item ((hostOf env item).getD "") row := if_pos naming
  have later : ∀ other ∈ after, names other (rewritten env item ((hostOf env item).getD "") row) = false := fun other among => by
    have its : names other row = false := by
      by_contra its
      exact unshared.2.1.1 other among row found ⟨naming, by simpa using its⟩
    rw [names, rewritten_id, ← names, its]
  have parts : touched env (before ++ item :: after) row = touched env after (touch env (touched env before row) item) := by
    rw [touched, List.foldl_append, List.foldl_cons, touched, touched]
  rw [parts, touched_of_unnamed earlier, once]
  exact touched_of_unnamed later

theorem writes_item {items : List Item} (unshared : Unshared stored items) {row : JitsiHost}
    (written : row ∈ writes env stored items) :
    ∃ item ∈ items, row.host = (hostOf env item).getD "" ∧
      (∀ old ∈ stored.rows, names item old = true → row.id = old.id) ∧
      ((∀ old ∈ stored.rows, names item old = false) → ∃ i, (items.filter fun item => !isNamed stored item)[i]? = some item ∧
        row.id = stored.newId i) := by
  rcases mem_writes.mp written with ⟨old, found, ⟨item, member, naming⟩, rfl⟩ | ⟨i, item, its, rfl⟩
  · refine ⟨item, member, ?_, fun other among same => ?_, fun none => ?_⟩
    · rw [touched_of_named unshared member found naming, rewritten_host]
    · rw [touched_id, (names_iff.mp naming).2, (names_iff.mp same).2]
    · rw [none old found] at naming
      contradiction
  · have member := List.mem_filter.mp (List.mem_of_getElem? its)
    refine ⟨item, member.1, by rw [newRow], fun other among same => ?_, fun _ => ⟨i, its, by rw [newRow]⟩⟩
    have named : isNamed stored item = true := List.any_eq_true.mpr ⟨other, among, same⟩
    rw [named] at member
    exact absurd member.2 (by decide)

theorem hostOf_injective {items : List Item} (good : Good env items) {item other : Item} (member : item ∈ items)
    (among : other ∈ items)
    (same : (hostOf env item).getD "" = (hostOf env other).getD "") : item = other := by
  obtain ⟨host, its⟩ := Option.isSome_iff_exists.mp (good.valid item member)
  obtain ⟨host', its'⟩ := Option.isSome_iff_exists.mp (good.valid other among)
  rw [its, its', Option.getD_some, Option.getD_some] at same
  exact List.inj_on_of_nodup_map good.distinct member among (by rw [its, its', same])

theorem writes_own {items : List Item} (good : Good env items) (unshared : Unshared stored items) :
    ∀ row ∈ writes env stored items, ∀ other ∈ writes env stored items, other.host = row.host → other.id = row.id := by
  intro row written other written' same
  obtain ⟨item, member, host, old, new⟩ := writes_item unshared written
  obtain ⟨item', member', host', old', new'⟩ := writes_item unshared written'
  obtain rfl : item = item' := hostOf_injective good member member' (by rw [← host, ← host', same])
  by_cases named : ∃ before ∈ stored.rows, names item before = true
  · obtain ⟨before, found, naming⟩ := named
    rw [old before found naming, old' before found naming]
  · have unnamed : ∀ before ∈ stored.rows, names item before = false := fun before found => by
      by_contra naming
      exact named ⟨before, found, by simpa using naming⟩
    obtain ⟨i, its, id⟩ := new unnamed
    obtain ⟨j, its', id'⟩ := new' unnamed
    -- an item is in the list only once
    have distinct : (items.filter fun item => !isNamed stored item).Nodup := (List.Nodup.of_map _ good.distinct).filter _
    obtain ⟨inside, at_i⟩ := List.getElem?_eq_some_iff.mp its
    obtain ⟨inside', at_j⟩ := List.getElem?_eq_some_iff.mp its'
    have place : i = j := (distinct.getElem_inj_iff).mp (at_i.trans at_j.symm)
    rw [id, id', place]

theorem writeAll_eq (table rows result : List JitsiHost) : writeAll env table rows = .ok result ↔
    (∀ row ∈ rows, fits env row = true) ∧ Succeeds JitsiHost.id JitsiHost.host table rows ∧
      result = putAll JitsiHost.id table rows := by
  induction rows generalizing table with
  | nil => exact ⟨fun same => ⟨by simp, trivial, (Except.ok.inj same).symm⟩, fun ⟨_, _, same⟩ => same ▸ rfl⟩
  | cons row rest ih =>
    rw [writeAll, Succeeds, List.forall_mem_cons]
    by_cases stored : fits env row = true
    · by_cases free : Free JitsiHost.id JitsiHost.host table row
      · rw [if_neg (by simp [stored]), if_pos free, ih]
        simp [stored, free, putAll]
      · rw [if_neg (by simp [stored]), if_neg free]
        simp [free]
    · rw [if_pos (by simp [stored])]
      simp [stored]

end Writing

section Replacing

variable {env : Env}

/-- The hosts of an organization after a replacement: those of the items, each once; an item that names a row keeps its id, and
its secret unless it clears or replaces it; other items have their own secrets only. -/
structure Replaced (env : Env) (stored : Stored) (items : List Item) (result : List JitsiHost) : Prop where
  hosts : ∀ host, (∃ row ∈ result, row.host = host) ↔ ∃ item ∈ items, hostOf env item = some host
  once : (result.map JitsiHost.host).Nodup
  keeps : ∀ item ∈ items, ∀ row ∈ stored.rows, names item row = true →
    ∃ after ∈ result, after.id = row.id ∧ hostOf env item = some after.host ∧
      after.jwtSecretEncrypted = if item.clearJwtSecret then none
        else ((secretOf item).map env.encrypt).or row.jwtSecretEncrypted
  gives : ∀ item ∈ items, (∀ row ∈ stored.rows, names item row = false) →
    ∃ after ∈ result, after.id ∉ stored.rows.map JitsiHost.id ∧ hostOf env item = some after.host ∧
      after.jwtSecretEncrypted = (secretOf item).map env.encrypt

structure Meets (env : Env) (flush : Flush) (stored : Stored) (items : List Item) : Prop where
  replaces : Good env items → ∃ result, replaceOrgJitsiHosts env flush stored items = .ok result ∧
    Replaced env stored items result
  refuses : ¬ Good env items → replaceOrgJitsiHosts env flush stored items = .error .valueError

theorem replace_of_good (flush : Flush) (stored : Stored) {items : List Item} (good : Good env items) :
    ∃ kept : List String, (∀ row ∈ stored.rows, row.id ∈ kept ↔ ∃ item ∈ items, names item row = true) ∧
      replaceOrgJitsiHosts env flush stored items = (writeAll env stored.rows (flush.order (writes env stored items))).map
        fun written =>
        (written.filter fun row => !(stored.rows.any fun old => old.id = row.id && !kept.contains old.id)).mergeSort
          fun a b => a.host ≤ b.host := by
  obtain ⟨progress, taken, after⟩ := (foldlM_takeItem env stored items).1 good
  refine ⟨progress.keptIds, fun row => after.kept_iff, ?_⟩
  rw [replaceOrgJitsiHosts, taken, ← after.writes_eq]
  rfl

theorem replace_ok {flush : Flush} {stored : Stored} {items : List Item} (good : Good env items) {result : List JitsiHost}
    (replaced : replaceOrgJitsiHosts env flush stored items = .ok result) :
    (∀ row ∈ writes env stored items, fits env row = true) ∧
      Succeeds JitsiHost.id JitsiHost.host stored.rows (flush.order (writes env stored items)) ∧
      (result.map JitsiHost.id).Nodup ∧ ∀ row, row ∈ result ↔ row ∈ writes env stored items := by
  obtain ⟨kept, keeps, same⟩ := replace_of_good flush stored good
  have order := flush.perm (writes env stored items)
  have distinct : ((flush.order (writes env stored items)).map JitsiHost.id).Nodup :=
    (order.map _).nodup_iff.mpr (writes_distinct items)
  rw [same] at replaced
  cases wrote : writeAll env stored.rows (flush.order (writes env stored items)) with
  | error fault =>
    rw [wrote] at replaced
    contradiction
  | ok written =>
    rw [wrote] at replaced
    obtain ⟨stores, succeeds, rfl⟩ := (writeAll_eq _ _ _).mp wrote
    obtain rfl := Except.ok.inj replaced
    have sorted (rows : List JitsiHost) : (rows.mergeSort fun a b => a.host ≤ b.host).Perm rows := List.mergeSort_perm rows _
    refine ⟨fun row member => stores row (order.symm.subset member), succeeds, ?_, fun row => ?_⟩
    · refine ((sorted _).map JitsiHost.id).nodup_iff.mpr ?_
      exact (putAll_nodup stored.distinct _).sublist (List.filter_sublist.map _)
    · have deleted : (!(stored.rows.any fun old => old.id = row.id && !kept.contains old.id)) = true ↔
          ∀ old ∈ stored.rows, old.id = row.id → old.id ∈ kept := by
        simp
      rw [(sorted _).mem_iff, List.mem_filter, mem_putAll distinct, order.mem_iff, deleted]
      constructor
      · rintro ⟨its | ⟨found, untouched⟩, kept_⟩
        · exact its
        · obtain ⟨item, member, naming⟩ := (keeps row found).mp (kept_ row found rfl)
          have written : touched env items row ∈ writes env stored items :=
            mem_writes.mpr (.inl ⟨row, found, ⟨item, member, naming⟩, rfl⟩)
          exact absurd (touched_id items row) (untouched _ (order.symm.subset written))
      · intro its
        refine ⟨.inl its, fun old found id => ?_⟩
        rcases mem_writes.mp its with ⟨before, among, naming, rfl⟩ | ⟨i, item, _, rfl⟩
        · have one : before = old := List.inj_on_of_nodup_map stored.distinct among found (by rw [id, touched_id])
          exact (keeps old found).mpr (one ▸ naming)
        · exact absurd (List.mem_map.mpr ⟨old, found, id⟩) (stored.fresh i)

theorem replace_of_succeeds {flush : Flush} {stored : Stored} {items : List Item} (good : Good env items)
    (stores : ∀ row ∈ writes env stored items, fits env row = true)
    (succeeds : Succeeds JitsiHost.id JitsiHost.host stored.rows (flush.order (writes env stored items))) :
    ∃ result, replaceOrgJitsiHosts env flush stored items = .ok result := by
  obtain ⟨kept, _, same⟩ := replace_of_good flush stored good
  have wrote := (writeAll_eq stored.rows (flush.order (writes env stored items)) _).mpr
    ⟨fun row member => stores row ((flush.perm _).subset member), succeeds, rfl⟩
  rw [same, wrote]
  exact ⟨_, rfl⟩

theorem replace_of_bad {flush : Flush} {stored : Stored} {items : List Item} (bad : ¬ Good env items) :
    replaceOrgJitsiHosts env flush stored items = .error .valueError := by
  rw [replaceOrgJitsiHosts, (foldlM_takeItem env stored items).2 bad]
  rfl

/-- A replacement does what it is for exactly where good items name no row twice, their columns fit, and no row is written with
the host of another that has not been written before. -/
theorem replaces_hosts_iff (env : Env) (flush : Flush) (stored : Stored) (items : List Item) : Meets env flush stored items ↔
    (Good env items → Unshared stored items ∧ (∀ row ∈ writes env stored items, fits env row = true) ∧
      Clear JitsiHost.id JitsiHost.host stored.rows (flush.order (writes env stored items))) := by
  have own_of (good : Good env items) (unshared : Unshared stored items) :
      ∀ row ∈ flush.order (writes env stored items), ∀ other ∈ flush.order (writes env stored items),
        other.host = row.host → other.id = row.id := fun row written other written' =>
    writes_own good unshared row ((flush.perm _).subset written) other ((flush.perm _).subset written')
  constructor
  · intro meets good
    obtain ⟨result, replaced, its⟩ := meets.replaces good
    obtain ⟨stores, succeeds, distinct, same⟩ := replace_ok good replaced
    -- two items that name one row would leave it with two hosts
    have unshared : Unshared stored items := by
      have apart : items.Pairwise fun a b => hostOf env a ≠ hostOf env b := List.pairwise_map.mp good.distinct
      refine apart.imp_of_mem fun {a b} first second differ row found ⟨names_a, names_b⟩ => differ ?_
      obtain ⟨after, inside, id, host, _⟩ := its.keeps a first row found names_a
      obtain ⟨after', inside', id', host', _⟩ := its.keeps b second row found names_b
      have one : after = after' := List.inj_on_of_nodup_map distinct inside inside' (id.trans id'.symm)
      rw [host, host', one]
    exact ⟨unshared, stores, (succeeds_iff (own_of good unshared)).mp succeeds⟩
  · intro condition
    refine ⟨fun good => ?_, replace_of_bad⟩
    obtain ⟨unshared, stores, clear⟩ := condition good
    obtain ⟨result, replaced⟩ := replace_of_succeeds good stores ((succeeds_iff (own_of good unshared)).mpr clear)
    obtain ⟨_, _, distinct, same⟩ := replace_ok good replaced
    have given {item : Item} (member : item ∈ items) : hostOf env item = some ((hostOf env item).getD "") := by
      obtain ⟨host, its⟩ := Option.isSome_iff_exists.mp (good.valid item member)
      rw [its, Option.getD_some]
    have keeps : ∀ item ∈ items, ∀ row ∈ stored.rows, names item row = true →
        rewritten env item ((hostOf env item).getD "") row ∈ result := by
      intro item member row found naming
      rw [same, mem_writes]
      exact .inl ⟨row, found, ⟨item, member, naming⟩, (touched_of_named unshared member found naming).symm⟩
    have gives : ∀ item ∈ items, (∀ row ∈ stored.rows, names item row = false) →
        ∃ i, newRow env item ((hostOf env item).getD "") (stored.newId i) ∈ result := by
      intro item member unnamed
      have listed : item ∈ items.filter fun item => !isNamed stored item := by
        rw [List.mem_filter]
        refine ⟨member, ?_⟩
        rw [Bool.not_eq_true', isNamed, List.any_eq_false]
        exact fun row found => by simp [unnamed row found]
      obtain ⟨i, its⟩ := List.mem_iff_getElem?.mp listed
      exact ⟨i, (same _).mpr (mem_writes.mpr (.inr ⟨i, item, its, rfl⟩))⟩
    refine ⟨result, replaced, fun host => ⟨?_, ?_⟩, ?_, fun item member row found naming => ?_, fun item member unnamed => ?_⟩
    · rintro ⟨row, inside, rfl⟩
      obtain ⟨item, member, its, _⟩ := writes_item unshared ((same row).mp inside)
      refine ⟨item, member, ?_⟩
      rw [its]
      exact given member
    · rintro ⟨item, member, its⟩
      by_cases named : ∃ row ∈ stored.rows, names item row = true
      · obtain ⟨row, found, naming⟩ := named
        exact ⟨_, keeps item member row found naming, by rw [rewritten_host, its, Option.getD_some]⟩
      · obtain ⟨i, inside⟩ := gives item member fun row found => by
          by_contra naming
          exact named ⟨row, found, by simpa using naming⟩
        exact ⟨_, inside, by rw [newRow, its, Option.getD_some]⟩
    -- distinct ids and one id to a host, so distinct hosts
    · refine (List.Nodup.of_map _ distinct).map_on fun row inside other inside' host => ?_
      exact List.inj_on_of_nodup_map distinct inside inside'
        (writes_own good unshared other ((same other).mp inside') row ((same row).mp inside) host)
    · refine ⟨_, keeps item member row found naming, rewritten_id item _ row, ?_, rewritten_secret item _ row⟩
      rw [rewritten_host]
      exact given member
    · obtain ⟨i, inside⟩ := gives item member unnamed
      refine ⟨_, inside, ?_, ?_, by rw [newRow]⟩
      · rw [newRow]
        exact stored.fresh i
      · rw [newRow]
        exact given member

/-- A language that parses no URL, with an encryption that leaves texts as they are. -/
def plainEnv : Env where
  python :=
    { float := fun _ => none, str := fun _ => "?", jsonBytes := fun _ => none, int := fun _ => .invalid, lower := String.toLower
      urlparse := fun _ => none, str_truthy := fun _ _ => Python.question_ne_empty }
  database := .sqlite
  encrypt := id
  now := 0

def inOrder : Flush := ⟨id, fun _ => .refl _⟩

def oneHost : Stored where
  rows := [⟨"1", "meet.example.com", none, none, 0, 0⟩]
  distinct := by decide
  unique := by decide
  newId := fun i => .ofList (List.replicate (i + 2) 'n')
  fresh := fun i member => by
    have same : String.ofList (List.replicate (i + 2) 'n') = "1" := List.mem_singleton.mp member
    have lengths := congrArg (fun text => text.toList.length) same
    have one : "1".toList.length = 1 := by decide
    simp only [String.toList_ofList, List.length_replicate, one] at lengths
    omega
  injective := fun i j same => by
    have texts := congrArg String.toList same
    have lengths := congrArg List.length texts
    rw [String.toList_ofList, String.toList_ofList, List.length_replicate, List.length_replicate] at lengths
    omega

/-- A host that is entered anew while its row is left out is inserted before that row is deleted. -/
theorem not_meets_readded : ¬ Meets plainEnv inOrder oneHost [⟨"meet.example.com", "", none, none, false⟩] := by
  intro meets
  have good : Good plainEnv [⟨"meet.example.com", "", none, none, false⟩] := by
    refine ⟨fun item member => ?_, by decide +kernel⟩
    rw [List.mem_singleton.mp member]
    decide +kernel
  obtain ⟨result, replaced, _⟩ := meets.replaces good
  have refused : (replaceOrgJitsiHosts plainEnv inOrder oneHost [⟨"meet.example.com", "", none, none, false⟩]).toOption =
    none := by
    decide +kernel
  rw [replaced] at refused
  exact absurd refused (by simp [Except.toOption])

end Replacing

end IdigestHub.Capture.JitsiHosts
