import IdigestHub.Crypto.Rotation
import IdigestHub.Foundation.Runs

/-! The re-encryption job beside transactions that write the same columns, each seen by the
others from its commit on. -/

set_option autoImplicit false

namespace IdigestHub.Crypto

open Foundation Foundation.Runs

namespace Database

/-- A write of a column; a row that is not there yet is inserted. -/
def putCell (db : Database) (column : EncryptedColumn) (key : Nat) (value : Text) : Database :=
  if ((db.rows column.1).find key).isSome then db.setCell column key value
  else { db with rows := Function.update db.rows column.1 ((db.rows column.1).put key
    ⟨Function.update (fun _ => none) column.2 (some value), none⟩) }

def setStatus (db : Database) (ids : List DekId) (status : DekStatus) : Database :=
  { db with deks := db.deks.mapRows fun id dek => if id ∈ ids then { dek with status } else dek }

def addDek (db : Database) (id : DekId) (wrappedKey : Text) : Database :=
  { db with
    deks := db.deks.put id ⟨wrappedKey, .active⟩
    rows := Function.update db.rows .instanceSettings ((db.rows .instanceSettings).modify settingsId fun row =>
      { row with activeDekId := some id }) }

end Database

/-- A row value that the job has read and will overwrite at its next commit. -/
structure Move where
  column : EncryptedColumn
  key : Nat
  value : Text
  token : Text

/-- The job's session: the retiring keys it started with, the active key as it read it, the values of
the batch, and the retiring key that it found unused. -/
structure JobRun where
  retiring : List DekId
  active : Option (DekId × Text)
  loaded : EncryptedColumn → Nat → Option Text
  moves : List Move
  unused : Option DekId

structure Edit where
  column : EncryptedColumn
  key : Nat
  plain : Text
  token : Text

/-- The store with its sessions. `expected` is the text of the last commit of an edit, and `drawn`
are the ids that keys ever had. -/
structure Vault where
  db : Database
  job : Option JobRun
  edits : Nat → Option Edit
  requests : Nat → Option (List DekId)
  expected : EncryptedColumn → Nat → Option Text
  drawn : List DekId

inductive VaultEvent (Nonce : Type) where
  | startJob
  | readActive
  | load (column : EncryptedColumn)
  | move (column : EncryptedColumn) (key : Nat) (nonce : Nonce)
  | commitBatch
  | countUsage (id : DekId)
  | dropUnused
  | endJob
  | beginEdit (edit : Nat) (column : EncryptedColumn) (key : Nat) (plain : Text) (nonce : Nonce)
  | commitEdit (edit : Nat)
  | requestDek (request : Nat)
  | commitDek (request : Nat) (id : DekId) (wrappedKey : Text)

namespace Vault

variable {Nonce : Type} (fernet : Fernet Nonce) (secrets : Secrets) (dialect : Dialect)

def opened (db : Database) (expected : EncryptedColumn → Nat → Option Text) : Vault :=
  ⟨db, none, fun _ => none, fun _ => none, expected, db.deks.keys⟩

def withJob (vault : Vault) (step : JobRun → Vault) : Vault := (vault.job.map step).getD vault

/-- One row of a batch: what raises ends the job and its session. -/
def moveRow (vault : Vault) (job : JobRun) (column : EncryptedColumn) (key : Nat) (nonce : Nonce) : Vault :=
  match job.loaded column key, job.active with
  | some value, some (id, raw) =>
    if namesRetiring job.retiring (some value) then
      match decryptStr fernet secrets value vault.db with
      | .error _ => { vault with job := none }
      | .ok plain =>
        match encryptWithDek fernet nonce plain id raw with
        | .error _ => { vault with job := none }
        | .ok token => { vault with job := some { job with
            loaded := Function.update job.loaded column (Function.update (job.loaded column) key (some token))
            moves := job.moves ++ [⟨column, key, value, token⟩] } }
    else vault
  | _, _ => vault

/-- The check of `delete_retiring_dek`. -/
def isUnused (db : Database) (job : JobRun) (id : DekId) : Bool :=
  job.retiring.contains id && db.activeDekId != some id && countDekUsage dialect db id == 0 &&
    (db.deks.find id).any fun dek => dek.status == .retiring

def step (vault : Vault) : VaultEvent Nonce → Vault
  | .startJob =>
    if vault.job.isNone && !vault.db.retiringIds.isEmpty then
      { vault with job := some ⟨vault.db.retiringIds, none, fun _ _ => none, [], none⟩ }
    else vault
  | .readActive => vault.withJob fun job =>
    match getActiveDek fernet secrets vault.db with
    | .ok active => { vault with job := some { job with active := some active } }
    | .error _ => { vault with job := none }
  | .load column => vault.withJob fun job =>
    { vault with job := some { job with loaded := fun other key =>
        if other = column ∧ key ∈ branchKeys vault.db column.1 then vault.db.cell column key else none } }
  | .move column key nonce => vault.withJob fun job => vault.moveRow fernet secrets job column key nonce
  | .commitBatch => vault.withJob fun job =>
    { vault with
      db := job.moves.foldl (fun db move => db.setCell move.column move.key move.token) vault.db
      job := some { job with moves := [] } }
  | .countUsage id => vault.withJob fun job =>
    { vault with job := some { job with unused := if isUnused dialect vault.db job id then some id else none } }
  | .dropUnused => vault.withJob fun job =>
    match job.unused with
    | none => vault
    | some id => { vault with db := vault.db.dropDek id, job := some { job with unused := none } }
  | .endJob => { vault with job := none }
  | .beginEdit edit column key plain nonce =>
    let written := (encryptStr fernet secrets nonce plain vault.db).toOption.map fun token => ⟨column, key, plain, token⟩
    { vault with edits := Function.update vault.edits edit written }
  | .commitEdit edit =>
    match vault.edits edit with
    | none => vault
    | some written =>
      { vault with
        db := vault.db.putCell written.column written.key written.token
        edits := Function.update vault.edits edit none
        expected := Function.update vault.expected written.column
          (Function.update (vault.expected written.column) written.key (some written.plain)) }
  | .requestDek request =>
    if vault.job.isSome then vault
    else
      let active := vault.db.deks.select fun _ dek => dek.status == .active
      { vault with requests := Function.update vault.requests request (some active) }
  | .commitDek request id wrappedKey =>
    match vault.requests request with
    | none => vault
    | some active =>
      { vault with
        db := (vault.db.setStatus active .retiring).addDek id wrappedKey
        requests := Function.update vault.requests request none
        drawn := id :: vault.drawn }

/-- Every column holds what was last written to it, under a key that is stored. -/
def Readable (vault : Vault) : Prop :=
  ∀ column key plain, vault.expected column key = some plain → ∃ token id, vault.db.cell column key = some token ∧
    tokenDekId (some token) = some id.text ∧ (vault.db.deks.find id).isSome ∧
    decryptStr fernet secrets token vault.db = .ok plain

/-- The job overwrites what it has read and deletes a key that no column names, an edit is committed
while its key is stored, and a new key has a new id. -/
def Careful (vault : Vault) : VaultEvent Nonce → Prop
  | .commitBatch => ∀ job, vault.job = some job → ∀ move ∈ job.moves, vault.db.cell move.column move.key = some move.value
  | .dropUnused => ∀ job, vault.job = some job → ∀ id, job.unused = some id → ∀ column key, ¬ vault.db.Names column key id
  | .commitEdit edit => ∀ written, vault.edits edit = some written →
    ∀ id : DekId, tokenDekId (some written.token) = some id.text → (vault.db.deks.find id).isSome
  | .commitDek _ id _ => id ∉ vault.drawn
  | _ => True

end Vault

namespace Database

variable (db : Database)

theorem cell_putCell (column other : EncryptedColumn) (key otherKey : Nat) (value : Text) :
    (db.putCell column key value).cell other otherKey =
      if other = column ∧ otherKey = key then some value else db.cell other otherKey := by
  unfold putCell
  split
  · rename_i present
    obtain ⟨row, found⟩ := Option.isSome_iff_exists.mp present
    rw [cell_setCell, found]
    rfl
  · rename_i absent
    have missing : (db.rows column.1).find key = none := Option.not_isSome_iff_eq_none.mp absent
    obtain ⟨table, name⟩ := column
    obtain ⟨otherTable, otherName⟩ := other
    by_cases sameTable : otherTable = table
    · subst sameTable
      simp only [cell, Function.update_self, Table.find_put, Prod.mk.injEq, true_and]
      by_cases sameKey : otherKey = key
      · subst sameKey
        dsimp only at missing
        by_cases sameName : otherName = name <;> simp [sameName, missing]
      · simp [sameKey]
    · simp [cell, sameTable]

@[simp] theorem deks_putCell (column : EncryptedColumn) (key : Nat) (value : Text) :
    (db.putCell column key value).deks = db.deks := by
  unfold putCell
  split <;> rfl

theorem activeDekId_setCell (column : EncryptedColumn) (key : Nat) (value : Text) :
    (db.setCell column key value).activeDekId = db.activeDekId := by
  by_cases table : column.1 = .instanceSettings
  · simp only [activeDekId, setCell, table, Function.update_self, Table.find_modify]
    split
    · rename_i same
      rw [same]
      cases (db.rows .instanceSettings).find key <;> rfl
    · rfl
  · simp [activeDekId, setCell, Ne.symm table]

theorem activeDekId_putCell (column : EncryptedColumn) (key : Nat) (value : Text) :
    (db.putCell column key value).activeDekId = db.activeDekId := by
  unfold putCell
  split
  · exact db.activeDekId_setCell column key value
  · rename_i absent
    by_cases table : column.1 = .instanceSettings
    · have missing : (db.rows .instanceSettings).find key = none := Option.not_isSome_iff_eq_none.mp (table ▸ absent)
      simp only [activeDekId, table, Function.update_self, Table.find_put]
      split
      · rename_i same
        rw [same, missing]
        rfl
      · rfl
    · simp [activeDekId, Ne.symm table]

theorem find_setStatus (ids : List DekId) (status : DekStatus) (id : DekId) :
    (db.setStatus ids status).deks.find id = (db.deks.find id).map fun dek => if id ∈ ids then { dek with status } else dek :=
  Table.find_mapRows ..

theorem cell_addDek (id : DekId) (wrappedKey : Text) (column : EncryptedColumn) (key : Nat) :
    (db.addDek id wrappedKey).cell column key = db.cell column key := by
  by_cases table : column.1 = .instanceSettings
  · simp only [cell, addDek, table, Function.update_self, Table.find_modify]
    split
    · rename_i same
      rw [same]
      cases (db.rows .instanceSettings).find settingsId <;> rfl
    · rfl
  · simp [cell, addDek, table]

theorem activeDekId_addDek {id active : DekId} {wrappedKey : Text}
    (is_active : (db.addDek id wrappedKey).activeDekId = some active) : active = id := by
  simp only [activeDekId, addDek, Function.update_self, Table.find_modify, if_true] at is_active
  cases found : (db.rows .instanceSettings).find settingsId with
  | none => simp [found] at is_active
  | some row => simpa [found, eq_comm] using is_active

end Database

section Sealed

variable {Nonce : Type} {fernet : Fernet Nonce} {secrets : Secrets} {deks : Table DekId DataEncryptionKey}

def Sealed (fernet : Fernet Nonce) (secrets : Secrets) (deks : Table DekId DataEncryptionKey) (token plain : Text)
    (id : DekId) : Prop :=
  ∃ inner raw, token = dekPrefix id ++ inner ∧ fernet.decrypt raw inner = .ok plain ∧
    ∀ dek, deks.find id = some dek → unwrapDek fernet secrets dek.wrappedKey = .ok raw

variable {token plain : Text} {id : DekId}

theorem Sealed.names (sealing : Sealed fernet secrets deks token plain id) : tokenDekId (some token) = some id.text := by
  obtain ⟨inner, _, rfl, _⟩ := sealing
  exact tokenDekId_dekPrefix id inner

theorem Sealed.decrypts {db : Database} (sealing : Sealed fernet secrets db.deks token plain id)
    (stored : (db.deks.find id).isSome) : decryptStr fernet secrets token db = .ok plain := by
  obtain ⟨inner, raw, rfl, decrypted, key⟩ := sealing
  obtain ⟨dek, found⟩ := Option.isSome_iff_exists.mp stored
  simp [decryptStr, parseToken_dekPrefix, Database.findDek_text, found, key dek found, decrypted, bind, Except.bind]

theorem Sealed.unique {other : Text} {otherId : DekId} (sealing : Sealed fernet secrets deks token plain id)
    (again : Sealed fernet secrets deks token other otherId) (stored : (deks.find otherId).isSome) : plain = other := by
  have same_id : id = otherId := by
    have same_text : id.text = otherId.text := Option.some.inj (sealing.names.symm.trans again.names)
    cases id
    cases otherId
    cases same_text
    rfl
  subst same_id
  obtain ⟨dek, found⟩ := Option.isSome_iff_exists.mp stored
  obtain ⟨inner, raw, rfl, decrypted, key⟩ := sealing
  obtain ⟨otherInner, otherRaw, same, otherDecrypted, otherKey⟩ := again
  obtain rfl : inner = otherInner := List.append_cancel_left same
  obtain rfl : raw = otherRaw := Except.ok.inj ((key dek found).symm.trans (otherKey dek found))
  exact Except.ok.inj (decrypted.symm.trans otherDecrypted)

theorem Sealed.later (sealing : Sealed fernet secrets deks token plain id) {after : Table DekId DataEncryptionKey}
    (same : ∀ dek, after.find id = some dek → ∃ before, deks.find id = some before ∧ before.wrappedKey = dek.wrappedKey) :
    Sealed fernet secrets after token plain id := by
  obtain ⟨inner, raw, shape, decrypted, key⟩ := sealing
  refine ⟨inner, raw, shape, decrypted, fun dek found => ?_⟩
  obtain ⟨before, was, wrapped⟩ := same dek found
  rw [← wrapped]
  exact key before was

theorem sealed_of_encrypt {nonce : Nonce} {raw : Text} (written : encryptWithDek fernet nonce plain id raw = .ok token)
    (key : ∀ dek, deks.find id = some dek → unwrapDek fernet secrets dek.wrappedKey = .ok raw) :
    Sealed fernet secrets deks token plain id := by
  unfold encryptWithDek at written
  cases encrypted : fernet.encrypt raw nonce plain with
  | error failure => simp [encrypted, bind, Except.bind] at written
  | ok inner =>
    have shape : token = dekPrefix id ++ inner := by simpa [encrypted, bind, Except.bind, eq_comm] using written
    exact ⟨inner, raw, shape, fernet.decrypt_encrypt raw nonce plain inner encrypted, key⟩

theorem getActiveDek_inv {db : Database} {raw : Text} (active : getActiveDek fernet secrets db = .ok (id, raw)) :
    db.activeDekId = some id ∧ ∃ dek, db.deks.find id = some dek ∧ unwrapDek fernet secrets dek.wrappedKey = .ok raw := by
  unfold getActiveDek at active
  cases is_active : db.activeDekId with
  | none => simp [is_active] at active
  | some its =>
    cases found : db.deks.find its with
    | none => simp [is_active, found] at active
    | some dek =>
      cases unwrapped : unwrapDek fernet secrets dek.wrappedKey with
      | error failure => simp [is_active, found, unwrapped, bind, Except.bind] at active
      | ok its_raw =>
        obtain ⟨rfl, rfl⟩ : its = id ∧ its_raw = raw := by
          simpa [is_active, found, unwrapped, bind, Except.bind] using active
        exact ⟨rfl, dek, found, unwrapped⟩

theorem sealed_of_encryptStr {db : Database} {nonce : Nonce} (written : encryptStr fernet secrets nonce plain db = .ok token) :
    ∃ id, Sealed fernet secrets db.deks token plain id ∧ (db.deks.find id).isSome := by
  unfold encryptStr at written
  cases active : getActiveDek fernet secrets db with
  | error failure => simp [active, bind, Except.bind] at written
  | ok key =>
    obtain ⟨id, raw⟩ := key
    obtain ⟨_, dek, found, unwrapped⟩ := getActiveDek_inv active
    refine ⟨id, sealed_of_encrypt (by simpa [active, bind, Except.bind] using written) fun other here => ?_, by rw [found]; rfl⟩
    rw [← Option.some.inj (found.symm.trans here), unwrapped]

theorem sealed_of_decrypt {db : Database} {retiring : List DekId} (named : namesRetiring retiring (some token) = true)
    (decrypted : decryptStr fernet secrets token db = .ok plain) :
    ∃ id, Sealed fernet secrets db.deks token plain id ∧ (db.deks.find id).isSome := by
  unfold namesRetiring at named
  cases named_by : tokenDekId (some token) with
  | none => simp [named_by] at named
  | some text =>
    rw [named_by] at named
    have member : text ∈ retiring.map DekId.text := by simpa using named
    obtain ⟨id, _, rfl⟩ := List.mem_map.mp member
    obtain ⟨inner, rfl⟩ := dekPrefix_of_tokenDekId named_by
    rw [decryptStr, parseToken_dekPrefix] at decrypted
    dsimp only at decrypted
    rw [Database.findDek_text] at decrypted
    cases found : db.deks.find id with
    | none => simp [found] at decrypted
    | some dek =>
      cases unwrapped : unwrapDek fernet secrets dek.wrappedKey with
      | error failure => simp [found, unwrapped, bind, Except.bind] at decrypted
      | ok raw =>
        refine ⟨id, ⟨inner, raw, rfl, by simpa [found, unwrapped, bind, Except.bind] using decrypted, fun other here => ?_⟩,
          by rw [found]; rfl⟩
        rw [← Option.some.inj (found.symm.trans here), unwrapped]

end Sealed

section Guarded

variable {Nonce : Type} (fernet : Fernet Nonce) (secrets : Secrets)

structure JobRun.Guarded (deks : Table DekId DataEncryptionKey) (drawn : List DekId) (job : JobRun) : Prop where
  retiring : ∀ id ∈ job.retiring, id ∈ drawn ∧ ∀ dek, deks.find id = some dek → dek.status = .retiring
  active : ∀ id raw, job.active = some (id, raw) → id ∉ job.retiring ∧
    ∃ dek, deks.find id = some dek ∧ unwrapDek fernet secrets dek.wrappedKey = .ok raw
  moves : ∀ move ∈ job.moves, ∃ plain, (∃ id ∈ drawn, Sealed fernet secrets deks move.value plain id) ∧
    ∃ id, id ∉ job.retiring ∧ (deks.find id).isSome ∧ Sealed fernet secrets deks move.token plain id
  unused : ∀ id, job.unused = some id → id ∈ job.retiring

structure Vault.Guarded (vault : Vault) : Prop where
  drawn : ∀ id, (vault.db.deks.find id).isSome → id ∈ vault.drawn
  active : ∀ id dek, vault.db.activeDekId = some id → vault.db.deks.find id = some dek → dek.status = .active
  cells : ∀ column key plain, vault.expected column key = some plain → ∃ token id, vault.db.cell column key = some token ∧
    Sealed fernet secrets vault.db.deks token plain id ∧ (vault.db.deks.find id).isSome
  edits : ∀ edit written, vault.edits edit = some written →
    ∃ id ∈ vault.drawn, Sealed fernet secrets vault.db.deks written.token written.plain id
  job : ∀ job, vault.job = some job → job.Guarded fernet secrets vault.db.deks vault.drawn

variable {fernet : Fernet Nonce} {secrets : Secrets} {vault : Vault} {dialect : Dialect}

theorem Vault.Guarded.readable (guarded : vault.Guarded fernet secrets) : vault.Readable fernet secrets := by
  intro column key plain written
  obtain ⟨token, id, here, sealing, stored⟩ := guarded.cells column key plain written
  exact ⟨token, id, here, sealing.names, stored, sealing.decrypts stored⟩

theorem Vault.Guarded.withJob (guarded : vault.Guarded fernet secrets) (job : Option JobRun)
    (its : ∀ run, job = some run → run.Guarded fernet secrets vault.db.deks vault.drawn) :
    Guarded fernet secrets { vault with job } := { guarded with job := its }

theorem JobRun.Guarded.moveRow {job : JobRun} (its : job.Guarded fernet secrets vault.db.deks vault.drawn)
    (guarded : vault.Guarded fernet secrets) (column : EncryptedColumn) (key : Nat) (nonce : Nonce) :
    (vault.moveRow fernet secrets job column key nonce).Guarded fernet secrets := by
  have ended : Vault.Guarded fernet secrets { vault with job := none } := guarded.withJob none fun run same => by contradiction
  unfold Vault.moveRow
  split
  · rename_i value id raw loaded active
    split
    · rename_i named
      split
      · exact ended
      · rename_i plain decrypted
        split
        · exact ended
        · rename_i token written
          obtain ⟨not_retiring, dek, found, unwrapped⟩ := its.active id raw active
          obtain ⟨old, old_sealing, old_stored⟩ := sealed_of_decrypt named decrypted
          refine guarded.withJob _ fun run same => ?_
          obtain rfl := Option.some.inj same
          refine { its with moves := fun move member => ?_ }
          rcases List.mem_append.mp member with before | last
          · exact its.moves move before
          · obtain rfl := List.mem_singleton.mp last
            refine ⟨plain, ⟨old, guarded.drawn old old_stored, old_sealing⟩, id, not_retiring, by rw [found]; rfl, ?_⟩
            refine sealed_of_encrypt written fun other here => ?_
            rw [← Option.some.inj (found.symm.trans here), unwrapped]
    · exact guarded
  · exact guarded

theorem cells_of_moves {deks : Table DekId DataEncryptionKey} {expected : EncryptedColumn → Nat → Option Text}
    (moves : List Move) {db : Database}
    (cells : ∀ column key plain, expected column key = some plain → ∃ token id, db.cell column key = some token ∧
      Sealed fernet secrets deks token plain id ∧ (deks.find id).isSome)
    (same : ∀ move ∈ moves, ∀ plain, expected move.column move.key = some plain →
      ∃ id, Sealed fernet secrets deks move.token plain id ∧ (deks.find id).isSome) (column : EncryptedColumn) (key : Nat)
    (plain : Text) (written : expected column key = some plain) :
    ∃ token id, (moves.foldl (fun db move => db.setCell move.column move.key move.token) db).cell column key = some token ∧
      Sealed fernet secrets deks token plain id ∧ (deks.find id).isSome := by
  induction moves generalizing db with
  | nil => exact cells column key plain written
  | cons first rest ih =>
    refine ih (fun other otherKey text expects => ?_) fun move member => same move (List.mem_cons_of_mem _ member)
    by_cases here : other = first.column ∧ otherKey = first.key
    · obtain ⟨rfl, rfl⟩ := here
      obtain ⟨old, _, present, _⟩ := cells _ _ text expects
      obtain ⟨id, sealing, stored⟩ := same first List.mem_cons_self text expects
      exact ⟨first.token, id, Database.cell_setCell_self db first.token present, sealing, stored⟩
    · rw [Database.cell_setCell_ne db first.token here]
      exact cells other otherKey text expects

theorem deks_of_moves (moves : List Move) (db : Database) :
    (moves.foldl (fun db move => db.setCell move.column move.key move.token) db).deks = db.deks ∧
      (moves.foldl (fun db move => db.setCell move.column move.key move.token) db).activeDekId = db.activeDekId := by
  induction moves generalizing db with
  | nil => exact ⟨rfl, rfl⟩
  | cons first rest ih =>
    obtain ⟨deks, active⟩ := ih (db.setCell first.column first.key first.token)
    exact ⟨deks, active.trans (db.activeDekId_setCell ..)⟩

theorem Vault.Guarded.commitBatch (guarded : vault.Guarded fernet secrets) {job : JobRun} (running : vault.job = some job)
    (unchanged : ∀ move ∈ job.moves, vault.db.cell move.column move.key = some move.value) :
    Guarded fernet secrets { vault with
      db := job.moves.foldl (fun db move => db.setCell move.column move.key move.token) vault.db
      job := some { job with moves := [] } } := by
  have its := guarded.job job running
  obtain ⟨deks, active⟩ := deks_of_moves job.moves vault.db
  constructor
  · exact fun id stored => guarded.drawn id (deks ▸ stored)
  · exact fun id dek is_active found => guarded.active id dek (active ▸ is_active) (deks ▸ found)
  · dsimp only
    rw [deks]
    refine cells_of_moves job.moves guarded.cells fun move member plain expects => ?_
    obtain ⟨text, ⟨_, _, old⟩, id, _, stored, new⟩ := its.moves move member
    obtain ⟨token, current, here, sealing, current_stored⟩ := guarded.cells _ _ plain expects
    obtain rfl : move.value = token := Option.some.inj ((unchanged move member).symm.trans here)
    obtain rfl := old.unique sealing current_stored
    exact ⟨id, new, stored⟩
  · dsimp only
    rw [deks]
    exact guarded.edits
  · intro run same
    obtain rfl := Option.some.inj same
    dsimp only
    rw [deks]
    exact { its with moves := fun move member => absurd member List.not_mem_nil }

theorem Vault.Guarded.commitEdit (guarded : vault.Guarded fernet secrets) {edit : Nat} {written : Edit}
    (pending : vault.edits edit = some written)
    (stored : ∀ id : DekId, tokenDekId (some written.token) = some id.text → (vault.db.deks.find id).isSome) :
    Guarded fernet secrets { vault with
      db := vault.db.putCell written.column written.key written.token
      edits := Function.update vault.edits edit none
      expected := Function.update vault.expected written.column
        (Function.update (vault.expected written.column) written.key (some written.plain)) } := by
  obtain ⟨id, _, sealing⟩ := guarded.edits edit written pending
  constructor
  · exact fun other here => guarded.drawn other (by simpa using here)
  · intro other dek is_active found
    rw [Database.activeDekId_putCell] at is_active
    exact guarded.active other dek is_active (by simpa using found)
  · intro column key plain expects
    dsimp only at expects ⊢
    rw [Database.cell_putCell, Database.deks_putCell]
    by_cases here : column = written.column ∧ key = written.key
    · obtain ⟨rfl, rfl⟩ := here
      obtain rfl : written.plain = plain := by simpa using expects
      exact ⟨written.token, id, if_pos ⟨rfl, rfl⟩, sealing, stored id sealing.names⟩
    · rw [if_neg here]
      refine guarded.cells column key plain ?_
      by_cases same_column : column = written.column
      · subst same_column
        have other_key : key ≠ written.key := fun same => here ⟨rfl, same⟩
        simpa [other_key] using expects
      · simpa [same_column] using expects
  · intro other its there
    dsimp only at there ⊢
    rw [Database.deks_putCell]
    by_cases same : other = edit
    · simp [same] at there
    · exact guarded.edits other its (by simpa [same] using there)
  · intro job running
    dsimp only
    rw [Database.deks_putCell]
    exact guarded.job job running

/-- The keys change: those that are still stored are what they were, and none goes that a column
names or that the job may have sealed with. -/
theorem Vault.Guarded.rekeyed (guarded : vault.Guarded fernet secrets) {db : Database} {drawn : List DekId}
    (grown : ∀ id ∈ vault.drawn, id ∈ drawn) (cells : ∀ column key, db.cell column key = vault.db.cell column key)
    (all_drawn : ∀ id, (db.deks.find id).isSome → id ∈ drawn)
    (active : ∀ id dek, db.activeDekId = some id → db.deks.find id = some dek → dek.status = .active)
    (same : ∀ id ∈ vault.drawn, ∀ dek, db.deks.find id = some dek → ∃ before, vault.db.deks.find id = some before ∧
      before.wrappedKey = dek.wrappedKey ∧ (before.status = .retiring → dek.status = .retiring))
    (kept : ∀ id, (vault.db.deks.find id).isSome →
      ((∃ column key, vault.db.Names column key id) ∨ ∃ job, vault.job = some job ∧ id ∉ job.retiring) →
      (db.deks.find id).isSome) :
    Guarded fernet secrets { vault with db, drawn } := by
  have later {token plain : Text} {id : DekId} (sealing : Sealed fernet secrets vault.db.deks token plain id)
      (known : id ∈ vault.drawn) : Sealed fernet secrets db.deks token plain id :=
    sealing.later fun dek found =>
      have ⟨before, was, wrapped, _⟩ := same id known dek found
      ⟨before, was, wrapped⟩
  constructor
  · exact all_drawn
  · exact active
  · intro column key plain written
    obtain ⟨token, id, here, sealing, stored⟩ := guarded.cells column key plain written
    have named : vault.db.Names column key id := by rw [Database.Names, here, sealing.names]
    exact ⟨token, id, (cells column key).trans here, later sealing (guarded.drawn id stored),
      kept id stored (.inl ⟨column, key, named⟩)⟩
  · intro edit written pending
    obtain ⟨id, known, sealing⟩ := guarded.edits edit written pending
    exact ⟨id, grown id known, later sealing known⟩
  · intro job running
    have its := guarded.job job running
    -- `kept` asks for these keys too: the job may have sealed with them what no column names yet.
    have stays (id : DekId) (not_retiring : id ∉ job.retiring) (stored : (vault.db.deks.find id).isSome) :
        (db.deks.find id).isSome := kept id stored (.inr ⟨job, running, not_retiring⟩)
    constructor
    · intro id member
      obtain ⟨known, retiring⟩ := its.retiring id member
      refine ⟨grown id known, fun dek found => ?_⟩
      obtain ⟨before, was, _, status⟩ := same id known dek found
      exact status (retiring before was)
    · intro id raw is_active
      obtain ⟨not_retiring, before, was, unwrapped⟩ := its.active id raw is_active
      have stored : (vault.db.deks.find id).isSome := by rw [was]; rfl
      obtain ⟨dek, found⟩ := Option.isSome_iff_exists.mp (stays id not_retiring stored)
      obtain ⟨other, was_other, wrapped, _⟩ := same id (guarded.drawn id stored) dek found
      obtain rfl := Option.some.inj (was.symm.trans was_other)
      exact ⟨not_retiring, dek, found, wrapped ▸ unwrapped⟩
    · intro move member
      obtain ⟨plain, ⟨old, old_known, old_sealing⟩, id, not_retiring, stored, sealing⟩ := its.moves move member
      exact ⟨plain, ⟨old, grown old old_known, later old_sealing old_known⟩, id, not_retiring,
        stays id not_retiring stored, later sealing (guarded.drawn id stored)⟩
    · exact its.unused

theorem Vault.Guarded.dropUnused (guarded : vault.Guarded fernet secrets) {job : JobRun} {id : DekId}
    (running : vault.job = some job) (unused : job.unused = some id)
    (unnamed : ∀ column key, ¬ vault.db.Names column key id) :
    Guarded fernet secrets { vault with db := vault.db.dropDek id, job := some { job with unused := none } } := by
  have find_drop (other : DekId) : (vault.db.dropDek id).deks.find other =
      if other = id then none else vault.db.deks.find other := Table.find_delete ..
  have still {other : DekId} {dek : DataEncryptionKey} (found : (vault.db.dropDek id).deks.find other = some dek) :
      vault.db.deks.find other = some dek := by
    rw [find_drop] at found
    split at found
    · contradiction
    · exact found
  have dropped : Guarded fernet secrets { vault with db := vault.db.dropDek id } := by
    refine guarded.rekeyed (fun _ known => known) (fun _ _ => rfl) (fun other stored => ?_)
      (fun other dek is_active found => guarded.active other dek is_active (still found))
      (fun other _ dek found => ⟨dek, still found, rfl, fun status => status⟩) fun other stored needed => ?_
    · obtain ⟨dek, found⟩ := Option.isSome_iff_exists.mp stored
      exact guarded.drawn other (by rw [still found]; rfl)
    · rw [find_drop, if_neg]
      · exact stored
      · rintro rfl
        rcases needed with ⟨column, key, named⟩ | ⟨its, same, not_retiring⟩
        · exact unnamed column key named
        · obtain rfl := Option.some.inj (running.symm.trans same)
          exact not_retiring ((guarded.job job running).unused other unused)
  refine dropped.withJob _ fun run same => ?_
  obtain rfl := Option.some.inj same
  exact { dropped.job job running with unused := fun other absurd => by contradiction }

theorem Vault.Guarded.commitDek (guarded : vault.Guarded fernet secrets) {id : DekId} (new : id ∉ vault.drawn)
    (active : List DekId) (wrappedKey : Text) :
    Guarded fernet secrets { vault with
      db := (vault.db.setStatus active .retiring).addDek id wrappedKey
      drawn := id :: vault.drawn } := by
  have find_new (other : DekId) : ((vault.db.setStatus active .retiring).addDek id wrappedKey).deks.find other =
      if other = id then some ⟨wrappedKey, .active⟩
      else (vault.db.deks.find other).map fun dek => if other ∈ active then { dek with status := .retiring } else dek := by
    rw [Database.addDek, Table.find_put, Database.find_setStatus]
  refine guarded.rekeyed (fun other known => List.mem_cons_of_mem _ known) (fun column key => ?_) (fun other stored => ?_)
    (fun other dek is_active found => ?_) (fun other known dek found => ?_) fun other stored _ => ?_
  · rw [Database.cell_addDek]
    rfl
  · by_cases same : other = id
    · exact same ▸ List.mem_cons_self
    · rw [find_new, if_neg same, Option.isSome_map] at stored
      exact List.mem_cons_of_mem _ (guarded.drawn other stored)
  · obtain rfl := Database.activeDekId_addDek _ is_active
    rw [find_new, if_pos rfl] at found
    rw [← Option.some.inj found]
  · have different : other ≠ id := fun same => new (same ▸ known)
    rw [find_new, if_neg different] at found
    obtain ⟨before, was, changed⟩ := Option.map_eq_some_iff.mp found
    refine ⟨before, was, ?_, fun retiring => ?_⟩
    · rw [← changed]
      split <;> rfl
    · rw [← changed]
      split
      · rfl
      · exact retiring
  · rw [find_new]
    split
    · rfl
    · rw [Option.isSome_map]
      exact stored

theorem Vault.Guarded.step (guarded : vault.Guarded fernet secrets) {event : VaultEvent Nonce}
    (careful : vault.Careful event) : (vault.step fernet secrets dialect event).Guarded fernet secrets := by
  -- the events of a job do nothing while none runs
  have running (next : JobRun → Vault)
      (each : ∀ job, vault.job = some job → (next job).Guarded fernet secrets) : (vault.withJob next).Guarded fernet secrets := by
    unfold Vault.withJob
    cases its : vault.job with
    | none => exact guarded
    | some job => exact each job its
  cases event with
  | startJob =>
    dsimp only [Vault.step]
    split
    · refine guarded.withJob _ fun job same => ?_
      obtain rfl := Option.some.inj same
      refine ⟨fun id member => ?_, fun _ _ absurd => by contradiction, fun move member => absurd member List.not_mem_nil,
        fun _ absurd => by contradiction⟩
      obtain ⟨dek, found, retiring⟩ := (Database.mem_retiringIds vault.db id).mp member
      refine ⟨guarded.drawn id (by rw [found]; rfl), fun other here => ?_⟩
      rw [← Option.some.inj (found.symm.trans here), retiring]
    · exact guarded
  | readActive =>
    refine running _ fun job its => ?_
    split
    · rename_i key active
      refine guarded.withJob _ fun run same => ?_
      obtain rfl := Option.some.inj same
      refine { guarded.job job its with active := fun id raw is_key => ?_ }
      obtain rfl : key = (id, raw) := Option.some.inj is_key
      -- the key that the job reads as active is none of those it retires
      obtain ⟨is_active, dek, found, unwrapped⟩ := getActiveDek_inv active
      refine ⟨fun retiring => ?_, dek, found, unwrapped⟩
      have status := guarded.active id dek is_active found
      rw [((guarded.job job its).retiring id retiring).2 dek found] at status
      contradiction
    · exact guarded.withJob none fun run same => by contradiction
  | load column =>
    refine running _ fun job its => guarded.withJob _ fun run same => ?_
    obtain rfl := Option.some.inj same
    exact { guarded.job job its with }
  | move column key nonce => exact running _ fun job its => (guarded.job job its).moveRow guarded column key nonce
  | commitBatch => exact running _ fun job its => guarded.commitBatch its (careful job its)
  | countUsage id =>
    refine running _ fun job its => guarded.withJob _ fun run same => ?_
    obtain rfl := Option.some.inj same
    refine { guarded.job job its with unused := fun other found => ?_ }
    dsimp only at found
    split at found
    · rename_i unused
      obtain rfl := Option.some.inj found
      simp only [isUnused, Bool.and_eq_true, List.contains_eq_mem, decide_eq_true_eq] at unused
      exact unused.1.1.1
    · contradiction
  | dropUnused =>
    refine running _ fun job its => ?_
    split
    · exact guarded
    · rename_i id unused
      exact guarded.dropUnused its unused (careful job its id unused)
  | endJob => exact guarded.withJob none fun run same => by contradiction
  | beginEdit edit column key plain nonce =>
    refine { guarded with edits := fun other written there => ?_ }
    -- the token of a new edit is sealed with a key that was drawn before
    by_cases same : other = edit
    · subst same
      cases encrypted : encryptStr fernet secrets nonce plain vault.db with
      | error failure => simp [Vault.step, encrypted, Except.toOption] at there
      | ok token =>
        obtain rfl : (⟨column, key, plain, token⟩ : Edit) = written := by
          simpa [Vault.step, encrypted, Except.toOption] using there
        obtain ⟨id, sealing, stored⟩ := sealed_of_encryptStr encrypted
        exact ⟨id, guarded.drawn id stored, sealing⟩
    · exact guarded.edits other written (by simpa [Vault.step, same] using there)
  | commitEdit edit =>
    dsimp only [Vault.step]
    split
    · exact guarded
    · rename_i written pending
      exact guarded.commitEdit pending (careful written pending)
  | requestDek request =>
    dsimp only [Vault.step]
    split
    · exact guarded
    · exact { guarded with }
  | commitDek request id wrappedKey =>
    dsimp only [Vault.step]
    split
    · exact guarded
    · rename_i active _
      exact { guarded.commitDek careful active wrappedKey with }

end Guarded

section Runs

variable {Nonce : Type} (fernet : Fernet Nonce) (secrets : Secrets) (dialect : Dialect)

structure Opening where
  db : Database
  expected : EncryptedColumn → Nat → Option Text
  readable : (Vault.opened db expected).Readable fernet secrets
  active : ∀ id dek, db.activeDekId = some id → db.deks.find id = some dek → dek.status = .active

theorem Opening.guarded (opening : Opening fernet secrets) :
    (Vault.opened opening.db opening.expected).Guarded fernet secrets where
  drawn id stored := AList.mem_keys.mp (AList.lookup_isSome.mp stored)
  active := opening.active
  cells column key plain written := by
    obtain ⟨token, id, here, names, stored, decrypted⟩ := opening.readable column key plain written
    have named : namesRetiring [id] (some token) = true := by simp [namesRetiring, names]
    obtain ⟨its, sealing, its_stored⟩ := sealed_of_decrypt named decrypted
    exact ⟨token, its, here, sealing, its_stored⟩
  edits edit written pending := by contradiction
  job job running := by contradiction

/-- In a run in which the job overwrites only what it has read and deletes no key that a column names,
and edits are committed while their keys are stored, no write is lost. -/
theorem reencryption_loses_no_write (opening : Opening fernet secrets) (events : List (VaultEvent Nonce))
    (careful : Along (Vault.step fernet secrets dialect) Vault.Careful (.opened opening.db opening.expected) events) :
    Always (Vault.step fernet secrets dialect) (Vault.Readable fernet secrets)
      (.opened opening.db opening.expected) events := by
  have guarded : Always (Vault.step fernet secrets dialect) (Vault.Guarded fernet secrets)
      (.opened opening.db opening.expected) events :=
    always_of_along (fun _ _ now good => now.step good) opening.guarded careful
  intro done rest split
  exact (guarded done rest split).readable

end Runs

section Samples

theorem careful_commitBatch {Nonce : Type} {vault : Vault} (checked : (vault.job.all fun job => job.moves.all fun move =>
    vault.db.cell move.column move.key == some move.value) = true) :
    vault.Careful (.commitBatch : VaultEvent Nonce) := by
  intro job running move member
  rw [running] at checked
  exact eq_of_beq (List.all_eq_true.mp checked move member)

theorem careful_commitEdit {Nonce : Type} {vault : Vault} {edit : Nat} (checked : ((vault.edits edit).all fun written =>
    vault.db.deks.keys.any fun id => tokenDekId (some written.token) == some id.text) = true) :
    vault.Careful (.commitEdit edit : VaultEvent Nonce) := by
  intro written pending id names
  rw [pending] at checked
  obtain ⟨stored, member, same⟩ := List.any_eq_true.mp checked
  have same_text : stored.text = id.text := Option.some.inj ((eq_of_beq same).symm.trans names)
  have same_id : stored = id := by
    cases stored
    cases id
    cases same_text
    rfl
  exact AList.lookup_isSome.mpr (AList.mem_keys.mpr (same_id ▸ member))

def ssoSecret : EncryptedColumn := (.organizations, .ssoClientSecretEncrypted)

def ssoDatabase : Database where
  rows
    | .instanceSettings => Table.put ∅ settingsId ⟨fun _ => none, some activeDek⟩
    | .organizations => Table.put ∅ 7 ⟨fun column =>
        if column = .ssoClientSecretEncrypted then some (dekPrefix retiringDek ++ "k1old".toList) else none, none⟩
    | _ => ∅
  deks := Table.put (Table.put ∅ activeDek ⟨"#secretk2".toList, .active⟩)
    retiringDek ⟨"#secretk1".toList, .retiring⟩
  jobs := ∅

def ssoOpening : Opening keyedCipher hubSecrets where
  db := ssoDatabase
  expected := fun column key => if column = ssoSecret ∧ key = 7 then some "old".toList else none
  readable column key plain written := by
    dsimp only [Vault.opened] at written
    split at written
    · rename_i here
      obtain ⟨rfl, rfl⟩ := here
      obtain rfl := Option.some.inj written
      exact ⟨_, retiringDek, rfl, by decide +kernel, by decide +kernel, by decide +kernel⟩
    · contradiction
  active id dek is_active found := by
    obtain rfl : activeDek = id := Option.some.inj is_active
    have status : (ssoDatabase.deks.find activeDek).map DataEncryptionKey.status = some .active := by decide +kernel
    rw [found] at status
    exact Option.some.inj status

/-- The job moves the secret while the mail password is edited. -/
theorem reencryption_loses_no_write_moved :
    let events : List (VaultEvent Unit) := [.beginEdit 1 (.instanceSettings, .smtpPasswordEncrypted) 1 "mail".toList (),
      .startJob, .readActive, .load ssoSecret, .commitEdit 1, .move ssoSecret 7 (), .commitBatch,
      .countUsage retiringDek, .endJob]
    Always (Vault.step keyedCipher hubSecrets .sqlite) (Vault.Readable keyedCipher hubSecrets)
      (.opened ssoDatabase ssoOpening.expected) events := by
  refine reencryption_loses_no_write keyedCipher hubSecrets .sqlite ssoOpening _
    ⟨trivial, trivial, trivial, trivial, ?_, trivial, ?_, trivial, trivial, trivial⟩
  · exact careful_commitEdit (by decide +kernel)
  · exact careful_commitBatch (by decide +kernel)

def newDek : DekId := ⟨"00000000-0000-4000-8000-000000000003".toList, by decide⟩

def ssoRun (events : List (VaultEvent Unit)) : Vault :=
  run (Vault.step keyedCipher hubSecrets .sqlite) (.opened ssoDatabase ssoOpening.expected) events

/-- An edit that is committed while the job holds the old value is overwritten with it; and an edit
under the key that was active when it began is committed after the job has deleted that key. -/
theorem reencryption_loses_writes :
    (let overwritten := ssoRun [.startJob, .readActive, .load ssoSecret, .beginEdit 1 ssoSecret 7 "new".toList (),
      .commitEdit 1, .move ssoSecret 7 (), .commitBatch]
    overwritten.expected ssoSecret 7 = some "new".toList ∧
      (overwritten.db.cell ssoSecret 7).map (fun token => decryptStr keyedCipher hubSecrets token overwritten.db) =
        some (.ok "old".toList)) ∧
    (let orphaned := ssoRun [.beginEdit 1 ssoSecret 7 "new".toList (), .requestDek 2,
      .commitDek 2 newDek "#secretk3".toList, .startJob, .countUsage activeDek, .dropUnused, .endJob, .commitEdit 1]
    orphaned.expected ssoSecret 7 = some "new".toList ∧
      (orphaned.db.cell ssoSecret 7).map (fun token => decryptStr keyedCipher hubSecrets token orphaned.db) =
        some (.error (.dekNotFound activeDek.text))) := by
  refine ⟨⟨?_, ?_⟩, ?_, ?_⟩
  all_goals decide +kernel

end Samples

end IdigestHub.Crypto
