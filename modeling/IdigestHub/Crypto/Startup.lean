import IdigestHub.Crypto.Bootstrap

/-! What interrupted starts leave of the encrypted values, and what the start that ends well makes of them. -/

set_option autoImplicit false

namespace IdigestHub.Crypto

open Foundation Foundation.UnitOfWork

section Carrying

variable {Nonce : Type} (fernet : Fernet Nonce) (secrets : Secrets)

structure Carried (before db : Database) : Prop where
  readable : ∀ column key token plain, before.cell column key = some token → token ≠ [] →
    decryptStr fernet secrets token before = .ok plain →
    ∃ token', db.cell column key = some token' ∧ token' ≠ [] ∧ decryptStr fernet secrets token' db = .ok plain
  skipped : ∀ column key, Skipped column key → db.cell column key = before.cell column key

def Migrated (db : Database) (cell : EncryptedColumn × Nat) : Prop :=
  ∀ token, db.cell cell.1 cell.2 = some token → token ≠ [] → v1Prefix.isPrefixOf token = true

/-- A database that began without data keys has none, or has its cells migrated. -/
structure Sound (before db : Database) : Prop where
  carried : Carried fernet secrets before db
  migrated : NoDeks before → ¬NoDeks db → ∀ column ∈ coveredColumns, ∀ key, ¬Skipped column key → Migrated db (column, key)

variable {fernet secrets} {before db other : Database}

theorem Carried.refl : Carried fernet secrets before before :=
  ⟨fun _ _ token _ present filled decrypted => ⟨token, present, filled, decrypted⟩, fun _ _ _ => rfl⟩

theorem Sound.refl : Sound fernet secrets before before := ⟨.refl, fun empty some' => absurd empty some'⟩

theorem Carried.congr (carried : Carried fernet secrets before db)
    (cells : ∀ column key, other.cell column key = db.cell column key)
    (decrypts : ∀ token plain, decryptStr fernet secrets token db = .ok plain →
      decryptStr fernet secrets token other = .ok plain) :
    Carried fernet secrets before other where
  readable column key token plain present filled decrypted := by
    obtain ⟨token', now, kept, decrypted'⟩ := carried.readable column key token plain present filled decrypted
    exact ⟨token', (cells column key).trans now, kept, decrypts token' plain decrypted'⟩
  skipped column key skip := (cells column key).trans (carried.skipped column key skip)

theorem Sound.congr (sound : Sound fernet secrets before db) (cells : ∀ column key, other.cell column key = db.cell column key)
    (decrypts : ∀ token plain, decryptStr fernet secrets token db = .ok plain → decryptStr fernet secrets token other = .ok plain)
    (deks : NoDeks db → NoDeks other) : Sound fernet secrets before other where
  carried := sound.carried.congr cells decrypts
  migrated empty some' column covered key kept token present filled :=
    sound.migrated empty (fun none => some' (deks none)) column covered key kept token
      ((cells column key).symm.trans present) filled

theorem Sound.ensureSettings (sound : Sound fernet secrets before db) : Sound fernet secrets before db.ensureSettings := by
  refine sound.congr (cell_ensureSettings db) (fun token plain decrypted => ?_) fun none id => ?_
  · rwa [decryptStr_congr fernet secrets (deks_ensureSettings db)]
  · rw [deks_ensureSettings]
    exact none id

theorem Sound.modifyDek (sound : Sound fernet secrets before db) {id : DekId} {dek : DataEncryptionKey} {raw wrapped : Text}
    (found : db.deks.find id = some dek) (old : unwrapDek fernet secrets dek.wrappedKey = .ok raw)
    (new : unwrapDek fernet secrets wrapped = .ok raw) : Sound fernet secrets before (db.modifyDek id wrapped) := by
  refine sound.congr (fun _ _ => rfl) (fun token plain decrypted => ?_) fun none => ?_
  · rwa [decryptStr_modifyDek found old new]
  · cases found.symm.trans (none id)

/-- The first key takes nothing from the legacy tokens, and there are no others that decrypt. -/
theorem Carried.addDek (carried : Carried fernet secrets before db) (empty : NoDeks db) (id : DekId) (wrapped : Text) :
    Carried fernet secrets before (db.addDek id wrapped) := by
  refine carried.congr (db.cell_addDek id wrapped) fun token plain decrypted => ?_
  rwa [decryptStr_of_legacy (legacy_of_noDeks empty decrypted)]

theorem encryptStr_v1 {nonce : Nonce} {plain token : Text} (written : encryptStr fernet secrets nonce plain db = .ok token) :
    v1Prefix.isPrefixOf token = true := by
  obtain ⟨id, ⟨inner, _, rfl, _⟩, _⟩ := sealed_of_encryptStr written
  rw [List.isPrefixOf_iff_prefix, dekPrefix, List.append_assoc, List.append_assoc]
  exact List.prefix_append ..

section Moving

variable {column : EncryptedColumn} {key : Nat} {value plain token : Text} {nonce : Nonce}
  (present : db.cell column key = some value) (written : encryptStr fernet secrets nonce plain db = .ok token)

include present written

theorem Carried.moved (carried : Carried fernet secrets before db) (kept : ¬Skipped column key)
    (decrypted : decryptStr fernet secrets value db = .ok plain) :
      Carried fernet secrets before (db.setCell column key token) where
  readable itsColumn itsKey was itsPlain stored filled readable := by
    obtain ⟨now, there, nonempty, reads⟩ := carried.readable itsColumn itsKey was itsPlain stored filled readable
    have keys : decryptStr fernet secrets now (db.setCell column key token) = .ok itsPlain :=
      (decryptStr_congr fernet secrets (db.deks_setCell column key token) now).trans reads
    by_cases same : itsColumn = column ∧ itsKey = key
    · obtain ⟨rfl, rfl⟩ := same
      cases there.symm.trans present
      obtain rfl : itsPlain = plain := Except.ok.inj (reads.symm.trans decrypted)
      refine ⟨token, db.cell_setCell_self token present, fun empty => ?_, ?_⟩
      · rw [empty] at written
        cases encryptStr_v1 written
      · rw [decryptStr_congr fernet secrets (db.deks_setCell ..)]
        exact (decryptStr_encryptStr fernet secrets written).1
    · exact ⟨now, (db.cell_setCell_ne token same).trans there, nonempty, keys⟩
  skipped itsColumn itsKey skip := by
    have apart : ¬(itsColumn = column ∧ itsKey = key) := by
      rintro ⟨rfl, rfl⟩
      exact kept skip
    exact (db.cell_setCell_ne token apart).trans (carried.skipped itsColumn itsKey skip)

theorem migrated_moved (cell : EncryptedColumn × Nat) (before : Migrated db cell ∨ cell = (column, key)) :
    Migrated (db.setCell column key token) cell := by
  intro now there filled
  by_cases same : cell.1 = column ∧ cell.2 = key
  · obtain ⟨rfl, rfl⟩ := same
    cases (db.cell_setCell_self token present).symm.trans there
    exact encryptStr_v1 written
  · rcases before with migrated | rfl
    · exact migrated now ((db.cell_setCell_ne token same).symm.trans there) filled
    · exact absurd ⟨rfl, rfl⟩ same

end Moving

end Carrying

section Simulation

variable {Nonce : Type} {fernet : Fernet Nonce} {secrets : Secrets} {start : Start Nonce} {before : Database}
  {s : Session Database Unit}

theorem wp_liftBoot {A : Type} {r : Except CryptoError A} {Q : A → Session Database Unit → Prop}
    {R : StartError → Session Database Unit → Prop} (value : ∀ a, r = .ok a → Q a s)
    (raised : ∀ failure, R (.crypto failure) s) : wp (liftBoot r) Q R s := by
  rw [liftBoot, wp_lift]
  cases r with
  | ok a => exact ⟨by rintro _ ⟨⟩; exact value a rfl, by rintro _ ⟨⟩⟩
  | error failure => exact ⟨by rintro _ ⟨⟩, by rintro _ ⟨⟩; exact raised failure⟩

theorem wp_bootCommit {site : StartCommit} {Q : Unit → Session Database Unit → Prop}
    {R : StartError → Session Database Unit → Prop} (done : Q () s.commit) (killed : R .killed s) :
    wp (bootCommit start site) Q R s :=
  wp_cases (fun _ => killed) fun _ => done

theorem validate_simulate : wp (validateCryptoConfig fernet secrets start)
    (fun _ after => after.working = s.working.ensureSettings ∧ after.committed = s.committed)
    (fun _ after => after.committed = s.committed) s := by
  rw [validateCryptoConfig, wp_bind, wp_update, wp_bind, wp_flush, wp_bind, wp_read]
  refine wp_cases (fun _ => rfl) fun _ => ?_
  rw [wp_bind]
  let checked : Session Database Unit → Prop := fun after =>
    after.working = s.working.ensureSettings ∧ after.committed = s.committed
  have entry : checked (s.edit s.working.ensureSettings).flush := ⟨rfl, rfl⟩
  refine wp_mono (@wp_forEach _ _ _ _ _ checked (fun _ after => after.committed = s.committed) _ _ entry
    fun wrapped _ after holds => ?_) (fun _ after holds => ?_) fun _ _ raised => raised
  · rw [wp_bind]
    refine wp_liftBoot (fun readable _ => ?_) fun _ => holds.2
    exact wp_cases (fun _ => holds) fun _ => holds.2
  · refine wp_cases (fun _ => ?_) fun _ => holds
    rw [wp_bind]
    refine wp_liftBoot (fun readable _ => ?_) fun _ => holds.2
    exact wp_cases (fun _ => holds) fun _ => holds.2

/-- How the migration moves on: keys stay, no cell appears, and what is migrated stays migrated. -/
structure Advances (db after : Database) : Prop where
  deks : after.deks = db.deks
  present : ∀ column key, (after.cell column key).isSome = true → (db.cell column key).isSome = true
  migrated : ∀ cell, Migrated db cell → Migrated after cell

theorem Advances.refl (db : Database) : Advances db db := ⟨rfl, fun _ _ holds => holds, fun _ holds => holds⟩

theorem Advances.trans {a b c : Database} (first : Advances a b) (second : Advances b c) : Advances a c :=
  ⟨second.deks.trans first.deks, fun column key holds => first.present column key (second.present column key holds),
    fun cell holds => second.migrated cell (first.migrated cell holds)⟩

/-- Between two rows of the migration: nothing is committed yet. -/
structure Migrating (fernet : Fernet Nonce) (secrets : Secrets) (before : Database) (origin s : Session Database Unit) :
    Prop where
  committed : s.committed = origin.committed
  carried : Carried fernet secrets before s.working
  advances : Advances origin.working s.working

theorem Migrating.refl (carried : Carried fernet secrets before s.working) : Migrating fernet secrets before s s :=
  ⟨rfl, carried, .refl _⟩

theorem Migrating.trans {origin after : Session Database Unit} (first : Migrating fernet secrets before origin s)
    (second : Migrating fernet secrets before s after) : Migrating fernet secrets before origin after :=
  ⟨second.committed.trans first.committed, second.carried, first.advances.trans second.advances⟩

theorem migrateRow_simulate {column : EncryptedColumn} {key : Nat} (kept : ¬Skipped column key)
    (carried : Carried fernet secrets before s.working) :
    wp (migrateRow fernet secrets start column key)
      (fun _ after => Migrating fernet secrets before s after ∧ Migrated after.working (column, key))
      (fun _ after => after.committed = s.committed) s := by
  rw [migrateRow, wp_bind, wp_read]
  cases present : s.working.cell column key with
  | none =>
    refine ⟨.refl carried, fun token there => ?_⟩
    cases present.symm.trans there
  | some value =>
    refine wp_cases (fun idle => ?_) fun legacy => ?_
    · refine ⟨.refl carried, fun token there filled => ?_⟩
      cases present.symm.trans there
      rcases (Bool.or_eq_true ..).mp idle with empty | versioned
      · exact absurd (beq_iff_eq.mp empty) filled
      · exact versioned
    · rw [wp_bind]
      refine wp_liftBoot (fun plain decrypted => ?_) fun _ => rfl
      rw [wp_bind]
      refine wp_liftBoot (fun token written => ?_) fun _ => rfl
      rw [wp_update]
      refine ⟨⟨rfl, carried.moved present written kept decrypted, ⟨rfl, fun itsColumn itsKey there => ?_, fun cell migrated =>
        migrated_moved present written cell (.inl migrated)⟩⟩, migrated_moved present written _ (.inr rfl)⟩
      by_cases same : itsColumn = column ∧ itsKey = key
      · rw [same.1, same.2, present]
        rfl
      · rwa [Session.edit_working, Database.cell_setCell_ne _ _ same] at there

theorem not_skipped_of_branch {db : Database} {column : EncryptedColumn} {key : Nat} (listed : column ∈ encryptedColumns)
    (member : key ∈ branchKeys db column.1) : ¬Skipped column key := by
  obtain ⟨table, name⟩ := column
  rintro (missed | ⟨rfl, other⟩)
  · simp only [missedColumns, List.mem_cons, List.not_mem_nil, or_false, Prod.mk.injEq] at missed
    rcases missed with ⟨rfl, _⟩ | ⟨rfl, _⟩ <;> cases member
  · exact other (List.mem_singleton.mp member)

theorem migrateTable_simulate {column : EncryptedColumn} (listed : column ∈ encryptedColumns)
    (carried : Carried fernet secrets before s.working) :
    wp (migrateTable fernet secrets start column)
      (fun _ after => Migrating fernet secrets before s after ∧
        (column ∈ coveredColumns → ∀ key, ¬Skipped column key → Migrated after.working (column, key)))
      (fun _ after => after.committed = s.committed) s := by
  rw [migrateTable, wp_bind, wp_read]
  refine wp_mono (@wp_forEach_each _ _ _ _ _ (Migrating fernet secrets before s)
    (fun key after => Migrated after.working (column, key)) (fun _ after => after.committed = s.committed) _ _ (.refl carried)
    fun key member s' moving => ?_) ?_ fun _ _ raised => raised
  · refine wp_mono (migrateRow_simulate (not_skipped_of_branch listed member) moving.carried) ?_ fun _ _ raised => ?_
    · rintro _ after ⟨moved, migrated⟩
      exact ⟨moving.trans moved, migrated, fun other => moved.advances.migrated (column, other)⟩
    · exact raised.trans moving.committed
  · rintro _ after ⟨moving, each⟩
    refine ⟨moving, fun covered key kept token there filled => ?_⟩
    obtain ⟨value, present⟩ := Option.isSome_iff_exists.mp (moving.advances.present column key (Option.isSome_of_eq_some there))
    exact each key (mem_branchKeys covered kept present) token there filled

/-- The first key comes with the migration of all branches, in one commit. -/
theorem bootstrap_simulate (given : secrets.hubSecret ≠ []) (saved : Sound fernet secrets before s.committed)
    (sound : Sound fernet secrets before s.working) (level : s.committed.deks = s.working.deks) :
    wp (bootstrapEncryptionDb fernet secrets start)
      (fun _ after => Sound fernet secrets before after.committed ∧ Sound fernet secrets before after.working ∧
        after.committed.deks = after.working.deks ∧ ¬NoDeks after.working)
      (fun _ after => Sound fernet secrets before after.committed) s := by
  rw [bootstrapEncryptionDb, if_neg given, wp_bind, wp_read]
  refine wp_cases (fun some' => ⟨saved, sound, level, not_noDeks_of_size some'⟩) fun none => ?_
  have empty : NoDeks s.working := noDeks_of_size none
  rw [wp_bind]
  refine wp_liftBoot (fun wrapped _ => ?_) fun _ => saved
  rw [wp_bind, wp_update, wp_bind, wp_flush, wp_bind]
  have carried : Carried fernet secrets before (s.working.ensureSettings.addDek start.newId wrapped) := by
    refine sound.ensureSettings.carried.addDek (fun id => ?_) _ _
    rw [deks_ensureSettings]
    exact empty id
  have stored : (s.working.ensureSettings.addDek start.newId wrapped).deks.find start.newId = some ⟨wrapped, .active⟩ :=
    Table.find_put_self ..
  generalize s.working.ensureSettings.addDek start.newId wrapped = first at carried stored
  refine wp_mono (@wp_forEach_each _ _ _ _ _ (Migrating fernet secrets before (s.edit first).flush)
    (fun column after => column ∈ coveredColumns → ∀ key, ¬Skipped column key → Migrated after.working (column, key))
    (fun _ after => after.committed = s.committed) encryptedColumns _ (.refl carried) fun column listed s' moving => ?_) ?_
    fun _ after raised => ?_
  · refine wp_mono (migrateTable_simulate listed moving.carried) ?_ fun _ _ raised => raised.trans moving.committed
    rintro _ after ⟨moved, migrated⟩
    exact ⟨moving.trans moved, migrated, fun other done covered key kept =>
      moved.advances.migrated (other, key) (done covered key kept)⟩
  · rintro _ after ⟨moving, each⟩
    have sound' : Sound fernet secrets before after.working :=
      ⟨moving.carried, fun _ _ column covered => each column (List.mem_filter.mp covered).1 covered⟩
    refine wp_bootCommit ⟨sound', sound', rfl, fun none => ?_⟩ ?_
    · have here : after.working.deks.find start.newId = some ⟨wrapped, .active⟩ := by
        rw [moving.advances.deks]
        exact stored
      cases here.symm.trans (none start.newId)
    · rw [moving.committed]
      exact saved
  · rw [raised]
    exact saved

structure Rewrapping (fernet : Fernet Nonce) (secrets : Secrets) (before : Database) (s : Session Database Unit) : Prop where
  saved : Sound fernet secrets before s.committed
  sound : Sound fernet secrets before s.working
  level : s.committed.deks = s.working.deks
  some' : ¬NoDeks s.working

def Current (fernet : Fernet Nonce) (secrets : Secrets) (db : Database) (id : DekId) : Prop :=
  ∀ dek, db.deks.find id = some dek → dekNeedsRewrap fernet secrets dek.wrappedKey = .ok false

theorem rewrapDek_simulate (given : secrets.hubSecret ≠ []) (id : DekId) (rewrapping : Rewrapping fernet secrets before s) :
    wp (rewrapDek fernet secrets start id)
      (fun _ after => Rewrapping fernet secrets before after ∧ Current fernet secrets after.working id ∧
        (∀ other, Current fernet secrets s.working other → Current fernet secrets after.working other) ∧
        ∀ other, (after.working.deks.find other).isSome = true → (s.working.deks.find other).isSome = true)
      (fun _ after => Sound fernet secrets before after.committed) s := by
  rw [rewrapDek, wp_bind, wp_read]
  cases found : s.working.deks.find id with
  | none =>
    refine ⟨rewrapping, fun dek there => ?_, fun _ holds => holds, fun _ holds => holds⟩
    cases found.symm.trans there
  | some dek =>
    rw [wp_bind]
    refine wp_liftBoot (fun needed judged => wp_cases (fun yes => ?_) fun no => ?_) fun _ => rewrapping.saved
    · rw [wp_bind]
      refine wp_liftBoot (fun raw unwrapped => ?_) fun _ => rewrapping.saved
      rw [wp_bind]
      refine wp_liftBoot (fun wrapped written => ?_) fun _ => rewrapping.saved
      rw [wp_bind, wp_update]
      -- The new wrapping opens to the same key, and under the current secret.
      obtain ⟨again, settled⟩ := unwrapDek_wrapDek given written
      have next : Sound fernet secrets before (s.working.modifyDek id wrapped) := rewrapping.sound.modifyDek found unwrapped again
      have stored (other : DekId) : (s.working.modifyDek id wrapped).deks.find other =
          if other = id then (s.working.deks.find id).map fun dek => { dek with wrappedKey := wrapped }
          else s.working.deks.find other := Table.find_modify ..
      have its : Current fernet secrets (s.working.modifyDek id wrapped) id := by
        intro dek' there
        rw [stored, if_pos rfl, found] at there
        cases there
        exact settled
      refine wp_bootCommit ⟨⟨next, next, rfl, fun none => ?_⟩, its, fun other current => ?_, fun other => ?_⟩ rewrapping.saved
      · have there := none id
        rw [Session.commit_working, Session.edit_working, stored, if_pos rfl, found] at there
        cases there
      · by_cases same : other = id
        · exact same ▸ its
        · intro dek' there
          rw [Session.commit_working, Session.edit_working, stored, if_neg same] at there
          exact current dek' there
      · rw [Session.commit_working, Session.edit_working, stored]
        by_cases same : other = id
        · intro _
          rw [same, found]
          rfl
        · rw [if_neg same]
          exact fun holds => holds
    · refine ⟨rewrapping, fun dek' there => ?_, fun _ holds => holds, fun _ holds => holds⟩
      cases found.symm.trans there
      rw [judged]
      cases needed with
      | true => exact absurd rfl no
      | false => rfl

theorem rewrap_simulate (given : secrets.hubSecret ≠ []) (rewrapping : Rewrapping fernet secrets before s) :
    wp (rewrapPendingDeks fernet secrets start)
      (fun _ after => Rewrapping fernet secrets before after ∧ ∀ id, Current fernet secrets after.working id)
      (fun _ after => Sound fernet secrets before after.committed) s := by
  rw [rewrapPendingDeks, if_neg given, wp_bind, wp_read]
  refine wp_mono (@wp_forEach_each _ _ _ _ _
    (fun after => Rewrapping fernet secrets before after ∧
      ∀ id, (after.working.deks.find id).isSome = true → (s.working.deks.find id).isSome = true)
    (fun id after => Current fernet secrets after.working id) (fun _ after => Sound fernet secrets before after.committed) _ _
    ⟨rewrapping, fun _ holds => holds⟩ fun id _ s' holds => ?_) ?_ fun _ _ raised => raised
  · refine wp_mono (rewrapDek_simulate given id holds.1) ?_ fun _ _ raised => raised
    rintro _ after ⟨next, itself, others, present⟩
    exact ⟨⟨next, fun other there => holds.2 other (present other there)⟩, itself, others⟩
  · rintro _ after ⟨⟨next, present⟩, each⟩
    refine ⟨next, fun id dek there => ?_⟩
    have listed : id ∈ s.working.deks.keys :=
      AList.mem_keys.mp (AList.lookup_isSome.mp (present id (Option.isSome_of_eq_some there)))
    exact each id listed dek there

/-- One start, from a sound database: what it leaves is sound, and if it ends well its keys are under the current secret. -/
theorem start_simulate (given : secrets.hubSecret ≠ []) {db : Database} (sound : Sound fernet secrets before db) :
    wp (bootstrapEncryption fernet secrets start)
      (fun _ after => Sound fernet secrets before after.committed ∧ ¬NoDeks after.committed ∧
        ∀ id, Current fernet secrets after.committed id)
      (fun _ after => Sound fernet secrets before after.committed) (.start db ()) := by
  refine wp_cases (fun _ => sound) fun _ => ?_
  rw [wp_bind]
  refine wp_mono validate_simulate ?_ fun _ after raised => ?_
  · rintro _ checked ⟨working, committed⟩
    rw [wp_bind]
    have next : Sound fernet secrets before checked.working := working ▸ sound.ensureSettings
    have saved : Sound fernet secrets before checked.committed := committed ▸ sound
    have level : checked.committed.deks = checked.working.deks := by
      rw [working, committed, deks_ensureSettings]
      rfl
    refine wp_mono (bootstrap_simulate given saved next level) ?_ fun _ _ raised => raised
    rintro _ migrated ⟨saved, sound, level, some'⟩
    refine wp_mono (rewrap_simulate given ⟨saved, sound, level, some'⟩) ?_ fun _ _ raised => raised
    rintro _ after ⟨rewrapping, current⟩
    refine ⟨rewrapping.saved, fun none => rewrapping.some' fun id => ?_, fun id dek there => current id dek ?_⟩
    · rw [← rewrapping.level]
      exact none id
    · rw [← rewrapping.level]
      exact there
  · rw [raised]
    exact sound

end Simulation

section Keeping

variable {Nonce : Type} (fernet : Fernet Nonce) (secrets : Secrets)

/-- What is documented of Fernet: a token is of one key, and does not begin like a versioned one. -/
structure Documented (digest : Text → Text) : Prop where
  one_key : ∀ secret other token plain, fernet.decrypt (digest secret) token = .ok plain → digest other ≠ digest secret →
    fernet.decrypt (digest other) token = .error .invalidToken
  unversioned : ∀ secret token plain, fernet.decrypt (digest secret) token = .ok plain → v1Prefix.isPrefixOf token = false

def IsV1 (token : Text) : Prop := (parseToken token).1.isSome = true

def Secrets.rotated (secrets : Secrets) (hubSecret : Text) : Secrets :=
  { secrets with hubSecret, hubSecretPrev := secrets.hubSecret }

def IsValue (db : Database) (column : EncryptedColumn) (key : Nat) (token plain : Text) : Prop :=
  column ∈ schemaColumns ∧ db.cell column key = some token ∧ token ≠ [] ∧ decryptStr fernet secrets token db = .ok plain

/-- Every value is kept without the previous secret; where the first data key was made, also through the next rotation. -/
structure Kept (before after : Database) : Prop where
  readable : ∀ column key token plain, IsValue fernet secrets before column key token plain →
    ∃ token', after.cell column key = some token' ∧ decryptStr fernet secrets.withoutPrev token' after = .ok plain
  versioned : NoDeks before → ¬NoDeks after → ∀ column key token plain, IsValue fernet secrets before column key token plain →
    ∃ token', after.cell column key = some token' ∧ IsV1 token' ∧
      ∀ hubSecret, hubSecret ≠ [] → decryptStr fernet (secrets.rotated hubSecret) token' after = .ok plain

variable {fernet secrets} {before db : Database} {token plain : Text}

theorem Sound.afterStart (given : secrets.hubSecret ≠ []) (start : Start Nonce) (sound : Sound fernet secrets before db) :
    Sound fernet secrets before (afterStart fernet secrets start db) := by
  have simulated := @start_simulate _ _ _ start _ given _ sound
  simp only [wp] at simulated
  rw [Crypto.afterStart, Tx.run]
  split at simulated
  · rename_i ran
    rw [ran]
    exact simulated.1
  · rename_i ran
    rw [ran]
    exact simulated

/-- By induction on the starts. -/
theorem Sound.afterStarts (given : secrets.hubSecret ≠ []) (starts : List (Start Nonce))
    (sound : Sound fernet secrets before db) :
    Sound fernet secrets before (afterStarts fernet secrets starts db) := by
  induction starts generalizing db with
  | nil => exact sound
  | cons start rest ih => exact ih (sound.afterStart given start)

theorem current_afterStart (given : secrets.hubSecret ≠ []) {start : Start Nonce} (sound : Sound fernet secrets before db)
    (returned : Finishes (bootstrapEncryption fernet secrets start) (.start db ())) :
    ¬NoDeks (afterStart fernet secrets start db) ∧ ∀ id, Current fernet secrets (afterStart fernet secrets start db) id := by
  have simulated := @start_simulate _ _ _ start _ given _ sound
  simp only [wp] at simulated
  simp only [Finishes, wp] at returned
  rw [Crypto.afterStart, Tx.run]
  split at simulated
  · rename_i ran
    rw [ran]
    exact simulated.2
  · rename_i ran
    rw [ran] at returned
    cases returned

/-- A token of a key under the current secret is read through the next rotation. -/
theorem decryptStr_rotated (documented : Documented fernet secrets.digest) (given : secrets.hubSecret ≠ [])
    (settled : ∀ id, Current fernet secrets db id) (versioned : IsV1 token)
    (decrypted : decryptStr fernet secrets token db = .ok plain) {hubSecret : Text} (set : hubSecret ≠ []) :
    decryptStr fernet (secrets.rotated hubSecret) token db = .ok plain := by
  unfold decryptStr at decrypted ⊢
  split at decrypted
  · rename_i parsed
    rw [IsV1, parsed] at versioned
    cases versioned
  · unfold Database.findDek at decrypted ⊢
    split at decrypted
    · cases decrypted
    · rename_i dek found
      split at found
      · cases unwrapped : unwrapDek fernet secrets dek.wrappedKey with
        | error failure => simp [unwrapped, bind, Except.bind] at decrypted
        | ok raw =>
          have current := current_of_no_rewrap given (settled _ dek found) unwrapped
          have same : unwrapDek fernet (secrets.rotated hubSecret) dek.wrappedKey = .ok raw := by
            by_cases equal : secrets.digest hubSecret = secrets.digest secrets.hubSecret
            · refine unwrapDek_of_current set ?_
              rw [Secrets.rotated]
              dsimp only
              rw [equal]
              exact current
            · have refused := documented.one_key secrets.hubSecret hubSecret _ raw current equal
              simp [unwrapDek, tryUnwrapWithCurrent, Secrets.rotated, kekFernet, set, given, refused, current, bind, Except.bind]
          simpa [unwrapped, same, bind, Except.bind] using decrypted
      · cases found

/-- A value that looks versioned and decrypts names a data key. -/
theorem isV1_of_prefix (documented : Documented fernet secrets.digest) (given : secrets.hubSecret ≠ [])
    (versioned : v1Prefix.isPrefixOf token = true) (decrypted : decryptStr fernet secrets token db = .ok plain) : IsV1 token := by
  unfold decryptStr at decrypted
  split at decrypted
  · rename_i inner parsed
    obtain rfl : token = inner := by
      unfold parseToken at parsed
      rw [if_pos versioned] at parsed
      split at parsed
      split at parsed <;> cases parsed
      rfl
    rw [kekFernet_of_set given] at decrypted
    cases versioned.symm.trans (documented.unversioned secrets.hubSecret _ plain decrypted)
  · rename_i parsed
    rw [IsV1, parsed]
    rfl

/-- Starts that may die between their commits, and then one that ends well, keep every value; where they make the first
data key, exactly if no cell that the migration has no branch for holds a legacy value. -/
theorem startup_keeps_iff (fernet : Fernet Nonce) (secrets : Secrets) (documented : Documented fernet secrets.digest)
    (given : secrets.hubSecret ≠ []) (interrupted : List (Start Nonce)) (last : Start Nonce) (db : Database)
    (returned : Finishes (bootstrapEncryption fernet secrets last) (.start (afterStarts fernet secrets interrupted db) ())) :
    Kept fernet secrets db (afterStart fernet secrets last (afterStarts fernet secrets interrupted db)) ↔
      (NoDeks db → ∀ column key token plain, Skipped column key → ¬IsValue fernet secrets db column key token plain) := by
  have earlier : Sound fernet secrets db (afterStarts fernet secrets interrupted db) := Sound.refl.afterStarts given interrupted
  have sound := earlier.afterStart given last
  obtain ⟨some', current⟩ := current_afterStart given earlier returned
  generalize afterStart fernet secrets last (afterStarts fernet secrets interrupted db) = after at sound some' current
  constructor
  · rintro kept empty column key token plain skip value
    obtain ⟨token', now, versioned, _⟩ := kept.versioned empty some' column key token plain value
    rw [sound.carried.skipped column key skip, value.2.1] at now
    cases now
    rw [IsV1, legacy_of_noDeks empty value.2.2.2] at versioned
    cases versioned
  · intro clear
    refine ⟨?_, ?_⟩
    · rintro column key token plain ⟨_, present, filled, decrypted⟩
      obtain ⟨token', now, _, reads⟩ := sound.carried.readable column key token plain present filled decrypted
      exact ⟨token', now, decryptStr_withoutPrev given current reads⟩
    · rintro empty _ column key token plain value
      obtain ⟨listed, present, filled, decrypted⟩ := value
      obtain ⟨token', now, filled', reads⟩ := sound.carried.readable column key token plain present filled decrypted
      have kept : ¬Skipped column key := fun skip => clear empty column key token plain skip ⟨listed, present, filled, decrypted⟩
      have covered : column ∈ coveredColumns := (covered_or_missed column listed).resolve_right fun missed => kept (.inl missed)
      have versioned : IsV1 token' :=
        isV1_of_prefix documented given (sound.migrated empty some' column covered key kept token' now filled') reads
      exact ⟨token', now, versioned, fun hubSecret set => decryptStr_rotated documented given current versioned reads set⟩

end Keeping

section Samples

def header (key : Text) : Text := List.replicate key.length '*' ++ '.' :: key

theorem header_injective {one other token : Text} (first : header one <+: token) (second : header other <+: token) :
    one = other := by
  have stars (key : Text) : (header key).takeWhile (· == '*') = List.replicate key.length '*' := by
    rw [header, List.takeWhile_append_of_pos (by simp)]
    simp
  have lengths {key : Text} (starts : header key <+: token) : token.takeWhile (· == '*') = List.replicate key.length '*' := by
    obtain ⟨rest, rfl⟩ := starts
    rw [header, List.append_assoc, List.takeWhile_append_of_pos (by simp)]
    simp
  have same : one.length = other.length := by
    have equal := congrArg List.length ((lengths first).symm.trans (lengths second))
    simpa using equal
  have whole : header one = header other := by
    refine List.IsPrefix.eq_of_length (List.prefix_of_prefix_length_le first second ?_) ?_ <;> simp [header, same]
  rw [header, header, same] at whole
  exact (List.cons.inj (List.append_cancel_left whole)).2

def headedCipher : Fernet Unit where
  encrypt key _ plain := .ok (header key ++ plain)
  decrypt key token := if (header key).isPrefixOf token then .ok (token.drop (header key).length) else .error .invalidToken
  decrypt_encrypt := by
    rintro key nonce plain token ⟨⟩
    simp

theorem header_of_decrypt {key token plain : Text} (decrypted : headedCipher.decrypt key token = .ok plain) :
    header key <+: token := by
  simp only [headedCipher] at decrypted
  split at decrypted
  · exact List.isPrefixOf_iff_prefix.mp ‹_›
  · cases decrypted

theorem headedCipher_documented : Documented headedCipher hubSecrets.digest where
  one_key secret other token plain decrypted apart := by
    have none : ¬(header (hubSecrets.digest other)).isPrefixOf token = true := fun starts =>
      apart (header_injective (List.isPrefixOf_iff_prefix.mp starts) (header_of_decrypt decrypted))
    exact if_neg none
  unversioned secret token plain decrypted := by
    obtain ⟨rest, rfl⟩ := header_of_decrypt decrypted
    simp [header, hubSecrets, v1Prefix, List.replicate_succ, List.isPrefixOf]

def firstStart (dies : Bool) : Start Unit where
  sessionSecretOk := true
  bootstrapDone := true
  pick := List.head?
  newId := activeDek
  rawDek := "k2".toList
  wrapNonce := ()
  nonce _ _ := ()
  rewrapNonce _ := ()
  dies _ := dies

def legacyToken : Text := header (hubSecrets.digest hubSecrets.hubSecret) ++ "JBSWY3DP".toList

def legacyDatabase (table : StoredTable) (column : Column) : Database where
  rows := Function.update (fun _ => ∅) table ((∅ : Table Nat Row).put 7
    ⟨Function.update (fun _ => none) column (some legacyToken), none⟩)
  deks := ∅
  jobs := ∅

theorem startup_keeps_worker_token :
    Kept headedCipher hubSecrets (legacyDatabase .workerNodes .apiTokenEncrypted)
      (afterStart headedCipher hubSecrets (firstStart false)
      (afterStarts headedCipher hubSecrets [firstStart true] (legacyDatabase .workerNodes .apiTokenEncrypted))) := by
  refine (startup_keeps_iff headedCipher hubSecrets headedCipher_documented (by decide) [firstStart true] (firstStart false)
    (legacyDatabase .workerNodes .apiTokenEncrypted) (by decide +kernel)).mpr ?_
  rintro _ column key token plain skip ⟨_, present, _⟩
  have elsewhere : column.1 ≠ .workerNodes := by
    rcases skip with missed | ⟨settings, _⟩
    · simp only [missedColumns, List.mem_cons, List.not_mem_nil, or_false] at missed
      rcases missed with rfl | rfl <;> decide
    · rw [settings]
      decide
  have none : (legacyDatabase .workerNodes .apiTokenEncrypted).rows column.1 = ∅ := by
    simp [legacyDatabase, elsewhere]
  rw [Database.cell, none] at present
  cases present

/-- The migration leaves the legacy secret of a second factor, and the next rotation loses it. -/
theorem startup_leaves_totp :
    Finishes (bootstrapEncryption headedCipher hubSecrets (firstStart false))
      (.start (legacyDatabase .users .totpSecretEncrypted) ()) ∧
    ¬Kept headedCipher hubSecrets (legacyDatabase .users .totpSecretEncrypted)
      (afterStart headedCipher hubSecrets (firstStart false) (legacyDatabase .users .totpSecretEncrypted)) := by
  refine ⟨by decide +kernel, fun kept => ?_⟩
  have empty : NoDeks (legacyDatabase .users .totpSecretEncrypted) := fun _ => rfl
  have made : ¬NoDeks (afterStart headedCipher hubSecrets (firstStart false) (legacyDatabase .users .totpSecretEncrypted)) := by
    intro none
    have found : ((afterStart headedCipher hubSecrets (firstStart false)
        (legacyDatabase .users .totpSecretEncrypted)).deks.find activeDek).isSome = true := by decide +kernel
    rw [none activeDek] at found
    cases found
  obtain ⟨token, now, versioned, _⟩ := kept.versioned empty made (.users, .totpSecretEncrypted) 7 legacyToken "JBSWY3DP".toList
    ⟨by decide, by decide +kernel, by decide +kernel, by decide +kernel⟩
  have same : (afterStart headedCipher hubSecrets (firstStart false)
      (legacyDatabase .users .totpSecretEncrypted)).cell (.users, .totpSecretEncrypted) 7 = some legacyToken := by decide +kernel
  cases same.symm.trans now
  have legacy : (parseToken legacyToken).1 = none := by decide +kernel
  rw [IsV1, legacy] at versioned
  cases versioned

end Samples

end IdigestHub.Crypto
