import IdigestHub.Library.Shares

/-! The audio of shared transcripts: whether a recipient has a share of the audio exactly as long as one of
its transcripts is shared with them. -/

set_option autoImplicit false

namespace IdigestHub.Library

open Foundation Foundation.Runs
open Offboarding (ObjectType SkillScope Share Membership)

/-- The owner of an audio and somebody with whom its transcripts are shared. -/
structure Pair where
  audioId : Nat
  ownerId : Nat
  recipientId : Nat

section Conditions

variable (pair : Pair) (catalog : Catalog)

def OfAudio (transcriptId : Nat) : Prop :=
  (catalog.transcripts.find transcriptId).bind Transcript.sourceAudioId = some pair.audioId

def SharesVia (transcriptId : Nat) : Prop :=
  OfAudio pair catalog transcriptId ∧ ∃ id, catalog.shares.find id =
    some ⟨.transcript, transcriptId, pair.ownerId, pair.recipientId⟩

def HasAudio : Prop :=
  ∃ id row, catalog.shares.find id = some row ∧ row.objectType = .audio ∧ row.objectId = pair.audioId ∧
    row.toUserId = pair.recipientId

def Paired : Prop := HasAudio pair catalog ↔ ∃ transcriptId, SharesVia pair catalog transcriptId

def SharesOther (transcriptId : Nat) : Prop := ∃ other, other ≠ transcriptId ∧ SharesVia pair catalog other

/-- What any reachable catalog satisfies for an audio of the owner's organization. -/
structure Sound : Prop where
  fresh : ∀ id row, catalog.shares.find id = some row → id < catalog.nextId
  unique : ∀ id id' row row', catalog.shares.find id = some row → catalog.shares.find id' = some row' →
    row.objectType = row'.objectType → row.objectId = row'.objectId → row.toUserId = row'.toUserId → id = id'
  made : ∀ id row transcript, catalog.shares.find id = some row → row.objectType = .transcript →
    catalog.transcripts.find row.objectId = some transcript → row.fromUserId = transcript.ownerUserId
  audio : ∃ audio, catalog.audios.find pair.audioId = some audio ∧ audio.ownerUserId = pair.ownerId ∧
    orgOf catalog pair.ownerId = some audio.orgId
  audioMade : ∀ id row, catalog.shares.find id = some row → row.objectType = .audio → row.objectId = pair.audioId →
    row.fromUserId = pair.ownerId

def Indirect (catalog : Catalog) : Event → Prop
  | .create _ objectType objectId toUserIds =>
    ¬(objectType = .audio ∧ objectId = pair.audioId ∧ pair.recipientId ∈ toUserIds)
  | .revoke _ shareId => ∀ row, catalog.shares.find shareId = some row →
      ¬(row.objectType = .audio ∧ row.objectId = pair.audioId ∧ row.toUserId = pair.recipientId)
  | .hardDelete _ => True

/-- A share is taken back only when it is the last one of the audio's transcripts, and a shared transcript is
deleted only when it is not. -/
def Keeps (catalog : Catalog) : Event → Prop
  | .create .. => True
  | .revoke userId shareId => (userId = pair.ownerId ∨ userId = pair.recipientId) → ∀ transcriptId,
      catalog.shares.find shareId = some ⟨.transcript, transcriptId, pair.ownerId, pair.recipientId⟩ →
        OfAudio pair catalog transcriptId → ¬SharesOther pair catalog transcriptId
  | .hardDelete transcriptId => SharesVia pair catalog transcriptId → SharesOther pair catalog transcriptId

end Conditions

section Lookups

variable {catalog : Catalog} {objectType : ObjectType} {objectId userId id : Nat}

theorem row_of_sharedWith (found : isSharedWith catalog objectType objectId userId = some id) :
    ∃ row, catalog.shares.find id = some row ∧ row.objectType = objectType ∧ row.objectId = objectId ∧
      row.toUserId = userId := by
  obtain ⟨row, stored, same⟩ := (Table.mem_select ..).mp (List.mem_of_mem_head? found)
  simp only [Bool.and_eq_true, beq_iff_eq] at same
  exact ⟨row, stored, same.1.1, same.1.2, same.2⟩

theorem none_of_sharedWith (absent : isSharedWith catalog objectType objectId userId = none) {row : Share}
    (stored : catalog.shares.find id = some row) :
    ¬(row.objectType = objectType ∧ row.objectId = objectId ∧ row.toUserId = userId) := by
  rintro ⟨same_type, same_object, same_user⟩
  have member : id ∈ catalog.shares.select fun _ row =>
      row.objectType == objectType && row.objectId == objectId && row.toUserId == userId :=
    (Table.mem_select ..).mpr ⟨row, stored, by simp [same_type, same_object, same_user]⟩
  rw [List.head?_eq_none_iff.mp absent] at member
  contradiction

end Lookups

section Ensuring

variable {pair : Pair} {catalog : Catalog} {share : Share}

@[simp] theorem ensure_memberships : (ensureObjectShare catalog share).1.memberships = catalog.memberships := by
  unfold ensureObjectShare
  split <;> rfl

@[simp] theorem ensure_audios : (ensureObjectShare catalog share).1.audios = catalog.audios := by
  unfold ensureObjectShare
  split <;> rfl

@[simp] theorem ensure_transcripts : (ensureObjectShare catalog share).1.transcripts = catalog.transcripts := by
  unfold ensureObjectShare
  split <;> rfl

@[simp] theorem ensure_orgOf (userId : Nat) : orgOf (ensureObjectShare catalog share).1 userId = orgOf catalog userId := by
  rw [orgOf, orgOf, ensure_memberships]

@[simp] theorem ensure_ofAudio (transcriptId : Nat) :
    OfAudio pair (ensureObjectShare catalog share).1 transcriptId = OfAudio pair catalog transcriptId := by
  rw [OfAudio, OfAudio, ensure_transcripts]

theorem find_ensure (id : Nat) (row : Share) : (ensureObjectShare catalog share).1.shares.find id = some row →
    catalog.shares.find id = some row ∨
      isSharedWith catalog share.objectType share.objectId share.toUserId = none ∧ id = catalog.nextId ∧ row = share := by
  unfold ensureObjectShare
  split
  · exact Or.inl
  · rename_i absent
    dsimp only
    rw [Table.find_put]
    split
    · rename_i same
      intro here
      exact Or.inr ⟨absent, same, (Option.some.inj here).symm⟩
    · exact Or.inl

theorem find_ensure_of_stored (sound : Sound pair catalog) {id : Nat} {row : Share}
    (stored : catalog.shares.find id = some row) : (ensureObjectShare catalog share).1.shares.find id = some row := by
  unfold ensureObjectShare
  split
  · exact stored
  · dsimp only
    rw [Table.find_put, if_neg (sound.fresh id row stored).ne]
    exact stored

theorem find_ensured (catalog : Catalog) (share : Share) : ∃ id row,
    (ensureObjectShare catalog share).1.shares.find id = some row ∧ row.objectType = share.objectType ∧
      row.objectId = share.objectId ∧ row.toUserId = share.toUserId ∧ (row = share ∨ catalog.shares.find id = some row) := by
  unfold ensureObjectShare
  split
  · rename_i id found
    obtain ⟨row, stored, same⟩ := row_of_sharedWith found
    exact ⟨id, row, stored, same.1, same.2.1, same.2.2, Or.inr stored⟩
  · exact ⟨catalog.nextId, share, Table.find_put_self .., rfl, rfl, rfl, Or.inl rfl⟩

def Rightful (pair : Pair) (catalog : Catalog) (share : Share) : Prop :=
  (share.objectType = .transcript → ∃ transcript, catalog.transcripts.find share.objectId = some transcript ∧
    share.fromUserId = transcript.ownerUserId) ∧
  (share.objectType = .audio → share.objectId = pair.audioId → share.fromUserId = pair.ownerId)

theorem sound_ensure (sound : Sound pair catalog) (rightful : Rightful pair catalog share) :
    Sound pair (ensureObjectShare catalog share).1 where
  fresh id row found := by
    have later : catalog.nextId ≤ (ensureObjectShare catalog share).1.nextId := by
      unfold ensureObjectShare
      split <;> simp
    rcases find_ensure id row found with stored | ⟨absent, same, _⟩
    · exact (sound.fresh id row stored).trans_le later
    · rw [same, ensureObjectShare, absent]
      exact Nat.lt_succ_self _
  unique id id' row row' found found' same_type same_object same_user := by
    rcases find_ensure id row found with stored | ⟨absent, here, itself⟩ <;>
      rcases find_ensure id' row' found' with stored' | ⟨absent', here', itself'⟩
    · exact sound.unique id id' row row' stored stored' same_type same_object same_user
    · subst itself'
      exact absurd ⟨same_type, same_object, same_user⟩ (none_of_sharedWith absent' stored)
    · subst itself
      exact absurd ⟨same_type.symm, same_object.symm, same_user.symm⟩ (none_of_sharedWith absent stored')
    · rw [here, here']
  made id row transcript found is_transcript source := by
    rw [ensure_transcripts] at source
    rcases find_ensure id row found with stored | ⟨_, _, itself⟩
    · exact sound.made id row transcript stored is_transcript source
    · subst itself
      obtain ⟨owned, there, owner⟩ := rightful.1 is_transcript
      rw [source] at there
      rw [Option.some.inj there]
      exact owner
  audio := by
    rw [ensure_audios, ensure_orgOf]
    exact sound.audio
  audioMade id row found is_audio same := by
    rcases find_ensure id row found with stored | ⟨_, _, itself⟩
    · exact sound.audioMade id row stored is_audio same
    · subst itself
      exact rightful.2 is_audio same

theorem hasAudio_ensure (sound : Sound pair catalog) : HasAudio pair (ensureObjectShare catalog share).1 ↔
    HasAudio pair catalog ∨
      share.objectType = .audio ∧ share.objectId = pair.audioId ∧ share.toUserId = pair.recipientId := by
  constructor
  · rintro ⟨id, row, found, of_audio⟩
    rcases find_ensure id row found with stored | ⟨_, _, itself⟩
    · exact Or.inl ⟨id, row, stored, of_audio⟩
    · exact Or.inr (itself ▸ of_audio)
  · rintro (⟨id, row, stored, of_audio⟩ | ⟨is_audio, same, recipient⟩)
    · exact ⟨id, row, find_ensure_of_stored sound stored, of_audio⟩
    · obtain ⟨id, row, found, same_type, same_object, same_user, _⟩ := find_ensured catalog share
      exact ⟨id, row, found, same_type.trans is_audio, same_object.trans same, same_user.trans recipient⟩

theorem sharesVia_ensure (sound : Sound pair catalog) (rightful : Rightful pair catalog share) (transcriptId : Nat) :
    SharesVia pair (ensureObjectShare catalog share).1 transcriptId ↔ SharesVia pair catalog transcriptId ∨
      OfAudio pair catalog transcriptId ∧ share = ⟨.transcript, transcriptId, pair.ownerId, pair.recipientId⟩ := by
  unfold SharesVia
  rw [ensure_ofAudio]
  constructor
  · rintro ⟨of_audio, id, found⟩
    rcases find_ensure id _ found with stored | ⟨_, _, itself⟩
    · exact Or.inl ⟨of_audio, id, stored⟩
    · exact Or.inr ⟨of_audio, itself.symm⟩
  · rintro (⟨of_audio, id, stored⟩ | ⟨of_audio, itself⟩)
    · exact ⟨of_audio, id, find_ensure_of_stored sound stored⟩
    · refine ⟨of_audio, ?_⟩
      subst itself
      obtain ⟨id, row, found, same_type, same_object, same_user, either⟩ := find_ensured catalog
        ⟨.transcript, transcriptId, pair.ownerId, pair.recipientId⟩
      dsimp only at same_type same_object same_user
      have same_owner : row.fromUserId = pair.ownerId := by
        rcases either with same | stored
        · rw [same]
        · obtain ⟨transcript, there, owner⟩ := rightful.1 rfl
          exact (sound.made id row transcript stored same_type (same_object ▸ there)).trans owner.symm
      refine ⟨id, ?_⟩
      rw [found, ← same_type, ← same_object, ← same_user, ← same_owner]

end Ensuring

section Creating

variable {pair : Pair} {catalog : Catalog} {orgId userId objectId : Nat} {objectType : ObjectType}

theorem rightful_of_owner (sound : Sound pair catalog) (owner : requireShareOwner catalog objectType objectId userId = .ok ())
    (toUserId : Nat) : Rightful pair catalog ⟨objectType, objectId, userId, toUserId⟩ := by
  constructor
  · intro is_transcript
    dsimp only at is_transcript ⊢
    subst is_transcript
    unfold requireShareOwner at owner
    cases there : catalog.transcripts.find objectId with
    | none => simp [there] at owner
    | some transcript =>
      simp only [there, Option.elim_some, Option.some.injEq] at owner
      split at owner
      · rename_i same
        exact ⟨transcript, rfl, same.symm⟩
      · contradiction
  · intro is_audio same
    dsimp only at is_audio same ⊢
    subst is_audio same
    obtain ⟨audio, there, held, _⟩ := sound.audio
    simp only [requireShareOwner, there, Option.elim_some, Option.some.injEq] at owner
    split at owner
    · rename_i owned
      exact owned.symm.trans held
    · contradiction

theorem rightful_congr {other : Catalog} {share : Share} (same : other.transcripts = catalog.transcripts) :
    Rightful pair other share ↔ Rightful pair catalog share := by
  rw [Rightful, Rightful, same]

theorem pairedAudio_iff {audioId : Nat} : pairedAudio catalog orgId userId objectType objectId = some audioId ↔
    objectType = .transcript ∧ (catalog.transcripts.find objectId).bind Transcript.sourceAudioId = some audioId ∧
      ∃ audio, catalog.audios.find audioId = some audio ∧ audio.orgId = orgId ∧ audio.ownerUserId = userId := by
  unfold pairedAudio
  split
  · rename_i is_transcript
    rw [Option.filter_eq_some_iff, Option.any_eq_true]
    simp [is_transcript]
  · rename_i other
    simp [other]

theorem rightful_paired (sound : Sound pair catalog) {audioId : Nat}
    (paired : pairedAudio catalog orgId userId objectType objectId = some audioId) (toUserId : Nat) :
    Rightful pair catalog ⟨.audio, audioId, userId, toUserId⟩ := by
  obtain ⟨_, _, audio, there, _, owner⟩ := pairedAudio_iff.mp paired
  refine ⟨nofun, ?_⟩
  intro _ same
  obtain ⟨audio', there', owner', _⟩ := sound.audio
  dsimp only at same ⊢
  rw [same, there'] at there
  rw [← owner, ← Option.some.inj there, owner']

theorem paired_of_source (sound : Sound pair catalog) (org : orgOf catalog pair.ownerId = some orgId)
    (of_audio : OfAudio pair catalog objectId) :
    pairedAudio catalog orgId pair.ownerId .transcript objectId = some pair.audioId := by
  obtain ⟨audio, there, owner, same⟩ := sound.audio
  rw [org] at same
  exact pairedAudio_iff.mpr ⟨rfl, of_audio, audio, there, (Option.some.inj same).symm, owner⟩

variable {made : Catalog × List Nat} {toUserId : Nat}

theorem shareWith_frame : (shareWith orgId userId objectType objectId made toUserId).1.transcripts = made.1.transcripts ∧
    ∀ other, orgOf (shareWith orgId userId objectType objectId made toUserId).1 other = orgOf made.1 other := by
  unfold shareWith
  split
  · exact ⟨rfl, fun _ => rfl⟩
  · split
    · exact ⟨rfl, fun _ => rfl⟩
    · dsimp only
      split <;> simp

theorem shareWith_sound (sound : Sound pair made.1) (rightful : Rightful pair made.1 ⟨objectType, objectId, userId, toUserId⟩) :
    Sound pair (shareWith orgId userId objectType objectId made toUserId).1 := by
  unfold shareWith
  split
  · exact sound
  · split
    · exact sound
    · dsimp only
      have first := sound_ensure sound rightful
      split
      · rename_i audioId paired
        exact sound_ensure first (rightful_paired first paired toUserId)
      · exact first

/-- A turn shares the audio exactly when it shares a transcript of it. -/
theorem shareWith_paired (sound : Sound pair made.1)
    (rightful : Rightful pair made.1 ⟨objectType, objectId, userId, toUserId⟩) (org : orgOf made.1 userId = some orgId)
    (indirect : ¬(objectType = .audio ∧ objectId = pair.audioId ∧ toUserId = pair.recipientId)) (paired : Paired pair made.1) :
    Paired pair (shareWith orgId userId objectType objectId made toUserId).1 := by
  unfold shareWith
  split
  · exact paired
  · split
    · exact paired
    · dsimp only
      have first := sound_ensure sound rightful
      split
      · rename_i audioId brings
        have second := rightful_paired first brings toUserId
        obtain ⟨is_transcript, source, _⟩ := pairedAudio_iff.mp brings
        rw [ensure_transcripts] at source
        subst is_transcript
        have new : (audioId = pair.audioId ∧ toUserId = pair.recipientId) ↔ ∃ transcriptId, OfAudio pair made.1 transcriptId ∧
            objectId = transcriptId ∧ userId = pair.ownerId ∧ toUserId = pair.recipientId := by
          constructor
          · rintro ⟨same, recipient⟩
            exact ⟨objectId, source.trans (congrArg some same), rfl, second.2 rfl same, recipient⟩
          · rintro ⟨transcriptId, of_audio, same, _, recipient⟩
            rw [OfAudio, ← same, source] at of_audio
            exact ⟨Option.some.inj of_audio, recipient⟩
        simp only [Paired, hasAudio_ensure first, hasAudio_ensure sound, sharesVia_ensure first second,
          sharesVia_ensure sound rightful, ensure_ofAudio, Share.mk.injEq, reduceCtorEq, false_and, or_false, true_and,
          and_false]
        rw [exists_or, or_congr paired new]
      · rename_i alone
        have not_new : ∀ transcriptId, ¬(OfAudio pair made.1 transcriptId ∧ objectType = .transcript ∧
            objectId = transcriptId ∧ userId = pair.ownerId ∧ toUserId = pair.recipientId) := by
          rintro transcriptId ⟨of_audio, is_transcript, same, owner, _⟩
          subst is_transcript same owner
          have brings := paired_of_source first (by rw [ensure_orgOf]; exact org) (by rw [ensure_ofAudio]; exact of_audio)
          rw [alone] at brings
          contradiction
        simp only [Paired, hasAudio_ensure sound, sharesVia_ensure sound rightful, Share.mk.injEq, indirect, not_new, or_false]
        exact paired

variable {toUserIds : List Nat}

/-- The loop over the recipients keeps what each turn keeps. -/
theorem create_sound (sound : Sound pair made.1)
    (rightful : ∀ toUserId, Rightful pair made.1 ⟨objectType, objectId, userId, toUserId⟩) :
    Sound pair (toUserIds.foldl (shareWith orgId userId objectType objectId) made).1 := by
  induction toUserIds generalizing made with
  | nil => exact sound
  | cons toUserId rest ih =>
    apply ih (shareWith_sound sound (rightful toUserId))
    intro other
    exact (rightful_congr shareWith_frame.1).mpr (rightful other)

theorem create_paired (sound : Sound pair made.1)
    (rightful : ∀ toUserId, Rightful pair made.1 ⟨objectType, objectId, userId, toUserId⟩)
      (org : orgOf made.1 userId = some orgId)
    (indirect : ¬(objectType = .audio ∧ objectId = pair.audioId ∧ pair.recipientId ∈ toUserIds)) (paired : Paired pair made.1) :
    Paired pair (toUserIds.foldl (shareWith orgId userId objectType objectId) made).1 := by
  induction toUserIds generalizing made with
  | nil => exact paired
  | cons toUserId rest ih =>
    have here : ¬(objectType = .audio ∧ objectId = pair.audioId ∧ toUserId = pair.recipientId) := by
      rintro ⟨is_audio, same, recipient⟩
      exact indirect ⟨is_audio, same, recipient ▸ List.mem_cons_self⟩
    apply ih (shareWith_sound sound (rightful toUserId))
    · intro other
      exact (rightful_congr shareWith_frame.1).mpr (rightful other)
    · rw [shareWith_frame.2]
      exact org
    · rintro ⟨is_audio, same, later⟩
      exact indirect ⟨is_audio, same, List.mem_cons_of_mem _ later⟩
    · exact shareWith_paired sound (rightful toUserId) org here paired

end Creating

section Removing

variable {pair : Pair} {catalog next : Catalog}

theorem sound_of_fewer (sound : Sound pair catalog) (same_id : next.nextId = catalog.nextId)
    (same_memberships : next.memberships = catalog.memberships) (same_audios : next.audios = catalog.audios)
    (transcripts : ∀ id row, next.transcripts.find id = some row → catalog.transcripts.find id = some row)
    (shares : ∀ id row, next.shares.find id = some row → catalog.shares.find id = some row) : Sound pair next where
  fresh id row found := by
    rw [same_id]
    exact sound.fresh id row (shares id row found)
  unique id id' row row' found found' := sound.unique id id' row row' (shares id row found) (shares id' row' found')
  made id row transcript found is_transcript there :=
    sound.made id row transcript (shares id row found) is_transcript (transcripts _ _ there)
  audio := by
    rw [same_audios, orgOf, same_memberships]
    exact sound.audio
  audioMade id row found := sound.audioMade id row (shares id row found)

theorem find_revokePaired (sound : Sound pair catalog) {audioId fromUserId toUserId id : Nat} {row : Share} :
    (revokePairedAudioShare catalog audioId fromUserId toUserId).shares.find id = some row ↔
      catalog.shares.find id = some row ∧ row ≠ ⟨.audio, audioId, fromUserId, toUserId⟩ := by
  unfold revokePairedAudioShare
  split
  · rename_i gone found
    obtain ⟨removed, stored, same⟩ := (Table.mem_select ..).mp (List.mem_of_mem_head? found)
    simp only [Bool.and_eq_true, beq_iff_eq, and_assoc] at same
    have itself : removed = ⟨.audio, audioId, fromUserId, toUserId⟩ := by
      rw [← same.1, ← same.2.1, ← same.2.2.1, ← same.2.2.2]
    dsimp only
    rw [Table.find_delete]
    constructor
    · intro kept
      split at kept
      · contradiction
      · rename_i different
        refine ⟨kept, ?_⟩
        intro alike
        exact different (sound.unique id gone row removed kept stored (by rw [alike, itself]) (by rw [alike, itself])
          (by rw [alike, itself]))
    · rintro ⟨kept, other⟩
      rw [if_neg]
      · exact kept
      · intro same_id
        rw [same_id, stored] at kept
        exact other (Option.some.inj kept ▸ itself)
  · rename_i absent
    constructor
    · intro kept
      refine ⟨kept, ?_⟩
      intro alike
      have member : id ∈ catalog.shares.select fun _ row => row.objectType == .audio && row.objectId == audioId &&
          row.fromUserId == fromUserId && row.toUserId == toUserId := (Table.mem_select ..).mpr ⟨row, kept, by simp [alike]⟩
      rw [List.head?_eq_none_iff.mp absent] at member
      contradiction
    · exact And.left

def sourceOf (catalog : Catalog) (share : Share) : Option Nat :=
  if share.objectType = .transcript then (catalog.transcripts.find share.objectId).bind Transcript.sourceAudioId else none

theorem deleteShare_some {userId shareId : Nat} (revoked : deleteShare catalog userId shareId = .ok next) :
    ∃ share, catalog.shares.find shareId = some share ∧ (share.fromUserId = userId ∨ share.toUserId = userId) ∧
      next = let paired := match sourceOf catalog share with
          | some audioId => revokePairedAudioShare catalog audioId share.fromUserId share.toUserId
          | none => catalog
        { paired with shares := paired.shares.delete shareId } := by
  unfold deleteShare at revoked
  split at revoked
  · contradiction
  · rename_i share found
    split at revoked
    · contradiction
    · rename_i party
      refine ⟨share, found, ?_, (Except.ok.inj revoked).symm⟩
      by_contra neither
      exact party ⟨fun same => neither (Or.inl same), fun same => neither (Or.inr same)⟩

/-- A share has been taken back: another one stays, unless it is of the audio that goes along. -/
structure Revoked (catalog : Catalog) (userId shareId : Nat) (share : Share) (next : Catalog) : Prop where
  found : catalog.shares.find shareId = some share
  party : share.fromUserId = userId ∨ share.toUserId = userId
  transcripts : next.transcripts = catalog.transcripts
  shares : ∀ id row, next.shares.find id = some row ↔ catalog.shares.find id = some row ∧ id ≠ shareId ∧
    ¬(row.objectType = .audio ∧ sourceOf catalog share = some row.objectId ∧ row.fromUserId = share.fromUserId ∧
      row.toUserId = share.toUserId)

theorem revoked_of_deleteShare (sound : Sound pair catalog) {userId shareId : Nat}
    (revoked : deleteShare catalog userId shareId = .ok next) :
    ∃ share, Revoked catalog userId shareId share next ∧ Sound pair next := by
  obtain ⟨share, found, party, same⟩ := deleteShare_some revoked
  have shares : ∀ id row, next.shares.find id = some row ↔ catalog.shares.find id = some row ∧ id ≠ shareId ∧
      ¬(row.objectType = .audio ∧ sourceOf catalog share = some row.objectId ∧ row.fromUserId = share.fromUserId ∧
        row.toUserId = share.toUserId) := by
    intro id row
    rw [same]
    dsimp only
    rw [Table.find_delete]
    cases source : sourceOf catalog share with
    | none => by_cases itself : id = shareId <;> simp [itself]
    | some audioId =>
      by_cases itself : id = shareId
      · simp [itself]
      · rw [if_neg itself, find_revokePaired sound]
        obtain ⟨objectType, objectId, fromUserId, toUserId⟩ := row
        simp [itself, eq_comm]
  have frame : next.nextId = catalog.nextId ∧ next.memberships = catalog.memberships ∧ next.audios = catalog.audios ∧
      next.transcripts = catalog.transcripts := by
    rw [same]
    cases sourceOf catalog share with
    | none => exact ⟨rfl, rfl, rfl, rfl⟩
    | some audioId =>
      dsimp only
      unfold revokePairedAudioShare
      split <;> exact ⟨rfl, rfl, rfl, rfl⟩
  refine ⟨share, ⟨found, party, frame.2.2.2, shares⟩, ?_⟩
  apply sound_of_fewer sound frame.1 frame.2.1 frame.2.2.1
  · rw [frame.2.2.2]
    exact fun _ _ => id
  · exact fun id row kept => ((shares id row).mp kept).1

namespace Revoked

variable {userId shareId : Nat} {share : Share} (sound : Sound pair catalog) (revoked : Revoked catalog userId shareId share next)

include sound revoked

theorem sharesVia_iff (other : Nat) : SharesVia pair next other ↔
    SharesVia pair catalog other ∧ share ≠ ⟨.transcript, other, pair.ownerId, pair.recipientId⟩ := by
  unfold SharesVia
  rw [OfAudio, OfAudio, revoked.transcripts]
  constructor
  · rintro ⟨of_audio, id, kept⟩
    obtain ⟨stored, different, _⟩ := (revoked.shares _ _).mp kept
    refine ⟨⟨of_audio, id, stored⟩, ?_⟩
    intro alike
    subst alike
    exact different (sound.unique _ _ _ _ stored revoked.found rfl rfl rfl)
  · rintro ⟨⟨of_audio, id, stored⟩, other_share⟩
    refine ⟨of_audio, id, (revoked.shares _ _).mpr ⟨stored, ?_, nofun⟩⟩
    intro same_id
    rw [same_id, revoked.found] at stored
    exact other_share (Option.some.inj stored)

theorem no_audio {transcriptId : Nat} (itself : share = ⟨.transcript, transcriptId, pair.ownerId, pair.recipientId⟩)
    (of_audio : OfAudio pair catalog transcriptId) : ¬HasAudio pair next := by
  rintro ⟨id, row, kept, is_audio, same, recipient⟩
  obtain ⟨stored, _, stays⟩ := (revoked.shares _ _).mp kept
  subst itself
  refine stays ⟨is_audio, ?_, sound.audioMade id row stored is_audio same, recipient⟩
  rw [sourceOf, if_pos rfl, same]
  exact of_audio

theorem hasAudio_iff (other : ∀ transcriptId, OfAudio pair catalog transcriptId →
      share ≠ ⟨.transcript, transcriptId, pair.ownerId, pair.recipientId⟩)
    (indirect : Indirect pair catalog (.revoke userId shareId)) : HasAudio pair next ↔ HasAudio pair catalog := by
  constructor
  · rintro ⟨id, row, kept, of_audio⟩
    exact ⟨id, row, ((revoked.shares _ _).mp kept).1, of_audio⟩
  · rintro ⟨id, row, stored, is_audio, same, recipient⟩
    refine ⟨id, row, (revoked.shares _ _).mpr ⟨stored, ?_, ?_⟩, is_audio, same, recipient⟩
    · intro same_id
      exact indirect row (same_id ▸ stored) ⟨is_audio, same, recipient⟩
    · -- a share that takes this audio along is one of its transcripts
      rintro ⟨_, source, sender, receiver⟩
      unfold sourceOf at source
      split at source
      · rename_i is_transcript
        refine other share.objectId (source.trans (congrArg some same)) ?_
        rw [← is_transcript, ← recipient, receiver, ← sound.audioMade id row stored is_audio same, sender]
      · contradiction

theorem paired_transcript_iff {transcriptId : Nat} (itself : share = ⟨.transcript, transcriptId, pair.ownerId, pair.recipientId⟩)
    (of_audio : OfAudio pair catalog transcriptId) : Paired pair next ↔ Keeps pair catalog (.revoke userId shareId) := by
  have no_audio := revoked.no_audio sound itself of_audio
  have found := revoked.found
  have others : (∃ other, SharesVia pair next other) ↔ SharesOther pair catalog transcriptId := by
    refine exists_congr fun other => ?_
    rw [revoked.sharesVia_iff sound, and_comm, itself]
    simp [eq_comm]
  rw [Paired, others]
  subst itself
  constructor
  · intro same _ other found' _ still
    rw [found] at found'
    obtain rfl : transcriptId = other := congrArg Share.objectId (Option.some.inj found')
    exact no_audio (same.mpr still)
  · intro last
    exact iff_of_false no_audio (last (revoked.party.imp Eq.symm Eq.symm) transcriptId found of_audio)

theorem paired_other_iff (paired : Paired pair catalog) (other : ∀ transcriptId, OfAudio pair catalog transcriptId →
      share ≠ ⟨.transcript, transcriptId, pair.ownerId, pair.recipientId⟩)
    (indirect : Indirect pair catalog (.revoke userId shareId)) :
    Paired pair next ↔ Keeps pair catalog (.revoke userId shareId) := by
  have kept : Keeps pair catalog (.revoke userId shareId) := by
    intro _ transcriptId found of_audio
    rw [revoked.found] at found
    exact absurd (Option.some.inj found) (other transcriptId of_audio)
  have before : HasAudio pair catalog ↔ ∃ transcriptId, SharesVia pair catalog transcriptId := paired
  refine iff_of_true ?_ kept
  rw [Paired, revoked.hasAudio_iff sound other indirect, before]
  refine exists_congr fun transcriptId => ?_
  rw [revoked.sharesVia_iff sound]
  exact ⟨fun shared => ⟨shared, other transcriptId shared.1⟩, And.left⟩

end Revoked

theorem revoke_paired_iff (sound : Sound pair catalog) (paired : Paired pair catalog) {userId shareId : Nat}
    (indirect : Indirect pair catalog (.revoke userId shareId)) :
    Paired pair (step catalog (.revoke userId shareId)) ↔ Keeps pair catalog (.revoke userId shareId) := by
  rw [step]
  cases deleted : deleteShare catalog userId shareId with
  | error refusal =>
    refine iff_of_true paired ?_
    intro party transcriptId found of_audio
    simp only [deleteShare, found] at deleted
    split at deleted
    · rename_i neither
      rcases party with same | same
      · exact absurd same.symm neither.1
      · exact absurd same.symm neither.2
    · contradiction
  | ok next =>
    obtain ⟨share, revoked, _⟩ := revoked_of_deleteShare sound deleted
    dsimp only
    by_cases via : ∃ transcriptId, OfAudio pair catalog transcriptId ∧
        share = ⟨.transcript, transcriptId, pair.ownerId, pair.recipientId⟩
    · obtain ⟨transcriptId, of_audio, itself⟩ := via
      exact revoked.paired_transcript_iff sound itself of_audio
    · exact revoked.paired_other_iff sound paired (fun transcriptId of_audio itself =>
        via ⟨transcriptId, of_audio, itself⟩) indirect

theorem find_hardDelete {transcriptId id : Nat} {row : Share} :
    (hardDeleteTranscript catalog transcriptId).shares.find id = some row ↔ catalog.shares.find id = some row ∧
      ¬(row.objectType = .transcript ∧ row.objectId = transcriptId) := by
  rw [hardDeleteTranscript, Table.find_keep, Option.filter_eq_some_iff]
  simp [imp_iff_not_or]

theorem hardDelete_paired_iff (paired : Paired pair catalog) {transcriptId : Nat} :
    Paired pair (step catalog (.hardDelete transcriptId)) ↔ Keeps pair catalog (.hardDelete transcriptId) := by
  rw [step]
  have audios : HasAudio pair (hardDeleteTranscript catalog transcriptId) ↔ HasAudio pair catalog := by
    refine exists_congr fun id => exists_congr fun row => ?_
    rw [find_hardDelete]
    constructor
    · rintro ⟨⟨stored, _⟩, of_audio⟩
      exact ⟨stored, of_audio⟩
    · rintro ⟨stored, is_audio, of_audio⟩
      refine ⟨⟨stored, ?_⟩, is_audio, of_audio⟩
      rintro ⟨is_transcript, _⟩
      rw [is_audio] at is_transcript
      contradiction
  have vias : (∃ other, SharesVia pair (hardDeleteTranscript catalog transcriptId) other) ↔
      SharesOther pair catalog transcriptId := by
    refine exists_congr fun other => ?_
    by_cases itself : other = transcriptId
    · simp [itself, SharesVia, OfAudio, hardDeleteTranscript, Table.find_delete]
    · simp only [SharesVia, find_hardDelete]
      simp [itself, OfAudio, hardDeleteTranscript, Table.find_delete]
  have before : HasAudio pair catalog ↔ ∃ transcriptId, SharesVia pair catalog transcriptId := paired
  rw [Paired, audios, vias, before, Keeps]
  constructor
  · intro same via
    exact same.mp ⟨transcriptId, via⟩
  · intro last
    constructor
    · rintro ⟨other, via⟩
      by_cases itself : other = transcriptId
      · exact last (itself ▸ via)
      · exact ⟨other, itself, via⟩
    · rintro ⟨other, _, via⟩
      exact ⟨other, via⟩

theorem sound_hardDelete (sound : Sound pair catalog) (transcriptId : Nat) :
    Sound pair (hardDeleteTranscript catalog transcriptId) := by
  refine sound_of_fewer sound rfl rfl rfl ?_ fun id row kept => (find_hardDelete.mp kept).1
  intro id row kept
  rw [hardDeleteTranscript, Table.find_delete] at kept
  split at kept
  · contradiction
  · exact kept

end Removing

section Runs

variable {pair : Pair} {catalog : Catalog}

theorem createShares_ok {userId objectId : Nat} {objectType : ObjectType} {toUserIds : List Nat} {made : Catalog × List Nat}
    (accepted : createShares catalog userId objectType objectId toUserIds = .ok made) :
    requireShareOwner catalog objectType objectId userId = .ok () ∧ ∃ orgId, orgOf catalog userId = some orgId ∧
      made = toUserIds.foldl (shareWith orgId userId objectType objectId) (catalog, []) := by
  unfold createShares at accepted
  split at accepted
  · contradiction
  · rename_i owner
    split at accepted
    · contradiction
    · rename_i orgId org
      exact ⟨owner, orgId, org, (Except.ok.inj accepted).symm⟩

theorem step_sound (catalog : Catalog) (event : Event) (sound : Sound pair catalog) : Sound pair (step catalog event) := by
  cases event with
  | create userId objectType objectId toUserIds =>
    rw [step]
    split
    · rename_i made accepted
      obtain ⟨owner, orgId, _, same⟩ := createShares_ok accepted
      subst same
      exact create_sound sound (rightful_of_owner sound owner)
    · exact sound
  | revoke userId shareId =>
    rw [step]
    split
    · rename_i next revoked
      obtain ⟨_, _, kept⟩ := revoked_of_deleteShare sound revoked
      exact kept
    · exact sound
  | hardDelete transcriptId => exact sound_hardDelete sound transcriptId

/-- A step that does not touch the share of the audio itself keeps the pair exactly when it is a keeping one. -/
theorem step_paired_iff (catalog : Catalog) (event : Event) (sound : Sound pair catalog) (indirect : Indirect pair catalog event)
    (paired : Paired pair catalog) : Paired pair (step catalog event) ↔ Keeps pair catalog event := by
  cases event with
  | create userId objectType objectId toUserIds =>
    refine iff_of_true ?_ trivial
    rw [step]
    split
    · rename_i made accepted
      obtain ⟨owner, orgId, org, same⟩ := createShares_ok accepted
      subst same
      exact create_paired sound (rightful_of_owner sound owner) org indirect paired
    · exact paired
  | revoke userId shareId => exact revoke_paired_iff sound paired indirect
  | hardDelete transcriptId => exact hardDelete_paired_iff paired

/-- In a run in which nobody touches the share of the audio itself, the recipient always has it exactly as long as
one of its transcripts is shared, if and only if every step is a keeping one. -/
theorem paired_always_iff (pair : Pair) (start : Catalog) (events : List Event) (sound : Sound pair start)
    (paired : Paired pair start) (indirect : Along step (Indirect pair) start events) :
    Always step (Paired pair) start events ↔ Along step (Keeps pair) start events :=
  always_iff_along_where step_sound step_paired_iff sound paired indirect

/-- Two members of an organization; the first owns an audio and two transcripts of it. -/
def desk : Catalog where
  nextId := 0
  memberships := (∅ : Table Nat Membership) |>.put 1 ⟨1, 1, .orgMember⟩ |>.put 2 ⟨2, 1, .orgMember⟩
  audios := (∅ : Table Nat Offboarding.Artifact) |>.put 1 ⟨1, 1⟩
  transcripts := (∅ : Table Nat Transcript) |>.put 1 ⟨⟨1, 1⟩, some 1⟩ |>.put 2 ⟨⟨1, 1⟩, some 1⟩
  summaries := ∅
  skills := ∅
  shares := ∅

theorem desk_sound : Sound ⟨1, 1, 2⟩ desk where
  fresh := nofun
  unique := nofun
  made := nofun
  audio := ⟨⟨1, 1⟩, rfl, rfl, by decide +kernel⟩
  audioMade := nofun

theorem desk_paired : Paired ⟨1, 1, 2⟩ desk := by
  refine iff_of_false ?_ ?_
  · rintro ⟨_, _, found, _⟩
    nomatch found
  · rintro ⟨_, _, _, found⟩
    nomatch found

theorem paired_always_of_desk : Always step (Paired ⟨1, 1, 2⟩) desk [.create 1 .transcript 1 [2], .create 1 .transcript 2 [2]] ↔
    Along step (Keeps ⟨1, 1, 2⟩) desk [.create 1 .transcript 1 [2], .create 1 .transcript 2 [2]] := by
  apply paired_always_iff ⟨1, 1, 2⟩ desk _ desk_sound desk_paired
  exact ⟨(nomatch ·.1), (nomatch ·.1), trivial⟩

/-- A transcript that is deleted leaves the share of its audio behind. -/
theorem audio_left_behind : Sound ⟨1, 1, 2⟩ desk ∧ Paired ⟨1, 1, 2⟩ desk ∧
    Along step (Indirect ⟨1, 1, 2⟩) desk [.create 1 .transcript 1 [2], .hardDelete 1] ∧
      ¬Always step (Paired ⟨1, 1, 2⟩) desk [.create 1 .transcript 1 [2], .hardDelete 1] := by
  refine ⟨desk_sound, desk_paired, ⟨(nomatch ·.1), trivial, trivial⟩, ?_⟩
  intro always
  have last := always [.create 1 .transcript 1 [2], .hardDelete 1] [] rfl
  have audio : HasAudio ⟨1, 1, 2⟩ (run step desk [.create 1 .transcript 1 [2], .hardDelete 1]) :=
    ⟨1, ⟨.audio, 1, 1, 2⟩, by decide +kernel, rfl, rfl, rfl⟩
  obtain ⟨transcriptId, of_audio, id, found⟩ := last.mp audio
  have shares : (run step desk [.create 1 .transcript 1 [2], .hardDelete 1]).shares.entries = [⟨1, ⟨.audio, 1, 1, 2⟩⟩] := by
    decide +kernel
  have member := (Table.mem_entries ..).mpr found
  rw [shares] at member
  simp at member

end Runs

end IdigestHub.Library
