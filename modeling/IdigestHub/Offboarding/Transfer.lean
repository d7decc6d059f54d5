import IdigestHub.Offboarding.Deletion

/-! What an offboarding by transfer leaves: who owns the library, and who can read it. -/

set_option autoImplicit false

namespace IdigestHub.Offboarding

open Foundation Foundation.Relational

section Reading

/-- The user of a request, with the organization and the role that the request acts in. -/
structure Reader where
  userId : Nat
  orgId : Option Nat
  isOrgAdmin : Bool

/-- `load_org_bundle`. -/
def readerOf (db : Db) (userId : Nat) : Reader :=
  let membership := (ownMembership db userId).map Prod.snd
  { userId, orgId := membership.map Membership.orgId, isOrgAdmin := membership.any fun row => row.role == .orgAdmin }

variable (db : Db) (reader : Reader)

def isSharedWith (objectType : ObjectType) (objectId userId : Nat) : Bool :=
  ((db .shares).select fun _ row =>
    row.objectType == objectType && row.objectId == objectId && row.toUserId == userId).isEmpty == false

def memberCanReadObject (objectType : ObjectType) (ownerUserId orgId objectId : Nat) : Bool :=
  if reader.orgId != some orgId then false
  else if reader.isOrgAdmin then true
  else if ownerUserId == reader.userId then true
  else isSharedWith db objectType objectId reader.userId

def canReadSkill (skillId : Nat) (skill : Skill) : Bool :=
  if skill.scope == .base then true
  else if reader.orgId.isNone then false
  else if skill.scope == .org && skill.orgId == reader.orgId then true
  else skill.scope == .self &&
    (skill.ownerUserId == some reader.userId || isSharedWith db .skill skillId reader.userId)

def artifact (objectType : ObjectType) (objectId : Nat) : Option Artifact :=
  match objectType with
  | .audio => (db .audios).find objectId
  | .transcript => (db .transcripts).find objectId
  | .summary => (db .summaries).find objectId
  | .skill | .org => none

def canRead (objectType : ObjectType) (objectId : Nat) : Bool :=
  match objectType with
  | .skill => ((db .skills).find objectId).any (canReadSkill db reader objectId)
  | _ => (artifact db objectType objectId).any fun row =>
    memberCanReadObject db reader objectType row.ownerUserId row.orgId objectId

def owner (objectType : ObjectType) (objectId : Nat) : Option Nat :=
  match objectType with
  | .skill => ((db .skills).find objectId).bind Skill.ownerUserId
  | _ => (artifact db objectType objectId).map Artifact.ownerUserId

def SharesUnique : Prop :=
  ∀ id id' share share', (db .shares).find id = some share → (db .shares).find id' = some share' →
    share.objectType = share'.objectType → share.objectId = share'.objectId → share.toUserId = share'.toUserId → id = id'

end Reading

theorem isSharedWith_iff {db : Db} {objectType : ObjectType} {objectId userId : Nat} :
    isSharedWith db objectType objectId userId = true ↔ ∃ id share, (db .shares).find id = some share ∧
      share.objectType = objectType ∧ share.objectId = objectId ∧ share.toUserId = userId := by
  rw [isSharedWith, beq_iff_eq, List.isEmpty_eq_false_iff_exists_mem]
  simp only [Table.mem_select, Bool.and_eq_true, beq_iff_eq, and_assoc]

/-- A personal skill moves with the user, any other stays. -/
def Skill.moved (userId targetId : Nat) (skill : Skill) : Skill :=
  if skill.ownerUserId = some userId ∧ skill.scope = .self then { skill with ownerUserId := some targetId } else skill

section Rows

variable {db db' : Db} {userId targetId membershipId : Nat}

theorem find_transferred (ran : Relational.Db.run db ((Plan.transfer userId targetId membershipId).statements db) = some db')
    {t : Tbl} (plain : ∀ key ∈ keys t, key.cascades = false) (id : Nat) : (db' t).find id =
      ((db t).find id).bind fun row =>
        (Op.fates (S := schema) ((Plan.transfer userId targetId membershipId).before db) t id row).filter fun row' =>
          !(Plan.transfer userId targetId membershipId).doomed db t id row' := by
  rw [Plan.statements] at ran
  rw [find_run (S := schema) plain ran]
  congr 1
  funext row
  rw [fates_append]
  cases Op.fates (S := schema) ((Plan.transfer userId targetId membershipId).before db) t id row with
  | none => rfl
  | some row' =>
    rw [Option.bind_some, fates_cons, Op.fate, Option.filter]
    cases (Plan.transfer userId targetId membershipId).doomed db t id row' <;> rfl

variable (ran : Relational.Db.run db ((Plan.transfer userId targetId membershipId).statements db) = some db')
include ran

theorem audio_transferred (id : Nat) :
    (db' .audios).find id = ((db .audios).find id).map (Artifact.moved userId targetId) := by
  rw [find_transferred ran (by decide)]
  cases (db .audios).find id with
  | none => rfl
  | some row => simp [before_transfer, Plan.doomed, flushUser]

theorem transcript_transferred (id : Nat) :
    (db' .transcripts).find id = ((db .transcripts).find id).map (Artifact.moved userId targetId) := by
  rw [find_transferred ran (by decide)]
  cases (db .transcripts).find id with
  | none => rfl
  | some row => simp [before_transfer, Plan.doomed, flushUser]

theorem summary_transferred (id : Nat) :
    (db' .summaries).find id = ((db .summaries).find id).map (Artifact.moved userId targetId) := by
  rw [find_transferred ran (by decide)]
  cases (db .summaries).find id with
  | none => rfl
  | some row => simp [before_transfer, Plan.doomed, flushUser]

theorem skill_transferred (id : Nat) :
    (db' .skills).find id = ((db .skills).find id).map (Skill.moved userId targetId) := by
  rw [find_transferred ran (by decide)]
  cases (db .skills).find id with
  | none => rfl
  | some row => simp [before_transfer, Plan.doomed, flushUser, Skill.moved]

theorem share_transferred (id : Nat) :
    (db' .shares).find id = ((db .shares).find id).bind (forwarded db userId targetId id) := by
  rw [find_transferred ran (by decide)]
  cases found : (db .shares).find id with
  | none => rfl
  | some share =>
    have dropped : (droppedShares db userId targetId).contains id = (forwarded db userId targetId id share).isNone := by
      rw [Bool.eq_iff_iff, List.contains_iff_mem, mem_droppedShares found, Option.isNone_iff_eq_none]
    simp only [before_transfer, ne_eq, reduceCtorEq, not_false_eq_true, fates_changeIn_ne, fates_deleteFrom_ne,
      fates_changeIn, fates_nil, Option.bind_some, Plan.doomed, flushUser, dropped]
    cases forwarded db userId targetId id share <;> rfl

end Rows

section Shares

variable {db db' : Db} {userId targetId membershipId : Nat} {objectType : ObjectType} {objectId : Nat}

/-- Without duplicates among the stored shares the second loop drops none. -/
theorem forwardOutgoing_stays (unique : SharesUnique db) {id : Nat} {stored share : Share}
    (found : (db .shares).find id = some stored) (same_type : share.objectType = stored.objectType)
    (same_object : share.objectId = stored.objectId)
    (recipient : share.toUserId = stored.toUserId ∨ sharedWith db share share.toUserId none = false) :
    ∃ after, forwardOutgoing db userId targetId id share = some after := by
  unfold forwardOutgoing
  split
  · have free : sharedWith db share share.toUserId (some id) = false := by
      rw [← Bool.not_eq_true]
      intro duplicate
      obtain ⟨other, share', found', type', object', recipient', different⟩ := sharedWith_iff.mp duplicate
      rcases recipient with same | none_stored
      · exact different (congrArg some (unique id other stored share' found found' (same_type ▸ type'.symm)
          (same_object ▸ object'.symm) (same ▸ recipient'.symm)))
      · have itself : sharedWith db share share.toUserId none = true :=
          sharedWith_iff.mpr ⟨other, share', found', type', object', recipient', nofun⟩
        rw [none_stored] at itself
        contradiction
    rw [free]
    exact ⟨_, rfl⟩
  · exact ⟨share, rfl⟩

theorem forwarded_none_iff (unique : SharesUnique db) {id : Nat} {share : Share} (found : (db .shares).find id = some share) :
    forwarded db userId targetId id share = none ↔
      share.toUserId = userId ∧ isSharedWith db share.objectType share.objectId targetId = true := by
  have same : sharedWith db share targetId none = isSharedWith db share.objectType share.objectId targetId := by
    rw [Bool.eq_iff_iff, sharedWith_iff, isSharedWith_iff]
    simp
  unfold forwarded forwardIncoming
  by_cases own : share.toUserId = userId
  · rw [if_pos own, same]
    cases stored : isSharedWith db share.objectType share.objectId targetId with
    | true => simp [own]
    | false =>
      obtain ⟨after, stays⟩ : ∃ after, forwardOutgoing db userId targetId id { share with toUserId := targetId } = some after :=
        forwardOutgoing_stays unique found rfl rfl (Or.inr (same.trans stored))
      simp [stays]
  · obtain ⟨after, stays⟩ : ∃ after, forwardOutgoing db userId targetId id share = some after :=
      forwardOutgoing_stays unique found rfl rfl (Or.inl rfl)
    simp [own, stays]

variable (ran : Relational.Db.run db ((Plan.transfer userId targetId membershipId).statements db) = some db')
include ran

theorem share_from {id : Nat} {share' : Share} (found : (db' .shares).find id = some share') :
    ∃ share, (db .shares).find id = some share ∧
      share' = { share with
        fromUserId := if share.fromUserId = userId then targetId else share.fromUserId
        toUserId := if share.toUserId = userId then targetId else share.toUserId } ∧
      (share.toUserId = userId → isSharedWith db share.objectType share.objectId targetId = false) := by
  rw [share_transferred ran, Option.bind_eq_some_iff] at found
  obtain ⟨share, stored, became⟩ := found
  obtain ⟨same, free⟩ := forwarded_some became
  refine ⟨share, stored, same, ?_⟩
  intro own
  rw [← free own, Bool.eq_iff_iff, sharedWith_iff, isSharedWith_iff]
  simp

theorem share_kept (unique : SharesUnique db) {id : Nat} {share : Share} (found : (db .shares).find id = some share)
    (free : share.toUserId = userId → isSharedWith db share.objectType share.objectId targetId = false) :
    ∃ share', (db' .shares).find id = some share' ∧ share'.objectType = share.objectType ∧
      share'.objectId = share.objectId ∧
      share'.toUserId = if share.toUserId = userId then targetId else share.toUserId := by
  rw [share_transferred ran, found, Option.bind_some]
  cases became : forwarded db userId targetId id share with
  | none =>
    obtain ⟨own, stored⟩ := (forwarded_none_iff unique found).mp became
    rw [free own] at stored
    contradiction
  | some share' =>
    obtain ⟨same, _⟩ := forwarded_some became
    subst same
    exact ⟨_, rfl, rfl, rfl, rfl⟩

/-- Nobody else gains or loses a share. -/
theorem shared_others (unique : SharesUnique db) {other : Nat} (not_user : other ≠ userId) (not_target : other ≠ targetId) :
    isSharedWith db' objectType objectId other = isSharedWith db objectType objectId other := by
  rw [Bool.eq_iff_iff, isSharedWith_iff, isSharedWith_iff]
  constructor
  · rintro ⟨id, share', found', same_type, same_object, recipient⟩
    obtain ⟨share, found, same, _⟩ := share_from ran found'
    subst same
    dsimp only at recipient
    split at recipient
    · exact absurd recipient.symm not_target
    · exact ⟨id, share, found, same_type, same_object, recipient⟩
  · rintro ⟨id, share, found, same_type, same_object, recipient⟩
    have not_own : share.toUserId ≠ userId := recipient ▸ not_user
    obtain ⟨share', found', type', object', recipient'⟩ := share_kept ran unique found fun own => absurd own not_own
    rw [if_neg not_own] at recipient'
    exact ⟨id, share', found', type'.trans same_type, object'.trans same_object, recipient'.trans recipient⟩

theorem shared_target (unique : SharesUnique db) (different : targetId ≠ userId) :
    isSharedWith db' objectType objectId targetId =
      (isSharedWith db objectType objectId userId || isSharedWith db objectType objectId targetId) := by
  rw [Bool.eq_iff_iff, Bool.or_eq_true, isSharedWith_iff, isSharedWith_iff]
  constructor
  · rintro ⟨id, share', found', same_type, same_object, recipient⟩
    obtain ⟨share, found, same, _⟩ := share_from ran found'
    subst same
    dsimp only at recipient
    split at recipient
    · rename_i own
      exact Or.inl ⟨id, share, found, same_type, same_object, own⟩
    · exact Or.inr (isSharedWith_iff.mpr ⟨id, share, found, same_type, same_object, recipient⟩)
  · intro either
    by_cases stored : isSharedWith db objectType objectId targetId = true
    · -- the target's own share stays
      obtain ⟨id, share, found, same_type, same_object, recipient⟩ := isSharedWith_iff.mp stored
      have not_own : share.toUserId ≠ userId := recipient ▸ different
      obtain ⟨share', found', type', object', recipient'⟩ := share_kept ran unique found fun own => absurd own not_own
      rw [if_neg not_own] at recipient'
      exact ⟨id, share', found', type'.trans same_type, object'.trans same_object, recipient'.trans recipient⟩
    · obtain ⟨id, share, found, same_type, same_object, recipient⟩ := either.resolve_right stored
      rw [Bool.not_eq_true] at stored
      obtain ⟨share', found', type', object', recipient'⟩ := share_kept ran unique found fun _ => by
        rw [same_type, same_object, stored]
      rw [if_pos recipient] at recipient'
      exact ⟨id, share', found', type'.trans same_type, object'.trans same_object, recipient'⟩

theorem sharesUnique_transferred (unique : SharesUnique db) : SharesUnique db' := by
  intro id id' first second found found' same_type same_object same_recipient
  obtain ⟨share, stored, same, free⟩ := share_from ran found
  obtain ⟨share', stored', same', free'⟩ := share_from ran found'
  subst same same'
  dsimp only at same_type same_object same_recipient
  have alike : share.toUserId = share'.toUserId := by
    by_cases own : share.toUserId = userId <;> by_cases own' : share'.toUserId = userId
    · rw [own, own']
    · -- a share for the user stays only if the target has none
      rw [if_pos own, if_neg own'] at same_recipient
      have itself : isSharedWith db share.objectType share.objectId targetId = true :=
        isSharedWith_iff.mpr ⟨id', share', stored', same_type.symm, same_object.symm, same_recipient.symm⟩
      rw [free own] at itself
      contradiction
    · rw [if_neg own, if_pos own'] at same_recipient
      have itself : isSharedWith db share'.objectType share'.objectId targetId = true :=
        isSharedWith_iff.mpr ⟨id, share, stored, same_type, same_object, same_recipient⟩
      rw [free' own'] at itself
      contradiction
    · rwa [if_neg own, if_neg own'] at same_recipient
  exact unique id id' share share' stored stored' same_type same_object alike

end Shares

section Access

variable {db db' : Db} {userId targetId membershipId : Nat} {objectType : ObjectType} {objectId : Nat}

/-- The rights of the user in the role of a member of the reader's organization. -/
def Reader.asMember (reader : Reader) (userId : Nat) : Reader := { reader with userId, isOrgAdmin := false }

theorem ownerUserId_moved (row : Artifact) :
    (row.moved userId targetId).ownerUserId = if row.ownerUserId = userId then targetId else row.ownerUserId := by
  unfold Artifact.moved
  split <;> rfl

theorem orgId_moved (row : Artifact) : (row.moved userId targetId).orgId = row.orgId := by
  unfold Artifact.moved
  split <;> rfl

theorem scope_moved (skill : Skill) : (skill.moved userId targetId).scope = skill.scope := by
  unfold Skill.moved
  split <;> rfl

theorem skill_orgId_moved (skill : Skill) : (skill.moved userId targetId).orgId = skill.orgId := by
  unfold Skill.moved
  split <;> rfl

theorem skill_owner_moved (skill : Skill) (personal : skill.scope = .self) : (skill.moved userId targetId).ownerUserId =
    if skill.ownerUserId = some userId then some targetId else skill.ownerUserId := by
  unfold Skill.moved
  simp only [personal, and_true]
  split <;> rfl

variable (ran : Relational.Db.run db ((Plan.transfer userId targetId membershipId).statements db) = some db')
include ran

theorem artifact_transferred :
    artifact db' objectType objectId = (artifact db objectType objectId).map (Artifact.moved userId targetId) := by
  cases objectType with
  | audio => exact audio_transferred ran objectId
  | transcript => exact transcript_transferred ran objectId
  | summary => exact summary_transferred ran objectId
  | skill => rfl
  | org => rfl

theorem canRead_others (unique : SharesUnique db) {reader : Reader} (not_user : reader.userId ≠ userId)
    (not_target : reader.userId ≠ targetId) : canRead db' reader objectType objectId = canRead db reader objectType objectId := by
  have shared : ∀ type id, isSharedWith db' type id reader.userId = isSharedWith db type id reader.userId :=
    fun type id => shared_others ran unique not_user not_target
  have of_artifact : (artifact db' objectType objectId).any (fun row =>
      memberCanReadObject db' reader objectType row.ownerUserId row.orgId objectId) =
        (artifact db objectType objectId).any fun row =>
          memberCanReadObject db reader objectType row.ownerUserId row.orgId objectId := by
    rw [artifact_transferred ran, Option.any_map]
    congr 1
    funext row
    have same_owner : ((row.moved userId targetId).ownerUserId == reader.userId) = (row.ownerUserId == reader.userId) := by
      rw [ownerUserId_moved]
      split
      · rename_i own
        rw [own, beq_eq_false_iff_ne.mpr not_user.symm, beq_eq_false_iff_ne.mpr not_target.symm]
      · rfl
    simp only [memberCanReadObject, orgId_moved, same_owner, shared]
  cases objectType with
  | skill =>
    rw [canRead, canRead, skill_transferred ran, Option.any_map]
    congr 1
    funext skill
    simp only [canReadSkill, scope_moved, skill_orgId_moved, shared]
    by_cases personal : skill.scope = .self
    · rw [skill_owner_moved skill personal]
      have same_owner : ((if skill.ownerUserId = some userId then some targetId else skill.ownerUserId) ==
          some reader.userId) = (skill.ownerUserId == some reader.userId) := by
        split
        · rename_i own
          simp [own, not_user.symm, not_target.symm]
        · rfl
      rw [same_owner]
    · rw [beq_eq_false_iff_ne.mpr personal]
      rfl
  | audio => exact of_artifact
  | transcript => exact of_artifact
  | summary => exact of_artifact
  | org => rfl

theorem canRead_target (unique : SharesUnique db) (different : targetId ≠ userId) {reader : Reader}
    (itself : reader.userId = targetId) : canRead db' reader objectType objectId =
      (canRead db reader objectType objectId || canRead db (reader.asMember userId) objectType objectId) := by
  have shared : ∀ type id, isSharedWith db' type id targetId =
      (isSharedWith db type id userId || isSharedWith db type id targetId) :=
    fun type id => shared_target ran unique different
  have of_artifact : (artifact db' objectType objectId).any (fun row =>
      memberCanReadObject db' reader objectType row.ownerUserId row.orgId objectId) =
        ((artifact db objectType objectId).any (fun row =>
          memberCanReadObject db reader objectType row.ownerUserId row.orgId objectId) ||
        (artifact db objectType objectId).any fun row =>
          memberCanReadObject db (reader.asMember userId) objectType row.ownerUserId row.orgId objectId) := by
    rw [artifact_transferred ran, Option.any_map]
    cases artifact db objectType objectId with
    | none => rfl
    | some row =>
      simp only [Option.any_some, memberCanReadObject, orgId_moved, ownerUserId_moved, itself, shared,
        Reader.asMember]
      grind
  cases objectType with
  | skill =>
    rw [canRead, canRead, canRead, skill_transferred ran, Option.any_map]
    cases (db .skills).find objectId with
    | none => rfl
    | some skill =>
      simp only [Option.any_some, canReadSkill, scope_moved, skill_orgId_moved, itself, shared,
        Reader.asMember]
      by_cases personal : skill.scope = .self
      · rw [skill_owner_moved skill personal]
        grind
      · rw [beq_eq_false_iff_ne.mpr personal]
        simp
  | audio => exact of_artifact
  | transcript => exact of_artifact
  | summary => exact of_artifact
  | org => rfl

theorem owner_transferred {holder : Nat} (owns : owner db' objectType objectId = some holder) (not_target : holder ≠ targetId) :
    owner db objectType objectId = some holder := by
  have of_artifact : (artifact db' objectType objectId).map Artifact.ownerUserId = some holder →
      (artifact db objectType objectId).map Artifact.ownerUserId = some holder := by
    rw [artifact_transferred ran, Option.map_map, Option.map_eq_some_iff, Option.map_eq_some_iff]
    rintro ⟨row, found, held⟩
    refine ⟨row, found, ?_⟩
    rw [Function.comp_apply, ownerUserId_moved] at held
    split at held
    · exact absurd held.symm not_target
    · exact held
  cases objectType with
  | skill =>
    rw [owner, skill_transferred ran] at owns
    rw [owner]
    cases found : (db .skills).find objectId with
    | none => simp [found] at owns
    | some skill =>
      simp only [found, Option.map_some, Option.bind_some, Skill.moved] at owns ⊢
      split at owns
      · exact absurd (Option.some.inj owns).symm not_target
      · exact owns
  | audio => exact of_artifact owns
  | transcript => exact of_artifact owns
  | summary => exact of_artifact owns
  | org => nomatch owns

theorem selfShare_before {id : Nat} {share' : Share} (found' : (db' .shares).find id = some share')
    (owns : owner db' share'.objectType share'.objectId = some share'.toUserId) (not_target : share'.toUserId ≠ targetId) :
    ∃ share, (db .shares).find id = some share ∧ owner db share.objectType share.objectId = some share.toUserId ∧
      share.toUserId = share'.toUserId := by
  obtain ⟨share, found, same, _⟩ := share_from ran found'
  have before := owner_transferred ran owns not_target
  subst same
  dsimp only at before not_target ⊢
  split at not_target
  · contradiction
  · rename_i not_own
    rw [if_neg not_own] at before ⊢
    exact ⟨share, found, before, rfl⟩

end Access

theorem offboardUser_plan {db : Db} {orgId userId targetId : Nat} {plan : Plan}
    (passes : offboardUser db userId orgId (.transfer (some targetId)) = .ok plan) :
    ∃ membershipId, plan = .transfer userId targetId membershipId := by
  unfold offboardUser at passes
  split at passes
  · dsimp only at passes
    split at passes
    · contradiction
    · split at passes
      · contradiction
      · exact ⟨_, (Except.ok.inj passes).symm⟩
  · contradiction

structure Transferred (db db' : Db) (userId targetId : Nat) : Prop where
  audios : ∀ id, (db' .audios).find id = ((db .audios).find id).map (Artifact.moved userId targetId)
  transcripts : ∀ id, (db' .transcripts).find id = ((db .transcripts).find id).map (Artifact.moved userId targetId)
  summaries : ∀ id, (db' .summaries).find id = ((db .summaries).find id).map (Artifact.moved userId targetId)
  skills : ∀ id, (db' .skills).find id = ((db .skills).find id).map (Skill.moved userId targetId)
  others : ∀ reader : Reader, reader.userId ≠ userId → reader.userId ≠ targetId → ∀ objectType objectId,
    canRead db' reader objectType objectId = canRead db reader objectType objectId
  target : ∀ reader : Reader, reader.userId = targetId → ∀ objectType objectId, canRead db' reader objectType objectId =
    (canRead db reader objectType objectId || canRead db (reader.asMember userId) objectType objectId)
  unique : SharesUnique db'
  selfShares : ∀ id share', (db' .shares).find id = some share' →
    owner db' share'.objectType share'.objectId = some share'.toUserId → share'.toUserId ≠ targetId →
      ∃ share, (db .shares).find id = some share ∧ owner db share.objectType share.objectId = some share.toUserId ∧
        share.toUserId = share'.toUserId

theorem transfer_preserves_sharing {db db' : Db} {orgId userId targetId : Nat} {plan : Plan} (unique : SharesUnique db)
    (different : targetId ≠ userId) (passes : offboardUser db userId orgId (.transfer (some targetId)) = .ok plan)
    (ran : Relational.Db.run db (plan.statements db) = some db') : Transferred db db' userId targetId := by
  obtain ⟨membershipId, same⟩ := offboardUser_plan passes
  subst same
  exact {
    audios := audio_transferred ran
    transcripts := transcript_transferred ran
    summaries := summary_transferred ran
    skills := skill_transferred ran
    others := fun _ not_user not_target _ _ => canRead_others ran unique not_user not_target
    target := fun _ itself _ _ => canRead_target ran unique different itself
    unique := sharesUnique_transferred ran unique
    selfShares := fun _ _ found' owns not_target => selfShare_before ran found' owns not_target }

instance (db : Db) : Decidable (SharesUnique db) :=
  decidable_of_iff (∀ a ∈ (db .shares).entries, ∀ b ∈ (db .shares).entries, a.2.objectType = b.2.objectType →
      a.2.objectId = b.2.objectId → a.2.toUserId = b.2.toUserId → a.1 = b.1) <| by
    constructor
    · intro all id id' share share' found found'
      exact all ⟨id, share⟩ ((Table.mem_entries ..).mpr found) ⟨id', share'⟩ ((Table.mem_entries ..).mpr found')
    · intro unique a member b member'
      exact unique a.1 b.1 a.2 b.2 ((Table.mem_entries ..).mp member) ((Table.mem_entries ..).mp member')

/-- An organization with two admins and two members; the second admin owns an audio, shared with a member
who has shared a transcript with that admin and with the other member. -/
def board : Db
  | .users => (∅ : Table Nat User) |>.put 1 ⟨"first@idigest", false, none⟩ |>.put 2 ⟨"second@idigest", false, none⟩
    |>.put 3 ⟨"third@idigest", false, none⟩ |>.put 4 ⟨"fourth@idigest", false, none⟩
  | .organizations => (∅ : Table Nat Organization) |>.put 1 ⟨"board"⟩
  | .memberships => (∅ : Table Nat Membership) |>.put 1 ⟨1, 1, .orgAdmin⟩ |>.put 2 ⟨2, 1, .orgAdmin⟩
    |>.put 3 ⟨3, 1, .orgMember⟩ |>.put 4 ⟨4, 1, .orgMember⟩
  | .audios => (∅ : Table Nat Artifact) |>.put 1 ⟨1, 1⟩ |>.put 2 ⟨1, 2⟩
  | .transcripts => (∅ : Table Nat Artifact) |>.put 1 ⟨1, 4⟩
  | .shares => (∅ : Table Nat Share) |>.put 1 ⟨.audio, 2, 2, 4⟩ |>.put 2 ⟨.transcript, 1, 4, 2⟩
    |>.put 3 ⟨.transcript, 1, 4, 3⟩
  | _ => ∅

theorem board_transfers : (Relational.Db.run board ((Plan.transfer 2 3 2).statements board)).isSome = true := by
  decide +kernel

theorem transfer_preserves_sharing_of_board :
    Transferred board ((Relational.Db.run board ((Plan.transfer 2 3 2).statements board)).get board_transfers) 2 3 := by
  have passes : offboardUser board 2 1 (.transfer (some 3)) = .ok (.transfer 2 3 2) := rfl
  exact transfer_preserves_sharing (by decide +kernel) (by decide) passes (Option.some_get board_transfers).symm

/-- The target does not read with the user's role: the audio of the first admin stays closed. -/
theorem transfer_drops_admin_reads : offboardUser board 2 1 (.transfer (some 3)) = .ok (.transfer 2 3 2) ∧
    canRead board (readerOf board 2) .audio 1 = true ∧
      (Relational.Db.run board ((Plan.transfer 2 3 2).statements board)).any (fun db' =>
        !canRead db' (readerOf db' 3) .audio 1) = true := by
  refine ⟨rfl, ?_, ?_⟩
  · decide +kernel
  · decide +kernel

end IdigestHub.Offboarding
