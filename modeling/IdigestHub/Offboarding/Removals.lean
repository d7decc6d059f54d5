import IdigestHub.Offboarding.Schema

/-! The removals of users and organizations: the offboarding of a user, by transfer or by wiping, the deletion
of an account, and the deletion of an organization. Each sends its bulk statements as it goes, and
its last flush deletes the objects that are still pending. -/

set_option autoImplicit false

namespace IdigestHub.Offboarding

open Foundation Foundation.Relational

inductive Refusal where
  | notFound | forbidden | validationError | lastOrgAdmin | orgAdminSuccessorRequired
  deriving DecidableEq

section Statements

variable (userId : Nat)

abbrev deleteHiddenItems : Stmt :=
  .deleteFrom .hiddenItems fun _ row => row.userId == userId

abbrev deleteUserTagLinks : Stmt :=
  .deleteFrom .userTagLinks fun _ row => row.userId == userId

abbrev deleteUserTags : Stmt :=
  .deleteFrom .userTags fun _ row => row.userId == userId

def deleteAllUserTags : List Stmt := [deleteUserTagLinks userId, deleteUserTags userId]

abbrev deleteApiTokens : Stmt :=
  .deleteFrom .apiTokens fun _ row => row.userId == userId

abbrev deleteUserSessions : Stmt :=
  .deleteFrom .sessions fun _ row => row.userId == userId

abbrev clearImpersonationTarget : Stmt :=
  .changeIn .sessions fun _ row => if row.impersonateUserId = some userId then { row with impersonateUserId := none } else row

abbrev deletePasswordResetTokens : Stmt :=
  .deleteFrom .passwordResetTokens fun _ row => row.userId == userId

abbrev deleteMfaChallenges : Stmt :=
  .deleteFrom .mfaChallenges fun _ row => row.userId == userId

abbrev deleteRecoveryCodes : Stmt :=
  .deleteFrom .recoveryCodes fun _ row => row.userId == userId

abbrev deleteShares : Stmt :=
  .deleteFrom .shares fun _ row => row.fromUserId == userId || row.toUserId == userId

abbrev deleteSkills (scope : Option SkillScope) : Stmt :=
  .deleteFrom .skills fun _ row => row.ownerUserId == some userId && scope.all (· == row.scope)

/-- `_purge_user_auth`; a token that is revoked first is deleted next. -/
def purgeUserAuth : List Stmt :=
  [clearImpersonationTarget userId, deleteUserSessions userId, deleteApiTokens userId, deletePasswordResetTokens userId,
    deleteMfaChallenges userId, deleteRecoveryCodes userId]

end Statements

section Library

/-- `wipe_object_shares`, but for the tags that lose their last link. -/
def wipeObjectShares (objectType : ObjectType) (objectId : Nat) : List Stmt :=
  [.deleteFrom .shares fun _ row => row.objectType == objectType && row.objectId == objectId,
    .deleteFrom .hiddenItems fun _ row => row.objectType == objectType && row.objectId == objectId,
    .deleteFrom .userTagLinks fun _ row => row.objectType == objectType && row.objectId == objectId]

def hardDeleteAudio (audioId : Nat) : List Stmt :=
  wipeObjectShares .audio audioId ++ [.deleteFrom .audios fun id _ => id == audioId]

/-- The loops over the audios, transcripts and summaries. The transcripts and summaries stay pending. -/
def hardDeleteLibrary (db : Db) (doomed : Artifact → Bool) : List Stmt :=
  ((db .audios).select fun _ row => doomed row).flatMap hardDeleteAudio ++
    ((db .transcripts).select fun _ row => doomed row).flatMap (wipeObjectShares .transcript) ++
    ((db .summaries).select fun _ row => doomed row).flatMap (wipeObjectShares .summary)

end Library

section Offboarding

variable (db : Db) (userId targetId : Nat)

def Artifact.moved (row : Artifact) : Artifact :=
  if row.ownerUserId = userId then { row with ownerUserId := targetId } else row

abbrev moveAudios : Stmt :=
  .changeIn .audios fun _ row => row.moved userId targetId

abbrev moveTranscripts : Stmt :=
  .changeIn .transcripts fun _ row => row.moved userId targetId

abbrev moveSummaries : Stmt :=
  .changeIn .summaries fun _ row => row.moved userId targetId

abbrev moveSkills : Stmt :=
  .changeIn .skills fun _ row =>
    if row.ownerUserId = some userId ∧ row.scope = .self then { row with ownerUserId := some targetId } else row

abbrev moveTasks : Stmt :=
  .changeIn .tasks fun _ row => if row.userId = userId then { row with userId := targetId } else row

def sharedWith (share : Share) (recipient : Nat) (except : Option Nat) : Bool :=
  ((db .shares).select fun id stored => stored.objectType == share.objectType && stored.objectId == share.objectId &&
    stored.toUserId == recipient && except != some id).isEmpty == false

/-- The turn of the first loop for a share, which reads stored rows and writes its own object. -/
def forwardIncoming (share : Share) : Option Share :=
  if share.toUserId = userId then
    if sharedWith db share targetId none then none else some { share with toUserId := targetId }
  else some share

/-- The turn of the second loop, for the object that the first one has left. -/
def forwardOutgoing (id : Nat) (share : Share) : Option Share :=
  if share.fromUserId = userId then
    if sharedWith db share share.toUserId (some id) then none else some { share with fromUserId := targetId }
  else some share

/-- Both loops of `transfer_user` over the shares: what becomes of a stored share. -/
def forwarded (id : Nat) (share : Share) : Option Share :=
  (forwardIncoming db userId targetId share).bind (forwardOutgoing db userId targetId id)

def transferUser : List Stmt :=
  [moveAudios userId targetId, moveTranscripts userId targetId, moveSummaries userId targetId, moveSkills userId targetId,
    moveTasks userId targetId, deleteHiddenItems userId] ++ deleteAllUserTags userId ++
    [deleteApiTokens userId, deleteUserSessions userId]

abbrev updateShares : Stmt :=
  .changeIn .shares fun id row => (forwarded db userId targetId id row).getD row

/-- The duplicates among the shares that the loops have found. -/
def droppedShares : List Nat :=
  (db .shares).select fun id share => (forwarded db userId targetId id share).isNone

/-- What the last flush of a removal of one user deletes; the membership goes with the user. -/
def flushUser (membershipId : Option Nat) (shares : List Nat) (library : Bool) : (t : Tbl) → Nat → Row t → Bool
  | .users, id, _ => id == userId
  | .memberships, id, _ => membershipId == some id
  | .shares, id, _ => shares.contains id
  | .transcripts, _, row => library && row.ownerUserId == userId
  | .summaries, _, row => library && row.ownerUserId == userId
  | _, _, _ => false

def wipeUserContent : List Stmt :=
  hardDeleteLibrary db (fun row => row.ownerUserId == userId) ++
    [deleteSkills userId (some .self), deleteShares userId, deleteHiddenItems userId] ++ deleteAllUserTags userId ++
    [deleteApiTokens userId, deleteUserSessions userId]

def enabled : Bool := ((db .users).find userId).any fun user => user.disabledAt.isNone

def membershipIn (orgId : Nat) : Option Nat :=
  ((db .memberships).select fun _ row => row.orgId == orgId && row.userId == userId).head?

/-- `count_active_org_admins`. -/
def activeOrgAdmins (orgId : Nat) : Nat :=
  (db .memberships).count fun _ row => row.orgId == orgId && row.role == .orgAdmin && enabled db row.userId &&
    row.userId != userId

end Offboarding

section Organizations

variable (db : Db) (orgId : Nat)

abbrev deleteOrgSkills : Stmt :=
  .deleteFrom .skills fun _ row => row.orgId == some orgId

abbrev deleteOrgPublicLinks : Stmt :=
  .deleteFrom .summaryPublicLinks fun _ row => row.orgId == orgId

abbrev deleteOrgUsageEvents : Stmt :=
  .deleteFrom .usageEvents fun _ row => row.orgId == orgId

abbrev deleteOrgTasks : Stmt :=
  .deleteFrom .tasks fun _ row => row.orgId == orgId

def orgMemberships : List Nat := (db .memberships).select fun _ row => row.orgId == orgId

/-- A membership whose user `_delete_org_member` passes over. -/
def passedOver (membership : Membership) : Bool :=
  ((db .users).find membership.userId).any User.isInstanceAdmin

def orgMembers : List Nat :=
  (orgMemberships db orgId).filterMap fun id =>
    ((db .memberships).find id).bind fun membership =>
      if passedOver db membership then none else some membership.userId

/-- `_delete_org_member`, but for the pending user and membership. -/
def deleteOrgMember (userId : Nat) : List Stmt :=
  purgeUserAuth userId ++ [deleteSkills userId (some .self), deleteShares userId, deleteHiddenItems userId] ++
    deleteAllUserTags userId

abbrev deleteHiddenOrg : Stmt :=
  .deleteFrom .hiddenItems fun _ row => row.objectType == .org && row.objectId == orgId

def flushOrganization : (t : Tbl) → Nat → Row t → Bool
  | .organizations, id, _ => id == orgId
  | .users, id, _ => (orgMembers db orgId).contains id
  | .memberships, _, row => row.orgId == orgId && !passedOver db row
  | .transcripts, _, row => row.orgId == orgId
  | .summaries, _, row => row.orgId == orgId
  | _, _, _ => false

/-- The statements of `delete_organization` before it deletes the tasks, and those after. -/
def deleteOrganizationLibrary : List Stmt :=
  hardDeleteLibrary db (fun row => row.orgId == orgId) ++
    [deleteOrgSkills orgId, deleteOrgPublicLinks orgId, deleteOrgUsageEvents orgId]

def deleteOrganizationMembers : List Stmt :=
  (orgMembers db orgId).flatMap deleteOrgMember ++ [deleteHiddenOrg orgId]

end Organizations

section Accounts

variable (db : Db) (userId : Nat)

/-- Usage stays, without its links to the user and the user's tasks. -/
abbrev clearUsage : Stmt :=
  .changeIn .usageEvents fun _ row => if row.userId = some userId then { row with userId := none, taskId := none } else row

abbrev deleteTasks : Stmt :=
  .deleteFrom .tasks fun _ row => row.userId == userId

def purgeUserOwnedData : List Stmt :=
  hardDeleteLibrary db (fun row => row.ownerUserId == userId) ++
    [deleteSkills userId none, deleteShares userId, deleteHiddenItems userId] ++ deleteAllUserTags userId

/-- The first active member who could take over, if there is one. -/
def candidates (orgId : Nat) : List Nat :=
  ((orgMemberships db orgId).filterMap fun id => ((db .memberships).find id).map Membership.userId).filter fun other =>
    other != userId && enabled db other

/-- `_promote_org_admin`. -/
abbrev promote (orgId successor : Nat) : Stmt :=
  .changeIn .memberships fun _ row =>
    if row.orgId = orgId ∧ row.userId = successor then { row with role := .orgAdmin } else row

def ownMembership : Option (Nat × Membership) :=
  ((db .memberships).select fun _ row => row.userId == userId).head?.bind fun id =>
    ((db .memberships).find id).map fun row => (id, row)

end Accounts

/-- A removal that has passed its guards, with the membership that goes with the user. -/
inductive Plan where
  | transfer (userId targetId membershipId : Nat)
  | wipe (userId membershipId : Nat)
  | account (userId : Nat) (membershipId : Option Nat) (promoted : Option (Nat × Nat))
  | organization (orgId : Nat)

namespace Plan

variable (db : Db)

/-- The statements before the last flush. -/
def before : Plan → List Stmt
  | transfer userId targetId _ => transferUser userId targetId ++ [updateShares db userId targetId]
  | wipe userId _ => wipeUserContent db userId
  | account userId _ promoted =>
    promoted.toList.map (fun (orgId, successor) => promote orgId successor) ++ [clearUsage userId] ++ [deleteTasks userId] ++
      (purgeUserOwnedData db userId ++ purgeUserAuth userId)
  | organization orgId =>
    deleteOrganizationLibrary db orgId ++ [deleteOrgTasks orgId] ++ deleteOrganizationMembers db orgId

def doomed : Plan → (t : Tbl) → Nat → Row t → Bool
  | transfer userId targetId membershipId =>
    flushUser userId (some membershipId) (droppedShares db userId targetId) false
  | wipe userId membershipId => flushUser userId (some membershipId) [] true
  | account userId membershipId _ => flushUser userId membershipId [] true
  | organization orgId => flushOrganization db orgId

def statements (plan : Plan) : List Stmt := plan.before db ++ [.delete (plan.doomed db)]

end Plan

section Guards

variable (db : Db) (userId orgId : Nat)

/-- The body of the request: `action` and `target_user_id`. -/
inductive Action where
  | transfer (targetId : Option Nat)
  | wipe
  | other

def offboardUser (action : Action) : Except Refusal Plan :=
  match membershipIn db userId orgId, (db .users).find userId with
  | some membershipId, some _ =>
    let role := ((db .memberships).find membershipId).map Membership.role
    if role == some .orgAdmin && activeOrgAdmins db userId orgId < 1 then .error .lastOrgAdmin
    else
      match action with
      | .transfer none => .error .validationError
      | .transfer (some targetId) =>
        if (membershipIn db targetId orgId).isNone || !enabled db targetId then .error .notFound
        else .ok (.transfer userId targetId membershipId)
      | .wipe => .ok (.wipe userId membershipId)
      | .other => .error .validationError
  | _, _ => .error .notFound

def deleteUserAccount (successor : Option Nat) : Except Refusal Plan :=
  match (db .users).find userId with
  | none => .error .notFound
  | some user =>
    if user.isInstanceAdmin then .error .forbidden
    else
      match ownMembership db userId with
      | none => .ok (.account userId none none)
      | some (membershipId, membership) =>
        if membership.role != .orgAdmin || 1 ≤ activeOrgAdmins db userId membership.orgId then
          .ok (.account userId (some membershipId) none)
        else if (candidates db userId membership.orgId).isEmpty then .ok (.organization membership.orgId)
        else
          match successor with
          | none => .error .orgAdminSuccessorRequired
          | some successor =>
            if (candidates db userId membership.orgId).contains successor then
              .ok (.account userId (some membershipId) (some (membership.orgId, successor)))
            else .error .validationError

def deleteOrg (confirmName : String) : Except Refusal Plan :=
  match (db .organizations).find orgId with
  | none => .error .notFound
  | some org => if Text.strip confirmName != org.name then .error .validationError else .ok (.organization orgId)

end Guards

inductive Request where
  | offboard (userId orgId : Nat) (action : Action)
  | deleteAccount (userId : Nat) (successor : Option Nat)
  | deleteOrg (orgId : Nat) (confirmName : String)

def Request.plan (db : Db) : Request → Except Refusal Plan
  | offboard userId orgId action => offboardUser db userId orgId action
  | deleteAccount userId successor => deleteUserAccount db userId successor
  | deleteOrg orgId confirmName => Offboarding.deleteOrg db orgId confirmName

namespace Plan

variable (db : Db)

def removes : Plan → Nat → Bool
  | transfer userId .., other | wipe userId _, other | account userId .., other => other == userId
  | organization orgId, other => (orgMembers db orgId).contains other

def removesOrg : Plan → Nat → Bool
  | organization orgId, other => other == orgId
  | _, _ => false

@[simp] theorem removes_transfer (userId targetId membershipId : Nat) :
    removes db (transfer userId targetId membershipId) = (· == userId) := rfl

@[simp] theorem removes_wipe (userId membershipId : Nat) : removes db (wipe userId membershipId) = (· == userId) := rfl

@[simp] theorem removes_account (userId : Nat) (membershipId : Option Nat) (promoted : Option (Nat × Nat)) :
    removes db (account userId membershipId promoted) = (· == userId) := rfl

@[simp] theorem removes_organization (orgId : Nat) : removes db (organization orgId) = (orgMembers db orgId).contains := rfl

@[simp] theorem removesOrg_transfer (userId targetId membershipId : Nat) :
    removesOrg (transfer userId targetId membershipId) = fun _ => false := rfl

@[simp] theorem removesOrg_wipe (userId membershipId : Nat) : removesOrg (wipe userId membershipId) = fun _ => false := rfl

@[simp] theorem removesOrg_account (userId : Nat) (membershipId : Option Nat) (promoted : Option (Nat × Nat)) :
    removesOrg (account userId membershipId promoted) = fun _ => false := rfl

@[simp] theorem removesOrg_organization (orgId : Nat) : removesOrg (organization orgId) = (· == orgId) := rfl

/-- The plan goes through, its users and its organization are gone, and no column without an action on
deletion refers to one of them. -/
def Completes (plan : Plan) : Prop :=
  ∃ db', Relational.Db.run db (plan.statements db) = some db' ∧
    (∀ id, plan.removes db id = true → (db' .users).find id = none) ∧
    (∀ id, plan.removesOrg id = true → (db' .organizations).find id = none) ∧
    ∀ t id row, (db' t).find id = some row → ∀ key ∈ keys t, key.cascades = false → ∀ v, key.get row = some v →
      (key.target = .users → plan.removes db v = false) ∧ (key.target = .organizations → plan.removesOrg v = false)

def takesSummary (plan : Plan) (id : Nat) : Bool :=
  ((db .summaries).find id).any fun summary =>
    match plan with
    | transfer .. => false
    | wipe userId _ | account userId .. => summary.ownerUserId == userId
    | organization orgId => summary.orgId == orgId

def takesTask (plan : Plan) (id : Nat) : Bool :=
  ((db .tasks).find id).any fun task =>
    match plan with
    | transfer .. | wipe .. => false
    | account userId .. => task.userId == userId
    | organization orgId => task.orgId == orgId

def isOffboarding : Plan → Bool
  | transfer .. | wipe .. => true
  | account .. | organization _ => false

def leavesArtifact (row : Artifact) : Plan → Bool
  | transfer userId targetId _ => targetId == userId && row.ownerUserId == userId
  | wipe .. | account .. => false
  | organization orgId => row.orgId != orgId && (orgMembers db orgId).contains row.ownerUserId

def holdsTask (row : UsageEvent) : Plan → Bool
  | transfer .. | wipe .. => false
  | account userId membershipId promoted =>
    row.userId != some userId && row.taskId.any (takesTask db (account userId membershipId promoted))
  | organization orgId => row.orgId != orgId && row.taskId.any (takesTask db (organization orgId))

/-- The rows that refer to what the plan removes, and that no statement of it deletes or changes. -/
def leaves (plan : Plan) : (t : Tbl) → Nat → Row t → Bool
  | .instanceSettings, _, row => row.instanceAdminUserId.any (plan.removes db)
  | .legalDocumentVersions, _, row => row.createdByUserId.any (plan.removes db)
  | .oauthAuthorizationCodes, _, row => plan.removes db row.userId
  | .oauthRefreshTokens, _, row => plan.removes db row.userId
  | .memberships, id, row =>
    match plan with
    | transfer userId _ membershipId | wipe userId membershipId => row.userId == userId && id != membershipId
    | account userId membershipId _ => row.userId == userId && membershipId != some id
    | organization orgId =>
      if row.orgId = orgId then passedOver db row else (orgMembers db orgId).contains row.userId
  | .sessions, _, row =>
    plan.isOffboarding && !plan.removes db row.userId && row.impersonateUserId.any (plan.removes db)
  | .passwordResetTokens, _, row => plan.isOffboarding && plan.removes db row.userId
  | .mfaChallenges, _, row => plan.isOffboarding && plan.removes db row.userId
  | .recoveryCodes, _, row => plan.isOffboarding && plan.removes db row.userId
  | .skills, _, row =>
    match plan with
    | transfer userId targetId _ => row.ownerUserId == some userId && (row.scope != .self || targetId == userId)
    | wipe userId _ => row.ownerUserId == some userId && row.scope != .self
    | account .. => false
    | organization orgId =>
      row.orgId != some orgId && row.scope != .self && row.ownerUserId.any (orgMembers db orgId).contains
  | .audios, _, row => leavesArtifact db row plan
  | .transcripts, _, row => leavesArtifact db row plan
  | .summaries, _, row => leavesArtifact db row plan
  | .summaryPublicLinks, _, row =>
    !plan.removesOrg row.orgId && !plan.takesSummary db row.summaryId && plan.removes db row.createdByUserId
  | .shares, id, row =>
    match plan with
    | transfer userId targetId _ =>
      targetId == userId && row.fromUserId == userId && (forwarded db userId targetId id row).isSome
    | _ => false
  | .tasks, _, row =>
    match plan with
    | transfer userId targetId _ => targetId == userId && row.userId == userId
    | wipe userId _ => row.userId == userId
    | account .. => false
    | organization orgId => row.orgId != orgId && (orgMembers db orgId).contains row.userId
  | .usageEvents, _, row =>
    holdsTask db row plan ||
      match plan with
      | transfer userId .. | wipe userId _ => row.userId == some userId
      | account .. => false
      | organization orgId => row.orgId != orgId && row.userId.any (orgMembers db orgId).contains
  | _, _, _ => false

def Clear (plan : Plan) : Prop := ∀ t id row, (db t).find id = some row → plan.leaves db t id row = false

end Plan

end IdigestHub.Offboarding
