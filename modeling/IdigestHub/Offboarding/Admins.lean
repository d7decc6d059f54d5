import IdigestHub.Foundation.ReadCommitted
import IdigestHub.Offboarding.Deletion

/-! The requests that can take an admin from an organization, each in its own transaction: changes of role,
disabling, offboarding and the deletion of an account. -/

set_option autoImplicit false

namespace IdigestHub.Offboarding

open Foundation Foundation.ReadCommitted
open Foundation.Relational (Op)

def tables : List Tbl :=
  [.users, .organizations, .instanceSettings, .legalDocumentVersions, .telegramLinks, .telegramLinkChallenges, .memberships,
    .sessions, .passwordResetTokens, .mfaChallenges, .recoveryCodes, .apiTokens, .orgCaptureJitsiHosts, .skills, .audios,
    .transcripts, .summaries, .hiddenItems, .userTags, .userTagLinks, .summaryPublicLinks, .shares, .tasks, .usageEvents,
    .oauthAuthorizationCodes, .oauthRefreshTokens]

instance Row.decidableEq : (t : Tbl) → DecidableEq (Row t)
  | .users => inferInstanceAs (DecidableEq User)
  | .organizations => inferInstanceAs (DecidableEq Organization)
  | .instanceSettings => inferInstanceAs (DecidableEq InstanceSettings)
  | .legalDocumentVersions => inferInstanceAs (DecidableEq LegalDocumentVersion)
  | .memberships => inferInstanceAs (DecidableEq Membership)
  | .sessions => inferInstanceAs (DecidableEq Session)
  | .telegramLinks | .telegramLinkChallenges | .passwordResetTokens | .mfaChallenges | .recoveryCodes | .apiTokens
  | .userTags | .oauthAuthorizationCodes | .oauthRefreshTokens => inferInstanceAs (DecidableEq UserRow)
  | .orgCaptureJitsiHosts => inferInstanceAs (DecidableEq OrgCaptureJitsiHost)
  | .skills => inferInstanceAs (DecidableEq Skill)
  | .audios | .transcripts | .summaries => inferInstanceAs (DecidableEq Artifact)
  | .hiddenItems => inferInstanceAs (DecidableEq HiddenItem)
  | .userTagLinks => inferInstanceAs (DecidableEq UserTagLink)
  | .summaryPublicLinks => inferInstanceAs (DecidableEq SummaryPublicLink)
  | .shares => inferInstanceAs (DecidableEq Share)
  | .tasks => inferInstanceAs (DecidableEq Task)
  | .usageEvents => inferInstanceAs (DecidableEq UsageEvent)

/-- The rows that a statement deletes or changes, which its transaction then holds. -/
def held (op : Stmt) (rows : Db) : List (Tbl × Nat) :=
  tables.flatMap fun t =>
    ((rows t).select fun id row => match op with
      | .delete doomed => doomed t id row
      | .change f => decide (f t id row ≠ row)).map fun id => (t, id)

abbrev Sent : Type := Statement Db (Tbl × Nat)

/-- A statement by a condition, which may find no row. Rows that refer to a deleted one make it fail, and the
transaction with it; that is an abort here. -/
def sent (op : Stmt) : Sent where
  keys := held op
  run rows := some (Op.apply (S := schema) op rows).settled

/-- The flush of a loaded object, which fails when the row is gone. -/
def flushUpdate (t : Tbl) (id : Nat) (op : Stmt) : Sent where
  keys _ := [(t, id)]
  run rows := if ((rows t).find id).isSome then some (Op.apply (S := schema) op rows).settled else none

abbrev setRole (membershipId : Nat) (role : Auth.Role) : Stmt :=
  .changeIn .memberships fun id row => if id = membershipId then { row with role } else row

abbrev setDisabled (userId : Nat) (now : Int) : Stmt :=
  .changeIn .users fun id row => if id = userId then { row with disabledAt := some now } else row

inductive AdminRequest where
  | patchUserRole (actorId userId : Nat) (role : Auth.Role)
  | disableUser (actorId userId : Nat) (now : Int)
  | offboardUser (actorId userId : Nat) (action : Action)
  | patchOrgUserRole (actorId orgId userId : Nat) (role : Auth.Role)
  | deleteUserAccount (userId : Nat) (successor : Option Nat)

/-- What a request does after its checks, with the rows that they have read. -/
inductive Deed where
  | nothing
  | assign (membershipId : Nat) (role : Auth.Role)
  | disable (userId : Nat) (now : Int)
  | remove (read : Db) (plan : Plan)

section Checks

variable (db : Db)

def requireOrgAdmin (actorId : Nat) : Option Nat :=
  (ownMembership db actorId).bind fun (_, membership) => if membership.role = .orgAdmin then some membership.orgId else none

/-- The condition on which `guard_last_org_admin` refuses. -/
def isLastOrgAdmin (orgId userId : Nat) : Bool := activeOrgAdmins db userId orgId < 1

/-- A role that is the stored one already is not written. -/
def assignRole (membershipId : Nat) (membership : Membership) (role : Auth.Role) : Deed :=
  if membership.role = role then .nothing else .assign membershipId role

def membershipRow (userId orgId : Nat) : Option (Nat × Membership) :=
  (membershipIn db userId orgId).bind fun id => ((db .memberships).find id).map fun row => (id, row)

def isKnownRole (role : Auth.Role) : Bool := role == .orgAdmin || role == .orgMember

def patchUserRole (actorId userId : Nat) (role : Auth.Role) : Except Refusal Deed :=
  match requireOrgAdmin db actorId with
  | none => .error .forbidden
  | some orgId =>
    if !isKnownRole role then .error .validationError
    else
      match membershipRow db userId orgId with
      | none => .error .notFound
      | some (membershipId, membership) =>
        if membership.role == .orgAdmin && role == .orgMember && isLastOrgAdmin db orgId userId then .error .lastOrgAdmin
        else if ((db .users).find userId).isNone then .error .notFound
        else .ok (assignRole membershipId membership role)

def disableUser (actorId userId : Nat) (now : Int) : Except Refusal Deed :=
  match requireOrgAdmin db actorId with
  | none => .error .forbidden
  | some orgId =>
    match membershipRow db userId orgId, (db .users).find userId with
    | some (_, membership), some _ =>
      if membership.role == .orgAdmin && isLastOrgAdmin db orgId userId then .error .lastOrgAdmin
      else .ok (.disable userId now)
    | _, _ => .error .notFound

def patchOrgUserRole (actorId orgId userId : Nat) (role : Auth.Role) : Except Refusal Deed :=
  if !((db .users).find actorId).any User.isInstanceAdmin then .error .forbidden
  else
    match (db .organizations).find orgId, membershipRow db userId orgId, (db .users).find userId with
    | some _, some (membershipId, membership), some user =>
      if user.isInstanceAdmin || user.disabledAt.isSome then .error .forbidden
      else if !isKnownRole role then .error .validationError
      else if membership.role == .orgAdmin && role == .orgMember && isLastOrgAdmin db orgId userId then .error .lastOrgAdmin
      else .ok (assignRole membershipId membership role)
    | _, _, _ => .error .notFound

def check : AdminRequest → Except Refusal Deed
  | .patchUserRole actorId userId role => patchUserRole db actorId userId role
  | .disableUser actorId userId now => disableUser db actorId userId now
  | .offboardUser actorId userId action =>
    match requireOrgAdmin db actorId with
    | none => .error .forbidden
    | some orgId => (offboardUser db userId orgId action).map (.remove db)
  | .patchOrgUserRole actorId orgId userId role => patchOrgUserRole db actorId orgId userId role
  | .deleteUserAccount userId successor => (deleteUserAccount db userId successor).map (.remove db)

end Checks

def Plan.promoted (read : Db) : Plan → Option Nat
  | account _ _ (some (orgId, successor)) => membershipIn read successor orgId
  | _ => none

def Plan.unpromoted : Plan → Plan
  | account userId membershipId _ => account userId membershipId none
  | plan => plan

namespace Deed

def ops : Deed → List Stmt
  | nothing => []
  | assign membershipId role => [setRole membershipId role]
  | disable userId now => [deleteUserSessions userId, setDisabled userId now]
  | remove read plan =>
    (plan.promoted read).toList.map (fun id => setRole id .orgAdmin) ++ plan.unpromoted.statements read

def statements : Deed → List Sent
  | nothing => []
  | assign membershipId role => [flushUpdate .memberships membershipId (setRole membershipId role)]
  | disable userId now => [sent (deleteUserSessions userId), flushUpdate .users userId (setDisabled userId now)]
  | remove read plan =>
    (plan.promoted read).toList.map (fun id => flushUpdate .memberships id (setRole id .orgAdmin)) ++
      (plan.unpromoted.statements read).map sent

end Deed

/-- The transaction of a request; it redeems no secret. -/
def plan (request : AdminRequest) (rows : Db) : Option (Bool × List Sent) :=
  match check rows request with
  | .ok deed => some (false, deed.statements)
  | .error _ => none

end IdigestHub.Offboarding
