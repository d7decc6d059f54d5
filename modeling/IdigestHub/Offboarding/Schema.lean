import IdigestHub.Auth.Accounts
import IdigestHub.Foundation.Relational

/-! The tables that refer to users and organizations, with the columns that say so and those that the
removals select by. Columns that a deletion sets to null are left out: they never stop one. -/

set_option autoImplicit false

namespace IdigestHub.Offboarding

open Foundation Foundation.Relational

inductive Tbl where
  | users | organizations | instanceSettings | legalDocumentVersions
  | telegramLinks | telegramLinkChallenges | memberships | sessions
  | passwordResetTokens | mfaChallenges | recoveryCodes | apiTokens
  | orgCaptureJitsiHosts | skills | audios | transcripts | summaries
  | hiddenItems | userTags | userTagLinks | summaryPublicLinks | shares
  | tasks | usageEvents | oauthAuthorizationCodes | oauthRefreshTokens
  deriving DecidableEq

instance : Fintype Tbl where
  elems := ⟨([.users, .organizations, .instanceSettings, .legalDocumentVersions, .telegramLinks, .telegramLinkChallenges,
    .memberships, .sessions, .passwordResetTokens, .mfaChallenges, .recoveryCodes, .apiTokens, .orgCaptureJitsiHosts,
    .skills, .audios, .transcripts, .summaries, .hiddenItems, .userTags, .userTagLinks, .summaryPublicLinks, .shares,
    .tasks, .usageEvents, .oauthAuthorizationCodes, .oauthRefreshTokens] : List Tbl), by decide⟩
  complete t := by cases t <;> decide

inductive ObjectType where
  | audio | transcript | summary | skill | org
  deriving DecidableEq

inductive SkillScope where
  | base | org | self
  deriving DecidableEq

structure User where
  email : String
  isInstanceAdmin : Bool
  disabledAt : Option Int
  deriving DecidableEq

structure Organization where
  name : String
  deriving DecidableEq

structure InstanceSettings where
  instanceAdminUserId : Option Nat
  deriving DecidableEq

structure LegalDocumentVersion where
  createdByUserId : Option Nat
  deriving DecidableEq

/-- A row that belongs to one user, and refers to nothing else. -/
structure UserRow where
  userId : Nat
  deriving DecidableEq

structure Membership where
  userId : Nat
  orgId : Nat
  role : Auth.Role
  deriving DecidableEq

structure Session where
  userId : Nat
  impersonateUserId : Option Nat
  deriving DecidableEq

structure OrgCaptureJitsiHost where
  orgId : Nat
  deriving DecidableEq

structure Skill where
  scope : SkillScope
  orgId : Option Nat
  ownerUserId : Option Nat
  deriving DecidableEq

/-- A row of the audios, transcripts or summaries. -/
structure Artifact where
  orgId : Nat
  ownerUserId : Nat
  deriving DecidableEq

structure HiddenItem where
  userId : Nat
  objectType : ObjectType
  objectId : Nat
  deriving DecidableEq

structure UserTagLink where
  userId : Nat
  tagId : Nat
  objectType : ObjectType
  objectId : Nat
  deriving DecidableEq

structure SummaryPublicLink where
  summaryId : Nat
  orgId : Nat
  createdByUserId : Nat
  deriving DecidableEq

structure Share where
  objectType : ObjectType
  objectId : Nat
  fromUserId : Nat
  toUserId : Nat
  deriving DecidableEq

structure Task where
  orgId : Nat
  userId : Nat
  deriving DecidableEq

structure UsageEvent where
  orgId : Nat
  userId : Option Nat
  taskId : Option Nat
  deriving DecidableEq

abbrev Row : Tbl → Type
  | .users => User
  | .organizations => Organization
  | .instanceSettings => InstanceSettings
  | .legalDocumentVersions => LegalDocumentVersion
  | .memberships => Membership
  | .sessions => Session
  | .telegramLinks | .telegramLinkChallenges | .passwordResetTokens | .mfaChallenges | .recoveryCodes | .apiTokens
  | .userTags | .oauthAuthorizationCodes | .oauthRefreshTokens => UserRow
  | .orgCaptureJitsiHosts => OrgCaptureJitsiHost
  | .skills => Skill
  | .audios | .transcripts | .summaries => Artifact
  | .hiddenItems => HiddenItem
  | .userTagLinks => UserTagLink
  | .summaryPublicLinks => SummaryPublicLink
  | .shares => Share
  | .tasks => Task
  | .usageEvents => UsageEvent

def refers {R : Type} (target : Tbl) (get : R → Option Nat) : ForeignKey Tbl R := ⟨target, false, get⟩

/-- `ondelete="CASCADE"`. -/
def follows {R : Type} (target : Tbl) (get : R → Option Nat) : ForeignKey Tbl R := ⟨target, true, get⟩

def keys : (t : Tbl) → List (ForeignKey Tbl (Row t))
  | .users | .organizations => []
  | .instanceSettings => [refers .users (·.instanceAdminUserId)]
  | .legalDocumentVersions => [refers .users (·.createdByUserId)]
  | .telegramLinks | .telegramLinkChallenges => [follows .users fun row => some row.userId]
  | .memberships => [refers .users fun row => some row.userId, refers .organizations fun row => some row.orgId]
  | .sessions => [refers .users fun row => some row.userId, refers .users (·.impersonateUserId)]
  | .passwordResetTokens | .mfaChallenges | .recoveryCodes | .apiTokens | .userTags | .oauthAuthorizationCodes
  | .oauthRefreshTokens => [refers .users fun row => some row.userId]
  | .orgCaptureJitsiHosts => [follows .organizations fun row => some row.orgId]
  | .skills => [refers .organizations (·.orgId), refers .users (·.ownerUserId)]
  | .audios | .transcripts | .summaries =>
    [refers .organizations fun row => some row.orgId, refers .users fun row => some row.ownerUserId]
  | .hiddenItems => [refers .users fun row => some row.userId]
  | .userTagLinks => [refers .users fun row => some row.userId, follows .userTags fun row => some row.tagId]
  | .summaryPublicLinks => [follows .summaries fun row => some row.summaryId,
      refers .organizations fun row => some row.orgId, refers .users fun row => some row.createdByUserId]
  | .shares => [refers .users fun row => some row.fromUserId, refers .users fun row => some row.toUserId]
  | .tasks => [refers .organizations fun row => some row.orgId, refers .users fun row => some row.userId]
  | .usageEvents => [refers .organizations fun row => some row.orgId, refers .users (·.userId), refers .tasks (·.taskId)]

abbrev schema : Schema Tbl := ⟨Row, keys⟩

abbrev Db : Type := Relational.Db schema

abbrev Stmt : Type := Op schema

def referenced : Tbl → Bool
  | .users | .organizations | .userTags | .summaries | .tasks => true
  | _ => false

theorem referenced_target {t : Tbl} {key : ForeignKey Tbl (Row t)} (member : key ∈ schema.keys t) :
    referenced key.target = true := by
  have all : (schema.keys t).all (fun key => referenced key.target) = true := by cases t <;> rfl
  exact List.all_eq_true.mp all key member

theorem shallow : schema.Shallow := by
  intro t key member cascades other key' member' same
  have all : (schema.keys t).all (fun key => !(key.cascades && referenced t)) = true := by cases t <;> rfl
  have plain := List.all_eq_true.mp all key member
  rw [cascades, ← same, referenced_target member'] at plain
  contradiction

end IdigestHub.Offboarding
