import IdigestHub.Foundation.Table
import IdigestHub.Foundation.Text
import IdigestHub.Sessions.Stores

/-! Accounts, organizations and the policies that lock a user out: password, second
factor, legal documents, tariff. -/

set_option autoImplicit false

namespace IdigestHub.Auth

open Foundation

inductive LegalDocumentKey where
  | userAgreement
  | personalDataConsent
  | privacyPolicy
  deriving DecidableEq

def legalDocumentKeys : List LegalDocumentKey := [.userAgreement, .personalDataConsent, .privacyPolicy]

structure LegalDocument where
  textEn : Option String
  textRu : Option String
  textEs : Option String
  version : Int

structure InstanceSettings where
  publicBaseUrl : Option String
  sessionTtlHours : Option Int
  document : LegalDocumentKey → LegalDocument

inductive AuthProvider where
  | localPassword
  | oidc
  | other (text : String)
  deriving DecidableEq

structure User where
  email : String
  passwordHash : Option String
  authProvider : AuthProvider
  ssoSub : Option String
  disabledAt : Option Int
  passwordChangedAt : Option Int
  mustChangePassword : Bool
  /-- `totp_secret_encrypted`, decrypted. -/
  totpSecret : Option String
  totpEnabledAt : Option Int
  acceptedVersion : LegalDocumentKey → Option Int
  isInstanceAdmin : Bool

structure Organization where
  passwordTtlDays : Int
  mfaRequired : Bool
  ssoEnabled : Bool
  ssoIssuer : Option String
  ssoClientId : Option String
  /-- `api_enabled` of its tariff. -/
  apiEnabled : Bool

inductive Role where
  | orgAdmin
  | orgMember
  | other (text : String)
  deriving DecidableEq

structure Membership where
  orgId : Nat
  role : Role

/-- A row of the API tokens, under its `token_hash`. -/
structure ApiToken where
  userId : Nat
  revokedAt : Option Int

structure TelegramLink where
  telegramUserId : String
  chatId : String
  instanceBotId : Option Int

/-- The rows that authentication reads. A user has at most one membership, under the user's id. -/
structure Db where
  users : Table Nat User
  orgs : Table Nat Organization
  memberships : Table Nat Membership
  apiTokens : Table String ApiToken
  sessions : Sessions.DbSessionStore
  telegramLinks : Table Nat TelegramLink
  settings : InstanceSettings

def User.enabled (user : User) : Bool := user.disabledAt.isNone

/-- `user.password_hash` is neither absent nor empty. -/
def User.hasPassword (user : User) : Bool := user.passwordHash.any (· != "")

def Db.loadOrgBundle (db : Db) (userId : Nat) : Option Organization × Option Membership :=
  match db.memberships.find userId with
  | none => (none, none)
  | some membership => (db.orgs.find membership.orgId, some membership)

section Policies

def nonBlank (text : Option String) : Bool := Text.strip (text.getD "") != ""

def ssoConfigured (org : Organization) : Bool := nonBlank org.ssoIssuer && nonBlank org.ssoClientId

def passwordLoginAllowed (membership : Option Membership) (org : Option Organization) (isInstanceAdmin : Bool) : Bool :=
  if isInstanceAdmin then true
  else
    match org, membership with
    | some org, some membership =>
      if !ssoConfigured org || !org.ssoEnabled then true else membership.role == .orgAdmin
    | _, _ => true

def totpEnabled (user : User) : Bool := user.totpEnabledAt.isSome

def totpConfigured (user : User) : Bool := user.totpSecret.isSome || user.totpEnabledAt.isSome

def hubLocalAuthApplies (user : User) (org : Option Organization) (membership : Option Membership) : Bool :=
  user.hasPassword && passwordLoginAllowed membership org user.isInstanceAdmin &&
    (user.authProvider == .localPassword || user.authProvider == .oidc)

def hubMfaApplies (user : User) (org : Option Organization) (membership : Option Membership) : Bool :=
  hubLocalAuthApplies user org membership

def orgMfaRequired (user : User) (org : Option Organization) (membership : Option Membership) : Bool :=
  match org with
  | none => false
  | some policy => if !policy.mfaRequired || policy.ssoEnabled then false else hubMfaApplies user org membership

def mfaEnrollmentRequired (user : User) (org : Option Organization) (membership : Option Membership) : Bool :=
  orgMfaRequired user org membership && !totpEnabled user

def shouldChallengeAtLogin (user : User) (org : Option Organization) (membership : Option Membership) : Bool :=
  totpEnabled user && hubMfaApplies user org membership

def day : Int := 86400 * Sessions.second

def passwordExpired (now : Int) (user : User) (org : Option Organization) : Bool :=
  match org, user.passwordChangedAt with
  | some org, some changedAt => 0 < org.passwordTtlDays && changedAt + org.passwordTtlDays * day ≤ now
  | _, _ => false

def documentActive (settings : InstanceSettings) (key : LegalDocumentKey) : Bool :=
  let document := settings.document key
  0 < document.version && (nonBlank document.textEn || nonBlank document.textRu || nonBlank document.textEs)

def documentPending (user : User) (settings : InstanceSettings) (key : LegalDocumentKey) : Bool :=
  documentActive settings key && (user.acceptedVersion key).getD 0 != (settings.document key).version

def pendingLegalDocumentKeys (user : User) (settings : InstanceSettings) : List LegalDocumentKey :=
  legalDocumentKeys.filter (documentPending user settings)

def userAgreementRequired (user : User) (org : Option Organization) (membership : Option Membership)
    (settings : InstanceSettings) : Bool :=
  membership.isSome && org.isSome && !(pendingLegalDocumentKeys user settings).isEmpty

def orgApiEnabled (org : Option Organization) : Bool := org.all Organization.apiEnabled

inductive Blocked where
  | accountDisabled
  | oauthOrgMembershipRequired
  | forbidden
  | mustChangePassword
  | mfaEnrollmentRequired
  | userAgreementRequired
  | apiDisabled
  deriving DecidableEq

def userOauthBlocked (now : Int) (db : Db) (userId : Nat) (user : User) : Option Blocked :=
  if !user.enabled then some .accountDisabled
  else
    let bundle := db.loadOrgBundle userId
    match bundle.1, bundle.2 with
    | some org, some membership =>
      if membership.role != .orgAdmin && membership.role != .orgMember then some .forbidden
      else if user.mustChangePassword || passwordExpired now user (some org) then some .mustChangePassword
      else if mfaEnrollmentRequired user (some org) (some membership) then some .mfaEnrollmentRequired
      else if userAgreementRequired user (some org) (some membership) db.settings then some .userAgreementRequired
      else if !org.apiEnabled then some .apiDisabled
      else none
    | _, _ => some .oauthOrgMembershipRequired

end Policies

/-- The four conditions that lock a user out of the library until the user has dealt with them. -/
inductive Lockout where
  | mustChangePassword
  | passwordExpired
  | mfaEnrollment
  | agreementPending
  deriving DecidableEq

def Db.locked (db : Db) (now : Int) (userId : Nat) (user : User) : Lockout → Bool
  | .mustChangePassword => user.mustChangePassword
  | .passwordExpired => Auth.passwordExpired now user (db.loadOrgBundle userId).1
  | .mfaEnrollment => mfaEnrollmentRequired user (db.loadOrgBundle userId).1 (db.loadOrgBundle userId).2
  | .agreementPending => userAgreementRequired user (db.loadOrgBundle userId).1 (db.loadOrgBundle userId).2 db.settings

def Lockout.isPassword : Lockout → Bool
  | .mustChangePassword | .passwordExpired => true
  | .mfaEnrollment | .agreementPending => false

theorem locked_of_userOauthBlocked {now : Int} {db : Db} {userId : Nat} {user : User}
    (free : userOauthBlocked now db userId user = none) :
    user.enabled = true ∧ (∀ lockout, db.locked now userId user lockout = false) ∧
      orgApiEnabled (db.loadOrgBundle userId).1 = true := by
  unfold userOauthBlocked at free
  split at free
  · contradiction
  · rename_i enabled
    dsimp only at free
    split at free
    · rename_i org membership in_org as_member
      simp only [Bool.not_eq_true, Bool.not_eq_false'] at enabled
      repeat' (split at free <;> try contradiction)
      rename_i _ password enrollment agreement api
      simp only [Bool.not_eq_true, Bool.or_eq_false_iff, Bool.not_eq_false'] at password enrollment agreement api
      refine ⟨enabled, fun lockout => ?_, by rw [in_org]; exact api⟩
      cases lockout with
      | mustChangePassword => exact password.1
      | passwordExpired => rw [Db.locked, in_org]; exact password.2
      | mfaEnrollment => rw [Db.locked, in_org, as_member]; exact enrollment
      | agreementPending => rw [Db.locked, in_org, as_member]; exact agreement
    · contradiction

end IdigestHub.Auth
