import IdigestHub.Auth.Vault
import Mathlib.Data.Fintype.EquivFin

/-! Sign-in through the identity provider of an organization: the signed state, the claims,
and the user that they stand for. -/

set_option autoImplicit false

namespace IdigestHub.Auth

open Foundation Foundation.Fallible Sessions

structure StatePayload where
  orgId : Option Nat
  nonce : Option String
  codeVerifier : Option String
  exp : Option Int
  oauthAuthorizeQuery : Option String
  deriving DecidableEq

/-- The encodings behind a state token: Base64, HMAC under the hub's secret, and JSON. -/
structure StateCodec where
  decode : String → Option (List UInt8)
  digest : List UInt8 → List UInt8
  payload : List UInt8 → Option StatePayload

/-- A `ValueError` with its text, or another exception. -/
inductive Failure where
  | value (text : String)
  | other

/-- The claims of an `id_token` that are read; a claim that is not a text counts as absent. -/
structure Claims where
  sub : String
  nonce : Option String
  email : Option String
  preferredUsername : Option String

structure IdentityProvider where
  exchangeCode : String → String → Except Failure (Option String)
  decodeIdToken : String → Except Failure Claims

def stateSigLen : Nat := 32

def stateTtlSec : Int := 600

def seconds (now : Int) : Int := now / second

/-- The payload that a state token carries under the hub's signature. -/
def signedPayload (codec : StateCodec) (state : String) : Option StatePayload := do
  let blob ← codec.decode state
  if blob.length ≤ stateSigLen then none
  else
    let raw := blob.take (blob.length - stateSigLen)
    if blob.drop (blob.length - stateSigLen) = codec.digest raw then codec.payload raw else none

def makeOauthState (orgId : Nat) (nonce codeVerifier : String) (query : Option String) (now : Int) : StatePayload where
  orgId := some orgId
  nonce := some nonce
  codeVerifier := some codeVerifier
  exp := some (seconds now + stateTtlSec)
  oauthAuthorizeQuery := query

/-- `verify_oauth_state`: the nonce and the verifier of a state that is in time and names the organization. -/
def verifyOauthState (codec : StateCodec) (now : Int) (state : String) (orgId : Nat) : Except Failure (String × String) :=
  match signedPayload codec state with
  | none => .error (.value "invalid state")
  | some payload =>
    if payload.exp.getD 0 < seconds now then .error (.value "state expired")
    else if payload.orgId != some orgId then .error (.value "org mismatch")
    else
      match payload.nonce.filter (· != "") with
      | none => .error (.value "missing nonce")
      | some nonce =>
        match payload.codeVerifier.filter (· != "") with
        | none => .error (.value "missing code_verifier")
        | some codeVerifier => .ok (nonce, codeVerifier)

def validateIdToken (provider : IdentityProvider) (idToken nonce : String) : Except Failure Claims :=
  match provider.decodeIdToken idToken with
  | .error failure => .error failure
  | .ok claims => if claims.nonce != some nonce then .error (.value "nonce mismatch") else .ok claims

def emailFromClaims (env : Platform) (claims : Claims) : Option String :=
  let address (text : Option String) := (text.filter fun text => text.toList.contains '@').map (normEmail env)
  address claims.email <|> address claims.preferredUsername

def resolveOrProvisionUser (env : Platform) (vault : Vault) (orgId : Nat) (email sub : String) (fresh : Fresh) :
    Except Failure (Nat × List Write) :=
  match vault.userByEmail email with
  | some (userId, user) =>
    if !user.enabled then .error (.value "user disabled")
    else
      match vault.memberships.find userId with
      | none => .error (.value "user without org")
      | some membership =>
        if membership.orgId != orgId then .error (.value "user wrong org")
        else .ok (userId, [.updateUser userId { user with ssoSub := some sub, authProvider := .oidc }])
  | none =>
    if (vault.users.find fresh.userId).isSome then .error .other
    else .ok (fresh.userId, [
      .insertUser fresh.userId {
        email
        passwordHash := some (env.hashPassword fresh.password)
        authProvider := .oidc
        ssoSub := some sub
        disabledAt := none
        passwordChangedAt := some env.now
        mustChangePassword := false
        totpSecret := none
        totpEnabledAt := none
        acceptedVersion := fun _ => none
        isInstanceAdmin := false },
      .insertMembership fresh.userId ⟨orgId, .orgMember⟩])

/-- What `sso_callback` makes of an exception. -/
def Failure.code : Failure → ErrorCode
  | .value "user wrong org" => .ssoUserWrongOrg
  | .value "user disabled" => .accountDisabled
  | .value _ => .ssoStateInvalid
  | .other => .ssoMisconfigured

/-- The user whom the code and the state of a callback stand for. -/
def ssoUser (env : Platform) (codec : StateCodec) (provider : IdentityProvider) (vault : Vault) (orgId : Nat)
    (code state : String) (fresh : Fresh) : Except ErrorCode (Nat × List Write) := do
  let (nonce, codeVerifier) ← (verifyOauthState codec env.now state orgId).mapError Failure.code
  let idToken ← (provider.exchangeCode code codeVerifier).mapError Failure.code
  match idToken.filter (· != "") with
  | none => .error .ssoMisconfigured
  | some idToken =>
    let claims ← (validateIdToken provider idToken nonce).mapError Failure.code
    match (emailFromClaims env claims).filter (· != "") with
    | none => .error .ssoEmailMissing
    | some email =>
      if claims.sub = "" then .error .ssoEmailMissing
      else (resolveOrProvisionUser env vault orgId email claims.sub fresh).mapError Failure.code

def ssoCallback (env : Platform) (codec : StateCodec) (provider : IdentityProvider) (vault : Vault) (orgId : Nat)
    (code state : Option String) (fresh : Fresh) : Except Refusal (Nat × List Write) :=
  match vault.orgs.find orgId with
  | none => .error (.error .notFound)
  | some org =>
    if !ssoConfigured org || !org.ssoEnabled then .error (.error .ssoDisabled)
    else
      match publicBaseUrl vault.settings, code.filter (· != ""), state.filter (· != "") with
      | some _, some code, some state => do
        let (userId, found) ← (ssoUser env codec provider vault orgId code state fresh).mapError .error
        let session ← createSession env vault userId fresh
        .ok (userId, found ++ [session])
      | _, _, _ => .error (.error .ssoMisconfigured)

/-! ## What a callback may do -/

structure Issue where
  orgId : Nat
  nonce : String
  codeVerifier : String
  query : Option String
  at_ : Int

def Issue.payload (issue : Issue) : StatePayload :=
  makeOauthState issue.orgId issue.nonce issue.codeVerifier issue.query issue.at_

/-- Only the hub makes state tokens with the hub's signature. -/
def Unforgeable (codec : StateCodec) (issued : List Issue) : Prop :=
  ∀ state payload, signedPayload codec state = some payload → ∃ issue ∈ issued, payload = issue.payload

/-- A sign-in through the provider stays within the organization: the state was issued for it and is in
time, the user is an enabled member without authority elsewhere, and nobody else is touched. -/
structure Confined (env : Platform) (codec : StateCodec) (issued : List Issue) (vault : Vault) (orgId : Nat)
    (state : Option String) (userId : Nat) (all : List Write) : Prop where
  issued : ∃ text, state = some text ∧ ∃ issue ∈ issued, signedPayload codec text = some issue.payload ∧
    issue.orgId = orgId ∧ seconds env.now ≤ seconds issue.at_ + stateTtlSec
  enabled : ∃ user, (vault.writes all).users.find userId = some user ∧ user.enabled = true ∧
    (AuthContext.own (vault.writes all).toDb userId user).isInstanceAdmin = false
  member : ∃ membership, (vault.writes all).memberships.find userId = some membership ∧ membership.orgId = orgId ∧
    (vault.users.find userId = none → membership.role = .orgMember)
  users : ∀ other, other ≠ userId → (vault.writes all).users.find other = vault.users.find other
  memberships : ∀ other, other ≠ userId → (vault.writes all).memberships.find other = vault.memberships.find other
  sessions : ∃ id row, row.userId = userId ∧ vault.sessions.find id = none ∧
    (vault.writes all).sessions = Table.put vault.sessions id row
  rest : (vault.writes all).apiTokens = vault.apiTokens ∧ (vault.writes all).telegramLinks = vault.telegramLinks ∧
    (vault.writes all).orgs = vault.orgs ∧ (vault.writes all).settings = vault.settings

/-- An instance admin is an enabled member of the organization, under an address that claims can
name, and the provider of the organization can sign users in. -/
def Exposed (env : Platform) (vault : Vault) (orgId : Nat) : Prop :=
  (∃ org, vault.orgs.find orgId = some org ∧ ssoConfigured org = true ∧ org.ssoEnabled = true) ∧
    (publicBaseUrl vault.settings).isSome ∧ (∃ ttlSec, sessionTtlSec vault.settings = .ok ttlSec) ∧
    ∃ text userId user membership, text.toList.contains '@' = true ∧ normEmail env text ≠ "" ∧
      vault.userByEmail (normEmail env text) = some (userId, user) ∧ user.enabled = true ∧
      vault.memberships.find userId = some membership ∧ membership.orgId = orgId ∧ user.isInstanceAdmin = true

section Callbacks

variable {env : Platform} {codec : StateCodec} {provider : IdentityProvider} {vault : Vault} {orgId userId : Nat}
  {fresh : Fresh} {all : List Write}

theorem userByEmail_some {email : String} {user : User} (found : vault.userByEmail email = some (userId, user)) :
    vault.users.find userId = some user ∧ user.email = email := by
  simp only [Vault.userByEmail, Option.bind_eq_bind, Option.bind_eq_some_iff] at found
  obtain ⟨id, first, user', row, same⟩ := found
  cases same
  refine ⟨row, ?_⟩
  have inside := List.mem_of_head? first
  simp only [Table.select, List.mem_map, List.mem_filter, beq_iff_eq] at inside
  obtain ⟨⟨id', user'⟩, ⟨entry, same⟩, rfl⟩ := inside
  have here : vault.users.find id' = some user' := AList.mem_lookup_iff.mpr entry
  rw [here] at row
  cases row
  exact same

theorem resolveOrProvisionUser_ok {email sub : String}
    (resolved : resolveOrProvisionUser env vault orgId email sub fresh = .ok (userId, all)) :
    (∃ user membership, vault.userByEmail email = some (userId, user) ∧ user.enabled = true ∧
      vault.memberships.find userId = some membership ∧ membership.orgId = orgId ∧
      all = [.updateUser userId { user with ssoSub := some sub, authProvider := .oidc }]) ∨
    (vault.users.find userId = none ∧ ∃ user, user.enabled = true ∧ user.isInstanceAdmin = false ∧
      all = [.insertUser userId user, .insertMembership userId ⟨orgId, .orgMember⟩]) := by
  unfold resolveOrProvisionUser at resolved
  split at resolved
  · rename_i id user found
    split at resolved
    · contradiction
    · rename_i enabled
      split at resolved
      · contradiction
      · rename_i membership member
        split at resolved
        · contradiction
        · rename_i in_org
          cases resolved
          refine .inl ⟨user, membership, found, by simpa using enabled, member, by simpa using in_org, rfl⟩
  · split at resolved
    · contradiction
    · rename_i absent
      cases resolved
      exact .inr ⟨by simpa using absent, _, rfl, rfl, rfl⟩

theorem emailFromClaims_some {claims : Claims} {email : String} (named : emailFromClaims env claims = some email) :
    ∃ text, text.toList.contains '@' = true ∧ normEmail env text = email := by
  have address {text : Option String}
      (found : (text.filter fun text => text.toList.contains '@').map (normEmail env) = some email) :
      ∃ text, text.toList.contains '@' = true ∧ normEmail env text = email := by
    obtain ⟨inner, filtered, same⟩ := Option.map_eq_some_iff.mp found
    exact ⟨inner, (Option.filter_eq_some_iff.mp filtered).2, same⟩
  unfold emailFromClaims at named
  dsimp only at named
  cases first : (claims.email.filter fun text => text.toList.contains '@').map (normEmail env) with
  | none =>
    rw [first] at named
    exact address named
  | some email' =>
    rw [first] at named
    exact address (first.trans named)

theorem verifyOauthState_ok {now : Int} {state nonce codeVerifier : String}
    (verified : verifyOauthState codec now state orgId = .ok (nonce, codeVerifier)) :
    ∃ payload, signedPayload codec state = some payload ∧ payload.orgId = some orgId ∧
      seconds now ≤ payload.exp.getD 0 := by
  unfold verifyOauthState at verified
  split at verified
  · contradiction
  · rename_i payload signed
    split at verified
    · contradiction
    · rename_i in_time
      split at verified
      · contradiction
      · rename_i names
        exact ⟨payload, signed, by simpa using names, by omega⟩

theorem ssoUser_ok {code state : String} (found : ssoUser env codec provider vault orgId code state fresh = .ok (userId, all)) :
    (∃ payload, signedPayload codec state = some payload ∧ payload.orgId = some orgId ∧
      seconds env.now ≤ payload.exp.getD 0) ∧
    ∃ claims email sub, (emailFromClaims env claims).filter (· != "") = some email ∧
      resolveOrProvisionUser env vault orgId email sub fresh = .ok (userId, all) := by
  simp only [ssoUser, bind_ok, mapError_ok, Prod.exists] at found
  obtain ⟨nonce, codeVerifier, verified, idToken, _, found⟩ := found
  refine ⟨verifyOauthState_ok verified, ?_⟩
  split at found
  · contradiction
  · simp only [bind_ok, mapError_ok] at found
    obtain ⟨claims, _, found⟩ := found
    split at found
    · contradiction
    · rename_i email named
      split at found
      · contradiction
      · exact ⟨claims, email, claims.sub, named, mapError_ok.mp found⟩

structure SignedIn (env : Platform) (codec : StateCodec) (vault : Vault) (orgId : Nat) (state : Option String)
    (fresh : Fresh) (userId : Nat) (all : List Write) : Prop where
  org : ∃ org, vault.orgs.find orgId = some org ∧ ssoConfigured org = true ∧ org.ssoEnabled = true
  configured : (publicBaseUrl vault.settings).isSome
  state : ∃ text payload, state = some text ∧ signedPayload codec text = some payload ∧ payload.orgId = some orgId ∧
    seconds env.now ≤ payload.exp.getD 0
  user : ∃ claims email sub found, (emailFromClaims env claims).filter (· != "") = some email ∧
    resolveOrProvisionUser env vault orgId email sub fresh = .ok (userId, found) ∧
    ∃ session, createSession env vault userId fresh = .ok session ∧ all = found ++ [session]

theorem ssoCallback_ok {code state : Option String}
    (goes : ssoCallback env codec provider vault orgId code state fresh = .ok (userId, all)) :
    SignedIn env codec vault orgId state fresh userId all := by
  unfold ssoCallback at goes
  split at goes
  · contradiction
  · rename_i org known
    split at goes
    · contradiction
    · rename_i enabled
      split at goes
      · rename_i base code' text configured _ given
        simp only [bind_ok, mapError_ok, Prod.exists] at goes
        obtain ⟨userId', found, signed_in, session, created, same⟩ := goes
        cases same
        simp only [Bool.or_eq_true, Bool.not_eq_true', not_or, Bool.not_eq_false] at enabled
        obtain ⟨⟨payload, signed, names, in_time⟩, claims, email, sub, named, resolved⟩ := ssoUser_ok signed_in
        exact ⟨⟨org, known, enabled.1, enabled.2⟩, by rw [configured]; rfl,
          ⟨text, payload, (Option.filter_eq_some_iff.mp given).1, signed, names, in_time⟩,
          ⟨claims, email, sub, found, named, resolved, session, created, rfl⟩⟩
      · contradiction

theorem SignedIn.confined {issued : List Issue} {state : Option String} (unforgeable : Unforgeable codec issued)
    (signed_in : SignedIn env codec vault orgId state fresh userId all)
    (no_admin : ∀ user, vault.users.find userId = some user → user.isInstanceAdmin = false) :
    Confined env codec issued vault orgId state userId all := by
  obtain ⟨text, payload, given, signed, names, in_time⟩ := signed_in.state
  obtain ⟨issue, listed, rfl⟩ := unforgeable text payload signed
  have in_state : ∃ text, state = some text ∧ ∃ issue ∈ issued, signedPayload codec text = some issue.payload ∧
      issue.orgId = orgId ∧ seconds env.now ≤ seconds issue.at_ + stateTtlSec :=
    ⟨text, given, issue, listed, signed, Option.some.inj names, in_time⟩
  obtain ⟨claims, email, sub, found, _, resolved, session, created, rfl⟩ := signed_in.user
  obtain ⟨free, ttlSec, _, rfl⟩ := createSession_ok created
  rcases resolveOrProvisionUser_ok resolved with
    ⟨user, membership, by_email, enabled, member, in_org, rfl⟩ | ⟨absent, user, enabled, no_rights, rfl⟩
  · have row := (userByEmail_some by_email).1
    refine ⟨in_state, ⟨_, Table.find_put_self .., enabled, ?_⟩, ⟨membership, member, in_org, ?_⟩, ?_, fun _ _ => rfl,
      ⟨_, _, rfl, free, rfl⟩, rfl, rfl, rfl, rfl⟩
    · simp [AuthContext.isInstanceAdmin, AuthContext.own, no_admin user row]
    · intro absent
      rw [absent] at row
      contradiction
    · intro other different
      exact (Table.find_put ..).trans (if_neg different)
  · refine ⟨in_state, ⟨_, Table.find_put_self .., enabled, ?_⟩, ⟨_, Table.find_put_self .., rfl, fun _ => rfl⟩, ?_, ?_,
      ⟨_, _, rfl, free, rfl⟩, rfl, rfl, rfl, rfl⟩
    · simp [AuthContext.isInstanceAdmin, AuthContext.own, no_rights]
    · intro other different
      exact (Table.find_put ..).trans (if_neg different)
    · intro other different
      exact (Table.find_put ..).trans (if_neg different)

end Callbacks

section Exposure

def oneState (payload : StatePayload) : StateCodec where
  decode _ := some (List.replicate 33 0)
  digest _ := List.replicate 32 0
  payload _ := some payload

def oneUser (claims : Claims) : IdentityProvider where
  exchangeCode _ _ := .ok (some "id token")
  decodeIdToken _ := .ok claims

theorem signedPayload_oneState (payload : StatePayload) (state : String) :
    signedPayload (oneState payload) state = some payload := rfl

theorem exists_unused {R : Type} (table : Table Nat R) : ∃ key, table.find key = none := by
  obtain ⟨key, outside⟩ := Infinite.exists_notMem_finset table.keys.toFinset
  exact ⟨key, AList.lookup_eq_none.mpr fun inside => outside (List.mem_toFinset.mpr inside)⟩

variable {env : Platform} {vault : Vault} {orgId : Nat}

theorem Exposed.signs_in (exposed : Exposed env vault orgId) :
    ∃ (provider : IdentityProvider) (fresh : Fresh) (userId : Nat) (user : User) (all : List Write),
      ssoCallback env (oneState (makeOauthState orgId "nonce" "verifier" none env.now)) provider vault orgId
        (some "code") (some "state") fresh = .ok (userId, all) ∧
      (vault.writes all).users.find userId = some user ∧ user.isInstanceAdmin = true := by
  obtain ⟨⟨org, known, configured, enabled⟩, base, ⟨ttlSec, ttl⟩, text, userId, user, membership, at_sign, nonempty,
    by_email, active, member, in_org, admin⟩ := exposed
  obtain ⟨id, free⟩ := exists_unused vault.sessions
  obtain ⟨base, based⟩ := Option.isSome_iff_exists.mp base
  let payload := makeOauthState orgId "nonce" "verifier" none env.now
  let claims : Claims := ⟨"sub", some "nonce", some text, none⟩
  let fresh : Fresh := ⟨0, id, "", "", fun i => (i, "")⟩
  let signed : User := { user with ssoSub := some "sub", authProvider := .oidc }
  let session : Write := .insertSession id userId (env.hashSecret "") ttlSec env.now
  have verified : verifyOauthState (oneState payload) env.now "state" orgId = .ok ("nonce", "verifier") := by
    have in_time : ¬seconds env.now + stateTtlSec < seconds env.now := by simp [stateTtlSec]
    simp [verifyOauthState, signedPayload_oneState, payload, makeOauthState, in_time]
    rfl
  have named : (emailFromClaims env claims).filter (· != "") = some (normEmail env text) := by
    have contains : '@' ∈ text.toList := by simpa using at_sign
    simp [emailFromClaims, claims, Option.filter_some, contains, nonempty]
  have resolved : resolveOrProvisionUser env vault orgId (normEmail env text) "sub" fresh =
      .ok (userId, [.updateUser userId signed]) := by
    simp [resolveOrProvisionUser, by_email, active, member, in_org, signed]
  have created : createSession env vault userId fresh = .ok session := by
    simp only [createSession, ttl, unused_ok.mpr free, fresh, session]
    rfl
  have found : ssoUser env (oneState payload) (oneUser claims) vault orgId "code" "state" fresh =
      .ok (userId, [.updateUser userId signed]) := by
    refine bind_ok.mpr ⟨("nonce", "verifier"), mapError_ok.mpr verified, ?_⟩
    refine bind_ok.mpr ⟨some "id token", rfl, ?_⟩
    refine bind_ok.mpr ⟨claims, rfl, ?_⟩
    rw [named]
    exact mapError_ok.mpr resolved
  refine ⟨oneUser claims, fresh, userId, signed, [.updateUser userId signed, session], ?_,
    Table.find_put_self vault.users userId signed, admin⟩
  simp only [ssoCallback, known, configured, enabled, based, Bool.not_true, Bool.or_self]
  refine bind_ok.mpr ⟨_, mapError_ok.mpr found, ?_⟩
  exact bind_ok.mpr ⟨session, created, rfl⟩

theorem SignedIn.exposed {codec : StateCodec} {state : Option String} {fresh : Fresh} {userId : Nat} {all : List Write}
    (signed_in : SignedIn env codec vault orgId state fresh userId all) {user : User}
    (row : vault.users.find userId = some user) (admin : user.isInstanceAdmin = true) : Exposed env vault orgId := by
  obtain ⟨claims, email, sub, found, named, resolved, session, created, _⟩ := signed_in.user
  obtain ⟨_, ttlSec, ttl, _⟩ := createSession_ok created
  rcases resolveOrProvisionUser_ok resolved with
    ⟨user', membership, by_email, active, member, in_org, _⟩ | ⟨absent, _⟩
  · have same := (userByEmail_some by_email).1
    rw [row] at same
    cases same
    obtain ⟨claimed, nonempty⟩ := Option.filter_eq_some_iff.mp named
    obtain ⟨text, at_sign, rfl⟩ := emailFromClaims_some claimed
    exact ⟨signed_in.org, signed_in.configured, ⟨ttlSec, ttl⟩, text, userId, user, membership, at_sign,
      by simpa using nonempty, by_email, active, member, in_org, admin⟩
  · rw [absent] at row
    contradiction

/-- The sign-ins through the provider of an organization are confined to it, whatever the provider
signs, exactly when no instance admin is a member whom it can name. -/
theorem sso_confined_iff (env : Platform) (vault : Vault) (orgId : Nat) :
    (∀ (codec : StateCodec) (issued : List Issue) (provider : IdentityProvider) (code state : Option String)
        (fresh : Fresh) (userId : Nat) (all : List Write), Unforgeable codec issued →
        ssoCallback env codec provider vault orgId code state fresh = .ok (userId, all) →
        Confined env codec issued vault orgId state userId all) ↔ ¬Exposed env vault orgId := by
  constructor
  · intro confined exposed
    obtain ⟨provider, fresh, userId, user, all, goes, row, admin⟩ := exposed.signs_in
    have unforgeable : Unforgeable (oneState (makeOauthState orgId "nonce" "verifier" none env.now))
        [⟨orgId, "nonce", "verifier", none, env.now⟩] := by
      intro state payload signed
      exact ⟨_, List.mem_singleton_self _, (Option.some.inj signed).symm⟩
    obtain ⟨user', row', _, no_rights⟩ := (confined _ _ provider _ _ fresh userId all unforgeable goes).enabled
    rw [row] at row'
    cases row'
    simp [AuthContext.isInstanceAdmin, AuthContext.own, admin] at no_rights
  · intro safe codec issued provider code state fresh userId all unforgeable goes
    have signed_in := ssoCallback_ok goes
    refine signed_in.confined unforgeable fun user row => ?_
    by_contra admin
    exact safe (signed_in.exposed row (by simpa using admin))

def adminVault : Vault :=
  { sampleVault with
    users := Table.put ∅ 5 { sampleUser with isInstanceAdmin := true }
    orgs := Table.put ∅ 1 ⟨0, false, true, some "https://provider", some "hub", true⟩
    memberships := Table.put ∅ 5 ⟨1, .orgMember⟩ }

def adminIssue : Issue := ⟨1, "nonce", "verifier", none, 0⟩

/-- The provider names the instance admin, and the session administers the instance. -/
theorem sso_signs_instance_admin_in :
    Unforgeable (oneState adminIssue.payload) [adminIssue] ∧ ∃ userId all,
      ssoCallback samplePlatform (oneState adminIssue.payload)
        (oneUser ⟨"sub", some "nonce", some "user@example.org", none⟩) adminVault 1 (some "code") (some "state")
        sampleFresh = .ok (userId, all) ∧
      ¬Confined samplePlatform (oneState adminIssue.payload) [adminIssue] adminVault 1 (some "state") userId all := by
  constructor
  · intro state payload signed
    exact ⟨adminIssue, List.mem_singleton_self _, (Option.some.inj signed).symm⟩
  · refine ⟨_, _, rfl, fun confined => ?_⟩
    obtain ⟨user, row, _, no_rights⟩ := confined.enabled
    cases row
    contradiction

end Exposure

end IdigestHub.Auth
