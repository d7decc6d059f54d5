import IdigestHub.Foundation.Runs
import IdigestHub.Offboarding.Schema

/-! Shares of library objects: an owner makes them, the owner or the recipient takes them back, and a
transcript that is deleted takes its own along. A share of a transcript brings one of its audio. -/

set_option autoImplicit false

namespace IdigestHub.Library

open Foundation
open Offboarding (ObjectType SkillScope Share Membership)

inductive Refusal where
  | validationError | notFound | forbidden
  deriving DecidableEq

structure Transcript extends Offboarding.Artifact where
  sourceAudioId : Option Nat

/-- `nextId` is the next `new_id()`. -/
structure Catalog where
  nextId : Nat
  memberships : Table Nat Membership
  audios : Table Nat Offboarding.Artifact
  transcripts : Table Nat Transcript
  summaries : Table Nat Offboarding.Artifact
  skills : Table Nat Offboarding.Skill
  shares : Table Nat Share

section Access

variable (catalog : Catalog)

/-- The organization of `load_org_bundle`. -/
def orgOf (userId : Nat) : Option Nat :=
  (catalog.memberships.select fun _ row => row.userId == userId).head?.bind fun id =>
    (catalog.memberships.find id).map Membership.orgId

def isMember (orgId userId : Nat) : Bool :=
  (catalog.memberships.select fun _ row => row.orgId == orgId && row.userId == userId).isEmpty == false

def isSharedWith (objectType : ObjectType) (objectId userId : Nat) : Option Nat :=
  (catalog.shares.select fun _ row => row.objectType == objectType && row.objectId == objectId && row.toUserId == userId).head?

def requireShareOwner (objectType : ObjectType) (objectId userId : Nat) : Except Refusal Unit :=
  let owned (ownerUserId : Option Nat) : Except Refusal Unit :=
    if ownerUserId = some userId then .ok () else .error .forbidden
  match objectType with
  | .audio => (catalog.audios.find objectId).elim (.error .notFound) fun row => owned (some row.ownerUserId)
  | .transcript => (catalog.transcripts.find objectId).elim (.error .notFound) fun row => owned (some row.ownerUserId)
  | .summary => (catalog.summaries.find objectId).elim (.error .notFound) fun row => owned (some row.ownerUserId)
  | .skill => (catalog.skills.find objectId).elim (.error .notFound) fun row =>
    if row.scope ≠ .self then .error .forbidden else owned row.ownerUserId
  | .org => .error .validationError

def pairedAudio (orgId userId : Nat) (objectType : ObjectType) (objectId : Nat) : Option Nat :=
  if objectType = .transcript then
    ((catalog.transcripts.find objectId).bind Transcript.sourceAudioId).filter fun audioId =>
      (catalog.audios.find audioId).any fun audio => audio.orgId == orgId && audio.ownerUserId == userId
  else none

end Access

def ensureObjectShare (catalog : Catalog) (share : Share) : Catalog × Nat :=
  match isSharedWith catalog share.objectType share.objectId share.toUserId with
  | some id => (catalog, id)
  | none =>
    ({ catalog with nextId := catalog.nextId + 1, shares := catalog.shares.put catalog.nextId share }, catalog.nextId)

/-- One recipient of `create_shares`. -/
def shareWith (orgId userId : Nat) (objectType : ObjectType) (objectId : Nat) (made : Catalog × List Nat) (toUserId : Nat) :
    Catalog × List Nat :=
  if toUserId = userId then made
  else if isMember made.1 orgId toUserId = false then made
  else
    let (catalog, id) := ensureObjectShare made.1 ⟨objectType, objectId, userId, toUserId⟩
    match pairedAudio catalog orgId userId objectType objectId with
    | some audioId => ((ensureObjectShare catalog ⟨.audio, audioId, userId, toUserId⟩).1, made.2 ++ [id])
    | none => (catalog, made.2 ++ [id])

def createShares (catalog : Catalog) (userId : Nat) (objectType : ObjectType) (objectId : Nat) (toUserIds : List Nat) :
    Except Refusal (Catalog × List Nat) :=
  match requireShareOwner catalog objectType objectId userId with
  | .error refusal => .error refusal
  | .ok () =>
    match orgOf catalog userId with
    | none => .error .forbidden
    | some orgId => .ok (toUserIds.foldl (shareWith orgId userId objectType objectId) (catalog, []))

def revokePairedAudioShare (catalog : Catalog) (audioId fromUserId toUserId : Nat) : Catalog :=
  match (catalog.shares.select fun _ row => row.objectType == .audio && row.objectId == audioId &&
      row.fromUserId == fromUserId && row.toUserId == toUserId).head? with
  | some id => { catalog with shares := catalog.shares.delete id }
  | none => catalog

def deleteShare (catalog : Catalog) (userId shareId : Nat) : Except Refusal Catalog :=
  match catalog.shares.find shareId with
  | none => .error .notFound
  | some row =>
    if row.fromUserId ≠ userId ∧ row.toUserId ≠ userId then .error .forbidden
    else
      let source := if row.objectType = .transcript then
        (catalog.transcripts.find row.objectId).bind Transcript.sourceAudioId else none
      let revoked := match source with
        | some audioId => revokePairedAudioShare catalog audioId row.fromUserId row.toUserId
        | none => catalog
      .ok { revoked with shares := revoked.shares.delete shareId }

def hardDeleteTranscript (catalog : Catalog) (transcriptId : Nat) : Catalog :=
  { catalog with
    shares := catalog.shares.keep fun _ row => !(row.objectType == .transcript && row.objectId == transcriptId)
    transcripts := catalog.transcripts.delete transcriptId }

inductive Event where
  | create (userId : Nat) (objectType : ObjectType) (objectId : Nat) (toUserIds : List Nat)
  | revoke (userId shareId : Nat)
  | hardDelete (transcriptId : Nat)

/-- A refused request changes nothing. -/
def step (catalog : Catalog) : Event → Catalog
  | .create userId objectType objectId toUserIds =>
    match createShares catalog userId objectType objectId toUserIds with
    | .ok made => made.1
    | .error _ => catalog
  | .revoke userId shareId =>
    match deleteShare catalog userId shareId with
    | .ok revoked => revoked
    | .error _ => catalog
  | .hardDelete transcriptId => hardDeleteTranscript catalog transcriptId

end IdigestHub.Library
