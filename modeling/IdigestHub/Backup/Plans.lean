import IdigestHub.Backup.Files
import IdigestHub.Backup.Parts

/-! What the files of an archive of `build_backup` are for in the account that they come from: each is the plan for
the row that it was written for. -/

set_option autoImplicit false

namespace IdigestHub.Backup

open Foundation Foundation.Fallible

section Planning

variable (platform : Platform) (member : Member) (files : Files)

def ownTranscript (row : Transcript) : Bool := row.orgId == member.orgId && row.ownerUserId == member.userId

def ownSummary (row : Summary) : Bool := row.orgId == member.orgId && row.ownerUserId == member.userId

def ownAudio (row : Audio) : Bool := row.orgId == member.orgId && row.ownerUserId == member.userId

def plannedTranscript (library : Library) (id : Id) (data : Dict) : Plan Transcript :=
  let title := restoredTitle data
  let payload := transcriptBlob data
  let sourceAudioId := validAudio member library (data.get "source_audio_id")
  { id
    rewrite := fun row => { row with title, payload, sourceAudioId }
    fresh := ⟨member.orgId, member.userId, sourceAudioId, title, payload, false, parseDt platform (data.get "created_at")⟩ }

def transcriptPlan (library : Library) (file : (_ : String) × Content) : Option (Plan Transcript) :=
  if isTranscriptPath file.1 then
    (identified platform file.2).map fun its => plannedTranscript platform member library its.1 its.2
  else none

def plannedSkill (id : Id) (data : Dict) (body : String) : Plan Skill :=
  let name := restoredName platform data
  let updatedAt := parseDt platform (data.get "updated_at")
  { id
    rewrite := fun row => { row with name, body, updatedAt }
    fresh := ⟨.self, some member.orgId, some member.userId, name, body, parseDt platform (data.get "created_at"), updatedAt⟩ }

def skillPlan (file : (_ : String) × Content) : Option (Plan Skill) :=
  match described "skills/" files file.1 with
  | some (some bodyRaw) => (identified platform file.2).bind fun its =>
    if (its.2.get "catalog").isText "shared" then none else bodyRaw.decoded.map (plannedSkill platform member its.1 its.2)
  | _ => none

def plannedSummary (library : Library) (transcriptMap skillMap : Table Id Id) (id : Id) (data : Dict) (body : String) :
    Plan Summary :=
  let title := restoredTitle data
  let edited := (data.get "edited").truthy
  let sourceTranscriptId := resolveTranscriptId member true library transcriptMap (data.get "source_transcript_id")
  let skillIds := resolveSkillIds member true library skillMap (data.get "skill_ids")
  { id
    rewrite := fun row => { row with title, body, sourceTranscriptId, skillIds, edited }
    fresh := ⟨member.orgId, member.userId, sourceTranscriptId, skillIds, title, body, edited,
      parseDt platform (data.get "created_at")⟩ }

def summaryPlan (library : Library) (transcriptMap skillMap : Table Id Id) (file : (_ : String) × Content) :
    Option (Plan Summary) :=
  match described "summaries/" files file.1 with
  | some (some bodyRaw) => (identified platform file.2).bind fun its =>
    bodyRaw.decoded.map (plannedSummary platform member library transcriptMap skillMap its.1 its.2)
  | _ => none

end Planning

section Following

variable {platform : Platform} {newId : Nat → Id} {member : Member} {files : Files} {library : Library}
  {transcriptMap skillMap : Table Id Id}

theorem judgeTranscript_follows (part : Part Transcript) (file : (_ : String) × Content) :
    Follows (ownTranscript member) part.rows (transcriptPlan platform member library file)
      (judgeTranscript platform newId member true library part file.1 file.2) := by
  unfold transcriptPlan judgeTranscript
  cases named : isTranscriptPath file.1 with
  | false => exact .inl rfl
  | true =>
    cases read : identified platform file.2 with
    | none => exact .inr rfl
    | some its =>
      obtain ⟨id, data⟩ := its
      show _ = Plan.verdict _ _ _
      simp only [plannedTranscript, Plan.verdict, ownTranscript, bne]
      cases part.rows.find id with
      | none => rfl
      | some row =>
        cases org : row.orgId == member.orgId <;> cases user : row.ownerUserId == member.userId <;> simp [org, user]

def Readable (folder : String) (files : Files) (path : String) : Prop :=
  ∀ bodyRaw, described folder files path = some (some bodyRaw) → bodyRaw.decoded.isSome = true

theorem judgeSkill_follows (part : Part Skill) (file : (_ : String) × Content) (readable : Readable "skills/" files file.1) :
    ∃ verdict, judgeSkill platform newId member files true part file.1 file.2 = some verdict ∧
      Follows (isOwnSkill member) part.rows (skillPlan platform member files file) verdict := by
  unfold skillPlan judgeSkill
  cases its : described "skills/" files file.1 with
  | none => exact ⟨_, rfl, .inl rfl⟩
  | some body =>
    cases body with
    | none => exact ⟨_, rfl, .inr rfl⟩
    | some bodyRaw =>
      cases read : identified platform file.2 with
      | none => exact ⟨_, rfl, .inr rfl⟩
      | some data =>
        obtain ⟨id, data⟩ := data
        obtain ⟨text, decoded⟩ := Option.isSome_iff_exists.mp (readable _ its)
        simp only [Option.bind_some, Bool.true_and, decoded, Option.map_some]
        cases (data.get "catalog").isText "shared" with
        | true => exact ⟨_, rfl, .inr rfl⟩
        | false =>
          refine ⟨_, rfl, ?_⟩
          show _ = Plan.verdict _ _ _
          simp only [plannedSkill, Plan.verdict, isOwnSkill, bne]
          cases part.rows.find id with
          | none => rfl
          | some row =>
            cases scope : row.scope == .self <;> cases user : row.ownerUserId == some member.userId <;> simp [scope, user]

theorem judgeSummary_follows (part : Part Summary) (file : (_ : String) × Content)
    (readable : Readable "summaries/" files file.1) :
    ∃ verdict, judgeSummary platform newId member files true library transcriptMap skillMap part file.1 file.2 = some verdict ∧
      Follows (ownSummary member) part.rows (summaryPlan platform member files library transcriptMap skillMap file) verdict := by
  unfold summaryPlan judgeSummary
  cases its : described "summaries/" files file.1 with
  | none => exact ⟨_, rfl, .inl rfl⟩
  | some body =>
    cases body with
    | none => exact ⟨_, rfl, .inr rfl⟩
    | some bodyRaw =>
      cases read : identified platform file.2 with
      | none => exact ⟨_, rfl, .inr rfl⟩
      | some data =>
        obtain ⟨id, data⟩ := data
        obtain ⟨text, decoded⟩ := Option.isSome_iff_exists.mp (readable _ its)
        simp only [Option.bind_some, decoded, Option.map_some]
        refine ⟨_, rfl, ?_⟩
        show _ = Plan.verdict _ _ _
        simp only [plannedSummary, Plan.verdict, ownSummary, bne]
        cases part.rows.find id with
        | none => rfl
        | some row =>
          cases org : row.orgId == member.orgId <;> cases user : row.ownerUserId == member.userId <;> simp [org, user]

end Following

end IdigestHub.Backup
