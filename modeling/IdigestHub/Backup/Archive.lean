import IdigestHub.Dispatcher.Outcomes
import IdigestHub.Foundation.Table
import IdigestHub.Foundation.Text
import IdigestHub.Offboarding.Schema
import Mathlib.Data.List.Sort

/-! The archive of a profile: what `build_backup` puts into which file. A file is what its reader makes of
it, a JSON value or a text. -/

set_option autoImplicit false

namespace IdigestHub.Backup

open Foundation
open Offboarding (ObjectType SkillScope)

/-- A primary key; an archive can name any. -/
abbrev Id : Type := String

structure Audio where
  orgId : Id
  ownerUserId : Id
  originalFilename : String
  deriving DecidableEq

/-- `payload` is the decoded and decrypted blob. -/
structure Transcript where
  orgId : Id
  ownerUserId : Id
  sourceAudioId : Option Id
  title : Option String
  payload : Json
  hasToneAnalytics : Bool
  createdAt : Nat
  deriving DecidableEq

structure Summary where
  orgId : Id
  ownerUserId : Id
  sourceTranscriptId : Option Id
  skillIds : List String
  title : Option String
  body : String
  edited : Bool
  createdAt : Nat
  deriving DecidableEq

structure Skill where
  scope : SkillScope
  orgId : Option Id
  ownerUserId : Option Id
  name : String
  body : String
  createdAt : Nat
  updatedAt : Nat
  deriving DecidableEq

structure Share where
  objectType : ObjectType
  objectId : Id
  toUserId : Id
  deriving DecidableEq

structure Library where
  audios : Table Id Audio
  transcripts : Table Id Transcript
  summaries : Table Id Summary
  skills : Table Id Skill
  shares : Table Id Share

/-- The context of a member, after `require_org`. -/
structure Member where
  userId : Id
  email : String
  orgId : Id
  isOrgAdmin : Bool
  isInstanceAdmin : Bool

/-- What the program takes from its surroundings: the language, the letters and digits of `\w`, and the clock with its texts. -/
structure Platform where
  python : Python
  isWord : Char → Bool
  today : String
  now : Nat
  isoformat : Nat → String
  fromisoformat : String → Option Nat

/-- The contents of a file, as the only reader of its name takes it; `unreadable` is not UTF-8, or not JSON. -/
inductive Content where
  | json (value : Json)
  | text (body : String)
  | unreadable

/-- `json.loads(raw.decode("utf-8"))`. -/
def Content.loads : Content → Option Json
  | .json value => some value
  | _ => none

/-- `raw.decode("utf-8")`. -/
def Content.decoded : Content → Option String
  | .text body => some body
  | _ => none

abbrev Files : Type := Table String Content

/-- The files of an archive. `{stem}` is `safe_filename`. -/
inductive Slot where
  | transcript (stem : String)
  | summaryBody (stem : String)
  | summaryMeta (stem : String)
  | skillBody (stem : String)
  | skillMeta (stem : String)
  | manifest
  deriving DecidableEq

def Slot.path : Slot → String
  | .transcript stem => "transcripts/" ++ stem ++ ".json"
  | .summaryBody stem => "summaries/" ++ stem ++ ".md"
  | .summaryMeta stem => "summaries/" ++ stem ++ ".meta.json"
  | .skillBody stem => "skills/" ++ stem ++ ".md"
  | .skillMeta stem => "skills/" ++ stem ++ ".meta.json"
  | .manifest => "manifest.json"

section Texts

/-- The ways in which `_MARKDOWN_FENCE` opens; no text begins with two of them. -/
def fenceOpenings : List (List Char) :=
  ["```markdown\r\n", "```markdown\n", "```md\r\n", "```md\n", "```\r\n", "```\n"].map String.toList

/-- The ways in which it closes; the lazy group leaves the carriage return to the second. -/
def fenceClosings : List (List Char) := ["\r\n```", "\n```"].map String.toList

def unwrapMarkdownFence (text : String) : String :=
  let trimmed := Text.trimBoth Text.isSpace text.toList
  match fenceOpenings.find? (·.isPrefixOf trimmed) with
  | none => text
  | some opening =>
    let inner := trimmed.drop opening.length
    match fenceClosings.find? (·.isSuffixOf inner) with
    | none => text
    | some closing => .ofList (inner.take (inner.length - closing.length))

variable (platform : Platform)

def safeFilename (name : String) : String :=
  let safe := name.toList.filter fun c => platform.isWord c || Text.isSpace c || c == '.' || c == '-'
  let base := Text.strip (.ofList safe)
  .ofList ((if base = "" then "download" else base).toList.take 200)

/-- `Path(name).stem`: the last component, less what follows its last dot. -/
def pathStem (name : String) : String :=
  let component := (((Text.split '/' name).filter fun part => part != "" && part != ".").getLast?.getD "").toList
  let suffix := (component.reverse.takeWhile (· != '.')).length
  let dot := component.length - (suffix + 1)
  if component.contains '.' && 0 < dot && dot + 1 < component.length then .ofList (component.take dot) else .ofList component

def shortId (id : Id) : String := .ofList (id.toList.take 8)

def shownTitle (title : Option String) : Option String := (title.map Text.strip).filter (· != "")

def transcriptDisplayTitle (id : Id) (row : Transcript) (sourceFilename : Option String) : String :=
  (shownTitle row.title).getD (((sourceFilename.filter (· != "")).map pathStem).getD ("transcript-" ++ shortId id))

def summaryDisplayTitle (id : Id) (row : Summary) (source : Option (Id × Transcript)) (sourceFilename : Option String) : String :=
  (shownTitle row.title).getD ((source.map fun source =>
    transcriptDisplayTitle source.1 source.2 sourceFilename ++ "-" ++ shortId id).getD (shortId id))

end Texts

section Utterances

variable (python : Python)

/-- `_coerce_float`. An integer that is too large raises. -/
def coerceFloat : Json → Option (Option Decimal)
  | .num value => (python.float (.num value)).map some
  | .bool value => (python.float (.bool value)).map some
  | .str text => some (if Text.strip text = "" then none else python.float (.str text))
  | _ => some none

def normalizeTime (row : Dict) (key : String) : Option Dict :=
  (coerceFloat python (row.get key)).map fun coerced =>
    match coerced with
    | some value => row.set key (.num value)
    | none => row.pop key

def normalizeUtterances (utterances : List Json) : Option (List Json) :=
  (utterances.filterMap Json.asDict).mapM fun item =>
    (normalizeTime python item "start").bind fun row => (normalizeTime python row "end").map Json.obj

def extractUtterances : Json → Option (List Json)
  | .arr items => normalizeUtterances python items
  | .obj fields =>
    match Dict.get fields "transcript" with
    | .arr items => normalizeUtterances python items
    | _ => some []
  | _ => some []

def isWorkerPayload : Json → Bool
  | .obj fields =>
    match Dict.get fields "transcript" with
    | .arr _ => true
    | _ => false
  | _ => false

end Utterances

def optText : Option String → Json
  | some text => .str text
  | none => .null

section Building

variable (platform : Platform) (member : Member) (library : Library)

/-- `list_filter` with the hidden rows: `library_visibility_filters` for a model. -/
def visible (objectType : ObjectType) (id orgId ownerUserId : Id) : Bool :=
  member.isInstanceAdmin || orgId == member.orgId && (member.isOrgAdmin || (ownerUserId == member.userId ||
    (library.shares.select fun _ share =>
      share.objectType == objectType && share.objectId == id && share.toUserId == member.userId) != []))

def listed {R : Type} (table : Table Id R) (shown : Id → R → Bool) (createdAt : R → Nat) : List (Id × R) :=
  ((table.entries.map fun row => (row.1, row.2)).filter fun row => shown row.1 row.2).insertionSort fun a b =>
    createdAt b.2 ≤ createdAt a.2

def listedTranscripts : List (Id × Transcript) :=
  listed library.transcripts (fun id row => visible member library .transcript id row.orgId row.ownerUserId) Transcript.createdAt

def listedSummaries : List (Id × Summary) :=
  listed library.summaries (fun id row => visible member library .summary id row.orgId row.ownerUserId) Summary.createdAt

inductive Catalog where
  | self | shared
  deriving DecidableEq

def Catalog.text : Catalog → String
  | .self => "self"
  | .shared => "shared"

def isOwnSkill (row : Skill) : Bool := row.scope == .self && row.ownerUserId == some member.userId

/-- `_visible_skills`, of the catalogs that go into an archive. -/
def listedSkills : List (Id × Skill × Catalog) :=
  let rows := library.skills.entries.map fun row => (row.1, row.2)
  ((rows.filter fun row => isOwnSkill member row.2).map fun row => (row.1, row.2, .self)) ++
    ((rows.filter fun row => (library.shares.select fun _ share =>
      share.objectType == .skill && share.objectId == row.1 && share.toUserId == member.userId) != []).map
        fun row => (row.1, row.2, .shared))

def sourceFilename (sourceAudioId : Option Id) : Option String :=
  ((sourceAudioId.filter (· != "")).bind library.audios.find).map Audio.originalFilename

def transcriptStem (row : Id × Transcript) : String :=
  safeFilename platform (row.1 ++ "_" ++ transcriptDisplayTitle row.1 row.2 (sourceFilename library row.2.sourceAudioId))

/-- The source of a summary with its name, as `summary_source_context` gives them. -/
def summaryStem (row : Id × Summary) : String :=
  let source := (row.2.sourceTranscriptId.filter (· != "")).bind fun id => (library.transcripts.find id).map fun its => (id, its)
  let filename := source.bind fun source => sourceFilename library source.2.sourceAudioId
  safeFilename platform (row.1 ++ "_" ++ summaryDisplayTitle row.1 row.2 source filename)

def skillStem (row : Id × Skill × Catalog) : String := safeFilename platform (row.1 ++ "_" ++ row.2.1.name)

def transcriptPayload (row : Id × Transcript) : Option Json :=
  (extractUtterances platform.python row.2.payload).map fun utterances =>
    .obj ([("id", .str row.1),
      ("title", optText row.2.title),
      ("display_title", .str (transcriptDisplayTitle row.1 row.2 (sourceFilename library row.2.sourceAudioId))),
      ("created_at", .str (platform.isoformat row.2.createdAt)),
      ("source_audio_id", optText row.2.sourceAudioId),
      ("utterances", .arr utterances)] ++
      if isWorkerPayload row.2.payload then [("worker_response", row.2.payload)] else [])

def summaryMeta (row : Id × Summary) : Json :=
  let source := (row.2.sourceTranscriptId.filter (· != "")).bind fun id => (library.transcripts.find id).map fun its => (id, its)
  let filename := source.bind fun source => sourceFilename library source.2.sourceAudioId
  .obj [("id", .str row.1),
    ("title", optText row.2.title),
    ("display_title", .str (summaryDisplayTitle row.1 row.2 source filename)),
    ("created_at", .str (platform.isoformat row.2.createdAt)),
    ("source_transcript_id", optText row.2.sourceTranscriptId),
    ("skill_ids", .arr (row.2.skillIds.map Json.str)),
    ("edited", .bool row.2.edited)]

def scopeText : SkillScope → String
  | .base => "base"
  | .org => "org"
  | .self => "self"

def skillMeta (row : Id × Skill × Catalog) : Json :=
  .obj [("id", .str row.1),
    ("name", .str row.2.1.name),
    ("scope", .str (scopeText row.2.1.scope)),
    ("created_at", .str (platform.isoformat row.2.1.createdAt)),
    ("updated_at", .str (platform.isoformat row.2.1.updatedAt)),
    ("catalog", .str row.2.2.text)]

structure Included where
  transcripts : Bool
  summaries : Bool
  skills : Bool

def addTranscripts (files : Files) : Option Files :=
  (listedTranscripts member library).foldlM (fun files row => (transcriptPayload platform library row).map fun payload =>
    files.assign (Slot.path (.transcript (transcriptStem platform library row))) (.json payload)) files

def addSummaries (files : Files) : Files :=
  (listedSummaries member library).foldl (fun files row =>
    let stem := summaryStem platform library row
    (files.assign (Slot.path (.summaryBody stem)) (.text (unwrapMarkdownFence row.2.body))).assign
      (Slot.path (.summaryMeta stem)) (.json (summaryMeta platform library row))) files

def addSkills (files : Files) : Files :=
  (listedSkills member library).foldl (fun files row =>
    let stem := skillStem platform row
    (files.assign (Slot.path (.skillBody stem)) (.text row.2.1.body)).assign
      (Slot.path (.skillMeta stem)) (.json (skillMeta platform row))) files

def countJson (count : Nat) : Json := .num (.finite count 0)

def manifest (included : Included) : Json :=
  let part (asked : Bool) (name : String) : List Json := if asked then [.str name] else []
  let total (asked : Bool) (name : String) (count : Nat) : Dict := if asked then [(name, countJson count)] else []
  .obj ([("version", countJson 1),
    ("created_at", .str platform.today),
    ("user_id", .str member.userId),
    ("email", .str member.email),
    ("org_id", .str member.orgId),
    ("includes", .arr (part included.transcripts "transcripts" ++ part included.summaries "summaries" ++
      part included.skills "skills"))] ++
    total included.transcripts "transcript_count" (listedTranscripts member library).length ++
    total included.summaries "summary_count" (listedSummaries member library).length ++
    total included.skills "skill_count" (listedSkills member library).length)

/-- `build_backup`, before it packs the files. An utterance that cannot be read raises. -/
def buildBackup (included : Included) : Option Files := do
  let files : Files := ∅
  let files ← if included.transcripts then addTranscripts platform member library files else some files
  let files := if included.summaries then addSummaries platform member library files else files
  let files := if included.skills then addSkills platform member library files else files
  return files.assign (Slot.path .manifest) (.json (manifest platform member library included))

end Building

end IdigestHub.Backup
