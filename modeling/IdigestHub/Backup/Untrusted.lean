import IdigestHub.Foundation.CodePoints
import IdigestHub.Foundation.Decimal
import IdigestHub.Foundation.Intake
import IdigestHub.Foundation.Text

/-! The restore of an arbitrary upload, down to the texts that the database does not take. -/

set_option autoImplicit false

namespace IdigestHub.Backup.Untrusted

open Foundation Foundation.Intake
open Foundation.CodePoints (Point Text ofChars chars)

abbrev Bytes : Type := List UInt8

def literal (text : String) : Text := ofChars text.toList

/-- What `json.loads` returns. -/
inductive Value where
  | null
  | bool (value : Bool)
  | number (value : Decimal)
  | text (text : Text)
  | list (items : List Value)
  | object (fields : List (Text × Value))

abbrev Fields : Type := List (Text × Value)

def Fields.get (fields : Fields) (key : String) : Value :=
  ((fields.find? fun field => field.1 = literal key).map Prod.snd).getD .null

def Value.truthy : Value → Bool
  | .null => false
  | .bool value => value
  | .number (.finite coefficient _) => coefficient != 0
  | .number _ => true
  | .text its => !its.isEmpty
  | .list items => !items.isEmpty
  | .object fields => !fields.isEmpty

def Value.isText (value : Value) (text : Text) : Bool :=
  match value with
  | .text its => its == text
  | _ => false

/-- `value == 1`. -/
def Value.isOne : Value → Bool
  | .number (.finite coefficient exponent) => coefficient * 10 ^ exponent.toNat == 10 ^ (-exponent).toNat
  | .bool value => value
  | _ => false

/-- `json.loads(raw.decode("utf-8"))`: a `UnicodeDecodeError` or a `JSONDecodeError` is caught, others are not. -/
inductive Loaded where
  | value (value : Value)
  | unreadable
  | raises

/-- `datetime.fromisoformat`: a `ValueError`, or a time, which may be out of range in UTC. -/
inductive Dated where
  | invalid
  | moment (utc : Option Int)

structure ZipEntry where
  filename : Text
  isDir : Bool
  content : Bytes

/-- A zip archive that is read to its end, a `BadZipFile`, or another of the documented errors. -/
inductive Zipped where
  | entries (entries : List ZipEntry)
  | badZipFile
  | raises

structure TarMember where
  name : Text
  isFile : Bool
  content : Option Bytes

/-- What the language and its library make of bytes and texts. -/
structure Readers where
  zip : Bytes → Zipped
  tar : Bytes → Option (List TarMember)
  loads : Bytes → Loaded
  decode : Bytes → Option (List Char)
  str : Value → Option Text
  dumps : Value → Option Text
  fromisoformat : Text → Dated
  now : Int

abbrev Files : Type := Table Text Bytes

abbrev File : Type := (_ : Text) × Bytes

structure Audio where
  orgId : Text
  ownerUserId : Text

structure Skill where
  scopeSelf : Bool
  orgId : Option Text
  ownerUserId : Option Text
  name : Text
  body : Text
  createdAt : Int
  updatedAt : Int

/-- `utterances` are the characters that are encrypted. -/
structure Transcript where
  orgId : Text
  ownerUserId : Text
  sourceAudioId : Option Text
  title : Option Text
  utterances : List Char
  createdAt : Int

structure Summary where
  orgId : Text
  ownerUserId : Text
  sourceTranscriptId : Option Text
  skillIds : List Text
  title : Option Text
  body : List Char
  edited : Bool
  createdAt : Int

structure Library where
  audios : Table Text Audio
  skills : Table Text Skill
  transcripts : Table Text Transcript
  summaries : Table Text Summary

structure Member where
  userId : Text
  orgId : Text

section Texts

/-- The database takes texts without NUL and without lone surrogates. -/
def takes (text : Text) : Bool :=
  text.all fun point =>
    match point with
    | .char c => c != '\x00'
    | .surrogate _ => false

/-- `String(width)`. -/
def column (width : Nat) (text : Text) : Bool := takes text && text.length ≤ width

def idWidth : Nat := 36

def titleWidth : Nat := 255

def isSpace : Point → Bool
  | .char c => Text.isSpace c
  | .surrogate _ => false

def strip (text : Text) : Text := ((text.dropWhile isSpace).reverse.dropWhile isSpace).reverse

def asciiLower : Point → Point
  | .char c => .char c.toLower
  | point => point

def replaceAll (from_ : Char) (with_ : Text) (text : Text) : Text :=
  text.flatMap fun point => if point = .char from_ then with_ else [point]

end Texts

section Unpacking

variable (readers : Readers)

/-- `name.replace("\\", "/")`. -/
def slashed (name : Text) : Text := replaceAll '\\' [.char '/'] name

def unpackTgz (raw : Bytes) : Option Files :=
  (readers.tar raw).map fun members => members.foldl (fun out member =>
    match member.content with
    | some content => if member.isFile then out.assign (slashed member.name) content else out
    | none => out) ∅

def unpackZip (raw : Bytes) : Option Files :=
  match readers.zip raw with
  | .entries entries => some (entries.foldl (fun out entry =>
      if entry.isDir then out else out.assign (slashed entry.filename) entry.content) ∅)
  | .badZipFile => unpackTgz readers raw
  | .raises => none

def unpack (raw : Bytes) (filename : Option Text) : Option Files :=
  let name := (filename.getD []).map asciiLower
  if (literal ".tar.gz").isSuffixOf name || (literal ".tgz").isSuffixOf name || raw.take 2 = [0x1f, 0x8b] then
    unpackTgz readers raw
  else unpackZip readers raw

end Unpacking

section Reading

variable (readers : Readers)

/-- `str(value)`. -/
def spell : Value → Option Text
  | .text text => some text
  | value => readers.str value

def identified (raw : Bytes) : Read (Text × Fields) :=
  match readers.loads raw with
  | .raises => .raises
  | .value (.object fields) =>
    if (Fields.get fields "id").truthy then do
      let id ← orRaises (spell readers (Fields.get fields "id"))
      .draft (id, fields)
    else .skipped
  | .value _ | .unreadable => .skipped

/-- `_parse_dt`, of a value that may be no text. `astimezone` raises what is not caught. -/
def parseDt : Value → Option Int
  | .text text =>
    if text = [] then some readers.now
    else
      match readers.fromisoformat (replaceAll 'Z' (literal "+00:00") text) with
      | .invalid => some readers.now
      | .moment utc => utc
  | _ => some readers.now

/-- `title.strip() or None`, of a value that may be no text. -/
def restoredTitle (fields : Fields) : Option Text :=
  match Fields.get fields "title" with
  | .text title => (some (strip title)).filter (· != [])
  | _ => none

/-- `str(meta.get("name") or "Skill").strip() or "Skill"`. -/
def restoredName (fields : Fields) : Option Text :=
  let given := Fields.get fields "name"
  (if given.truthy then spell readers given else some (literal "Skill")).map fun name =>
    if strip name = [] then literal "Skill" else strip name

def transcriptBlob (fields : Fields) : Value :=
  match Fields.get fields "worker_response" with
  | .object response => .object response
  | _ => if fields.any fun field => field.1 == literal "utterances" then Fields.get fields "utterances" else .list []

/-- A `.meta.json` of the folder with the body that lies beside it. -/
def described (folder : String) (files : Files) (path : Text) : Option (Option Bytes) :=
  if (literal folder).isPrefixOf path && (literal ".meta.json").isSuffixOf path then
    some (files.find (path.take (path.length - 10) ++ literal ".md"))
  else none

end Reading

structure SkillDraft where
  id : Text
  name : Text
  body : Text
  createdAt : Int
  updatedAt : Int

structure TranscriptDraft where
  id : Text
  title : Option Text
  utterances : List Char
  createdAt : Int
  sourceAudioId : Option Text

structure SummaryDraft where
  id : Text
  title : Option Text
  body : List Char
  edited : Bool
  createdAt : Int
  source : Option Text
  skillIds : List Text

section Kinds

variable (readers : Readers) (member : Member) (files : Files) (sameContext : Bool)

/-- Ids that go to `db.get`. -/
def sought (ids : List Text) : Bool := ids.all takes

/-- One turn of `_restore_skills`, up to the row. -/
def readSkill (file : File) : Read SkillDraft :=
  match described "skills/" files file.1 with
  | none => .ignored
  | some none => .skipped
  | some (some bodyRaw) => do
    let (id, fields) ← identified readers file.2
    if sameContext && (Fields.get fields "catalog").isText (literal "shared") then .skipped
    else do
      let body ← orRaises (readers.decode bodyRaw)
      let name ← orRaises (restoredName readers fields)
      let createdAt ← orRaises (parseDt readers (Fields.get fields "created_at"))
      let updatedAt ← orRaises (parseDt readers (Fields.get fields "updated_at"))
      if sameContext && !sought [id] then .raises else .draft ⟨id, name, ofChars body, createdAt, updatedAt⟩

def skillFits (row : Skill) : Bool := column titleWidth row.name && takes row.body

def skillKind : Kind File SkillDraft Skill Text where
  read := readSkill readers files sameContext
  key := SkillDraft.id
  own row := row.scopeSelf && row.ownerUserId == some member.userId
  fresh draft := ⟨true, some member.orgId, some member.userId, draft.name, draft.body, draft.createdAt, draft.updatedAt⟩
  rewrite draft row := { row with name := draft.name, body := draft.body, updatedAt := draft.updatedAt }
  keyFits := column idWidth
  fits := skillFits
  storable draft := column titleWidth draft.name && takes draft.body
  own_rewrite _ _ := rfl
  fits_fresh _ := rfl
  fits_rewrite _ _ := rfl

def Value.given : Value → Option Text
  | .text its => (some its).filter (· != [])
  | _ => none

def validAudio (audios : Table Text Audio) (audioId : Option Text) : Option Text :=
  audioId.filter fun id => (audios.find id).any fun audio => audio.orgId == member.orgId && audio.ownerUserId == member.userId

/-- One turn of `_restore_transcripts`, up to the row. -/
def readTranscript (audios : Table Text Audio) (file : File) : Read TranscriptDraft :=
  if (literal "transcripts/").isPrefixOf file.1 && (literal ".json").isSuffixOf file.1 then do
    let (id, fields) ← identified readers file.2
    let blob ← orRaises (readers.dumps (transcriptBlob fields))
    -- a lone surrogate cannot be encrypted
    let utterances ← orRaises (chars blob)
    let createdAt ← orRaises (parseDt readers (Fields.get fields "created_at"))
    let audioId := (Fields.get fields "source_audio_id").given
    if !sought audioId.toList || sameContext && !sought [id] then .raises
    else .draft ⟨id, restoredTitle fields, utterances, createdAt, validAudio member audios audioId⟩
  else .ignored

def transcriptKind (audios : Table Text Audio) : Kind File TranscriptDraft Transcript Text where
  read := readTranscript readers member sameContext audios
  key := TranscriptDraft.id
  own row := row.orgId == member.orgId && row.ownerUserId == member.userId
  fresh draft := ⟨member.orgId, member.userId, if sameContext then draft.sourceAudioId else none, draft.title, draft.utterances,
    draft.createdAt⟩
  rewrite draft row := { row with title := draft.title, utterances := draft.utterances, sourceAudioId := draft.sourceAudioId }
  keyFits := column idWidth
  fits row := row.title.all (column titleWidth)
  storable draft := draft.title.all (column titleWidth)
  own_rewrite _ _ := rfl
  fits_fresh _ := rfl
  fits_rewrite _ _ := rfl

/-- What the summaries refer to: the rows that are there, and the ids that the parts before have mapped. -/
structure Targets where
  transcripts : Table Text Transcript
  skills : Table Text Skill
  transcriptMap : Table Text Text
  skillMap : Table Text Text

def resolveTranscriptId (targets : Targets) (sourceId : Option Text) : Option Text :=
  sourceId.bind fun id =>
    if sameContext then
      if (targets.transcripts.find id).any fun row => row.orgId == member.orgId && row.ownerUserId == member.userId then some id
      else (targets.transcriptMap.find id).filter (· != [])
    else targets.transcriptMap.find id

def resolveSkillIds (targets : Targets) (skillIds : List Text) : List Text :=
  skillIds.filterMap fun id =>
    if sameContext && (targets.skills.find id).any fun row => row.scopeSelf && row.ownerUserId == some member.userId then some id
    else targets.skillMap.find id

/-- The texts of `meta.get("skill_ids")`. -/
def skillTexts : Value → List Text
  | .list items => items.filterMap fun item =>
    match item with
    | .text text => some text
    | _ => none
  | _ => []

/-- One turn of `_restore_summaries`, up to the row. -/
def readSummary (file : File) : Read SummaryDraft :=
  match described "summaries/" files file.1 with
  | none => .ignored
  | some none => .skipped
  | some (some bodyRaw) => do
    let (id, fields) ← identified readers file.2
    let body ← orRaises (readers.decode bodyRaw)
    let createdAt ← orRaises (parseDt readers (Fields.get fields "created_at"))
    let source := (Fields.get fields "source_transcript_id").given
    let skillIds := skillTexts (Fields.get fields "skill_ids")
    if sameContext && !sought (id :: source.toList ++ skillIds) then .raises
    else .draft ⟨id, restoredTitle fields, body, (Fields.get fields "edited").truthy, createdAt, source, skillIds⟩

def summaryKind (targets : Targets) : Kind File SummaryDraft Summary Text where
  read := readSummary readers files sameContext
  key := SummaryDraft.id
  own row := row.orgId == member.orgId && row.ownerUserId == member.userId
  fresh draft := ⟨member.orgId, member.userId, resolveTranscriptId member sameContext targets draft.source,
    resolveSkillIds member sameContext targets draft.skillIds, draft.title, draft.body, draft.edited, draft.createdAt⟩
  rewrite draft row := { row with
    title := draft.title
    body := draft.body
    sourceTranscriptId := resolveTranscriptId member sameContext targets draft.source
    skillIds := resolveSkillIds member sameContext targets draft.skillIds
    edited := draft.edited }
  keyFits := column idWidth
  fits row := row.title.all (column titleWidth)
  storable draft := draft.title.all (column titleWidth)
  own_rewrite _ _ := rfl
  fits_fresh _ := rfl
  fits_rewrite _ _ := rfl

theorem summaryKind_read (targets : Targets) :
    (summaryKind readers member files sameContext targets).read = readSummary readers files sameContext := rfl

end Kinds

inductive Code where
  | forbidden | payloadTooLarge | validationError
  deriving DecidableEq

/-- An `ApiError`, or another exception: status 500. -/
inductive Failure where
  | refused (code : Code)
  | raised
  deriving DecidableEq

inductive Mode where
  | restore | import_
  deriving DecidableEq

structure RestoreReport where
  mode : Mode
  skills : Counters
  transcripts : Counters
  summaries : Counters

structure Touched where
  skills : List Text
  transcripts : List Text
  summaries : List Text

structure Restored where
  report : RestoreReport
  touched : Touched
  library : Library

def maxUploadBytesCap : Nat := 1073741824

section Restoring

variable (readers : Readers) (newId : Nat → Text) (member : Member)

def orRaise {A : Type} (value : Option A) : Except Failure A := value.elim (.error .raised) .ok

def loadManifest (files : Files) : Except Failure Fields :=
  match (files.find (literal "manifest.json")).map readers.loads with
  | some .raises => .error .raised
  | some (.value (.object manifest)) =>
    if (Fields.get manifest "version").isOne then .ok manifest else .error (.refused .validationError)
  | _ => .error (.refused .validationError)

/-- `name in (manifest.get("includes") or [])`; a number or a truth value raises. -/
def includes (manifest : Fields) (name : String) : Option Bool :=
  let given := Fields.get manifest "includes"
  if given.truthy = false then some false
  else
    match given with
    | .list items => some (items.any (·.isText (literal name)))
    | .text text => some (text.tails.any (literal name).isPrefixOf)
    | .object fields => some (fields.any fun field => field.1 == literal name)
    | _ => none

/-- The archive comes from the account and the organization that it is restored in. -/
def isSameContext (manifest : Fields) : Bool :=
  (Fields.get manifest "user_id").isText member.userId && (Fields.get manifest "org_id").isText member.orgId

def restorePart {D R : Type} (manifest : Fields) (name : String) (kind : Kind File D R Text) (files : Files) (rows : Table Text R)
    (drawn : Nat) : Except Failure (Progress R Text × Table Text R) := do
  if ← orRaise (includes manifest name) then
    orRaise (intake kind (isSameContext member manifest) newId rows drawn files.entries)
  else return (.start rows drawn, rows)

def targets (skills : Progress Skill Text × Table Text Skill) (transcripts : Progress Transcript Text × Table Text Transcript) :
    Targets := ⟨transcripts.2, skills.2, transcripts.1.map, skills.1.map⟩

/-- The three parts, one after the other. The last one is flushed with the commit. -/
def restoreFiles (files : Files) (manifest : Fields) (library : Library) : Except Failure Restored := do
  let sameContext := isSameContext member manifest
  let skills ← restorePart newId member manifest "skills" (skillKind readers member files sameContext) files library.skills 0
  let transcripts ← restorePart newId member manifest "transcripts"
    (transcriptKind readers member sameContext library.audios) files
    library.transcripts skills.1.drawn
  let summaries ← restorePart newId member manifest "summaries"
    (summaryKind readers member files sameContext (targets skills transcripts)) files library.summaries transcripts.1.drawn
  return {
    report := ⟨if sameContext then .restore else .import_, skills.1.counters, transcripts.1.counters, summaries.1.counters⟩
    touched := ⟨skills.1.touched, transcripts.1.touched, summaries.1.touched⟩
    library := ⟨library.audios, skills.2, transcripts.2, summaries.2⟩ }

def restoreBackup (raw : Bytes) (filename : Option Text) (library : Library) : Except Failure Restored :=
  if maxUploadBytesCap < raw.length then .error (.refused .payloadTooLarge)
  else do
    let files ← orRaise (unpack readers raw filename)
    let manifest ← loadManifest readers files
    restoreFiles readers newId member files manifest library

/-- The endpoint, for a user with or without an organization. -/
def uploadBackupRestore (member : Option Member) (raw : Bytes) (filename : Option Text) (library : Library) :
    Except Failure Restored :=
  match member with
  | none => .error (.refused .forbidden)
  | some member => restoreBackup readers newId member raw filename library

/-- The stored library after the request: a failure rolls it back. -/
def stored (library : Library) : Except Failure Restored → Library
  | .ok restored => restored.library
  | .error _ => library

end Restoring

end IdigestHub.Backup.Untrusted
