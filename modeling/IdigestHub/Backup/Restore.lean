import IdigestHub.Backup.Archive
import IdigestHub.Foundation.Fallible

/-! `restore_backup`: the files of an archive become rows again, under their own ids in the account that they come
from, under new ones elsewhere. -/

set_option autoImplicit false

namespace IdigestHub.Backup

open Foundation Foundation.Fallible

structure Counters where
  created : Nat
  updated : Nat
  skipped : Nat

/-- What a file comes to: it is of another part, it is left out, it rewrites a row, or it makes a new one. -/
inductive Verdict (R : Type) where
  | ignored
  | skipped
  | updated (id : Id) (row : R)
  | created (oldId newId : Id) (row : R)

/-- A part on its way: `rows` are what `db.get` finds, `pending` what was added since the last flush, and `drawn` counts the
new ids. -/
structure Part (R : Type) where
  rows : Table Id R
  pending : List (Id × R)
  counters : Counters
  map : Table Id Id
  drawn : Nat

def Part.start {R : Type} (rows : Table Id R) (drawn : Nat) : Part R := ⟨rows, [], ⟨0, 0, 0⟩, ∅, drawn⟩

def Part.take {R : Type} (part : Part R) : Verdict R → Part R
  | .ignored => part
  | .skipped => { part with counters := { part.counters with skipped := part.counters.skipped + 1 } }
  | .updated id row => { part with
      rows := part.rows.modify id fun _ => row
      map := part.map.assign id id
      counters := { part.counters with updated := part.counters.updated + 1 } }
  | .created oldId newId row => { part with
      pending := part.pending ++ [(newId, row)]
      map := part.map.assign oldId newId
      counters := { part.counters with created := part.counters.created + 1 }
      drawn := part.drawn + 1 }

/-- The inserts of a flush: a key that is taken makes it raise. -/
def insertAll {R : Type} (rows : Table Id R) : List (Id × R) → Option (Table Id R)
  | [] => some rows
  | (id, row) :: rest => if (rows.find id).isSome then none else insertAll (rows.put id row) rest

def Part.flush {R : Type} (part : Part R) : Option (Table Id R) := insertAll part.rows part.pending

/-- `for path, raw in files.items()`. -/
def Part.run {R : Type} (judge : Part R → String → Content → Option (Verdict R)) (files : Files) (part : Part R) :
    Option (Part R) :=
  files.entries.foldlM (fun part file => (judge part file.1 file.2).map part.take) part

section Reading

variable (platform : Platform)

def startsWith (start text : String) : Bool := start.toList.isPrefixOf text.toList

def endsWith (ending text : String) : Bool := ending.toList.isSuffixOf text.toList

/-- `path[: -len(ending)]`. -/
def dropEnding (ending path : String) : String := .ofList (path.toList.take (path.length - ending.length))

/-- The object of a file with its id, as `str(data["id"])` spells it. -/
def identified (raw : Content) : Option (Id × Dict) :=
  (raw.loads.bind Json.asDict).bind fun data =>
    if (data.get "id").truthy then some (platform.python.text (data.get "id"), data) else none

def parseDt : Json → Nat
  | .str text => if text = "" then platform.now else (platform.fromisoformat text).getD platform.now
  | _ => platform.now

/-- `title.strip() or None`, of a value that may be no text. -/
def restoredTitle (data : Dict) : Option String :=
  match data.get "title" with
  | .str title => (some (Text.strip title)).filter (· != "")
  | _ => none

def transcriptBlob (data : Dict) : Json :=
  match data.get "worker_response" with
  | .obj fields => .obj fields
  | _ => (data.find "utterances").getD (.arr [])

/-- The file of a summary or a skill, together with its body. -/
def described (folder : String) (files : Files) (path : String) : Option (Option Content) :=
  if startsWith folder path && endsWith ".meta.json" path then some (files.find (dropEnding ".meta.json" path ++ ".md")) else none

end Reading

section Restoring

variable (platform : Platform) (newId : Nat → Id) (member : Member) (files : Files) (sameContext : Bool)

/-- `str(meta.get("name") or "Skill").strip() or "Skill"`. -/
def restoredName (data : Dict) : String :=
  let given := data.get "name"
  let name := Text.strip (if given.truthy then platform.python.text given else "Skill")
  if name = "" then "Skill" else name

/-- One turn of `_restore_skills`. A body that is no text raises. -/
def judgeSkill (part : Part Skill) (path : String) (raw : Content) : Option (Verdict Skill) :=
  match described "skills/" files path with
  | none => some .ignored
  | some none => some .skipped
  | some (some bodyRaw) =>
    match identified platform raw with
    | none => some .skipped
    | some (oldId, data) =>
      if sameContext && (data.get "catalog").isText "shared" then some .skipped
      else bodyRaw.decoded.map fun body =>
        let name := restoredName platform data
        let createdAt := parseDt platform (data.get "created_at")
        let updatedAt := parseDt platform (data.get "updated_at")
        let skill : Skill := ⟨.self, some member.orgId, some member.userId, name, body, createdAt, updatedAt⟩
        if sameContext then
          match part.rows.find oldId with
          | some row =>
            if row.scope != .self || row.ownerUserId != some member.userId then .skipped
            else .updated oldId { row with name, body, updatedAt }
          | none => .created oldId oldId skill
        else .created oldId (newId part.drawn) skill

def validAudio (library : Library) (audioId : Json) : Option Id :=
  audioId.text?.filter fun id => id != "" &&
    (library.audios.find id).any fun audio => audio.orgId == member.orgId && audio.ownerUserId == member.userId

def isTranscriptPath (path : String) : Bool := startsWith "transcripts/" path && endsWith ".json" path

/-- One turn of `_restore_transcripts`. -/
def judgeTranscript (library : Library) (part : Part Transcript) (path : String) (raw : Content) : Verdict Transcript :=
  if isTranscriptPath path = false then .ignored
  else
    match identified platform raw with
    | none => .skipped
    | some (oldId, data) =>
      let payload := transcriptBlob data
      let title := restoredTitle data
      let createdAt := parseDt platform (data.get "created_at")
      let sourceAudioId := validAudio member library (data.get "source_audio_id")
      -- The flag of a new row is the default of the column; an old row keeps its own.
      if sameContext then
        match part.rows.find oldId with
        | some row =>
          if row.orgId != member.orgId || row.ownerUserId != member.userId then .skipped
          else .updated oldId { row with title, payload, sourceAudioId }
        | none => .created oldId oldId ⟨member.orgId, member.userId, sourceAudioId, title, payload, false, createdAt⟩
      else .created oldId (newId part.drawn) ⟨member.orgId, member.userId, none, title, payload, false, createdAt⟩

/-- `_resolve_transcript_id`, with the check of an import that follows it. -/
def resolveTranscriptId (library : Library) (transcriptMap : Table Id Id) (sourceId : Json) : Option Id :=
  match sourceId.text?.filter (· != "") with
  | none => none
  | some id =>
    if sameContext then
      if (library.transcripts.find id).any fun row => row.orgId == member.orgId && row.ownerUserId == member.userId then some id
      else (transcriptMap.find id).filter (· != "")
    else transcriptMap.find id

def resolveSkillIds (library : Library) (skillMap : Table Id Id) (skillIds : Json) : List String :=
  let given := match skillIds with | .arr items => items.filterMap Json.text? | _ => []
  given.filterMap fun id =>
    if sameContext && (library.skills.find id).any (isOwnSkill member) then some id else skillMap.find id

/-- One turn of `_restore_summaries`. -/
def judgeSummary (library : Library) (transcriptMap skillMap : Table Id Id) (part : Part Summary) (path : String)
    (raw : Content) :
    Option (Verdict Summary) :=
  match described "summaries/" files path with
  | none => some .ignored
  | some none => some .skipped
  | some (some bodyRaw) =>
    match identified platform raw with
    | none => some .skipped
    | some (oldId, data) => bodyRaw.decoded.map fun body =>
      let title := restoredTitle data
      let edited := (data.get "edited").truthy
      let createdAt := parseDt platform (data.get "created_at")
      let sourceTranscriptId := resolveTranscriptId member sameContext library transcriptMap (data.get "source_transcript_id")
      let skillIds := resolveSkillIds member sameContext library skillMap (data.get "skill_ids")
      let summary : Summary := ⟨member.orgId, member.userId, sourceTranscriptId, skillIds, title, body, edited, createdAt⟩
      if sameContext then
        match part.rows.find oldId with
        | some row =>
          if row.orgId != member.orgId || row.ownerUserId != member.userId then .skipped
          else .updated oldId { row with title, body, sourceTranscriptId, skillIds, edited }
        | none => .created oldId oldId summary
      else .created oldId (newId part.drawn) summary

end Restoring

inductive Failure where
  | payloadTooLarge | validationError | raised
  deriving DecidableEq

inductive Mode where
  | restore | import_
  deriving DecidableEq

structure RestoreReport where
  mode : Mode
  skills : Counters
  transcripts : Counters
  summaries : Counters

/-- The archive formats: what is packed unpacks to the same files. -/
structure Packing where
  Raw : Type
  size : Raw → Nat
  pack : Files → Raw
  unpack : Raw → Option Files
  unpack_pack : ∀ files, unpack (pack files) = some files

def maxUploadBytesCap : Nat := 1073741824

section Archives

variable (platform : Platform) (newId : Nat → Id) (member : Member)

/-- `sorted(files.items())`. -/
def sortedFiles (files : Files) : Files :=
  ⟨files.entries.insertionSort fun a b => a.1 ≤ b.1, by
    have distinct : (files.entries.map Sigma.fst).Nodup := files.nodupKeys
    exact ((List.perm_insertionSort _ files.entries).map Sigma.fst).nodup_iff.mpr distinct⟩

/-- `value == 1`. -/
def isOne : Json → Bool
  | .num (.finite coefficient exponent) => coefficient * 10 ^ exponent.toNat == 10 ^ (-exponent).toNat
  | .bool value => value
  | _ => false

def loadManifest (files : Files) : Except Failure Dict :=
  match (files.find "manifest.json").bind fun raw => raw.loads.bind Json.asDict with
  | some manifest => if isOne (manifest.get "version") then .ok manifest else .error .validationError
  | none => .error .validationError

/-- `name in (manifest.get("includes") or [])`; a number or a truth value raises. -/
def includes (manifest : Dict) (name : String) : Except Failure Bool :=
  let given := manifest.get "includes"
  if given.truthy = false then .ok false
  else
    match given with
    | .arr items => .ok (items.any (·.isText name))
    | .str text => .ok (text.toList.tails.any name.toList.isPrefixOf)
    | .obj fields => .ok (Dict.find fields name).isSome
    | _ => .error .raised

def orRaise {A : Type} (value : Option A) : Except Failure A := value.elim (.error .raised) .ok

def restorePart {R : Type} (manifest : Dict) (name : String) (judge : Part R → String → Content → Option (Verdict R))
    (files : Files) (part : Part R) : Except Failure (Part R × Table Id R) := do
  if ← includes manifest name then
    let part ← orRaise (part.run judge files)
    return (part, ← orRaise part.flush)
  else return (part, part.rows)

/-- The archive comes from the account and the organization that it is restored in. -/
def isSameContext (manifest : Dict) : Bool :=
  (manifest.get "user_id").isText member.userId && (manifest.get "org_id").isText member.orgId

def restoreFiles (files : Files) (manifest : Dict) (library : Library) : Except Failure (RestoreReport × Library) := do
  let sameContext := isSameContext member manifest
  let (skills, rows) ← restorePart manifest "skills" (judgeSkill platform newId member files sameContext) files
    (.start library.skills 0)
  let library := { library with skills := rows }
  let (transcripts, rows) ← restorePart manifest "transcripts" (fun part path raw =>
    some (judgeTranscript platform newId member sameContext library part path raw)) files
      (.start library.transcripts skills.drawn)
  let library := { library with transcripts := rows }
  let (summaries, rows) ← restorePart manifest "summaries"
    (judgeSummary platform newId member files sameContext library transcripts.map skills.map) files
    (.start library.summaries transcripts.drawn)
  let mode := if sameContext then Mode.restore else .import_
  return (⟨mode, skills.counters, transcripts.counters, summaries.counters⟩, { library with summaries := rows })

def restoreBackup (packing : Packing) (raw : packing.Raw) (library : Library) : Except Failure (RestoreReport × Library) := do
  if maxUploadBytesCap < packing.size raw then throw .payloadTooLarge
  let files ← orRaise (packing.unpack raw)
  let manifest ← loadManifest files
  restoreFiles platform newId member files manifest library

/-- The archive that `build_backup` returns. -/
def packed (packing : Packing) (files : Files) : packing.Raw := packing.pack (sortedFiles files)

end Archives

section Parts

variable {R : Type}

theorem Part.run_keeps {judge : Part R → String → Content → Option (Verdict R)} {I : Part R → Prop} {files : Files}
    (turn : ∀ part, I part → ∀ file ∈ files.entries, ∀ verdict, judge part file.1 file.2 = some verdict →
      I (part.take verdict))
    {part after : Part R} (start : I part) (ran : part.run judge files = some after) : I after := by
  refine foldlM_keeps (fun part holds file member next turned => ?_) start ran
  obtain ⟨verdict, judged, rfl⟩ := Option.map_eq_some_iff.mp turned
  exact turn part holds file member verdict judged

/-- A flush stores the rows and the pending ones, and nothing else. -/
theorem find_insertAll {pending : List (Id × R)} {rows after : Table Id R} (inserted : insertAll rows pending = some after)
    {id : Id} {row : R} (found : after.find id = some row) : rows.find id = some row ∨ (id, row) ∈ pending := by
  induction pending generalizing rows with
  | nil =>
    obtain rfl := Option.some.inj inserted
    exact .inl found
  | cons first rest ih =>
    obtain ⟨key, its⟩ := first
    rw [insertAll] at inserted
    split at inserted
    · cases inserted
    · rcases ih inserted with stored | later
      · rw [Table.find_put] at stored
        split at stored
        · rename_i same
          cases stored
          exact .inr (same ▸ List.mem_cons_self ..)
        · exact .inl stored
      · exact .inr (List.mem_cons_of_mem _ later)

end Parts

section Outcomes

variable {platform : Platform} {newId : Nat → Id} {member : Member} {files : Files} {manifest : Dict} {library : Library}

theorem orRaise_ok {A : Type} {value : Option A} {result : A} : orRaise value = .ok result ↔ value = some result := by
  cases value <;> simp [orRaise]

theorem restorePart_ok {R : Type} {name : String} {judge : Part R → String → Content → Option (Verdict R)}
    {part after : Part R} {rows : Table Id R} (restored : restorePart manifest name judge files part = .ok (after, rows)) :
    rows = part.rows ∨ part.run judge files = some after ∧ after.flush = some rows := by
  obtain ⟨asked, _, restored⟩ := bind_ok.mp restored
  cases asked with
  | false =>
    cases restored
    exact .inl rfl
  | true =>
    obtain ⟨turned, ran, restored⟩ := bind_ok.mp restored
    obtain ⟨stored, flushed, restored⟩ := bind_ok.mp restored
    cases restored
    exact .inr ⟨orRaise_ok.mp ran, orRaise_ok.mp flushed⟩

/-- The transcripts of a restore come from their own part, which sees the audios as they are. -/
theorem restoreFiles_transcripts {report : RestoreReport} {after : Library}
    (restored : restoreFiles platform newId member files manifest library = .ok (report, after)) :
    ∃ (before : Library) (drawn : Nat) (part : Part Transcript),
      restorePart manifest "transcripts" (fun part path raw => some (judgeTranscript platform newId member
        (isSameContext member manifest) before part path raw)) files (.start library.transcripts drawn) =
          .ok (part, after.transcripts) := by
  obtain ⟨⟨skills, rows⟩, _, restored⟩ := bind_ok.mp restored
  obtain ⟨⟨transcripts, stored⟩, ran, restored⟩ := bind_ok.mp restored
  obtain ⟨⟨summaries, last⟩, _, restored⟩ := bind_ok.mp restored
  cases restored
  exact ⟨_, _, _, ran⟩

theorem restoreBackup_ok {packing : Packing} {raw : packing.Raw} {report : RestoreReport} {after : Library}
    (restored : restoreBackup platform newId member packing raw library = .ok (report, after)) :
    ∃ files manifest, packing.unpack raw = some files ∧ loadManifest files = .ok manifest ∧
      restoreFiles platform newId member files manifest library = .ok (report, after) := by
  unfold restoreBackup at restored
  split at restored
  · cases restored
  · obtain ⟨files, unpacked, restored⟩ := bind_ok.mp restored
    obtain ⟨manifest, read, restored⟩ := bind_ok.mp restored
    exact ⟨files, manifest, orRaise_ok.mp unpacked, read, restored⟩

end Outcomes

end IdigestHub.Backup
