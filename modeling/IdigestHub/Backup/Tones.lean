import IdigestHub.Backup.Restore
import IdigestHub.Dispatcher.Settling
import IdigestHub.Foundation.Runs
import IdigestHub.System.Failures

/-! The tone flag of a transcript beside the payload that it is derived from, over everything that writes either. -/

set_option autoImplicit false

namespace IdigestHub.Backup

open Foundation Foundation.Runs Foundation.UnitOfWork
open Dispatcher (storedHasTone)

/-- The columns that other writers change: a new title or owner, a source that is gone. -/
structure Details where
  orgId : Id
  ownerUserId : Id
  sourceAudioId : Option Id
  title : Option String

structure Transcribed where
  orgId : Id
  userId : Id
  audioId : Option Id
  payload : Json
  now : Nat

/-- The row of `_persist_transcript`. -/
def persistedTranscript (library : Library) (task : Transcribed) : Transcript where
  orgId := task.orgId
  ownerUserId := task.userId
  sourceAudioId := task.audioId
  title := ((task.audioId.bind library.audios.find).map fun audio => pathStem audio.originalFilename).filter (· != "")
  payload := task.payload
  hasToneAnalytics := storedHasTone task.payload
  createdAt := task.now

/-- What happens to the transcripts. A restore comes with the ids that it draws; it is undone when its commit fails. -/
inductive Event (packing : Packing) where
  | transcribed (id : Id) (task : Transcribed)
  | restored (newId : Nat → Id) (member : Member) (raw : packing.Raw) (committed : Bool)
  | edited (id : Id) (details : Details)
  | deleted (id : Id)
  | elsewhere (audios : Table Id Audio) (summaries : Table Id Summary) (skills : Table Id Skill) (shares : Table Id Share)

section Running

variable (platform : Platform) {packing : Packing}

def step (library : Library) : Event packing → Library
  | .transcribed id task =>
    if (library.transcripts.find id).isSome then library
    else { library with transcripts := library.transcripts.put id (persistedTranscript library task) }
  | .restored newId member raw committed =>
    match restoreBackup platform newId member packing raw library with
    | .ok (_, after) => if committed then after else library
    | .error _ => library
  | .edited id details => { library with transcripts := library.transcripts.modify id fun row => { row with
      orgId := details.orgId
      ownerUserId := details.ownerUserId
      sourceAudioId := details.sourceAudioId
      title := details.title } }
  | .deleted id => { library with transcripts := library.transcripts.delete id }
  | .elsewhere audios summaries skills shares => { library with audios, summaries, skills, shares }

/-- Every flag says what `stored_has_tone` finds. -/
def TonesMatch (library : Library) : Prop :=
  ∀ id row, library.transcripts.find id = some row → row.hasToneAnalytics = storedHasTone row.payload

/-- The flag that a restored row will have: a new row has the default, an old one keeps its own, and those of others stay. -/
def keptFlag (member : Member) : Option Transcript → Option Bool
  | none => some false
  | some row => if row.orgId != member.orgId || row.ownerUserId != member.userId then none else some row.hasToneAnalytics

def flagBefore (member : Member) (sameContext : Bool) (transcripts : Table Id Transcript) (id : Id) : Option Bool :=
  if sameContext then keptFlag member (transcripts.find id) else some false

def toneAgrees (member : Member) (sameContext : Bool) (library : Library) (path : String) (raw : Content) : Bool :=
  !isTranscriptPath path || (identified platform raw).all fun file =>
    (flagBefore member sameContext library.transcripts file.1).all (· == storedHasTone (transcriptBlob file.2))

def tonesAgree (member : Member) (raw : packing.Raw) (library : Library) : Bool :=
  (packing.unpack raw).all fun files =>
    match loadManifest files with
    | .ok manifest => files.entries.all fun file =>
      toneAgrees platform member (isSameContext member manifest) library file.1 file.2
    | .error _ => true

/-- A restore may rewrite no payload whose flag would have to change. -/
def Careful (library : Library) : Event packing → Prop
  | .restored _ member raw _ => tonesAgree platform member raw library = true
  | _ => True

end Running

section Restoring

variable {platform : Platform} {newId : Nat → Id} {member : Member} {files : Files} {manifest : Dict} {library : Library}

structure Toned (member : Member) (sameContext : Bool) (library : Library) (part : Part Transcript) : Prop where
  flags : flagBefore member sameContext part.rows = flagBefore member sameContext library.transcripts
  rows : ∀ id row, part.rows.find id = some row → row.hasToneAnalytics = storedHasTone row.payload
  pending : ∀ id row, (id, row) ∈ part.pending → row.hasToneAnalytics = storedHasTone row.payload

variable {sameContext : Bool} {part : Part Transcript}

theorem Toned.created (toned : Toned member sameContext library part) {oldId newId : Id} {row : Transcript}
    (agrees : row.hasToneAnalytics = storedHasTone row.payload) :
    Toned member sameContext library (part.take (.created oldId newId row)) where
  flags := toned.flags
  rows := toned.rows
  pending id its member := by
    rcases List.mem_append.mp member with earlier | last
    · exact toned.pending id its earlier
    · cases List.mem_singleton.mp last
      exact agrees

theorem Toned.updated (toned : Toned member sameContext library part) {id : Id} {old row : Transcript}
    (found : part.rows.find id = some old) (kept : row.orgId = old.orgId ∧ row.ownerUserId = old.ownerUserId ∧
      row.hasToneAnalytics = old.hasToneAnalytics) (agrees : row.hasToneAnalytics = storedHasTone row.payload) :
    Toned member sameContext library (part.take (.updated id row)) where
  flags := by
    rw [← toned.flags]
    funext other
    unfold flagBefore
    rw [Part.take, Table.find_modify]
    by_cases same : other = id
    · rw [if_pos same, same, found, Option.map_some, keptFlag, keptFlag, kept.1, kept.2.1, kept.2.2]
    · rw [if_neg same]
  rows other its stored := by
    rw [Part.take, Table.find_modify] at stored
    split at stored
    · obtain ⟨_, _, rfl⟩ := Option.map_eq_some_iff.mp stored
      exact agrees
    · exact toned.rows other its stored
  pending := toned.pending

theorem Toned.turn (toned : Toned member sameContext library part) {before : Library} {path : String} {raw : Content}
    (agrees : toneAgrees platform member sameContext library path raw = true) :
    Toned member sameContext library (part.take (judgeTranscript platform newId member sameContext before part path raw)) := by
  unfold judgeTranscript
  split
  · exact toned
  · rename_i named
    cases its : identified platform raw with
    | none => exact ⟨toned.flags, toned.rows, toned.pending⟩
    | some given =>
      obtain ⟨id, data⟩ := given
      have agrees : ∀ flag, flagBefore member sameContext part.rows id = some flag →
          flag = storedHasTone (transcriptBlob data) := by
        intro flag kept
        rw [toned.flags] at kept
        simpa [toneAgrees, named, its, kept] using agrees
      dsimp only
      cases sameContext with
      | false => exact toned.created (agrees false rfl)
      | true =>
        cases found : part.rows.find id with
        | none =>
          have new := agrees false (by rw [flagBefore, if_pos rfl, found, keptFlag])
          exact toned.created new
        | some row =>
          rw [if_pos rfl]
          dsimp only
          split
          · exact ⟨toned.flags, toned.rows, toned.pending⟩
          · rename_i own
            have old := agrees row.hasToneAnalytics (by rw [flagBefore, if_pos rfl, found, keptFlag, if_neg own])
            exact toned.updated found ⟨rfl, rfl, rfl⟩ old

theorem TonesMatch.restored {packing : Packing} {raw : packing.Raw} {report : RestoreReport} {after : Library}
    (tones : TonesMatch library) (agree : tonesAgree platform member raw library = true)
    (restored : restoreBackup platform newId member packing raw library = .ok (report, after)) : TonesMatch after := by
  obtain ⟨files, manifest, unpacked, read, restored⟩ := restoreBackup_ok restored
  simp only [tonesAgree, unpacked, read, Option.all_some, List.all_eq_true] at agree
  obtain ⟨before, drawn, part, ran⟩ := restoreFiles_transcripts restored
  rcases restorePart_ok ran with same | ⟨run, flushed⟩
  · rw [TonesMatch, same]
    exact tones
  · have start : Toned member (isSameContext member manifest) library (.start library.transcripts drawn) :=
      ⟨rfl, tones, fun _ _ member => absurd member List.not_mem_nil⟩
    have toned := Part.run_keeps (fun part toned file member verdict judged => by
      cases judged
      exact toned.turn (agree file member)) start run
    intro id row found
    rcases find_insertAll flushed found with stored | new
    · exact toned.rows id row stored
    · exact toned.pending id row new

end Restoring

variable {platform : Platform} {packing : Packing} {library : Library}

theorem TonesMatch.step {event : Event packing} (tones : TonesMatch library) (careful : Careful platform library event) :
    TonesMatch (step platform library event) := by
  cases event with
  | transcribed id task =>
    rw [Backup.step]
    split
    · exact tones
    · intro other row found
      rw [Table.find_put] at found
      split at found
      · cases found
        rfl
      · exact tones other row found
  | restored newId member raw committed =>
    rw [Backup.step]
    split
    · rename_i report after restored
      split
      · exact tones.restored careful restored
      · exact tones
    · exact tones
  | edited id details =>
    intro other row found
    rw [Backup.step, Table.find_modify] at found
    split at found
    · obtain ⟨old, stored, rfl⟩ := Option.map_eq_some_iff.mp found
      exact tones id old stored
    · exact tones other row found
  | deleted id =>
    intro other row found
    rw [Backup.step, Table.find_delete] at found
    split at found
    · cases found
    · exact tones other row found
  | elsewhere audios summaries skills shares => exact tones

/-- Flags match the payloads throughout a run whose restores agree with the flags. -/
theorem tones_match {events : List (Event packing)} (start : TonesMatch library)
    (careful : Along (step platform) (Careful platform) library events) : Always (step platform) TonesMatch library events :=
  always_of_along (fun _ _ tones careful => tones.step careful) start careful

section Dispatching

variable {world : World} {id : Nat} {task : Task} {s : Session Hub Process}

end Dispatching

section Samples

def plainPlatform : Platform where
  python := System.plainPython
  isWord c := c.isAlphanum || c == '_'
  today := "2026-01-01"
  now := 0
  isoformat _ := "2026-01-01T00:00:00+00:00"
  fromisoformat _ := some 0

def plainPacking : Packing := ⟨Files, fun _ => 1000, id, some, fun _ => rfl⟩

def owner : Member := ⟨"u1", "u1@example.org", "o1", false, false⟩

def emptyLibrary : Library := ⟨∅, ∅, ∅, ∅, ∅⟩

def talk (tone : String) : Transcribed where
  orgId := "o1"
  userId := "u1"
  audioId := none
  payload := .obj [("status", .str "success"), ("meta", .obj []),
    ("transcript", .arr [.obj [("text", .str "Good morning."), ("tone", .str tone)], .obj [("text", .str "Hello.")]]),
    ("error", .null)]
  now := 0

def storedAndRestored (tone : String) : List (Event plainPacking) :=
  let stored := step plainPlatform emptyLibrary (.transcribed "t1" (talk tone) : Event plainPacking)
  let files := (buildBackup plainPlatform owner stored ⟨true, true, true⟩).getD ∅
  [.transcribed "t1" (talk tone), .deleted "t1", .restored (fun _ => "t2") owner (packed plainPacking files) true]

theorem tones_match_neutral : Always (step plainPlatform) TonesMatch emptyLibrary (storedAndRestored "") := by
  refine tones_match (fun id row found => by cases found) ⟨trivial, trivial, ?_, trivial⟩
  show tonesAgree plainPlatform owner _ _ = true
  decide +kernel

/-- A restored row has the default flag, whatever its payload. -/
theorem restored_without_flag : ¬Always (step plainPlatform) TonesMatch emptyLibrary (storedAndRestored "calm") := by
  intro always
  have matching := always _ [] (List.append_nil _).symm
  have broken : ((run (step plainPlatform) emptyLibrary (storedAndRestored "calm")).transcripts.find "t1").map
      (fun row => (row.hasToneAnalytics, storedHasTone row.payload)) = some (false, true) := by decide +kernel
  obtain ⟨row, found, flags⟩ := Option.map_eq_some_iff.mp broken
  have same := matching "t1" row found
  cases (Prod.mk.inj flags).1.symm.trans (same.trans (Prod.mk.inj flags).2)

end Samples

end IdigestHub.Backup
