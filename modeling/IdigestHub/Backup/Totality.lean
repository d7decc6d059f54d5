import IdigestHub.Backup.Untrusted

/-! When the restore of an arbitrary upload succeeds or is refused, and its report is right. -/

set_option autoImplicit false

namespace IdigestHub.Backup.Untrusted

open Foundation Foundation.Intake Foundation.Fallible
open Foundation.CodePoints (Text)

structure NewIds (newId : Nat → Text) (library : Library) (count : Nat) : Prop where
  skills : NewKeys newId (column idWidth) library.skills count
  transcripts : NewKeys newId (column idWidth) library.transcripts count
  summaries : NewKeys newId (column idWidth) library.summaries count

structure Upload where
  readers : Readers
  member : Option Member
  raw : Bytes
  filename : Option Text
  library : Library
  newId : Nat → Text
  newIds : ∀ files, unpack readers raw filename = some files → NewIds newId library (3 * files.size)

/-- A part's count of rows inserted and of rows rewritten. -/
def Counted {R : Type} (before after : Table Text R) (counters : Counters) (touched : List Text) : Prop :=
  after.size = before.size + counters.created ∧ counters.updated = touched.dedup.length

/-- The report tells how many rows were inserted and rewritten. -/
structure Restored.Exact (restored : Restored) (before : Library) : Prop where
  skills : Counted before.skills restored.library.skills restored.report.skills restored.touched.skills
  transcripts : Counted before.transcripts restored.library.transcripts restored.report.transcripts restored.touched.transcripts
  summaries : Counted before.summaries restored.library.summaries restored.report.summaries restored.touched.summaries

/-- The request succeeds with an exact report, or is refused with everything as it was. -/
def Upload.Meets (upload : Upload) : Prop :=
  let outcome := uploadBackupRestore upload.readers upload.newId upload.member upload.raw upload.filename upload.library
  (∃ restored, outcome = .ok restored ∧ restored.Exact upload.library) ∨
  ∃ code, outcome = .error (.refused code) ∧ stored upload.library outcome = upload.library

def PartSane {D R : Type} (member : Member) (manifest : Fields) (name : String) (kind : Kind File D R Text) (files : Files)
    (rows : Table Text R) : Prop :=
  ∃ listed, includes manifest name = some listed ∧
    (listed = true → kind.Sane (isSameContext member manifest) rows files.entries)

def noTargets : Targets := ⟨∅, ∅, ∅, ∅⟩

structure FilesSane (readers : Readers) (library : Library) (member : Member) (files : Files) (manifest : Fields) : Prop where
  skills : PartSane member manifest "skills" (skillKind readers member files (isSameContext member manifest)) files library.skills
  transcripts : PartSane member manifest "transcripts"
    (transcriptKind readers member (isSameContext member manifest) library.audios) files library.transcripts
  summaries : PartSane member manifest "summaries"
    (summaryKind readers member files (isSameContext member manifest) noTargets) files library.summaries

/-- Nothing in the upload makes its restore raise, or count a row twice. -/
def Upload.Sane (upload : Upload) : Prop :=
  ∀ member, upload.member = some member → upload.raw.length ≤ maxUploadBytesCap →
    ∃ files, unpack upload.readers upload.raw upload.filename = some files ∧
      match loadManifest upload.readers files with
      | .ok manifest => FilesSane upload.readers upload.library member files manifest
      | .error failure => failure ≠ .raised

section Parts

variable {D R : Type} {newId : Nat → Text} {member : Member} {manifest : Fields} {name : String} {kind : Kind File D R Text}
  {files : Files} {rows : Table Text R}

theorem orRaise_ok {A : Type} {value : Option A} {result : A} : orRaise value = .ok result ↔ value = some result := by
  cases value <;> simp [orRaise]

theorem orRaise_error {A : Type} {value : Option A} {failure : Failure} (failed : orRaise value = .error failure) :
    failure = .raised := by
  cases value with
  | none => exact (Except.error.inj failed).symm
  | some _ => cases failed

/-- A part is restored with exact counters exactly when it is sane. -/
theorem restorePart_exact_iff {drawn count : Nat} (new : NewKeys newId kind.keyFits rows count)
    (enough : drawn + files.size ≤ count) :
    (∃ result, restorePart newId member manifest name kind files rows drawn = .ok result ∧ Exact rows result) ↔
      PartSane member manifest name kind files rows := by
  unfold restorePart PartSane
  cases listing : includes manifest name with
  | none =>
    refine iff_of_false ?_ (by rintro ⟨_, absent, _⟩; cases absent)
    rintro ⟨_, failed, _⟩
    cases failed
  | some listed =>
    simp only [Option.some.injEq, exists_eq_left']
    cases listed with
    | false =>
      refine iff_of_true ⟨_, rfl, rfl, rfl⟩ (by simp)
    | true =>
      have taken : (∃ result, intake kind (isSameContext member manifest) newId rows drawn files.entries = some result ∧
          Exact rows result) ↔ kind.Sane (isSameContext member manifest) rows files.entries :=
        intake_exact_iff (isSameContext member manifest) new enough
      rw [forall_prop_of_true rfl, ← taken]
      exact exists_congr fun result => and_congr_left' orRaise_ok

theorem restorePart_drawn_le {drawn : Nat} {result : Progress R Text × Table Text R}
    (restored : restorePart newId member manifest name kind files rows drawn = .ok result) :
      result.1.drawn ≤ drawn + files.size := by
  obtain ⟨listed, _, restored⟩ := bind_ok.mp restored
  cases listed with
  | false =>
    cases restored
    exact Nat.le_add_right ..
  | true => exact intake_drawn_le (orRaise_ok.mp restored)

theorem restorePart_error {drawn : Nat} {failure : Failure}
    (failed : restorePart newId member manifest name kind files rows drawn = .error failure) : failure = .raised := by
  unfold restorePart at failed
  cases listing : includes manifest name with
  | none =>
    rw [listing] at failed
    cases failed
    rfl
  | some listed =>
    rw [listing] at failed
    cases listed with
    | false => cases failed
    | true => exact orRaise_error failed

end Parts

section Wholes

variable {readers : Readers} {member : Member} {files : Files} {manifest : Fields} {library : Library} {newId : Nat → Text}

theorem restoreFiles_ok {restored : Restored} :
    restoreFiles readers newId member files manifest library = .ok restored ↔
      ∃ skills, restorePart newId member manifest "skills"
        (skillKind readers member files (isSameContext member manifest)) files library.skills 0 = .ok skills ∧
      ∃ transcripts, restorePart newId member manifest "transcripts"
        (transcriptKind readers member (isSameContext member manifest) library.audios) files library.transcripts skills.1.drawn =
          .ok transcripts ∧
      ∃ summaries, restorePart newId member manifest "summaries"
        (summaryKind readers member files (isSameContext member manifest) (targets skills transcripts)) files library.summaries
          transcripts.1.drawn = .ok summaries ∧
      restored = {
        report := ⟨if isSameContext member manifest then .restore else .import_, skills.1.counters, transcripts.1.counters,
          summaries.1.counters⟩
        touched := ⟨skills.1.touched, transcripts.1.touched, summaries.1.touched⟩
        library := ⟨library.audios, skills.2, transcripts.2, summaries.2⟩ } := by
  unfold restoreFiles
  rw [bind_ok]
  refine exists_congr fun skills => and_congr_right fun _ => ?_
  rw [bind_ok]
  refine exists_congr fun transcripts => and_congr_right fun _ => ?_
  rw [bind_ok]
  refine exists_congr fun summaries => and_congr_right fun _ => ?_
  exact ⟨fun same => (Except.ok.inj same).symm, fun same => congrArg Except.ok same.symm⟩

theorem restoreFiles_error {failure : Failure}
    (failed : restoreFiles readers newId member files manifest library = .error failure) : failure = .raised := by
  unfold restoreFiles at failed
  dsimp only at failed
  cases skills : restorePart newId member manifest "skills" (skillKind readers member files (isSameContext member manifest)) files
      library.skills 0 with
  | error _ =>
    rw [skills] at failed
    cases failed
    exact restorePart_error skills
  | ok first =>
    rw [skills] at failed
    cases transcripts : restorePart newId member manifest "transcripts"
        (transcriptKind readers member (isSameContext member manifest) library.audios) files library.transcripts
          first.1.drawn with
    | error _ =>
      simp only [bind, Except.bind, transcripts] at failed
      cases failed
      exact restorePart_error transcripts
    | ok second =>
      simp only [bind, Except.bind, transcripts] at failed
      cases summaries : restorePart newId member manifest "summaries"
          (summaryKind readers member files (isSameContext member manifest) (targets first second)) files library.summaries
            second.1.drawn with
      | error _ =>
        simp only [summaries] at failed
        cases failed
        exact restorePart_error summaries
      | ok third =>
        simp only [summaries] at failed
        cases failed

/-- The summaries are as sane whatever they refer to. -/
theorem summaries_retargeted (given other : Targets) {rows : Table Text Summary} :
    PartSane member manifest "summaries" (summaryKind readers member files (isSameContext member manifest) given) files rows ↔
      PartSane member manifest "summaries" (summaryKind readers member files (isSameContext member manifest) other)
        files rows := by
  unfold PartSane
  refine exists_congr fun listed => and_congr_right fun _ => imp_congr_right fun _ => ?_
  exact Kind.sane_congr ((summaryKind_read ..).trans (summaryKind_read ..).symm) rfl rfl rfl rfl

/-- A restore succeeds with an exact report exactly when its files are sane. -/
theorem restoreFiles_exact_iff (new : NewIds newId library (3 * files.size)) :
    (∃ restored, restoreFiles readers newId member files manifest library = .ok restored ∧ restored.Exact library) ↔
      FilesSane readers library member files manifest := by
  have skills_iff := @restorePart_exact_iff SkillDraft Skill newId member manifest "skills"
    (skillKind readers member files (isSameContext member manifest)) files library.skills 0 _ new.skills (by omega)
  have transcripts_iff (drawn : Nat) := @restorePart_exact_iff TranscriptDraft Transcript newId member manifest "transcripts"
    (transcriptKind readers member (isSameContext member manifest) library.audios) files library.transcripts drawn
      _ new.transcripts
  have summaries_iff (given : Targets) (drawn : Nat) :=
    @restorePart_exact_iff SummaryDraft Summary newId member manifest "summaries"
    (summaryKind readers member files (isSameContext member manifest) given) files library.summaries drawn _ new.summaries
  constructor
  · rintro ⟨restored, ran, skills_exact, transcripts_exact, summaries_exact⟩
    obtain ⟨skills, skills_ran, transcripts, transcripts_ran, summaries, summaries_ran, rfl⟩ := restoreFiles_ok.mp ran
    have first := restorePart_drawn_le skills_ran
    have second := restorePart_drawn_le transcripts_ran
    refine ⟨skills_iff.mp ⟨skills, skills_ran, skills_exact⟩,
      (transcripts_iff _ (by omega)).mp ⟨transcripts, transcripts_ran, transcripts_exact⟩, ?_⟩
    exact (summaries_retargeted _ _).mp ((summaries_iff _ _ (by omega)).mp ⟨summaries, summaries_ran, summaries_exact⟩)
  · rintro ⟨skills_sane, transcripts_sane, summaries_sane⟩
    obtain ⟨skills, skills_ran, skills_exact⟩ := skills_iff.mpr skills_sane
    have first := restorePart_drawn_le skills_ran
    obtain ⟨transcripts, transcripts_ran, transcripts_exact⟩ :=
      (transcripts_iff skills.1.drawn (by omega)).mpr transcripts_sane
    have second := restorePart_drawn_le transcripts_ran
    obtain ⟨summaries, summaries_ran, summaries_exact⟩ :=
      (summaries_iff (targets skills transcripts) transcripts.1.drawn (by omega)).mpr
        ((summaries_retargeted _ _).mp summaries_sane)
    exact ⟨_, restoreFiles_ok.mpr ⟨skills, skills_ran, transcripts, transcripts_ran, summaries, summaries_ran, rfl⟩,
      skills_exact, transcripts_exact, summaries_exact⟩

end Wholes

/-- An upload is restored with an exact report, or refused without a trace, exactly when nothing in it makes the restore raise
or count a row twice. -/
theorem restore_total_iff (upload : Upload) : upload.Meets ↔ upload.Sane := by
  unfold Upload.Meets Upload.Sane uploadBackupRestore
  cases upload.member with
  | none => exact iff_of_true (.inr ⟨.forbidden, rfl, rfl⟩) fun _ absent => nomatch absent
  | some member =>
    simp only [Option.some.injEq, forall_eq', restoreBackup]
    by_cases large : maxUploadBytesCap < upload.raw.length
    · rw [if_pos large]
      exact iff_of_true (.inr ⟨.payloadTooLarge, rfl, rfl⟩) fun small => absurd small (by omega)
    · rw [if_neg large, forall_prop_of_true (by omega)]
      cases unpacked : unpack upload.readers upload.raw upload.filename with
      | none =>
        refine iff_of_false ?_ (by rintro ⟨_, absent, _⟩; cases absent)
        rintro (⟨_, failed, _⟩ | ⟨_, failed, _⟩) <;> cases failed
      | some files =>
        simp only [Option.some.injEq, exists_eq_left']
        cases manifest_read : loadManifest upload.readers files with
        | error failure =>
          cases failure with
          | refused code =>
            refine iff_of_true (.inr ⟨code, ?_, ?_⟩) (by simp)
            · simp [orRaise, bind, Except.bind, manifest_read]
            · simp [orRaise, bind, Except.bind, manifest_read, stored]
          | raised =>
            refine iff_of_false ?_ (by simp)
            rintro (⟨_, failed, _⟩ | ⟨_, failed, _⟩) <;> simp [orRaise, bind, Except.bind, manifest_read] at failed
        | ok manifest =>
          have outcome : (do
              let files ← orRaise (some files)
              let manifest ← loadManifest upload.readers files
              restoreFiles upload.readers upload.newId member files manifest upload.library) =
              restoreFiles upload.readers upload.newId member files manifest upload.library := by
            simp [orRaise, bind, Except.bind, manifest_read]
          rw [outcome]
          refine Iff.trans ?_ (restoreFiles_exact_iff (upload.newIds files unpacked))
          constructor
          · rintro (succeeded | ⟨code, failed, _⟩)
            · exact succeeded
            · cases restoreFiles_error failed
          · exact .inl

def listing : Fields :=
  [(literal "version", .number (.finite 1 0)), (literal "includes", .list [.text (literal "transcripts")])]

def zipReaders : Readers where
  zip _ := .entries [⟨literal "manifest.json", false, [0]⟩, ⟨literal "transcripts/t1.json", false, [1]⟩]
  tar _ := none
  loads
    | [0] => .value (.object listing)
    | [1] => .value (.object [(literal "id", .text (literal "t1")), (literal "title", .text (literal " Talk "))])
    | _ => .unreadable
  decode _ := none
  str _ := none
  dumps _ := some (literal "[]")
  fromisoformat _ := .invalid
  now := 0

def paddedId (n : Nat) : Text := List.replicate n (.char '0')

theorem paddedId_new (R : Type) : NewKeys paddedId (column idWidth) (∅ : Table Text R) 6 where
  distinct n _ m _ same := by simpa [paddedId] using congrArg List.length same
  fits n few := by
    have short : n ≤ idWidth := Nat.le_trans few.le (by decide)
    simpa [column, takes, paddedId] using short
  free _ _ := rfl

def zippedUpload : Upload where
  readers := zipReaders
  member := some ⟨literal "u1", literal "o1"⟩
  raw := [0]
  filename := none
  library := ⟨∅, ∅, ∅, ∅⟩
  newId := paddedId
  newIds files unpacked := by
    have two : files.size = 2 := by
      obtain rfl := Option.some.inj unpacked
      decide +kernel
    rw [two]
    exact ⟨paddedId_new _, paddedId_new _, paddedId_new _⟩

def zippedFiles : Files := ((∅ : Files).assign (literal "manifest.json") [0]).assign (literal "transcripts/t1.json") [1]

theorem zipped_upload_restored : zippedUpload.Meets := by
  refine (restore_total_iff zippedUpload).mpr fun member its _ => ?_
  obtain rfl := Option.some.inj its
  refine ⟨zippedFiles, rfl, ?_⟩
  have manifest : loadManifest zippedUpload.readers zippedFiles = .ok listing := by rfl
  rw [manifest]
  refine ⟨⟨false, by decide +kernel, nofun⟩, ⟨true, by decide +kernel, fun _ => ?_⟩, ⟨false, by decide +kernel, nofun⟩⟩
  refine ⟨fun item listed => ?_, by decide +kernel⟩
  have entries : zippedFiles.entries = [⟨literal "manifest.json", [0]⟩, ⟨literal "transcripts/t1.json", [1]⟩] := by decide +kernel
  rw [entries] at listed
  rcases List.mem_cons.mp listed with rfl | listed
  · exact nofun
  · obtain rfl := List.mem_singleton.mp listed
    exact nofun

/-- An empty file is no archive: `zipfile` says so and `tarfile` raises. -/
def noReaders : Readers where
  zip _ := .badZipFile
  tar _ := none
  loads _ := .unreadable
  decode _ := none
  str _ := none
  dumps _ := none
  fromisoformat _ := .invalid
  now := 0

def emptyUpload : Upload where
  readers := noReaders
  member := some ⟨literal "u1", literal "o1"⟩
  raw := []
  filename := none
  library := ⟨∅, ∅, ∅, ∅⟩
  newId _ := []
  newIds files unpacked := by cases unpacked

/-- It is not refused: the error of the reader escapes. -/
theorem empty_upload_raises : ¬ emptyUpload.Meets := by
  have raises : uploadBackupRestore emptyUpload.readers emptyUpload.newId emptyUpload.member emptyUpload.raw emptyUpload.filename
    emptyUpload.library = .error .raised := rfl
  unfold Upload.Meets
  rw [raises]
  rintro (⟨_, failed, _⟩ | ⟨_, failed, _⟩) <;> cases failed

end IdigestHub.Backup.Untrusted
