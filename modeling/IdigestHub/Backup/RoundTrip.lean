import IdigestHub.Backup.Reinstating
import IdigestHub.Backup.Tones

/-! A restore of the archive of an account in the account itself, with its own objects still there and with them
deleted. -/

set_option autoImplicit false

namespace IdigestHub.Backup

open Foundation Foundation.Fallible

section Rows

variable {R : Type} {own : R → Bool} {source : Plan R → Prop} {library rows stored : Table Id R} {map : Table Id Id}

def Reduced (own : R → Bool) (library rows : Table Id R) : Prop :=
  ∀ id, rows.find id = library.find id ∨ rows.find id = none ∧ (library.find id).any own = true

theorem Reduced.refl : Reduced own library library := fun _ => .inl rfl

theorem Reduced.keep : Reduced own library (library.keep fun _ row => !own row) := by
  intro id
  rw [Table.find_keep]
  cases library.find id with
  | none => exact .inl rfl
  | some row => cases mine : own row <;> simp [mine]

variable (restored : Restored own source rows stored map) (reduced : Reduced own library rows)
  (listed : ∀ its, source its → (library.find its.id).isSome = true)

include restored reduced

/-- An own row with a plan comes to what the plan says, whether or not it is still there. -/
theorem Restored.reinstates {its : Plan R} (planned : source its) {row : R} (found : library.find its.id = some row)
    (mine : own row = true) : stored.find its.id = some its.fresh ∨ stored.find its.id = some (its.rewrite row) := by
  rw [restored.planned its planned]
  rcases reduced its.id with same | ⟨gone, _⟩
  · right
    rw [same, found, Plan.outcome, if_pos mine]
  · left
    rw [gone, Plan.outcome]

include listed

theorem Restored.others_stay {id : Id} (foreign : (library.find id).any own = false) : stored.find id = rows.find id := by
  by_cases planned : ∃ its, source its ∧ its.id = id
  · obtain ⟨its, planned, rfl⟩ := planned
    obtain ⟨row, found⟩ := Option.isSome_iff_exists.mp (listed its planned)
    have other : own row = false := by simpa [found] using foreign
    have same : rows.find its.id = some row := by
      rcases reduced its.id with same | ⟨_, mine⟩
      · exact same.trans found
      · cases foreign.symm.trans mine
    rw [restored.planned its planned, same, Plan.outcome, other]
    rfl
  · exact restored.others id fun its source same => planned ⟨its, source, same⟩

theorem Restored.was_own {id : Id} (mine : (stored.find id).any own = true) : (library.find id).any own = true := by
  cases before : (library.find id).any own with
  | true => rfl
  | false =>
    rw [restored.others_stay reduced listed before] at mine
    rcases reduced id with same | ⟨gone, _⟩
    · rw [← mine, same, before]
    · rw [gone] at mine
      cases mine

omit listed reduced in
theorem Restored.mapped (fresh : ∀ its, source its → own its.fresh = true)
    (rewrite : ∀ its, source its → ∀ row, own (its.rewrite row) = own row) {id mapped : Id} (found : map.find id = some mapped) :
    mapped = id ∧ (stored.find id).any own = true := by
  obtain ⟨same, its, planned, rfl, mine⟩ := restored.map id mapped found
  refine ⟨same, ?_⟩
  rw [restored.planned its planned]
  cases before : rows.find its.id with
  | none => exact fresh its planned
  | some row =>
    rw [before] at mine
    have mine : own row = true := mine
    rw [Plan.outcome, if_pos mine]
    exact (rewrite its planned row).trans mine

omit reduced restored listed in
theorem Restored.recreated (restored : Restored own source (library.keep fun _ row => !own row) stored map)
    {id : Id} {row now : R}
    (found : library.find id = some row) (mine : own row = true) (there : stored.find id = some now) :
    ∃ its, source its ∧ its.id = id ∧ now = its.fresh := by
  have gone : (library.keep fun _ row => !own row).find id = none := by
    rw [Table.find_keep, found]
    simp [mine]
  by_cases planned : ∃ its, source its ∧ its.id = id
  · obtain ⟨its, planned, rfl⟩ := planned
    refine ⟨its, planned, rfl, ?_⟩
    rw [restored.planned its planned, gone] at there
    exact (Option.some.inj there).symm
  · rw [restored.others id fun its source same => planned ⟨its, source, same⟩, gone] at there
    cases there

end Rows

section Values

variable {platform : Platform} {member : Member} {library : Library}

theorem filter_eq_self_iff {A : Type} {value : Option A} {condition : A → Bool} :
    value.filter condition = value ↔ ∀ item ∈ value, condition item = true := by
  cases value with
  | none => simp
  | some item => cases holds : condition item <;> simp [Option.filter, holds]

def StaysTitle (title : Option String) : Prop := ∀ text ∈ title, text ≠ "" ∧ Text.strip text = text

theorem shownTitle_eq_iff {title : Option String} : shownTitle title = title ↔ StaysTitle title := by
  unfold StaysTitle
  cases title with
  | none => simp [shownTitle]
  | some text =>
    simp only [shownTitle, Option.map_some, Option.mem_some_iff, forall_eq']
    constructor
    · intro same
      obtain ⟨stripped, shown⟩ := Option.filter_eq_some_iff.mp same
      have stripped : Text.strip text = text := Option.some.inj stripped
      exact ⟨bne_iff_ne.mp shown, stripped⟩
    · rintro ⟨shown, stripped⟩
      rw [stripped]
      exact Option.filter_eq_some_iff.mpr ⟨rfl, bne_iff_ne.mpr shown⟩

theorem keptName_eq_iff {name : String} : keptName name = name ↔ name ≠ "" ∧ Text.strip name = name := by
  have word : Text.strip "Skill" = "Skill" := by decide +kernel
  rw [keptName]
  by_cases empty : Text.strip name = ""
  · rw [if_pos empty]
    constructor
    · rintro rfl
      exact absurd (word.symm.trans empty) (by decide)
    · rintro ⟨shown, stripped⟩
      exact absurd (stripped.symm.trans empty) shown
  · rw [if_neg empty]
    exact ⟨fun stripped => ⟨stripped ▸ empty, stripped⟩, And.right⟩

/-- A payload that comes back as it was: a worker response, or a list of utterances as they are read. -/
def StaysPayload (platform : Platform) (payload : Json) : Prop :=
  isWorkerPayload payload = true ∨ ∃ items, payload = .arr items ∧ normalizeUtterances platform.python items = some items

theorem keptPayload_eq_iff {payload : Json} (read : (extractUtterances platform.python payload).isSome = true) :
    keptPayload platform payload = payload ↔ StaysPayload platform payload := by
  rw [keptPayload, StaysPayload]
  cases worker : isWorkerPayload payload with
  | true => simp
  | false =>
    rw [if_neg Bool.false_ne_true]
    obtain ⟨utterances, extracted⟩ := Option.isSome_iff_exists.mp read
    rw [extracted, Option.getD_some]
    constructor
    · rintro rfl
      exact .inr ⟨utterances, rfl, extracted⟩
    · rintro (no | ⟨items, rfl, normal⟩)
      · cases no
      · rw [Option.some.inj (extracted.symm.trans normal)]

theorem keptAudio_congr {one other : Library} (same : one.audios = other.audios) (sourceAudioId : Option Id) :
    keptAudio member one sourceAudioId = keptAudio member other sourceAudioId := by
  rw [keptAudio, keptAudio, same]

theorem extract_of_payload {row : Id × Transcript} (made : (transcriptPayload platform library row).isSome = true) :
    (extractUtterances platform.python row.2.payload).isSome = true := by
  rwa [transcriptPayload, Option.isSome_map] at made

theorem keptAudio_eq_iff {sourceAudioId : Option Id} : keptAudio member library sourceAudioId = sourceAudioId ↔
    ∀ id ∈ sourceAudioId, id ≠ "" ∧ (library.audios.find id).any (ownAudio member) = true := by
  simp only [keptAudio, filter_eq_self_iff, Bool.and_eq_true, bne_iff_ne]

/-- What the map has is own by then, so that it adds nothing. -/
theorem resolveTranscriptId_eq {map : Table Id Id} {sourceTranscriptId : Option Id}
    (mapped : ∀ id other, map.find id = some other →
      other = id ∧ (library.transcripts.find id).any (ownTranscript member) = true) :
    resolveTranscriptId member true library map (optText sourceTranscriptId) =
      sourceTranscriptId.filter fun id => id != "" && (library.transcripts.find id).any (ownTranscript member) := by
  rw [resolveTranscriptId, text_optText]
  cases sourceTranscriptId with
  | none => rfl
  | some id =>
    by_cases empty : id = ""
    · subst empty
      rfl
    · have shown : (id != "") = true := bne_iff_ne.mpr empty
      simp only [Option.filter, shown, if_true, Bool.true_and]
      cases own : (library.transcripts.find id).any (ownTranscript member) with
      | true => exact if_pos own
      | false =>
        refine (if_neg fun mine => Bool.false_ne_true (own.symm.trans mine)).trans ?_
        cases found : map.find id with
        | none => rfl
        | some other => cases own.symm.trans (mapped id other found).2

theorem resolveSkillIds_eq {map : Table Id Id} {skillIds : List String}
    (mapped : ∀ id other, map.find id = some other → other = id ∧ (library.skills.find id).any (isOwnSkill member) = true) :
    resolveSkillIds member true library map (.arr (skillIds.map Json.str)) =
      skillIds.filter fun id => (library.skills.find id).any (isOwnSkill member) := by
  have given : (skillIds.map Json.str).filterMap Json.text? = skillIds := by
    rw [List.filterMap_map]
    exact List.filterMap_some
  simp only [resolveSkillIds, given, Bool.true_and, ← List.filterMap_eq_filter]
  refine List.filterMap_congr fun id _ => ?_
  cases own : (library.skills.find id).any (isOwnSkill member) with
  | true => simp [Option.guard, own]
  | false =>
    cases found : map.find id with
    | none => simp [Option.guard, own]
    | some other => cases own.symm.trans (mapped id other found).2

end Values

section Archives

variable {platform : Platform} {member : Member} {library state : Library}

theorem archived_skill {its : Plan Skill}
    (archived : Archived (lastSkill platform member library) (skillStem platform) (skillPlanned platform member) its) :
    ∃ id row, library.skills.find id = some row ∧ id ≠ "" ∧
      lastSkill platform member library (skillStem platform (id, row, .self)) = some (id, row, .self) ∧
      its = skillPlanOf platform member (id, row) := by
  obtain ⟨⟨id, row, catalog⟩, last, planned⟩ := archived
  unfold skillPlanned at planned
  split at planned
  · cases planned
  · rename_i kept
    obtain ⟨named, self⟩ := not_or.mp kept
    obtain rfl : catalog = .self := by
      cases catalog with
      | self => rfl
      | shared => exact absurd rfl self
    exact ⟨id, row, (mem_listedSkills (lastWhere_stem last).1).1, named, last, (Option.some.inj planned).symm⟩

theorem archived_transcript {its : Plan Transcript}
    (archived : Archived (lastTranscript platform member library) (transcriptStem platform library)
      (transcriptPlanned platform member state) its) :
    ∃ id row, library.transcripts.find id = some row ∧ id ≠ "" ∧
      lastTranscript platform member library (transcriptStem platform library (id, row)) = some (id, row) ∧
      its = transcriptPlanOf platform member state (id, row) := by
  obtain ⟨⟨id, row⟩, last, planned⟩ := archived
  unfold transcriptPlanned at planned
  split at planned
  · cases planned
  · rename_i named
    exact ⟨id, row, (mem_listed.mp (lastWhere_stem last).1).1, named, last, (Option.some.inj planned).symm⟩

theorem archived_summary {transcriptMap skillMap : Table Id Id} {its : Plan Summary}
    (archived : Archived (lastSummary platform member library) (summaryStem platform library)
      (summaryPlanned platform member state transcriptMap skillMap) its) :
    ∃ id row, library.summaries.find id = some row ∧ id ≠ "" ∧
      lastSummary platform member library (summaryStem platform library (id, row)) = some (id, row) ∧
      its = summaryPlanOf platform member state transcriptMap skillMap (id, row) := by
  obtain ⟨⟨id, row⟩, last, planned⟩ := archived
  unfold summaryPlanned at planned
  split at planned
  · cases planned
  · rename_i named
    exact ⟨id, row, (mem_listed.mp (lastWhere_stem last).1).1, named, last, (Option.some.inj planned).symm⟩

end Archives

section Undoing

variable (platform : Platform) (member : Member) (library : Library)

structure SameOwn (after : Library) : Prop where
  skills : ∀ id row, library.skills.find id = some row → isOwnSkill member row = true →
    ∃ now, after.skills.find id = some now ∧ isOwnSkill member now = true ∧ now.name = row.name ∧ now.body = row.body
  transcripts : ∀ id row, library.transcripts.find id = some row → ownTranscript member row = true →
    ∃ now, after.transcripts.find id = some now ∧ ownTranscript member now = true ∧ now.title = row.title ∧
      now.payload = row.payload ∧ now.sourceAudioId = row.sourceAudioId
  summaries : ∀ id row, library.summaries.find id = some row → ownSummary member row = true →
    ∃ now, after.summaries.find id = some now ∧ ownSummary member now = true ∧ now.title = row.title ∧ now.body = row.body ∧
      now.sourceTranscriptId = row.sourceTranscriptId ∧ now.skillIds = row.skillIds ∧ now.edited = row.edited

structure OthersStay (state after : Library) : Prop where
  audios : after.audios = state.audios
  shares : after.shares = state.shares
  skills : ∀ id, (library.skills.find id).any (isOwnSkill member) = false → after.skills.find id = state.skills.find id
  transcripts : ∀ id, (library.transcripts.find id).any (ownTranscript member) = false →
    after.transcripts.find id = state.transcripts.find id
  summaries : ∀ id, (library.summaries.find id).any (ownSummary member) = false →
    after.summaries.find id = state.summaries.find id

/-- A restore in a state succeeds, the own objects of the library are as they were there, and nothing else changes. -/
def Undone (state : Library) (restored : Except Failure (RestoreReport × Library)) : Prop :=
  ∃ report after, restored = .ok (report, after) ∧ SameOwn member library after ∧ OthersStay member library state after

def withoutOwn : Library :=
  { library with
    skills := library.skills.keep fun _ row => !isOwnSkill member row
    transcripts := library.transcripts.keep fun _ row => !ownTranscript member row
    summaries := library.summaries.keep fun _ row => !ownSummary member row }

/-- Objects that the archive keeps as they are: each has a file of its own, and nothing in it is cut, read differently or
left out. -/
structure Restorable : Prop where
  skills : ∀ id row, library.skills.find id = some row → isOwnSkill member row = true → id ≠ "" ∧
    lastSkill platform member library (skillStem platform (id, row, .self)) = some (id, row, .self) ∧
    row.name ≠ "" ∧ Text.strip row.name = row.name
  transcripts : ∀ id row, library.transcripts.find id = some row → ownTranscript member row = true → id ≠ "" ∧
    lastTranscript platform member library (transcriptStem platform library (id, row)) = some (id, row) ∧
    StaysTitle row.title ∧ StaysPayload platform row.payload ∧
    ∀ audio ∈ row.sourceAudioId, audio ≠ "" ∧ (library.audios.find audio).any (ownAudio member) = true
  summaries : ∀ id row, library.summaries.find id = some row → ownSummary member row = true → id ≠ "" ∧
    lastSummary platform member library (summaryStem platform library (id, row)) = some (id, row) ∧
    StaysTitle row.title ∧ unwrapMarkdownFence row.body = row.body ∧
    (∀ source ∈ row.sourceTranscriptId, source ≠ "" ∧ (library.transcripts.find source).any (ownTranscript member) = true) ∧
    ∀ skill ∈ row.skillIds, (library.skills.find skill).any (isOwnSkill member) = true

structure LessOwn (state : Library) : Prop where
  audios : state.audios = library.audios
  skills : Reduced (isOwnSkill member) library.skills state.skills
  transcripts : Reduced (ownTranscript member) library.transcripts state.transcripts
  summaries : Reduced (ownSummary member) library.summaries state.summaries

variable {platform member library}

theorem lessOwn_refl : LessOwn member library library := ⟨rfl, .refl, .refl, .refl⟩

theorem lessOwn_withoutOwn : LessOwn member library (withoutOwn member library) := ⟨rfl, .keep, .keep, .keep⟩

section Reinstating

variable {state after : Library} {skillMap transcriptMap : Table Id Id}
  (reinstated : Reinstated platform member library state after skillMap transcriptMap)

include reinstated

theorem Reinstated.skill_mapped {id other : Id} (found : skillMap.find id = some other) :
    other = id ∧ (after.skills.find id).any (isOwnSkill member) = true := by
  refine reinstated.skills.mapped (fun its archived => ?_) (fun its archived row => ?_) found
  · obtain ⟨id, row, _, _, _, rfl⟩ := archived_skill archived
    exact (skillPlanOf_own platform member (id, row)).1
  · obtain ⟨id, its, _, _, _, rfl⟩ := archived_skill archived
    exact (skillPlanOf_own platform member (id, its)).2 row

theorem Reinstated.transcript_mapped {id other : Id} (found : transcriptMap.find id = some other) :
    other = id ∧ (after.transcripts.find id).any (ownTranscript member) = true := by
  refine reinstated.transcripts.mapped (fun its archived => ?_) (fun its archived row => ?_) found
  · obtain ⟨id, row, _, _, _, rfl⟩ := archived_transcript archived
    simp [transcriptPlanOf, ownTranscript]
  · obtain ⟨id, row, _, _, _, rfl⟩ := archived_transcript archived
    rfl

variable (less : LessOwn member library state)

include less

theorem Reinstated.othersStay : OthersStay member library state after where
  audios := reinstated.audios
  shares := reinstated.shares
  skills id foreign := by
    refine reinstated.skills.others_stay less.skills (fun its archived => ?_) foreign
    obtain ⟨id, row, found, _, _, rfl⟩ := archived_skill archived
    exact Option.isSome_of_eq_some found
  transcripts id foreign := by
    refine reinstated.transcripts.others_stay less.transcripts (fun its archived => ?_) foreign
    obtain ⟨id, row, found, _, _, rfl⟩ := archived_transcript archived
    exact Option.isSome_of_eq_some found
  summaries id foreign := by
    obtain ⟨map, restored⟩ := reinstated.summaries
    refine restored.others_stay less.summaries (fun its archived => ?_) foreign
    obtain ⟨id, row, found, _, _, rfl⟩ := archived_summary archived
    exact Option.isSome_of_eq_some found

theorem Reinstated.skill_was_own {id : Id} (mine : (after.skills.find id).any (isOwnSkill member) = true) :
    (library.skills.find id).any (isOwnSkill member) = true := by
  refine reinstated.skills.was_own less.skills (fun its archived => ?_) mine
  obtain ⟨id, row, found, _, _, rfl⟩ := archived_skill archived
  exact Option.isSome_of_eq_some found

theorem Reinstated.transcript_was_own {id : Id} (mine : (after.transcripts.find id).any (ownTranscript member) = true) :
    (library.transcripts.find id).any (ownTranscript member) = true := by
  refine reinstated.transcripts.was_own less.transcripts (fun its archived => ?_) mine
  obtain ⟨id, row, found, _, _, rfl⟩ := archived_transcript archived
  exact Option.isSome_of_eq_some found

variable (made : ∀ row ∈ listedTranscripts member library, (transcriptPayload platform library row).isSome = true)
  (restorable : Restorable platform member library)

include restorable

omit made in
theorem Reinstated.skills_same {id : Id} {row : Skill} (found : library.skills.find id = some row)
    (mine : isOwnSkill member row = true) :
    ∃ now, after.skills.find id = some now ∧ isOwnSkill member now = true ∧ now.name = row.name ∧ now.body = row.body := by
  obtain ⟨named, last, shown, stripped⟩ := restorable.skills id row found mine
  have kept : keptName row.name = row.name := keptName_eq_iff.mpr ⟨shown, stripped⟩
  have values := skillPlanOf_values platform member (id, row)
  have owned := skillPlanOf_own platform member (id, row)
  have planned : skillPlanned platform member (id, row, .self) = some (skillPlanOf platform member (id, row)) :=
    if_neg (by simp [named])
  rcases reinstated.skills.reinstates less.skills ⟨_, last, planned⟩ found mine with fresh | rewritten
  · exact ⟨_, fresh, owned.1, values.1.1.trans kept, values.1.2⟩
  · exact ⟨_, rewritten, (owned.2 row).trans mine, (values.2 row).1.trans kept, (values.2 row).2⟩

include made

theorem Reinstated.transcripts_same {id : Id} {row : Transcript} (found : library.transcripts.find id = some row)
    (mine : ownTranscript member row = true) :
    ∃ now, after.transcripts.find id = some now ∧ ownTranscript member now = true ∧ now.title = row.title ∧
      now.payload = row.payload ∧ now.sourceAudioId = row.sourceAudioId := by
  obtain ⟨named, last, title, payload, audio⟩ := restorable.transcripts id row found mine
  have title : shownTitle row.title = row.title := shownTitle_eq_iff.mpr title
  have payload : keptPayload platform row.payload = row.payload :=
    (keptPayload_eq_iff (extract_of_payload (made _ (lastWhere_stem last).1))).mpr payload
  have audio : keptAudio member { state with skills := after.skills } row.sourceAudioId = row.sourceAudioId :=
    (keptAudio_congr less.audios _).trans (keptAudio_eq_iff.mpr audio)
  have planned : transcriptPlanned platform member { state with skills := after.skills } (id, row) =
      some (transcriptPlanOf platform member { state with skills := after.skills } (id, row)) := if_neg named
  rcases reinstated.transcripts.reinstates less.transcripts ⟨_, last, planned⟩ found mine with fresh | rewritten
  · exact ⟨_, fresh, by simp [transcriptPlanOf, ownTranscript], title, payload, audio⟩
  · exact ⟨_, rewritten, mine, title, payload, audio⟩

theorem Reinstated.summaries_same {id : Id} {row : Summary} (found : library.summaries.find id = some row)
    (mine : ownSummary member row = true) :
    ∃ now, after.summaries.find id = some now ∧ ownSummary member now = true ∧ now.title = row.title ∧ now.body = row.body ∧
      now.sourceTranscriptId = row.sourceTranscriptId ∧ now.skillIds = row.skillIds ∧ now.edited = row.edited := by
  obtain ⟨named, last, title, body, source, skills⟩ := restorable.summaries id row found mine
  have title : shownTitle row.title = row.title := shownTitle_eq_iff.mpr title
  let midway : Library := { state with skills := after.skills, transcripts := after.transcripts }
  have source : resolveTranscriptId member true midway transcriptMap (optText row.sourceTranscriptId) =
    row.sourceTranscriptId := by
    refine (resolveTranscriptId_eq fun _ _ => reinstated.transcript_mapped).trans (filter_eq_self_iff.mpr fun id given => ?_)
    obtain ⟨named, own⟩ := source id given
    obtain ⟨theirs, found, mine⟩ := (Option.any_eq_true _ _).mp own
    obtain ⟨now, there, own, _⟩ := reinstated.transcripts_same less made restorable found mine
    simp [named, there, own]
  have skills : resolveSkillIds member true midway skillMap (.arr (row.skillIds.map Json.str)) = row.skillIds := by
    refine (resolveSkillIds_eq fun _ _ => reinstated.skill_mapped).trans (List.filter_eq_self.mpr fun id given => ?_)
    obtain ⟨theirs, found, mine⟩ := (Option.any_eq_true _ _).mp (skills id given)
    obtain ⟨now, there, own, _⟩ := reinstated.skills_same less restorable found mine
    simp [there, own]
  obtain ⟨map, restored⟩ := reinstated.summaries
  have planned : summaryPlanned platform member midway transcriptMap skillMap (id, row) =
      some (summaryPlanOf platform member midway transcriptMap skillMap (id, row)) := if_neg named
  rcases restored.reinstates less.summaries ⟨_, last, planned⟩ found mine with fresh | rewritten
  · exact ⟨_, fresh, by simp [summaryPlanOf, ownSummary], title, body, source, skills, rfl⟩
  · exact ⟨_, rewritten, mine, title, body, source, skills, rfl⟩

theorem Reinstated.sameOwn : SameOwn member library after where
  skills _ _ := reinstated.skills_same less restorable
  transcripts _ _ := reinstated.transcripts_same less made restorable
  summaries _ _ := reinstated.summaries_same less made restorable

end Reinstating

section Recreating

variable {after : Library} {skillMap transcriptMap : Table Id Id}

/-- What comes back after a deletion has nothing that the archive loses. -/
theorem Reinstated.restorable (reinstated : Reinstated platform member library
    (withoutOwn member library) after skillMap transcriptMap)
    (made : ∀ row ∈ listedTranscripts member library, (transcriptPayload platform library row).isSome = true)
    (same : SameOwn member library after) : Restorable platform member library where
  skills id row found mine := by
    obtain ⟨now, there, _, name, _⟩ := same.skills id row found mine
    obtain ⟨its, archived, rfl, rfl⟩ := reinstated.skills.recreated found mine there
    obtain ⟨id, own, stored, named, last, rfl⟩ := archived_skill archived
    obtain rfl : own = row := Option.some.inj (stored.symm.trans found)
    rw [(skillPlanOf_values platform member (id, own)).1.1] at name
    exact ⟨named, last, keptName_eq_iff.mp name⟩
  transcripts id row found mine := by
    obtain ⟨now, there, _, title, payload, audio⟩ := same.transcripts id row found mine
    obtain ⟨its, archived, rfl, rfl⟩ := reinstated.transcripts.recreated found mine there
    obtain ⟨id, own, stored, named, last, rfl⟩ := archived_transcript archived
    obtain rfl : own = row := Option.some.inj (stored.symm.trans found)
    have read := extract_of_payload (made _ (lastWhere_stem last).1)
    exact ⟨named, last, shownTitle_eq_iff.mp title, (keptPayload_eq_iff read).mp payload, keptAudio_eq_iff.mp audio⟩
  summaries id row found mine := by
    obtain ⟨now, there, _, title, body, source, skills, _⟩ := same.summaries id row found mine
    obtain ⟨map, restored⟩ := reinstated.summaries
    obtain ⟨its, archived, rfl, rfl⟩ := restored.recreated found mine there
    obtain ⟨id, own, stored, named, last, rfl⟩ := archived_summary archived
    obtain rfl : own = row := Option.some.inj (stored.symm.trans found)
    have source := filter_eq_self_iff.mp ((resolveTranscriptId_eq fun _ _ => reinstated.transcript_mapped).symm.trans source)
    have skills := List.filter_eq_self.mp ((resolveSkillIds_eq fun _ _ => reinstated.skill_mapped).symm.trans skills)
    refine ⟨named, last, shownTitle_eq_iff.mp title, body, fun id given => ?_, fun id given => ?_⟩
    · obtain ⟨shown, theirs⟩ := (Bool.and_eq_true ..).mp (source id given)
      exact ⟨bne_iff_ne.mp shown, reinstated.transcript_was_own lessOwn_withoutOwn theirs⟩
    · exact reinstated.skill_was_own lessOwn_withoutOwn (skills id given)

end Recreating

variable {newId : Nat → Id} {packing : Packing} {files : Files}

theorem restoreBackup_too_large {raw : packing.Raw} (large : maxUploadBytesCap < packing.size raw) (state : Library) :
    restoreBackup platform newId member packing raw state = .error .payloadTooLarge := by
  rw [restoreBackup, if_pos large]
  rfl

/-- A restore undoes a backup, with the own objects there and with them deleted, just where the archive is not too large
and keeps them as they are. -/
theorem restore_undoes_backup_iff (platform : Platform) (newId : Nat → Id) (member : Member) (library : Library)
    (packing : Packing)
    {files : Files} (built : buildBackup platform member library everything = some files) :
    (Undone member library library (restoreBackup platform newId member packing (packed packing files) library) ∧
      Undone member library (withoutOwn member library)
        (restoreBackup platform newId member packing (packed packing files) (withoutOwn member library))) ↔
      packing.size (packed packing files) ≤ maxUploadBytesCap ∧ Restorable platform member library := by
  have made := (buildBackup_some built).1
  constructor
  · rintro ⟨⟨report, after, restored, _⟩, ⟨report', after', restored', same, _⟩⟩
    have fits : packing.size (packed packing files) ≤ maxUploadBytesCap := by
      by_contra large
      rw [restoreBackup_too_large (not_le.mp large)] at restored
      cases restored
    obtain ⟨_, _, skillMap, transcriptMap, its, reinstated⟩ :=
      restoreBackup_built newId built packing fits (withoutOwn member library)
    cases its.symm.trans restored'
    exact ⟨fits, reinstated.restorable made same⟩
  · rintro ⟨fits, restorable⟩
    have undone (state : Library) (less : LessOwn member library state) :
        Undone member library state (restoreBackup platform newId member packing (packed packing files) state) := by
      obtain ⟨report, after, skillMap, transcriptMap, restored, reinstated⟩ := restoreBackup_built newId built packing fits state
      exact ⟨report, after, restored, reinstated.sameOwn less made restorable, reinstated.othersStay less⟩
    exact ⟨undone library lessOwn_refl, undone _ lessOwn_withoutOwn⟩

end Undoing

section Samples

/-- A talk, its recording, and a summary of it with the body that is given, made with an own skill. -/
def summarized (body : String) : Library where
  audios := (∅ : Table Id Audio).put "a1" ⟨"o1", "u1", "monday.ogg"⟩
  transcripts := (∅ : Table Id Transcript).put "t1" ⟨"o1", "u1", some "a1", some "Monday", (talk "").payload, false, 0⟩
  summaries := (∅ : Table Id Summary).put "m1" ⟨"o1", "u1", some "t1", ["s1"], none, body, false, 0⟩
  skills := (∅ : Table Id Skill).put "s1" ⟨.self, some "o1", some "u1", "Minutes", "Write the minutes.", 0, 0⟩
  shares := ∅

def archiveOf (library : Library) : Files := (buildBackup plainPlatform owner library everything).getD ∅

theorem find_single {R : Type} {key id : Id} {row other : R} (found : ((∅ : Table Id R).put key row).find id = some other) :
    id = key ∧ other = row := by
  rw [Table.find_put] at found
  split at found
  · exact ⟨‹_›, (Option.some.inj found).symm⟩
  · cases found

theorem restorable_plain : Restorable plainPlatform owner (summarized "All is well.") where
  skills id row found _ := by
    obtain ⟨rfl, rfl⟩ := find_single found
    exact ⟨by decide, by decide +kernel, by decide, by decide +kernel⟩
  transcripts id row found _ := by
    obtain ⟨rfl, rfl⟩ := find_single found
    refine ⟨by decide, by decide +kernel, ?_, .inl rfl, ?_⟩
    · rintro text ⟨⟩
      exact ⟨by decide, by decide +kernel⟩
    · rintro audio ⟨⟩
      exact ⟨by decide, by decide +kernel⟩
  summaries id row found _ := by
    obtain ⟨rfl, rfl⟩ := find_single found
    refine ⟨by decide, by decide +kernel, ?_, by decide +kernel, ?_, ?_⟩
    · rintro text ⟨⟩
    · rintro source ⟨⟩
      exact ⟨by decide, by decide +kernel⟩
    · intro skill given
      obtain rfl := List.mem_singleton.mp given
      decide +kernel

theorem archiveOf_built {library : Library} (made : (buildBackup plainPlatform owner library everything).isSome = true) :
    buildBackup plainPlatform owner library everything = some (archiveOf library) := by
  obtain ⟨files, built⟩ := Option.isSome_iff_exists.mp made
  rw [archiveOf, built, Option.getD_some]

theorem restore_undoes_backup_plain :
    Undone owner (summarized "All is well.") (withoutOwn owner (summarized "All is well."))
      (restoreBackup plainPlatform (fun _ => "n1")
      owner plainPacking (packed plainPacking (archiveOf (summarized "All is well.")))
        (withoutOwn owner (summarized "All is well."))) :=
  ((restore_undoes_backup_iff plainPlatform (fun _ => "n1") owner (summarized "All is well.") plainPacking
    (archiveOf_built (by decide +kernel))).mpr ⟨by decide +kernel, restorable_plain⟩).2

/-- A body that is one fenced block comes back without its fence. -/
theorem fenced_body_lost : ∃ files, buildBackup plainPlatform owner
    (summarized "```markdown\nAll is well.\n```") everything = some files ∧
    ¬Undone owner (summarized "```markdown\nAll is well.\n```") (summarized "```markdown\nAll is well.\n```")
      (restoreBackup plainPlatform (fun _ => "n1") owner plainPacking (packed plainPacking files)
        (summarized "```markdown\nAll is well.\n```")) := by
  refine ⟨_, archiveOf_built (by decide +kernel), ?_⟩
  rintro ⟨report, after, restored, same, _⟩
  obtain ⟨now, there, _, _, body, _⟩ := same.summaries "m1" _ (Table.find_put_self ..) (by decide +kernel)
  have unwrapped : (restoreBackup plainPlatform (fun _ => "n1") owner plainPacking
      (packed plainPacking (archiveOf (summarized "```markdown\nAll is well.\n```")))
      (summarized "```markdown\nAll is well.\n```")).toOption.map (fun its => (its.2.summaries.find "m1").map Summary.body) =
        some (some "All is well.") := by decide +kernel
  rw [restored] at unwrapped
  have unwrapped : (after.summaries.find "m1").map Summary.body = some "All is well." := Option.some.inj unwrapped
  rw [there, Option.map_some, body] at unwrapped
  exact absurd (Option.some.inj unwrapped) (by decide)

end Samples

end IdigestHub.Backup
