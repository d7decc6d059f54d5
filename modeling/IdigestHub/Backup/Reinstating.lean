import IdigestHub.Backup.Plans

/-! Restoring what `build_backup` archived: every object that has its file is reinstated from it. -/

set_option autoImplicit false

namespace IdigestHub.Backup

open Foundation Foundation.Fallible

section Rows

variable (platform : Platform) (member : Member) (library : Library)

/-- A worker response comes back whole, a list as its utterances are read, anything else as no utterances. -/
def keptPayload (payload : Json) : Json :=
  if isWorkerPayload payload then payload else .arr ((extractUtterances platform.python payload).getD [])

def keptAudio (sourceAudioId : Option Id) : Option Id :=
  sourceAudioId.filter fun id => id != "" && (library.audios.find id).any (ownAudio member)

def transcriptPlanOf (row : Id × Transcript) : Plan Transcript :=
  let title := shownTitle row.2.title
  let payload := keptPayload platform row.2.payload
  let sourceAudioId := keptAudio member library row.2.sourceAudioId
  let createdAt := parseDt platform (.str (platform.isoformat row.2.createdAt))
  { id := row.1
    rewrite := fun old => { old with title, payload, sourceAudioId }
    fresh := ⟨member.orgId, member.userId, sourceAudioId, title, payload, false, createdAt⟩ }

def keptName (name : String) : String := if Text.strip name = "" then "Skill" else Text.strip name

def skillPlanOf (row : Id × Skill) : Plan Skill :=
  let name := keptName row.2.name
  let createdAt := parseDt platform (.str (platform.isoformat row.2.createdAt))
  let updatedAt := parseDt platform (.str (platform.isoformat row.2.updatedAt))
  { id := row.1
    rewrite := fun old => { old with name, body := row.2.body, updatedAt }
    fresh := ⟨.self, some member.orgId, some member.userId, name, row.2.body, createdAt, updatedAt⟩ }

theorem skillPlanOf_values (row : Id × Skill) :
    ((skillPlanOf platform member row).fresh.name = keptName row.2.name ∧
      (skillPlanOf platform member row).fresh.body = row.2.body) ∧
    ∀ old, ((skillPlanOf platform member row).rewrite old).name = keptName row.2.name ∧
      ((skillPlanOf platform member row).rewrite old).body = row.2.body := by
  generalize its : keptName row.2.name = name
  simp only [skillPlanOf, its, implies_true, and_self]

theorem skillPlanOf_own (row : Id × Skill) : isOwnSkill member (skillPlanOf platform member row).fresh = true ∧
    ∀ old, isOwnSkill member ((skillPlanOf platform member row).rewrite old) = isOwnSkill member old := by
  simp only [skillPlanOf, isOwnSkill, beq_self_eq_true, Bool.and_self, implies_true, and_self]

variable (transcriptMap skillMap : Table Id Id)

def summaryPlanOf (row : Id × Summary) : Plan Summary :=
  let title := shownTitle row.2.title
  let body := unwrapMarkdownFence row.2.body
  let sourceTranscriptId := resolveTranscriptId member true library transcriptMap (optText row.2.sourceTranscriptId)
  let skillIds := resolveSkillIds member true library skillMap (.arr (row.2.skillIds.map Json.str))
  let createdAt := parseDt platform (.str (platform.isoformat row.2.createdAt))
  { id := row.1
    rewrite := fun old => { old with title, body, sourceTranscriptId, skillIds, edited := row.2.edited }
    fresh := ⟨member.orgId, member.userId, sourceTranscriptId, skillIds, title, body, row.2.edited, createdAt⟩ }

end Rows

section Reading

variable {platform : Platform} {member : Member} {library : Library} {files : Files}

theorem get_head (key : String) (value : Json) (rest : Dict) : Dict.get ((key, value) :: rest) key = value := by
  rw [Dict.get, Dict.find, if_pos rfl, Option.getD_some]

theorem get_tail {name key : String} (apart : name ≠ key) (value : Json) (rest : Dict) :
    Dict.get ((name, value) :: rest) key = Dict.get rest key := by
  rw [Dict.get, Dict.find, if_neg apart, Dict.get]

theorem identified_obj (id : Id) (rest : Dict) :
    identified platform (.json (.obj (("id", .str id) :: rest))) =
      if id = "" then none else some (id, ("id", .str id) :: rest) := by
  simp only [identified, Content.loads, Option.bind_some, Json.asDict, get_head, Json.truthy, Python.text, bne_iff_ne,
    ne_eq, ite_not]

theorem restoredTitle_eq {data : Dict} {title : Option String} (its : data.get "title" = optText title) :
    restoredTitle data = shownTitle title := by
  rw [restoredTitle, its]
  cases title <;> rfl

theorem text_optText (value : Option String) : (optText value).text? = value := by
  cases value <;> rfl

theorem validAudio_eq {data : Dict} {audioId : Option Id} (its : data.get "source_audio_id" = optText audioId) :
    validAudio member library (data.get "source_audio_id") = keptAudio member library audioId := by
  rw [its, validAudio, text_optText]
  rfl

theorem isWorkerPayload_obj {payload : Json} (worker : isWorkerPayload payload = true) : ∃ fields, payload = .obj fields := by
  cases payload with
  | obj fields => exact ⟨fields, rfl⟩
  | _ => cases worker

theorem filedPayload_eq (row : Id × Transcript) (made : (transcriptPayload platform library row).isSome = true) :
    ∃ rest, filedPayload platform library row = .obj (("id", .str row.1) :: rest) ∧
      Dict.get (("id", .str row.1) :: rest) "title" = optText row.2.title ∧
      Dict.get (("id", .str row.1) :: rest) "created_at" = .str (platform.isoformat row.2.createdAt) ∧
      Dict.get (("id", .str row.1) :: rest) "source_audio_id" = optText row.2.sourceAudioId ∧
      transcriptBlob (("id", .str row.1) :: rest) = keptPayload platform row.2.payload := by
  obtain ⟨payload, its⟩ := Option.isSome_iff_exists.mp made
  obtain ⟨utterances, extracted, rfl⟩ := Option.map_eq_some_iff.mp its
  rw [filedPayload, its]
  simp only [Option.getD_some, List.cons_append, List.nil_append]
  refine ⟨_, rfl, ?_, ?_, ?_, ?_⟩
  · rw [get_tail (by decide), get_head]
  · rw [get_tail (by decide), get_tail (by decide), get_tail (by decide), get_head]
  · rw [get_tail (by decide), get_tail (by decide), get_tail (by decide), get_tail (by decide), get_head]
  · rw [transcriptBlob, keptPayload, extracted]
    simp (disch := decide) only [get_tail]
    cases worker : isWorkerPayload row.2.payload with
    | true =>
      obtain ⟨fields, payload⟩ := isWorkerPayload_obj worker
      rw [if_pos rfl, if_pos rfl, get_head, payload]
    | false => rfl

theorem transcriptPlan_filed (row : Id × Transcript) (made : (transcriptPayload platform library row).isSome = true)
    (stem : String)
    (state : Library) : transcriptPlan platform member state ⟨Slot.path (.transcript stem),
      .json (filedPayload platform library row)⟩ =
      if row.1 = "" then none else some (transcriptPlanOf platform member state row) := by
  obtain ⟨rest, filed, title, createdAt, audio, blob⟩ := filedPayload_eq row made
  rw [transcriptPlan, if_pos ((isTranscriptPath_iff _).mpr ⟨stem, rfl⟩), filed, identified_obj]
  by_cases empty : row.1 = ""
  · rw [if_pos empty, if_pos empty]
    rfl
  · rw [if_neg empty, if_neg empty, Option.map_some, plannedTranscript, restoredTitle_eq title, validAudio_eq audio,
      createdAt, blob]
    rfl

theorem restoredName_eq {data : Dict} {name : String} (its : data.get "name" = .str name) :
    restoredName platform data = keptName name := by
  rw [restoredName, its]
  by_cases empty : name = ""
  · have word : Text.strip "Skill" = "Skill" := by decide +kernel
    have blank : Text.strip "" = "" := rfl
    simp [Json.truthy, empty, keptName, blank, word]
  · simp [Json.truthy, empty, Python.text, keptName]

theorem skillMeta_eq (row : Id × Skill × Catalog) :
    ∃ rest, skillMeta platform row = .obj (("id", .str row.1) :: rest) ∧
      Dict.get (("id", .str row.1) :: rest) "name" = .str row.2.1.name ∧
      Dict.get (("id", .str row.1) :: rest) "created_at" = .str (platform.isoformat row.2.1.createdAt) ∧
      Dict.get (("id", .str row.1) :: rest) "updated_at" = .str (platform.isoformat row.2.1.updatedAt) ∧
      Dict.get (("id", .str row.1) :: rest) "catalog" = .str row.2.2.text := by
  refine ⟨_, rfl, ?_, ?_, ?_, ?_⟩ <;> simp (disch := decide) only [get_tail, get_head]

theorem skillPlan_filed (row : Id × Skill × Catalog) (stem : String) (files : Files)
    (body : files.find (Slot.path (.skillBody stem)) = some (.text row.2.1.body)) :
    skillPlan platform member files ⟨Slot.path (.skillMeta stem), .json (skillMeta platform row)⟩ =
      if row.1 = "" ∨ row.2.2 = .shared then none else some (skillPlanOf platform member (row.1, row.2.1)) := by
  obtain ⟨rest, filed, name, createdAt, updatedAt, catalog⟩ := @skillMeta_eq platform row
  rw [skillPlan, described_skillMeta, body, filed, identified_obj]
  dsimp only
  by_cases empty : row.1 = ""
  · rw [if_pos empty, if_pos (.inl empty)]
    rfl
  · rw [if_neg empty, Option.bind_some]
    dsimp only
    rw [catalog, Content.decoded, Option.map_some, plannedSkill, restoredName_eq name, createdAt, updatedAt]
    have shown : (Json.str row.2.2.text).isText "shared" = decide (row.2.2 = .shared) := by
      cases row.2.2 <;> decide +kernel
    rw [shown]
    by_cases shared : row.2.2 = .shared
    · rw [if_pos (by simp [shared]), if_pos (.inr shared)]
    · rw [if_neg (by simp [shared]), if_neg (by simp [empty, shared])]
      rfl

theorem summaryMeta_eq (row : Id × Summary) :
    ∃ rest, summaryMeta platform library row = .obj (("id", .str row.1) :: rest) ∧
      Dict.get (("id", .str row.1) :: rest) "title" = optText row.2.title ∧
      Dict.get (("id", .str row.1) :: rest) "created_at" = .str (platform.isoformat row.2.createdAt) ∧
      Dict.get (("id", .str row.1) :: rest) "source_transcript_id" = optText row.2.sourceTranscriptId ∧
      Dict.get (("id", .str row.1) :: rest) "skill_ids" = .arr (row.2.skillIds.map Json.str) ∧
      Dict.get (("id", .str row.1) :: rest) "edited" = .bool row.2.edited := by
  refine ⟨_, rfl, ?_, ?_, ?_, ?_, ?_⟩ <;> simp (disch := decide) only [get_tail, get_head]

theorem summaryPlan_filed (row : Id × Summary) (stem : String) (files : Files)
    (body : files.find (Slot.path (.summaryBody stem)) = some (.text (unwrapMarkdownFence row.2.body))) (state : Library)
    (transcriptMap skillMap : Table Id Id) :
    summaryPlan platform member files state transcriptMap skillMap
        ⟨Slot.path (.summaryMeta stem), .json (summaryMeta platform library row)⟩ =
      if row.1 = "" then none else some (summaryPlanOf platform member state transcriptMap skillMap row) := by
  obtain ⟨rest, filed, title, createdAt, source, skills, edited⟩ := @summaryMeta_eq platform library row
  rw [summaryPlan, described_summaryMeta, body, filed, identified_obj]
  dsimp only
  by_cases empty : row.1 = ""
  · rw [if_pos empty, if_pos empty]
    rfl
  · rw [if_neg empty, if_neg empty, Option.bind_some]
    dsimp only
    rw [Content.decoded, Option.map_some, plannedSummary, restoredTitle_eq title, source, skills, edited, createdAt]
    rfl

end Reading

section Archived

variable {platform : Platform} {member : Member} {library : Library} {files : Files}

theorem find_sortedFiles (path : String) : (sortedFiles files).find path = files.find path :=
  List.perm_dlookup path (sortedFiles files).nodupKeys (List.perm_insertionSort ..)

theorem mem_sortedFiles {path : String} {content : Content} :
    (⟨path, content⟩ : (_ : String) × Content) ∈ (sortedFiles files).entries ↔ files.find path = some content := by
  rw [Table.mem_entries, find_sortedFiles]

theorem mem_listed {R : Type} {table : Table Id R} {shown : Id → R → Bool} {createdAt : R → Nat} {row : Id × R} :
    row ∈ listed table shown createdAt ↔ table.find row.1 = some row.2 ∧ shown row.1 row.2 = true := by
  rw [listed, List.mem_insertionSort, List.mem_filter, List.mem_map, ← Table.mem_entries]
  refine and_congr_left fun _ => ⟨?_, fun member => ⟨_, member, rfl⟩⟩
  rintro ⟨entry, member, rfl⟩
  exact member

section Parts

variable {R Row : Type} {plan : (_ : String) × Content → Option (Plan R)} {slotOf : String → Slot} {last : String → Option Row}
  {stemOf : Row → String} {content : Row → Content} {planOf : Row → Option (Plan R)}

def Archived (last : String → Option Row) (stemOf : Row → String) (planOf : Row → Option (Plan R)) (its : Plan R) : Prop :=
  ∃ row, last (stemOf row) = some row ∧ planOf row = some its

structure Part.Written (files : Files) (plan : (_ : String) × Content → Option (Plan R)) (slotOf : String → Slot)
    (last : String → Option Row) (stemOf : Row → String) (content : Row → Content) (planOf : Row → Option (Plan R)) : Prop where
  slots : ∀ path, (files.find path).isSome = true → IsSlot path
  only : ∀ slot content, (plan ⟨Slot.path slot, content⟩).isSome = true → ∃ stem, slot = slotOf stem
  filed : ∀ stem, files.find (slotOf stem).path = (last stem).map content
  stems : ∀ stem row, last stem = some row → stem = stemOf row
  read : ∀ row, last (stemOf row) = some row → plan ⟨(slotOf (stemOf row)).path, content row⟩ = planOf row

variable (written : Part.Written files plan slotOf last stemOf content planOf)

include written

theorem Part.Written.row {file : (_ : String) × Content} (member : file ∈ (sortedFiles files).entries) {its : Plan R}
    (planned : plan file = some its) : ∃ row, last (stemOf row) = some row ∧ planOf row = some its ∧
      file.1 = (slotOf (stemOf row)).path := by
  obtain ⟨path, body⟩ := file
  have found := mem_sortedFiles.mp member
  obtain ⟨slot, rfl⟩ := written.slots path (Option.isSome_of_eq_some found)
  obtain ⟨stem, rfl⟩ := written.only slot body (Option.isSome_of_eq_some planned)
  rw [written.filed stem] at found
  obtain ⟨row, its, rfl⟩ := Option.map_eq_some_iff.mp found
  obtain rfl := written.stems stem row its
  exact ⟨row, its, (written.read row its).symm.trans planned, rfl⟩

theorem Part.Written.archived_iff (its : Plan R) :
    (∃ file ∈ (sortedFiles files).entries, plan file = some its) ↔ Archived last stemOf planOf its := by
  constructor
  · rintro ⟨file, member, planned⟩
    obtain ⟨row, its, same, _⟩ := written.row member planned
    exact ⟨row, its, same⟩
  · rintro ⟨row, its, same⟩
    refine ⟨⟨_, content row⟩, mem_sortedFiles.mpr ?_, (written.read row its).trans same⟩
    rw [written.filed, its]
    rfl

theorem Part.Written.distinct (keys : ∀ a b, last (stemOf a) = some a → last (stemOf b) = some b → ∀ p q, planOf a = some p →
    planOf b = some q → p.id = q.id → stemOf a = stemOf b) :
    (sortedFiles files).entries.Pairwise fun first second => ∀ a b, plan first = some a → plan second = some b → a.id ≠ b.id := by
  have paths : (sortedFiles files).entries.Pairwise fun first second => first.1 ≠ second.1 :=
    List.pairwise_map.mp (sortedFiles files).nodupKeys
  refine paths.imp_of_mem fun {first second} member member' apart p q planned planned' same => apart ?_
  obtain ⟨a, its, planA, path⟩ := written.row member planned
  obtain ⟨b, other, planB, path'⟩ := written.row member' planned'
  rw [path, path', keys a b its other p q planA planB same]

end Parts

section Kinds

variable (platform member)

def skillPlanned (row : Id × Skill × Catalog) : Option (Plan Skill) :=
  if row.1 = "" ∨ row.2.2 = .shared then none else some (skillPlanOf platform member (row.1, row.2.1))

def transcriptPlanned (state : Library) (row : Id × Transcript) : Option (Plan Transcript) :=
  if row.1 = "" then none else some (transcriptPlanOf platform member state row)

def summaryPlanned (state : Library) (transcriptMap skillMap : Table Id Id) (row : Id × Summary) : Option (Plan Summary) :=
  if row.1 = "" then none else some (summaryPlanOf platform member state transcriptMap skillMap row)

variable {platform member}

theorem lastWhere_stem {A : Type} {items : List A} {stemOf : A → String} {stem : String} {row : A}
    (last : lastWhere items (fun row => stem == stemOf row) = some row) : row ∈ items ∧ stem = stemOf row :=
  ⟨(lastWhere_some last).1, beq_iff_eq.mp (lastWhere_some last).2⟩

variable (built : buildBackup platform member library everything = some files)

include built

theorem transcripts_written (state : Library) :
    Part.Written files (transcriptPlan platform member state) .transcript (lastTranscript platform member library)
      (transcriptStem platform library) (fun row => .json (filedPayload platform library row))
        (transcriptPlanned platform member state) where
  slots _ := slot_of_file built
  only slot content its := by
    refine (isTranscriptPath_iff slot).mp ?_
    unfold transcriptPlan at its
    split at its
    · assumption
    · cases its
  filed := find_transcript built
  stems _ _ last := (lastWhere_stem last).2
  read row last := transcriptPlan_filed row ((buildBackup_some built).1 row (lastWhere_stem last).1) _ state

theorem skills_written :
    Part.Written files (skillPlan platform member (sortedFiles files)) .skillMeta (lastSkill platform member library)
      (skillStem platform) (fun row => .json (skillMeta platform row)) (skillPlanned platform member) where
  slots _ := slot_of_file built
  only slot content its := by
    refine @slot_of_skill (sortedFiles files) slot ?_
    unfold skillPlan at its
    split at its
    · rename_i bodyRaw here
      rw [here]
      rfl
    · cases its
  filed := find_skillMeta built
  stems _ _ last := (lastWhere_stem last).2
  read row last := skillPlan_filed row _ _ (by rw [find_sortedFiles, find_skillBody built, last]; rfl)

theorem summaries_written (state : Library) (transcriptMap skillMap : Table Id Id) :
    Part.Written files (summaryPlan platform member (sortedFiles files) state transcriptMap skillMap) .summaryMeta
      (lastSummary platform member library) (summaryStem platform library) (fun row => .json (summaryMeta platform library row))
      (summaryPlanned platform member state transcriptMap skillMap) where
  slots _ := slot_of_file built
  only slot content its := by
    refine @slot_of_summary (sortedFiles files) slot ?_
    unfold summaryPlan at its
    split at its
    · rename_i bodyRaw here
      rw [here]
      rfl
    · cases its
  filed := find_summaryMeta built
  stems _ _ last := (lastWhere_stem last).2
  read row last := summaryPlan_filed row _ _ (by rw [find_sortedFiles, find_summaryBody built, last]; rfl) state _ _

theorem readable_skill {file : (_ : String) × Content} (member' : file ∈ (sortedFiles files).entries) :
    Readable "skills/" (sortedFiles files) file.1 := by
  intro bodyRaw its
  obtain ⟨slot, named⟩ := slot_of_file built (Option.isSome_of_eq_some (mem_sortedFiles.mp member'))
  rw [named] at its
  obtain ⟨stem, rfl⟩ := slot_of_skill (Option.isSome_of_eq_some its)
  rw [described_skillMeta, find_sortedFiles, find_skillBody built] at its
  obtain ⟨row, _, rfl⟩ := Option.map_eq_some_iff.mp (Option.some.inj its)
  rfl

theorem readable_summary {file : (_ : String) × Content} (member' : file ∈ (sortedFiles files).entries) :
    Readable "summaries/" (sortedFiles files) file.1 := by
  intro bodyRaw its
  obtain ⟨slot, named⟩ := slot_of_file built (Option.isSome_of_eq_some (mem_sortedFiles.mp member'))
  rw [named] at its
  obtain ⟨stem, rfl⟩ := slot_of_summary (Option.isSome_of_eq_some its)
  rw [described_summaryMeta, find_sortedFiles, find_summaryBody built] at its
  obtain ⟨row, _, rfl⟩ := Option.map_eq_some_iff.mp (Option.some.inj its)
  rfl

omit built in
theorem mem_listedSkills {row : Id × Skill × Catalog} (listed : row ∈ listedSkills member library) :
    library.skills.find row.1 = some row.2.1 ∧ (row.2.2 = .self → isOwnSkill member row.2.1 = true) := by
  rw [listedSkills, List.mem_append, List.mem_map, List.mem_map] at listed
  simp only [List.mem_filter, List.mem_map] at listed
  rcases listed with ⟨_, ⟨⟨entry, member', rfl⟩, own⟩, rfl⟩ | ⟨_, ⟨⟨entry, member', rfl⟩, _⟩, rfl⟩
  · exact ⟨(Table.mem_entries ..).mp member', fun _ => own⟩
  · exact ⟨(Table.mem_entries ..).mp member', fun self => by cases self⟩

omit built in
theorem transcript_keys {state : Library} (a b : Id × Transcript)
    (last : lastTranscript platform member library (transcriptStem platform library a) = some a)
    (last' : lastTranscript platform member library (transcriptStem platform library b) = some b) (p q : Plan Transcript)
    (planned : transcriptPlanned platform member state a = some p) (planned' : transcriptPlanned platform member state b = some q)
    (same : p.id = q.id) : transcriptStem platform library a = transcriptStem platform library b := by
  unfold transcriptPlanned at planned planned'
  split at planned <;> split at planned' <;> cases planned <;> cases planned'
  have found := (mem_listed.mp (lastWhere_stem last).1).1
  rw [show a.1 = b.1 from same, (mem_listed.mp (lastWhere_stem last').1).1] at found
  rw [Prod.ext (show a.1 = b.1 from same) (Option.some.inj found).symm]

omit built in
theorem summary_keys {state : Library} {transcriptMap skillMap : Table Id Id} (a b : Id × Summary)
    (last : lastSummary platform member library (summaryStem platform library a) = some a)
    (last' : lastSummary platform member library (summaryStem platform library b) = some b) (p q : Plan Summary)
    (planned : summaryPlanned platform member state transcriptMap skillMap a = some p)
    (planned' : summaryPlanned platform member state transcriptMap skillMap b = some q) (same : p.id = q.id) :
    summaryStem platform library a = summaryStem platform library b := by
  unfold summaryPlanned at planned planned'
  split at planned <;> split at planned' <;> cases planned <;> cases planned'
  have found := (mem_listed.mp (lastWhere_stem last).1).1
  rw [show a.1 = b.1 from same, (mem_listed.mp (lastWhere_stem last').1).1] at found
  rw [Prod.ext (show a.1 = b.1 from same) (Option.some.inj found).symm]

omit built in
theorem skill_keys (a b : Id × Skill × Catalog) (last : lastSkill platform member library (skillStem platform a) = some a)
    (last' : lastSkill platform member library (skillStem platform b) = some b) (p q : Plan Skill)
    (planned : skillPlanned platform member a = some p) (planned' : skillPlanned platform member b = some q)
      (same : p.id = q.id) :
    skillStem platform a = skillStem platform b := by
  unfold skillPlanned at planned planned'
  split at planned <;> split at planned' <;> cases planned <;> cases planned'
  have found := (mem_listedSkills (lastWhere_stem last).1).1
  rw [show a.1 = b.1 from same, (mem_listedSkills (lastWhere_stem last').1).1] at found
  rw [skillStem, skillStem, show a.1 = b.1 from same, Option.some.inj found]

end Kinds

section Restoring

variable {newId : Nat → Id}

theorem manifest_eq : ∃ fields, manifest platform member library everything = .obj fields ∧
    isOne (Dict.get fields "version") = true ∧ isSameContext member fields = true ∧
    Dict.get fields "includes" = .arr [.str "transcripts", .str "summaries", .str "skills"] := by
  simp only [manifest, everything, if_true, List.cons_append, List.nil_append]
  refine ⟨_, rfl, ?_, ?_, ?_⟩
  · rw [get_head]
    rfl
  · simp (disch := decide) only [isSameContext, get_tail, get_head]
    simp [Json.isText]
  · simp (disch := decide) only [get_tail, get_head]

theorem includes_of_listed {fields : Dict} {names : List Json} (given : fields.get "includes" = .arr names) {name : String}
    (listed : names.any (·.isText name) = true) : includes fields name = .ok true := by
  rw [includes, given]
  cases names with
  | nil => cases listed
  | cons first rest => simp only [Json.truthy, List.isEmpty_cons, Bool.not_false, Bool.true_eq_false, if_false, listed]

theorem restorePart_built {R Row : Type} {own : R → Bool} {plan : (_ : String) × Content → Option (Plan R)}
    {slotOf : String → Slot}
    {last : String → Option Row} {stemOf : Row → String} {content : Row → Content} {planOf : Row → Option (Plan R)}
    (written : Part.Written files plan slotOf last stemOf content planOf)
    (keys : ∀ a b, last (stemOf a) = some a → last (stemOf b) = some b → ∀ p q, planOf a = some p → planOf b = some q →
      p.id = q.id → stemOf a = stemOf b)
    {fields : Dict} {name : String} (listed : includes fields name = .ok true)
    (judge : Part R → String → Content → Option (Verdict R))
    (judged : ∀ part, ∀ file ∈ (sortedFiles files).entries, ∃ verdict, judge part file.1 file.2 = some verdict ∧
      Follows own part.rows (plan file) verdict) (rows : Table Id R) (drawn : Nat) :
    ∃ after stored, restorePart fields name judge (sortedFiles files) (.start rows drawn) = .ok (after, stored) ∧
      Restored own (Archived last stemOf planOf) rows stored after.map := by
  obtain ⟨after, stored, ran, flushed, restored⟩ := run_restores judged (written.distinct keys) rows drawn
  refine ⟨after, stored, ?_, ?_⟩
  · simp only [restorePart, listed, ran, orRaise, flushed, bind, Except.bind, pure, Except.pure, Option.elim_some, if_true]
  · rwa [funext fun its => propext (written.archived_iff its)] at restored

/-- The rows of the three parts after a restore of the archive, whatever rows there are by then. -/
structure Reinstated (platform : Platform) (member : Member) (library state after : Library)
    (skillMap transcriptMap : Table Id Id) :
    Prop where
  audios : after.audios = state.audios
  shares : after.shares = state.shares
  skills : Restored (isOwnSkill member) (Archived (lastSkill platform member library) (skillStem platform)
    (skillPlanned platform member)) state.skills after.skills skillMap
  transcripts : Restored (ownTranscript member) (Archived (lastTranscript platform member library)
    (transcriptStem platform library)
    (transcriptPlanned platform member { state with skills := after.skills })) state.transcripts after.transcripts transcriptMap
  summaries : ∃ map, Restored (ownSummary member) (Archived (lastSummary platform member library) (summaryStem platform library)
    (summaryPlanned platform member { state with skills := after.skills, transcripts := after.transcripts }
      transcriptMap skillMap))
    state.summaries after.summaries map

theorem restoreFiles_built (built : buildBackup platform member library everything = some files) {fields : Dict}
    (same : isSameContext member fields = true)
    (given : fields.get "includes" = .arr [.str "transcripts", .str "summaries", .str "skills"]) (state : Library) :
    ∃ report after skillMap transcriptMap,
      restoreFiles platform newId member (sortedFiles files) fields state = .ok (report, after) ∧
        Reinstated platform member library state after skillMap transcriptMap := by
  have listed : includes fields "skills" = .ok true ∧ includes fields "transcripts" = .ok true ∧
    includes fields "summaries" = .ok true :=
    ⟨includes_of_listed given (by decide +kernel), includes_of_listed given (by decide +kernel),
      includes_of_listed given (by decide +kernel)⟩
  obtain ⟨skills, skillRows, ranSkills, restoredSkills⟩ := restorePart_built (skills_written built) skill_keys listed.1
    (judgeSkill platform newId member (sortedFiles files) true)
    (fun part file member' => judgeSkill_follows part file (readable_skill built member')) state.skills 0
  let withSkills : Library := { state with skills := skillRows }
  obtain ⟨transcripts, transcriptRows, ranTranscripts, restoredTranscripts⟩ := restorePart_built
    (transcripts_written built withSkills) transcript_keys listed.2.1
    (fun part path raw => some (judgeTranscript platform newId member true withSkills part path raw))
    (fun part file _ => ⟨_, rfl, judgeTranscript_follows part file⟩) state.transcripts skills.drawn
  let withTranscripts : Library := { withSkills with transcripts := transcriptRows }
  obtain ⟨summaries, summaryRows, ranSummaries, restoredSummaries⟩ := restorePart_built
    (summaries_written built withTranscripts transcripts.map skills.map) summary_keys listed.2.2
    (judgeSummary platform newId member (sortedFiles files) true withTranscripts transcripts.map skills.map)
    (fun part file member' => judgeSummary_follows part file (readable_summary built member')) state.summaries transcripts.drawn
  let after : Library := { withTranscripts with summaries := summaryRows }
  have reinstated : Reinstated platform member library state after skills.map transcripts.map :=
    ⟨rfl, rfl, restoredSkills, restoredTranscripts, summaries.map, restoredSummaries⟩
  let report : RestoreReport := ⟨.restore, skills.counters, transcripts.counters, summaries.counters⟩
  refine ⟨report, after, skills.map, transcripts.map, ?_, reinstated⟩
  rw [restoreFiles, same]
  exact bind_ok.mpr ⟨_, ranSkills, bind_ok.mpr ⟨_, ranTranscripts, bind_ok.mpr ⟨_, ranSummaries, rfl⟩⟩⟩

variable (newId) in
/-- An archive of an account can be restored there unless it is too large. -/
theorem restoreBackup_built (built : buildBackup platform member library everything = some files) (packing : Packing)
    (fits : packing.size (packed packing files) ≤ maxUploadBytesCap) (state : Library) :
    ∃ report after skillMap transcriptMap,
      restoreBackup platform newId member packing (packed packing files) state = .ok (report, after) ∧
        Reinstated platform member library state after skillMap transcriptMap := by
  obtain ⟨fields, listed, version, same, given⟩ := @manifest_eq platform member library
  obtain ⟨report, after, skillMap, transcriptMap, restored, reinstated⟩ :=
    @restoreFiles_built _ _ _ _ newId built fields same given state
  refine ⟨report, after, skillMap, transcriptMap, ?_, reinstated⟩
  have unpacked : packing.unpack (packed packing files) = some (sortedFiles files) := packing.unpack_pack _
  have found : (sortedFiles files).find "manifest.json" = some (.json (.obj fields)) := by
    rw [find_sortedFiles, ← listed]
    exact find_manifest built
  have read : loadManifest (sortedFiles files) = .ok fields := by
    rw [loadManifest, found]
    exact if_pos version
  rw [restoreBackup, if_neg (not_lt.mpr fits)]
  refine bind_ok.mpr ⟨_, orRaise_ok.mpr unpacked, bind_ok.mpr ⟨_, read, restored⟩⟩

end Restoring

end Archived

end IdigestHub.Backup
