import IdigestHub.Backup.Restore

/-! Which files an archive of `build_backup` has, and whose. Of two objects that share a stem, the one that is
written last has the file. -/

set_option autoImplicit false

namespace IdigestHub.Backup

open Foundation Foundation.Fallible

section Slots

/-- Two letters of the folder and the last one of the ending tell the kinds of files apart. -/
def Slot.signature : Slot → List Char × Option Char
  | .transcript _ => (['t', 'r'], some 'n')
  | .summaryBody _ => (['s', 'u'], some 'd')
  | .summaryMeta _ => (['s', 'u'], some 'n')
  | .skillBody _ => (['s', 'k'], some 'd')
  | .skillMeta _ => (['s', 'k'], some 'n')
  | .manifest => (['m', 'a'], some 'n')

def signature (path : String) : List Char × Option Char := (path.toList.take 2, path.toList.getLast?)

theorem signature_append {a b : Char} {folder stem ending : String} {rest : List Char} (starts : folder.toList = a :: b :: rest)
    (ends : ending.toList ≠ []) : signature (folder ++ stem ++ ending) = ([a, b], ending.toList.getLast?) := by
  rw [signature, String.toList_append, String.toList_append, starts, List.getLast?_append_of_ne_nil _ ends]
  rfl

theorem signature_path (slot : Slot) : signature slot.path = slot.signature := by
  cases slot with
  | transcript stem => exact signature_append rfl (by decide)
  | summaryBody stem => exact signature_append rfl (by decide)
  | summaryMeta stem => exact signature_append rfl (by decide)
  | skillBody stem => exact signature_append rfl (by decide)
  | skillMeta stem => exact signature_append rfl (by decide)
  | manifest => rfl

theorem stem_of_append {folder ending : String} {a b : String} (same : folder ++ a ++ ending = folder ++ b ++ ending) :
    a = b := by
  have lists := congrArg String.toList same
  simp only [String.toList_append, List.append_assoc, List.append_cancel_left_eq, List.append_cancel_right_eq] at lists
  exact String.toList_injective lists

theorem path_injective {first second : Slot} (same : first.path = second.path) : first = second := by
  have signatures : first.signature = second.signature := by rw [← signature_path, ← signature_path, same]
  cases first <;> cases second <;> first | (cases signatures; done) | rfl | exact congrArg _ (stem_of_append same)

theorem signature_of_startsWith {a b : Char} {start path : String} {rest : List Char} (begins : start.toList = a :: b :: rest)
    (starts : startsWith start path = true) : (signature path).1 = [a, b] := by
  obtain ⟨tail, its⟩ := List.isPrefixOf_iff_prefix.mp starts
  rw [signature, ← its, begins]
  rfl

theorem signature_of_endsWith {ending path : String} (nonempty : ending.toList ≠ []) (ends : endsWith ending path = true) :
    (signature path).2 = ending.toList.getLast? := by
  obtain ⟨head, its⟩ := List.isSuffixOf_iff_suffix.mp ends
  rw [signature, ← its, List.getLast?_append_of_ne_nil _ nonempty]

theorem startsWith_append (start rest : String) : startsWith start (start ++ rest) = true := by
  rw [startsWith, String.toList_append, List.isPrefixOf_iff_prefix]
  exact List.prefix_append ..

theorem endsWith_append (head ending : String) : endsWith ending (head ++ ending) = true := by
  rw [endsWith, String.toList_append, List.isSuffixOf_iff_suffix]
  exact List.suffix_append ..

/-- The transcripts of an archive are read from their files. -/
theorem isTranscriptPath_iff (slot : Slot) : isTranscriptPath slot.path = true ↔ ∃ stem, slot = .transcript stem := by
  constructor
  · intro named
    have begins : slot.signature.1 = ['t', 'r'] := by
      rw [← signature_path]
      exact signature_of_startsWith rfl (Bool.and_eq_true _ _ ▸ named).1
    cases slot with
    | transcript stem => exact ⟨stem, rfl⟩
    | manifest => cases begins
    | _ => cases begins
  · rintro ⟨stem, rfl⟩
    rw [isTranscriptPath, Slot.path, endsWith_append, String.append_assoc, startsWith_append]
    rfl

theorem dropEnding_append (head ending : String) : dropEnding ending (head ++ ending) = head := by
  rw [dropEnding, String.length_append, Nat.add_sub_cancel, String.toList_append]
  apply String.toList_injective
  rw [String.toList_ofList, List.take_left' String.length_toList]

theorem described_append (folder : String) (files : Files) (stem : String) :
    described folder files (folder ++ stem ++ ".meta.json") = some (files.find (folder ++ stem ++ ".md")) := by
  have named : (startsWith folder (folder ++ stem ++ ".meta.json") &&
      endsWith ".meta.json" (folder ++ stem ++ ".meta.json")) = true := by
    rw [endsWith_append, String.append_assoc, startsWith_append]
    rfl
  rw [described, if_pos named, dropEnding_append]

theorem described_summaryMeta (files : Files) (stem : String) :
    described "summaries/" files (Slot.path (.summaryMeta stem)) = some (files.find (Slot.path (.summaryBody stem))) :=
  described_append ..

theorem described_skillMeta (files : Files) (stem : String) :
    described "skills/" files (Slot.path (.skillMeta stem)) = some (files.find (Slot.path (.skillBody stem))) :=
  described_append ..

theorem signature_of_described {a b : Char} {folder : String} {rest : List Char} (begins : folder.toList = a :: b :: rest)
    {files : Files} {slot : Slot} (its : (described folder files slot.path).isSome = true) :
      slot.signature = ([a, b], some 'n') := by
  unfold described at its
  split at its
  · rename_i named
    obtain ⟨starts, ends⟩ := Bool.and_eq_true _ _ ▸ named
    rw [← signature_path]
    exact Prod.ext (signature_of_startsWith begins starts) (signature_of_endsWith (by decide) ends)
  · cases its

theorem slot_of_summary {files : Files} {slot : Slot} (its : (described "summaries/" files slot.path).isSome = true) :
    ∃ stem, slot = .summaryMeta stem := by
  have known : slot.signature = (['s', 'u'], some 'n') := signature_of_described rfl its
  cases slot with
  | summaryMeta stem => exact ⟨stem, rfl⟩
  | _ => cases known

theorem slot_of_skill {files : Files} {slot : Slot} (its : (described "skills/" files slot.path).isSome = true) :
    ∃ stem, slot = .skillMeta stem := by
  have known : slot.signature = (['s', 'k'], some 'n') := signature_of_described rfl its
  cases slot with
  | skillMeta stem => exact ⟨stem, rfl⟩
  | _ => cases known

end Slots

section Writing

variable {A : Type}

def lastWhere (items : List A) (condition : A → Bool) : Option A := items.reverse.find? condition

theorem lastWhere_cons (first : A) (rest : List A) (condition : A → Bool) :
    lastWhere (first :: rest) condition = (lastWhere rest condition).or (if condition first then some first else none) := by
  rw [lastWhere, List.reverse_cons, List.find?_append, List.find?_singleton]
  rfl

theorem lastWhere_some {items : List A} {condition : A → Bool} {item : A} (last : lastWhere items condition = some item) :
    item ∈ items ∧ condition item = true :=
  ⟨List.mem_reverse.mp (List.mem_of_find?_eq_some last), List.find?_some last⟩

/-- What stands at a path after each item had its turn, by induction on the items. -/
theorem find_foldl {turn : Files → A → Files} {items : List A} {path : String} (condition : A → Bool) (content : A → Content)
    (each : ∀ files, ∀ item ∈ items, (turn files item).find path =
      if condition item then some (content item) else files.find path)
    (files : Files) : (items.foldl turn files).find path = ((lastWhere items condition).map content).or (files.find path) := by
  induction items generalizing files with
  | nil => rfl
  | cons first rest ih =>
    rw [List.foldl_cons, ih fun files item member => each files item (List.mem_cons_of_mem _ member), lastWhere_cons,
      each files first (List.mem_cons_self ..)]
    cases lastWhere rest condition with
    | some later => rfl
    | none =>
      cases condition first <;> rfl

theorem find_foldl_other {turn : Files → A → Files} {items : List A} {path : String}
    (each : ∀ files, ∀ item ∈ items, (turn files item).find path = files.find path) (files : Files) :
    (items.foldl turn files).find path = files.find path := by
  induction items generalizing files with
  | nil => rfl
  | cons first rest ih =>
    rw [List.foldl_cons, ih fun files item member => each files item (List.mem_cons_of_mem _ member)]
    exact each files first (List.mem_cons_self ..)

theorem path_foldl {turn : Files → A → Files} {Written : String → Prop} {items : List A}
    (each : ∀ files, ∀ item ∈ items, ∀ path, ((turn files item).find path).isSome = true →
      (files.find path).isSome = true ∨ Written path)
    (files : Files) {path : String} (found : ((items.foldl turn files).find path).isSome = true) :
    (files.find path).isSome = true ∨ Written path := by
  induction items generalizing files with
  | nil => exact .inl found
  | cons first rest ih =>
    rcases ih (fun files item member => each files item (List.mem_cons_of_mem _ member)) _ found with before | written
    · exact each files first (List.mem_cons_self ..) path before
    · exact .inr written

theorem find_assign_slot (files : Files) (slot other : Slot) (content : Content) :
    (files.assign slot.path content).find other.path = if other = slot then some content else files.find other.path := by
  rw [Table.find_assign]
  by_cases same : other = slot
  · rw [if_pos same, if_pos (congrArg _ same)]
  · rw [if_neg same, if_neg fun paths => same (path_injective paths)]

def IsSlot (path : String) : Prop := ∃ slot : Slot, path = slot.path

theorem slot_of_assign {files : Files} {slot : Slot} {content : Content} {path : String}
    (found : ((files.assign slot.path content).find path).isSome = true) : (files.find path).isSome = true ∨ IsSlot path := by
  rw [Table.find_assign] at found
  split at found
  · rename_i same
    exact .inr ⟨slot, same⟩
  · exact .inl found

end Writing

section Building

variable {platform : Platform} {member : Member} {library : Library} {files : Files}

def everything : Included := ⟨true, true, true⟩

def filedPayload (platform : Platform) (library : Library) (row : Id × Transcript) : Json :=
  (transcriptPayload platform library row).getD .null

theorem buildBackup_some (built : buildBackup platform member library everything = some files) :
    (∀ row ∈ listedTranscripts member library, (transcriptPayload platform library row).isSome = true) ∧
      files = (addSkills platform member library (addSummaries platform member library
        ((listedTranscripts member library).foldl (fun files row =>
          files.assign (Slot.path (.transcript (transcriptStem platform library row)))
            (.json (filedPayload platform library row))) ∅))).assign
        (Slot.path .manifest) (.json (manifest platform member library everything)) := by
  obtain ⟨transcripts, added, rest⟩ := Option.bind_eq_some_iff.mp built
  obtain ⟨all, rfl⟩ := foldlM_map added .null
  exact ⟨all, (Option.some.inj rest).symm⟩

theorem find_addSummaries_other {slot : Slot} (other : ∀ stem, slot ≠ .summaryBody stem ∧ slot ≠ .summaryMeta stem)
    (files : Files) :
    (addSummaries platform member library files).find slot.path = files.find slot.path := by
  refine find_foldl_other (fun files row _ => ?_) files
  have apart := other (summaryStem platform library row)
  rw [find_assign_slot, if_neg apart.2, find_assign_slot, if_neg apart.1]

theorem find_addSkills_other {slot : Slot} (other : ∀ stem, slot ≠ .skillBody stem ∧ slot ≠ .skillMeta stem) (files : Files) :
    (addSkills platform member library files).find slot.path = files.find slot.path := by
  refine find_foldl_other (fun files row _ => ?_) files
  have apart := other (skillStem platform row)
  rw [find_assign_slot, if_neg apart.2, find_assign_slot, if_neg apart.1]

def lastTranscript (platform : Platform) (member : Member) (library : Library) (stem : String) : Option (Id × Transcript) :=
  lastWhere (listedTranscripts member library) fun row => stem == transcriptStem platform library row

def lastSummary (platform : Platform) (member : Member) (library : Library) (stem : String) : Option (Id × Summary) :=
  lastWhere (listedSummaries member library) fun row => stem == summaryStem platform library row

def lastSkill (platform : Platform) (member : Member) (library : Library) (stem : String) : Option (Id × Skill × Catalog) :=
  lastWhere (listedSkills member library) fun row => stem == skillStem platform row

theorem find_transcript (built : buildBackup platform member library everything = some files) (stem : String) :
    files.find (Slot.path (.transcript stem)) =
      (lastTranscript platform member library stem).map fun row => .json (filedPayload platform library row) := by
  rw [(buildBackup_some built).2, find_assign_slot, if_neg (by simp), find_addSkills_other (by simp),
    find_addSummaries_other (by simp),
    find_foldl (fun row => stem == transcriptStem platform library row) (fun row => .json (filedPayload platform library row))
      fun files row _ => by simp only [find_assign_slot, Slot.transcript.injEq, beq_iff_eq]]
  exact Option.or_none ..

theorem find_summaryBody (built : buildBackup platform member library everything = some files) (stem : String) :
    files.find (Slot.path (.summaryBody stem)) =
      (lastSummary platform member library stem).map fun row => .text (unwrapMarkdownFence row.2.body) := by
  rw [(buildBackup_some built).2, find_assign_slot, if_neg (by simp), find_addSkills_other (by simp), addSummaries,
    find_foldl (fun row => stem == summaryStem platform library row) (fun row => .text (unwrapMarkdownFence row.2.body))
      fun files row _ => by simp only [find_assign_slot, reduceCtorEq, if_false, Slot.summaryBody.injEq, beq_iff_eq],
    find_foldl_other fun files row _ => by rw [find_assign_slot, if_neg (by simp)]]
  exact Option.or_none ..

theorem find_summaryMeta (built : buildBackup platform member library everything = some files) (stem : String) :
    files.find (Slot.path (.summaryMeta stem)) =
      (lastSummary platform member library stem).map fun row => .json (summaryMeta platform library row) := by
  rw [(buildBackup_some built).2, find_assign_slot, if_neg (by simp), find_addSkills_other (by simp), addSummaries,
    find_foldl (fun row => stem == summaryStem platform library row) (fun row => .json (summaryMeta platform library row))
      fun files row _ => by simp only [find_assign_slot, reduceCtorEq, if_false, Slot.summaryMeta.injEq, beq_iff_eq],
    find_foldl_other fun files row _ => by rw [find_assign_slot, if_neg (by simp)]]
  exact Option.or_none ..

theorem find_skillBody (built : buildBackup platform member library everything = some files) (stem : String) :
    files.find (Slot.path (.skillBody stem)) = (lastSkill platform member library stem).map fun row => .text row.2.1.body := by
  rw [(buildBackup_some built).2, find_assign_slot, if_neg (by simp), addSkills,
    find_foldl (fun row => stem == skillStem platform row) (fun row => .text row.2.1.body)
      fun files row _ => by simp only [find_assign_slot, reduceCtorEq, if_false, Slot.skillBody.injEq, beq_iff_eq],
    find_addSummaries_other (by simp), find_foldl_other fun files row _ => by rw [find_assign_slot, if_neg (by simp)]]
  exact Option.or_none ..

theorem find_skillMeta (built : buildBackup platform member library everything = some files) (stem : String) :
    files.find (Slot.path (.skillMeta stem)) = (lastSkill platform member library stem).map fun row =>
      .json (skillMeta platform row) := by
  rw [(buildBackup_some built).2, find_assign_slot, if_neg (by simp), addSkills,
    find_foldl (fun row => stem == skillStem platform row) (fun row => .json (skillMeta platform row))
      fun files row _ => by simp only [find_assign_slot, reduceCtorEq, if_false, Slot.skillMeta.injEq, beq_iff_eq],
    find_addSummaries_other (by simp), find_foldl_other fun files row _ => by rw [find_assign_slot, if_neg (by simp)]]
  exact Option.or_none ..

theorem find_manifest (built : buildBackup platform member library everything = some files) :
    files.find (Slot.path .manifest) = some (.json (manifest platform member library everything)) := by
  rw [(buildBackup_some built).2, find_assign_slot, if_pos rfl]

theorem slot_of_file (built : buildBackup platform member library everything = some files) {path : String}
    (found : (files.find path).isSome = true) : IsSlot path := by
  rw [(buildBackup_some built).2] at found
  rcases slot_of_assign found with skills | slot
  · rcases path_foldl (fun files row _ path found => (slot_of_assign found).elim slot_of_assign .inr)
      _ skills with summaries | slot
    · rcases path_foldl (fun files row _ path found => (slot_of_assign found).elim slot_of_assign .inr)
        _ summaries with transcripts | slot
      · rcases path_foldl (fun files row _ path found => slot_of_assign found) _ transcripts with nothing | slot
        · cases nothing
        · exact slot
      · exact slot
    · exact slot
  · exact slot

end Building

end IdigestHub.Backup
