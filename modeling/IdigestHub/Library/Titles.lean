import IdigestHub.Foundation.Runs
import IdigestHub.Foundation.Table
import IdigestHub.Foundation.Words
import Mathlib.Algebra.GroupWithZero.Nat

/-! Titles of transcripts and summaries: what a worker's success stores, what is shown, and what a deletion of the source
writes down. -/

set_option autoImplicit false

namespace IdigestHub.Library.Titles

open Foundation Foundation.Runs Text

abbrev ObjectId : Type := List Char

abbrev Title : Type := List Char

/-- A transcript with its `source_audio_id`, or a summary with its `source_transcript_id`. -/
structure Titled where
  title : Option Title
  source : Option ObjectId
  deriving DecidableEq

/-- The rows, audios by their `original_filename` and skills by their `name`. -/
structure Shelf where
  audios : Table ObjectId (List Char)
  transcripts : Table ObjectId Titled
  summaries : Table ObjectId Titled
  skills : Table ObjectId (List Char)

/-- What `new_id` makes. -/
structure FreshId where
  id : ObjectId
  width : id.length = 36

def pathName (path : List Char) : List Char :=
  ((path.splitOn '/').filter fun part => part != [] && part != ['.']).getLast?.getD []

/-- `Path(path).stem`: a dot at either end of the name starts no suffix. -/
def stem (path : List Char) : List Char :=
  let name := pathName path
  let suffix := name.rtakeWhile (· != '.')
  let i := name.length - (suffix.length + 1)
  if 0 < i ∧ suffix ≠ [] then name.take i else name

def given (title : Option Title) : Option Title := (title.map (trimBoth isSpace)).filter (· != [])

/-- What a transcript shows that has neither a title nor an audio. -/
def placeholder (id : ObjectId) : Title := "transcript-".toList ++ id.take 8

def transcriptDisplayTitle (id : ObjectId) (title : Option Title) (sourceFilename : Option (List Char)) : Title :=
  match given title with
  | some title => title
  | none =>
    match sourceFilename.filter (· != []) with
    | some filename => stem filename
    | none => placeholder id

def summaryDisplayTitle (id : ObjectId) (title : Option Title) (sourceTranscript : Option Title) : Title :=
  match given title with
  | some title => title
  | none =>
    match sourceTranscript with
    | some name => name ++ '-' :: id.take 8
    | none => id.take 8

namespace Shelf

variable (shelf : Shelf)

def transcriptTitle (id : ObjectId) (row : Titled) : Title :=
  transcriptDisplayTitle id row.title (row.source.bind shelf.audios.find)

def shownTranscript (id : ObjectId) : Option Title := (shelf.transcripts.find id).map (shelf.transcriptTitle id)

def shownSummary (id : ObjectId) : Option Title :=
  (shelf.summaries.find id).map fun row => summaryDisplayTitle id row.title (row.source.bind shelf.shownTranscript)

end Shelf

def titleWidth : Nat := 255

def filenameWidth : Nat := 512

def fits (title : Option Title) : Bool := title.all (·.length ≤ titleWidth)

/-- `_persist_transcript`; no value where the flush fails. A task that may not persist stores nothing. -/
def persistTranscript (shelf : Shelf) (id : FreshId) (audioId : Option ObjectId) (skipPersist : Bool) : Option Shelf :=
  if skipPersist then some shelf
  else
    let filename := (audioId.bind shelf.audios.find).filter (· != [])
    let title := (filename.map stem).filter (· != [])
    if fits title then some { shelf with transcripts := shelf.transcripts.put id.id ⟨title, audioId⟩ } else none

/-- The title that `_persist_summary` composes. -/
def summaryTitle (id : ObjectId) (transcript : Option Title) (skillNames : List (List Char)) : Title :=
  match transcript with
  | some name =>
    if skillNames ≠ [] then name ++ " · ".toList ++ List.intercalate ", ".toList skillNames else name ++ '-' :: id.take 8
  | none => if skillNames ≠ [] then List.intercalate ", ".toList skillNames else id.take 8

def persistSummary (shelf : Shelf) (id : FreshId) (transcriptId : Option ObjectId) (skillIds : List ObjectId)
    (skipPersist : Bool) : Option Shelf :=
  if skipPersist then some shelf
  else
    let title := summaryTitle id.id (transcriptId.bind shelf.shownTranscript) (skillIds.filterMap shelf.skills.find)
    if fits (some title) then some { shelf with summaries := shelf.summaries.put id.id ⟨some title, transcriptId⟩ } else none

def untitled (source : ObjectId) (row : Titled) : Bool := row.source == some source && (given row.title).isNone

/-- Write titles down for the untitled rows of a source; no value where the flush fails. -/
def entitle (rows : Table ObjectId Titled) (source : ObjectId) (title : ObjectId → Titled → Title) :
    Option (Table ObjectId Titled) :=
  if rows.count (fun id row => untitled source row && !fits (some (title id row))) = 0 then
    some (rows.mapRows fun id row => if untitled source row then { row with title := some (title id row) } else row)
  else none

/-- `ON DELETE SET NULL`. -/
def detach (rows : Table ObjectId Titled) (source : ObjectId) : Table ObjectId Titled :=
  rows.mapRows fun _ row => if row.source = some source then { row with source := none } else row

def hardDeleteAudio (shelf : Shelf) (audioId : ObjectId) : Option Shelf :=
  match shelf.audios.find audioId with
  | none => some shelf
  | some filename => do
    let stem := if filename ≠ [] then stem filename else []
    let transcripts ← if stem ≠ [] then entitle shelf.transcripts audioId fun _ _ => stem else some shelf.transcripts
    some { shelf with audios := shelf.audios.delete audioId, transcripts := detach transcripts audioId }

def hardDeleteTranscript (shelf : Shelf) (transcriptId : ObjectId) : Option Shelf :=
  match shelf.transcripts.find transcriptId with
  | none => some shelf
  | some transcript => do
    let name := shelf.transcriptTitle transcriptId transcript
    let summaries ← entitle shelf.summaries transcriptId fun id summary => summaryDisplayTitle id summary.title (some name)
    some { shelf with
      transcripts := shelf.transcripts.delete transcriptId, summaries := detach summaries transcriptId }

inductive Change where
  | persistTranscript (id : FreshId) (audioId : Option ObjectId) (skipPersist : Bool)
  | persistSummary (id : FreshId) (transcriptId : Option ObjectId) (skillIds : List ObjectId) (skipPersist : Bool)
  | hardDeleteAudio (audioId : ObjectId)
  | hardDeleteTranscript (transcriptId : ObjectId)
  -- what users write: uploads and imports, edited and restored rows, deleted summaries
  | audio (id : ObjectId) (filename : List Char)
  | transcript (id : ObjectId) (row : Titled)
  | summary (id : ObjectId) (row : Titled)
  | skill (id : ObjectId) (name : List Char)
  | hardDeleteSummary (summaryId : ObjectId)

/-- No value where a column does not take what is written. -/
def Shelf.handle (shelf : Shelf) : Change → Option Shelf
  | .persistTranscript id audioId skipPersist => Titles.persistTranscript shelf id audioId skipPersist
  | .persistSummary id transcriptId skillIds skipPersist => Titles.persistSummary shelf id transcriptId skillIds skipPersist
  | .hardDeleteAudio audioId => Titles.hardDeleteAudio shelf audioId
  | .hardDeleteTranscript transcriptId => Titles.hardDeleteTranscript shelf transcriptId
  | .audio id filename =>
    if filename.length ≤ filenameWidth then some { shelf with audios := shelf.audios.put id filename } else none
  | .transcript id row =>
    if fits row.title then some { shelf with transcripts := shelf.transcripts.put id row } else none
  | .summary id row => if fits row.title then some { shelf with summaries := shelf.summaries.put id row } else none
  | .skill id name => if name.length ≤ titleWidth then some { shelf with skills := shelf.skills.put id name } else none
  | .hardDeleteSummary summaryId => some { shelf with summaries := shelf.summaries.delete summaryId }

/-- A failed change is rolled back. -/
def Shelf.step (shelf : Shelf) (change : Change) : Shelf := (shelf.handle change).getD shelf

/-- What a deletion leaves shows the titles that it showed. -/
def Shelf.Survives (shelf after : Shelf) : Change → Prop
  | .hardDeleteAudio _ => (∀ id, after.shownTranscript id = shelf.shownTranscript id) ∧
      ∀ id, after.shownSummary id = shelf.shownSummary id
  | .hardDeleteTranscript transcriptId =>
      (∀ id, id ≠ transcriptId → after.shownTranscript id = shelf.shownTranscript id) ∧
      ∀ id, after.shownSummary id = shelf.shownSummary id
  | _ => True

def Change.derives : Change → Bool
  | .persistTranscript .. | .persistSummary .. | .hardDeleteAudio _ | .hardDeleteTranscript _ => true
  | _ => false

def Shelf.Meets (shelf : Shelf) (change : Change) : Prop :=
  change.derives → ∃ after, shelf.handle change = some after ∧ shelf.Survives after change

def joinedLength (names : List (List Char)) : Nat := (names.map List.length).sum + 2 * (names.length - 1)

/-- Titles that a column takes and that trimming leaves alone. -/
def Shelf.Lasting (shelf : Shelf) : Change → Prop
  | .persistTranscript _ audioId skipPersist => skipPersist = false →
      ∀ filename, audioId.bind shelf.audios.find = some filename → filename ≠ [] → (stem filename).length ≤ titleWidth
  | .persistSummary _ transcriptId skillIds skipPersist => skipPersist = false →
      ∀ names, names = skillIds.filterMap shelf.skills.find →
        match transcriptId.bind shelf.shownTranscript with
        | some name => name.length + (if names = [] then 9 else 3 + joinedLength names) ≤ titleWidth
        | none => joinedLength names ≤ titleWidth
  | .hardDeleteAudio audioId => ∀ filename, shelf.audios.find audioId = some filename → filename ≠ [] →
      (∃ id row, shelf.transcripts.find id = some row ∧ untitled audioId row = true) →
      stem filename ≠ [] ∧ trimBoth isSpace (stem filename) = stem filename ∧ (stem filename).length ≤ titleWidth
  | .hardDeleteTranscript transcriptId => ∀ name, shelf.shownTranscript transcriptId = some name →
      ∀ id row, shelf.summaries.find id = some row → untitled transcriptId row = true →
        (∀ c ∈ name.head?, isSpace c = false) ∧ (∀ c ∈ (id.take 8).getLast?, isSpace c = false) ∧
        name.length + 1 + (id.take 8).length ≤ titleWidth
  | _ => True

section Shown

variable {id source : ObjectId} {title : Title} {row : Titled}

theorem given_some (title : Title) :
    given (some title) = if trimBoth isSpace title = [] then none else some (trimBoth isSpace title) := by
  rw [given, Option.map_some, Option.filter_some]
  by_cases blank : trimBoth isSpace title = []
  · rw [if_pos blank, if_neg (by simp [blank])]
  · rw [if_neg blank, if_pos (by simpa using blank)]

/-- A title that is not blank is shown as it is exactly when trimming leaves it alone. -/
theorem given_self_iff (fallback : Title) (visible : ∃ c ∈ title, isSpace c = false) :
    (given (some title)).getD fallback = title ↔ trimBoth isSpace title = title := by
  have kept : trimBoth isSpace title ≠ [] := by
    obtain ⟨c, member, solid⟩ := visible
    intro blank
    rw [(trimBoth_eq_nil_iff title).mp blank c member] at solid
    cases solid
  rw [given_some, if_neg kept, Option.getD_some]

theorem transcriptDisplayTitle_eq (title : Option Title) (sourceFilename : Option (List Char)) :
    transcriptDisplayTitle id title sourceFilename =
      (given title).getD (((sourceFilename.filter (· != [])).map stem).getD (placeholder id)) := by
  unfold transcriptDisplayTitle
  cases given title with
  | some given => rfl
  | none => cases sourceFilename.filter (· != []) <;> rfl

theorem summaryDisplayTitle_eq (title : Option Title) (sourceTranscript : Option Title) :
    summaryDisplayTitle id title sourceTranscript =
      (given title).getD ((sourceTranscript.map (· ++ '-' :: id.take 8)).getD (id.take 8)) := by
  unfold summaryDisplayTitle
  cases given title with
  | some given => rfl
  | none => cases sourceTranscript <;> rfl

theorem untitled_iff : untitled source row = true ↔ row.source = some source ∧ given row.title = none := by
  rw [untitled, Bool.and_eq_true, beq_iff_eq, Option.isNone_iff_eq_none]

theorem fits_some : fits (some title) = true ↔ title.length ≤ titleWidth := decide_eq_true_iff

theorem entitle_eq_some {rows after : Table ObjectId Titled} {name : ObjectId → Titled → Title} :
    entitle rows source name = some after ↔
      (∀ id row, rows.find id = some row → untitled source row = true → (name id row).length ≤ titleWidth) ∧
      rows.mapRows (fun id row => if untitled source row then { row with title := some (name id row) } else row) = after := by
  unfold entitle
  have all_fit : rows.count (fun id row => untitled source row && !fits (some (name id row))) = 0 ↔
      ∀ id row, rows.find id = some row → untitled source row = true → (name id row).length ≤ titleWidth := by
    rw [Table.count, List.length_eq_zero_iff, List.eq_nil_iff_forall_not_mem]
    constructor
    · intro none_long id row found bare
      by_contra long
      refine none_long id ((Table.mem_select ..).mpr ⟨row, found, ?_⟩)
      rw [bare, Bool.true_and, Bool.not_eq_true', ← Bool.not_eq_true, fits_some]
      exact long
    · intro short id selected
      obtain ⟨row, found, bad⟩ := (Table.mem_select ..).mp selected
      rw [Bool.and_eq_true, Bool.not_eq_true', ← Bool.not_eq_true, fits_some] at bad
      exact bad.2 (short id row found bad.1)
  rw [← all_fit]
  split
  · rename_i fit
    simp only [fit, true_and, Option.some.injEq]
  · rename_i long
    simp only [long, false_and, reduceCtorEq]

theorem find_detach (rows : Table ObjectId Titled) : (detach rows source).find id =
    (rows.find id).map fun row => if row.source = some source then { row with source := none } else row :=
  Table.find_mapRows ..

end Shown

section Persisting

variable {shelf : Shelf}

theorem persistTranscript_meets (id : FreshId) (audioId : Option ObjectId) (skipPersist : Bool) :
    shelf.Meets (.persistTranscript id audioId skipPersist) ↔ shelf.Lasting (.persistTranscript id audioId skipPersist) := by
  unfold Shelf.Meets Shelf.Lasting
  simp only [Change.derives, forall_const, Shelf.handle, persistTranscript, Shelf.Survives, and_true]
  cases skipPersist with
  | true => simp
  | false =>
    cases found : audioId.bind shelf.audios.find with
    | none => simp [fits]
    | some filename =>
      by_cases unnamed : filename = []
      · simp [unnamed, fits, Option.filter]
      · have named : (some filename).filter (· != []) = some filename := by simp [unnamed]
        simp only [named, Option.map_some, Bool.false_eq_true, if_false, Option.some.injEq, forall_const, forall_eq',
          ne_eq, unnamed, not_false_eq_true]
        by_cases blank : stem filename = []
        · simp [blank, fits]
        · have titled : (some (stem filename)).filter (· != []) = some (stem filename) := by simp [blank]
          rw [titled, ← fits_some]
          split <;> simp_all

theorem length_intercalate (sep : List Char) (parts : List (List Char)) :
    (List.intercalate sep parts).length = (parts.map List.length).sum + sep.length * (parts.length - 1) := by
  induction parts with
  | nil => rfl
  | cons first rest ih =>
    cases rest with
    | nil => simp
    | cons second rest =>
      rw [List.intercalate_cons_cons, List.length_append, List.length_append, ih]
      simp only [List.map_cons, List.sum_cons, List.length_cons, Nat.add_sub_cancel]
      rw [Nat.mul_succ]
      omega

theorem length_summaryTitle (id : FreshId) (transcript : Option Title) (names : List (List Char)) :
    (summaryTitle id.id transcript names).length ≤ titleWidth ↔
      match transcript with
      | some name => name.length + (if names = [] then 9 else 3 + joinedLength names) ≤ titleWidth
      | none => joinedLength names ≤ titleWidth := by
  have eight : (id.id.take 8).length = 8 := by rw [List.length_take, id.width]; rfl
  have joined : (List.intercalate ", ".toList names).length = joinedLength names := length_intercalate ..
  have dot : " · ".toList.length = 3 := by decide
  unfold summaryTitle
  cases transcript with
  | some name =>
    by_cases nameless : names = []
    · simp only [nameless, ne_eq, not_true_eq_false, if_false, if_true, List.length_append, List.length_cons, eight]
    · simp only [nameless, ne_eq, not_false_eq_true, if_true, if_false, List.length_append, joined, dot]
      rw [Nat.add_assoc]
  | none =>
    by_cases nameless : names = []
    · subst nameless
      exact iff_of_true (by rw [if_neg (by simp), eight]; decide) (by decide)
    · simp only [nameless, ne_eq, not_false_eq_true, if_true, joined]

theorem persistSummary_meets (id : FreshId) (transcriptId : Option ObjectId) (skillIds : List ObjectId) (skipPersist : Bool) :
    shelf.Meets (.persistSummary id transcriptId skillIds skipPersist) ↔
      shelf.Lasting (.persistSummary id transcriptId skillIds skipPersist) := by
  unfold Shelf.Meets Shelf.Lasting
  simp only [Change.derives, forall_const, Shelf.handle, persistSummary, Shelf.Survives, and_true]
  cases skipPersist with
  | true => simp
  | false =>
    have width := length_summaryTitle id (transcriptId.bind shelf.shownTranscript) (skillIds.filterMap shelf.skills.find)
    rw [← fits_some] at width
    simp only [Bool.false_eq_true, if_false, forall_const, forall_eq]
    refine Iff.trans ?_ width
    split <;> simp_all

end Persisting

section Deleting

variable {shelf : Shelf} {audioId transcriptId id : ObjectId}

theorem placeholder_visible (id : ObjectId) : ∃ c ∈ placeholder id, isSpace c = false :=
  ⟨'t', List.mem_append_left _ (by decide), by decide⟩

/-- A title that is written down is shown instead of a placeholder as it is when trimming leaves it alone. -/
theorem given_placeholder_iff {title : Title} (written : title ≠ []) (id : ObjectId) :
    (given (some title)).getD (placeholder id) = title ↔ trimBoth isSpace title = title := by
  by_cases visible : ∃ c ∈ title, isSpace c = false
  · exact given_self_iff _ visible
  · have blank : trimBoth isSpace title = [] := by
      rw [trimBoth_eq_nil_iff]
      intro c member
      by_contra solid
      exact visible ⟨c, member, by simpa using solid⟩
    rw [given_some, if_pos blank, Option.getD_none, blank]
    refine iff_of_false ?_ (Ne.symm written)
    intro same
    exact visible (same ▸ placeholder_visible id)

theorem transcriptTitle_untitled {filename : List Char} {row : Titled} (found : shelf.audios.find audioId = some filename)
    (bare : untitled audioId row = true) :
    shelf.transcriptTitle id row = (((some filename).filter (· != [])).map stem).getD (placeholder id) := by
  obtain ⟨own, blank⟩ := untitled_iff.mp bare
  rw [Shelf.transcriptTitle, transcriptDisplayTitle_eq, blank, own, Option.bind_some, found]
  rfl

theorem shown_deleted {rows : Table ObjectId Titled} {written : Option Title}
    (entitled : ∀ id, rows.find id = (shelf.transcripts.find id).map fun row =>
      if untitled audioId row then { row with title := written.or row.title } else row) (id : ObjectId) :
    Shelf.shownTranscript { shelf with audios := shelf.audios.delete audioId, transcripts := detach rows audioId } id =
      (shelf.transcripts.find id).map fun row =>
        if untitled audioId row then (given (written.or row.title)).getD (placeholder id)
        else shelf.transcriptTitle id row := by
  unfold Shelf.shownTranscript
  dsimp only
  rw [find_detach, entitled, Option.map_map, Option.map_map]
  refine Option.map_congr fun row _ => ?_
  unfold Shelf.transcriptTitle
  dsimp only [Function.comp_apply]
  by_cases own : row.source = some audioId
  · cases titled : given row.title with
    | none =>
      have bare : untitled audioId row = true := untitled_iff.mpr ⟨own, titled⟩
      simp only [bare, if_true, own, transcriptDisplayTitle_eq, Option.bind_none]
      rfl
    | some title =>
      have bare : untitled audioId row = false := by simp [untitled, titled]
      simp only [bare, Bool.false_eq_true, if_false, own, if_true, transcriptDisplayTitle_eq, titled, Option.getD_some]
  · -- another source is still there
    have bare : untitled audioId row = false := by simp [untitled, own]
    simp only [bare, Bool.false_eq_true, if_false, own]
    congr 1
    cases row_source : row.source with
    | none => rfl
    | some source =>
      have other : source ≠ audioId := fun same => own (by rw [row_source, same])
      rw [Option.bind_some, Option.bind_some, Table.find_delete, if_neg other]

theorem survives_audio_iff {rows : Table ObjectId Titled} {audios : Table ObjectId (List Char)} :
    shelf.Survives { shelf with audios, transcripts := rows } (.hardDeleteAudio audioId) ↔
      ∀ id, Shelf.shownTranscript { shelf with audios, transcripts := rows } id = shelf.shownTranscript id := by
  constructor
  · exact fun survives => survives.1
  · intro kept
    refine ⟨kept, fun id => ?_⟩
    unfold Shelf.shownSummary
    rw [funext kept]

theorem survives_deleted_iff {filename : List Char} {rows : Table ObjectId Titled} {written : Option Title}
    (found : shelf.audios.find audioId = some filename)
    (entitled : ∀ id, rows.find id = (shelf.transcripts.find id).map fun row =>
      if untitled audioId row then { row with title := written.or row.title } else row) :
    shelf.Survives { shelf with audios := shelf.audios.delete audioId, transcripts := detach rows audioId }
        (.hardDeleteAudio audioId) ↔
      ∀ id row, shelf.transcripts.find id = some row → untitled audioId row = true →
        (given (written.or row.title)).getD (placeholder id) =
          (((some filename).filter (· != [])).map stem).getD (placeholder id) := by
  rw [survives_audio_iff]
  constructor
  · intro kept id row there bare
    have shown := kept id
    rw [shown_deleted entitled, Shelf.shownTranscript, there, Option.map_some, Option.map_some, if_pos bare,
      transcriptTitle_untitled found bare] at shown
    exact Option.some.inj shown
  · intro same id
    rw [shown_deleted entitled, Shelf.shownTranscript]
    refine Option.map_congr fun row there => ?_
    split
    · rename_i bare
      rw [same id row there bare, transcriptTitle_untitled found bare]
    · rfl

theorem find_entitled (title : Title) (id : ObjectId) : (shelf.transcripts.mapRows fun _ row =>
    if untitled audioId row then { row with title := some title } else row).find id =
      (shelf.transcripts.find id).map fun row =>
        if untitled audioId row then { row with title := (some title).or row.title } else row := Table.find_mapRows ..

theorem hardDeleteAudio_meets (audioId : ObjectId) :
    shelf.Meets (.hardDeleteAudio audioId) ↔ shelf.Lasting (.hardDeleteAudio audioId) := by
  unfold Shelf.Meets Shelf.Lasting
  simp only [Change.derives, forall_const, Shelf.handle, hardDeleteAudio]
  cases found : shelf.audios.find audioId with
  | none =>
    refine iff_of_true ⟨shelf, rfl, ?_⟩ fun _ absent => nomatch absent
    exact ⟨fun _ => rfl, fun _ => rfl⟩
  | some filename =>
    simp only [Option.some.injEq, forall_eq']
    -- nothing is written down without a stem
    have untouched : ∀ id, shelf.transcripts.find id = (shelf.transcripts.find id).map fun row =>
        if untitled audioId row then { row with title := (none : Option Title).or row.title } else row := by
      intro id
      simp
    by_cases unnamed : filename = []
    · refine iff_of_true ⟨_, by rw [if_neg (by simp [unnamed])]; rfl, ?_⟩ fun named => absurd unnamed named
      refine (survives_deleted_iff found untouched).mpr fun id row _ bare => ?_
      rw [Option.none_or, (untitled_iff.mp bare).2, unnamed]
      rfl
    · have named : (some filename).filter (· != []) = some filename := by simp [unnamed]
      simp only [ne_eq, unnamed, not_false_eq_true, if_true, forall_const]
      by_cases no_stem : stem filename = []
      · -- what was shown as an empty title gets the placeholder
        simp only [no_stem, not_true_eq_false, if_false, false_and, imp_false, Option.bind_eq_bind, Option.bind_some,
          Option.some.injEq, exists_eq_left']
        rw [survives_deleted_iff found untouched]
        constructor
        · rintro same ⟨id, row, there, bare⟩
          have shown := same id row there bare
          rw [Option.none_or, (untitled_iff.mp bare).2, named, Option.map_some, no_stem] at shown
          obtain ⟨c, member, _⟩ := placeholder_visible id
          rw [Option.getD_none, Option.getD_some] at shown
          rw [shown] at member
          cases member
        · exact fun none_bare id row there bare => absurd ⟨id, row, there, bare⟩ none_bare
      · simp only [no_stem, not_false_eq_true, if_true, true_and, Option.bind_eq_bind]
        constructor
        · rintro ⟨after, deleted, survives⟩ ⟨id, row, there, bare⟩
          obtain ⟨rows, entitled, same⟩ := Option.bind_eq_some_iff.mp deleted
          obtain rfl := Option.some.inj same
          obtain ⟨short, rfl⟩ := entitle_eq_some.mp entitled
          have shown := (survives_deleted_iff found (find_entitled (stem filename))).mp survives id row there bare
          rw [Option.some_or, named, Option.map_some, Option.getD_some, given_placeholder_iff no_stem] at shown
          exact ⟨shown, short id row there bare⟩
        · intro lasting
          have short : ∀ id row, shelf.transcripts.find id = some row → untitled audioId row = true →
              (stem filename).length ≤ titleWidth := fun id row there bare => (lasting ⟨id, row, there, bare⟩).2
          refine ⟨_, Option.bind_eq_some_iff.mpr ⟨_, entitle_eq_some.mpr ⟨short, rfl⟩, rfl⟩, ?_⟩
          refine (survives_deleted_iff found (find_entitled (stem filename))).mpr fun id row there bare => ?_
          rw [Option.some_or, named, Option.map_some, Option.getD_some, given_placeholder_iff no_stem]
          exact (lasting ⟨id, row, there, bare⟩).1

theorem shown_remaining {summaries : Table ObjectId Titled} (other : id ≠ transcriptId) :
    Shelf.shownTranscript { shelf with transcripts := shelf.transcripts.delete transcriptId, summaries } id =
      shelf.shownTranscript id := by
  unfold Shelf.shownTranscript
  rw [Table.find_delete, if_neg other]
  rfl

/-- The title of an untitled summary ends in its id and a dash, so it is never blank. -/
theorem composed_self_iff (name : Title) (id : ObjectId) :
    (given (some (name ++ '-' :: id.take 8))).getD (id.take 8) = name ++ '-' :: id.take 8 ↔
      (∀ c ∈ name.head?, isSpace c = false) ∧ ∀ c ∈ (id.take 8).getLast?, isSpace c = false := by
  have dash : isSpace '-' = false := by decide
  rw [given_self_iff _ ⟨'-', List.mem_append_right _ List.mem_cons_self, dash⟩, trimBoth_eq_self_iff, List.head?_append,
    List.getLast?_append, List.head?_cons, List.getLast?_cons]
  refine and_congr ?_ ?_
  · cases name.head? with
    | none => simp [dash]
    | some c => simp
  · cases (id.take 8).getLast? with
    | none => simp [dash]
    | some c => simp

theorem shownSummary_deleted (name : Title) (id : ObjectId) :
    Shelf.shownSummary { shelf with
        transcripts := shelf.transcripts.delete transcriptId
        summaries := detach (shelf.summaries.mapRows fun id row => if untitled transcriptId row then
          { row with title := some (summaryDisplayTitle id row.title (some name)) } else row) transcriptId } id =
      (shelf.summaries.find id).map fun row =>
        if untitled transcriptId row then (given (some (name ++ '-' :: id.take 8))).getD (id.take 8)
        else summaryDisplayTitle id row.title (row.source.bind shelf.shownTranscript) := by
  unfold Shelf.shownSummary
  dsimp only
  rw [find_detach, Table.find_mapRows, Option.map_map, Option.map_map]
  refine Option.map_congr fun row _ => ?_
  dsimp only [Function.comp_apply]
  by_cases own : row.source = some transcriptId
  · cases titled : given row.title with
    | none =>
      have bare : untitled transcriptId row = true := untitled_iff.mpr ⟨own, titled⟩
      simp only [bare, if_true, own, summaryDisplayTitle_eq, titled, Option.bind_none, Option.map_some, Option.map_none,
        Option.getD_none, Option.getD_some]
    | some title =>
      have bare : untitled transcriptId row = false := by simp [untitled, titled]
      simp only [bare, Bool.false_eq_true, if_false, own, if_true, summaryDisplayTitle_eq, titled, Option.getD_some]
  · have bare : untitled transcriptId row = false := by simp [untitled, own]
    simp only [bare, Bool.false_eq_true, if_false, own]
    congr 1
    cases row_source : row.source with
    | none => rfl
    | some source =>
      have other : source ≠ transcriptId := fun same => own (by rw [row_source, same])
      exact shown_remaining other

theorem hardDeleteTranscript_meets (transcriptId : ObjectId) :
    shelf.Meets (.hardDeleteTranscript transcriptId) ↔ shelf.Lasting (.hardDeleteTranscript transcriptId) := by
  unfold Shelf.Meets Shelf.Lasting
  simp only [Change.derives, forall_const, Shelf.handle, hardDeleteTranscript]
  cases found : shelf.transcripts.find transcriptId with
  | none =>
    have unshown : shelf.shownTranscript transcriptId = none := by rw [Shelf.shownTranscript, found]; rfl
    refine iff_of_true ⟨shelf, rfl, fun _ _ => rfl, fun _ => rfl⟩ ?_
    intro name shown
    rw [unshown] at shown
    cases shown
  | some transcript =>
    have shown : shelf.shownTranscript transcriptId = some (shelf.transcriptTitle transcriptId transcript) := by
      rw [Shelf.shownTranscript, found]
      rfl
    obtain ⟨name, name_eq⟩ : ∃ name, name = shelf.transcriptTitle transcriptId transcript := ⟨_, rfl⟩
    rw [← name_eq] at shown
    simp only [shown, ← name_eq, Option.some.injEq, forall_eq', Option.bind_eq_bind]
    -- Only untitled summaries are written. Each gets the name that the transcript shows, a dash and its own id.
    have composed : ∀ id row, untitled transcriptId row = true →
        summaryDisplayTitle id row.title (some name) = name ++ '-' :: id.take 8 := by
      intro id row bare
      rw [summaryDisplayTitle_eq, (untitled_iff.mp bare).2]
      rfl
    constructor
    · rintro ⟨after, deleted, survives⟩ id row there bare
      obtain ⟨rows, entitled, same⟩ := Option.bind_eq_some_iff.mp deleted
      obtain rfl := Option.some.inj same
      obtain ⟨short, rfl⟩ := entitle_eq_some.mp entitled
      have kept := survives.2 id
      rw [shownSummary_deleted, Shelf.shownSummary, there, Option.map_some, Option.map_some, if_pos bare,
        (untitled_iff.mp bare).1, Option.bind_some, shown, composed id row bare] at kept
      have width := short id row there bare
      rw [composed id row bare, List.length_append, List.length_cons] at width
      obtain ⟨first, last⟩ := (composed_self_iff name id).mp (Option.some.inj kept)
      exact ⟨first, last, by omega⟩
    · intro lasting
      have short : ∀ id row, shelf.summaries.find id = some row → untitled transcriptId row = true →
          (summaryDisplayTitle id row.title (some name)).length ≤ titleWidth := by
        intro id row there bare
        have width := (lasting id row there bare).2.2
        rw [composed id row bare, List.length_append, List.length_cons]
        omega
      refine ⟨_, Option.bind_eq_some_iff.mpr ⟨_, entitle_eq_some.mpr ⟨short, rfl⟩, rfl⟩, ?_, ?_⟩
      · exact fun id other => shown_remaining other
      · intro id
        rw [shownSummary_deleted, Shelf.shownSummary]
        refine Option.map_congr fun row there => ?_
        split
        · rename_i bare
          obtain ⟨first, last, _⟩ := lasting id row there bare
          rw [(composed_self_iff name id).mpr ⟨first, last⟩, (untitled_iff.mp bare).1, Option.bind_some, shown,
            composed id row bare]
        · rfl

end Deleting

/-- What a change derives fits and survives exactly when it is lasting. -/
theorem meets_iff (shelf : Shelf) (change : Change) : shelf.Meets change ↔ shelf.Lasting change := by
  cases change with
  | persistTranscript id audioId skipPersist => exact persistTranscript_meets id audioId skipPersist
  | persistSummary id transcriptId skillIds skipPersist => exact persistSummary_meets id transcriptId skillIds skipPersist
  | hardDeleteAudio audioId => exact hardDeleteAudio_meets audioId
  | hardDeleteTranscript transcriptId => exact hardDeleteTranscript_meets transcriptId
  | _ => exact iff_of_true (fun derives => nomatch derives) trivial

def Every {R : Type} (holds : R → Prop) (rows : Table ObjectId R) : Prop := ∀ id row, rows.find id = some row → holds row

structure Shelf.Within (shelf : Shelf) : Prop where
  filenames : Every (fun filename => filename.length ≤ filenameWidth) shelf.audios
  transcripts : Every (fun row => fits row.title = true) shelf.transcripts
  summaries : Every (fun row => fits row.title = true) shelf.summaries
  names : Every (fun name => name.length ≤ titleWidth) shelf.skills

structure StoredShelf where
  shelf : Shelf
  within : shelf.Within

section Widths

variable {shelf after : Shelf}

theorem Every.put {R : Type} {holds : R → Prop} {rows : Table ObjectId R} (every : Every holds rows) {id : ObjectId} {row : R}
    (new : holds row) : Every holds (rows.put id row) := by
  intro other row' found
  rw [Table.find_put] at found
  split at found
  · obtain rfl := Option.some.inj found
    exact new
  · exact every other row' found

theorem Every.delete {R : Type} {holds : R → Prop} {rows : Table ObjectId R} (every : Every holds rows) (id : ObjectId) :
    Every holds (rows.delete id) := by
  intro other row found
  rw [Table.find_delete] at found
  split at found
  · cases found
  · exact every other row found

theorem every_detach {rows : Table ObjectId Titled} (source : ObjectId) (every : Every (fun row => fits row.title = true) rows) :
    Every (fun row => fits row.title = true) (detach rows source) := by
  intro id row found
  rw [find_detach] at found
  obtain ⟨before, there, rfl⟩ := Option.map_eq_some_iff.mp found
  have same : (if before.source = some source then { before with source := none } else before).title = before.title := by
    split <;> rfl
  rw [same]
  exact every id before there

theorem every_entitle {rows entitled : Table ObjectId Titled} {source : ObjectId} {title : ObjectId → Titled → Title}
    (written : entitle rows source title = some entitled) (every : Every (fun row => fits row.title = true) rows) :
    Every (fun row => fits row.title = true) entitled := by
  obtain ⟨short, rfl⟩ := entitle_eq_some.mp written
  intro id row found
  rw [Table.find_mapRows] at found
  obtain ⟨before, there, rfl⟩ := Option.map_eq_some_iff.mp found
  split
  · rename_i bare
    exact fits_some.mpr (short id before there bare)
  · exact every id before there

/-- The columns refuse what is too wide, so every change keeps the widths. -/
theorem handle_within (within : shelf.Within) {change : Change} (done : shelf.handle change = some after) : after.Within := by
  obtain ⟨filenames, transcripts, summaries, names⟩ := within
  -- each request refuses a name that does not fit, before it writes
  cases change with
  | persistTranscript id audioId skipPersist =>
    dsimp only [Shelf.handle, persistTranscript] at done
    split at done
    · obtain rfl := Option.some.inj done
      exact ⟨filenames, transcripts, summaries, names⟩
    · split at done
      · rename_i fit
        obtain rfl := Option.some.inj done
        exact ⟨filenames, transcripts.put fit, summaries, names⟩
      · cases done
  | persistSummary id transcriptId skillIds skipPersist =>
    dsimp only [Shelf.handle, persistSummary] at done
    split at done
    · obtain rfl := Option.some.inj done
      exact ⟨filenames, transcripts, summaries, names⟩
    · split at done
      · rename_i fit
        obtain rfl := Option.some.inj done
        exact ⟨filenames, transcripts, summaries.put fit, names⟩
      · cases done
  | hardDeleteAudio audioId =>
    dsimp only [Shelf.handle, hardDeleteAudio] at done
    split at done
    · obtain rfl := Option.some.inj done
      exact ⟨filenames, transcripts, summaries, names⟩
    · rename_i filename _
      -- the name a transcript inherits is checked when it is written
      generalize (if filename ≠ [] then stem filename else []) = name at done
      split at done
      · obtain ⟨rows, written, same⟩ := Option.bind_eq_some_iff.mp done
        obtain rfl := Option.some.inj same
        exact ⟨filenames.delete audioId, every_detach audioId (every_entitle written transcripts), summaries, names⟩
      · obtain rfl := Option.some.inj done
        exact ⟨filenames.delete audioId, every_detach audioId transcripts, summaries, names⟩
  | hardDeleteTranscript transcriptId =>
    dsimp only [Shelf.handle, hardDeleteTranscript] at done
    split at done
    · obtain rfl := Option.some.inj done
      exact ⟨filenames, transcripts, summaries, names⟩
    · obtain ⟨rows, written, same⟩ := Option.bind_eq_some_iff.mp done
      obtain rfl := Option.some.inj same
      exact ⟨filenames, transcripts.delete transcriptId, every_detach transcriptId (every_entitle written summaries), names⟩
  | audio id filename =>
    dsimp only [Shelf.handle] at done
    split at done
    · rename_i fit
      obtain rfl := Option.some.inj done
      exact ⟨filenames.put fit, transcripts, summaries, names⟩
    · cases done
  | transcript id row =>
    dsimp only [Shelf.handle] at done
    split at done
    · rename_i fit
      obtain rfl := Option.some.inj done
      exact ⟨filenames, transcripts.put fit, summaries, names⟩
    · cases done
  | summary id row =>
    dsimp only [Shelf.handle] at done
    split at done
    · rename_i fit
      obtain rfl := Option.some.inj done
      exact ⟨filenames, transcripts, summaries.put fit, names⟩
    · cases done
  | skill id name =>
    dsimp only [Shelf.handle] at done
    split at done
    · rename_i fit
      obtain rfl := Option.some.inj done
      exact ⟨filenames, transcripts, summaries, names.put fit⟩
    · cases done
  | hardDeleteSummary summaryId =>
    obtain rfl := Option.some.inj done
    exact ⟨filenames, transcripts, summaries.delete summaryId, names⟩

theorem step_within (within : shelf.Within) (change : Change) : (shelf.step change).Within := by
  unfold Shelf.step
  cases done : shelf.handle change with
  | none => exact within
  | some after => exact handle_within within done

end Widths

/-- Along a run, derived titles are stored, fit their columns and survive the deletion of their sources exactly when
each change is lasting. -/
theorem derived_titles_iff (start : StoredShelf) (changes : List Change) :
    (Along Shelf.step Shelf.Meets start.shelf changes ∧ Always Shelf.step Shelf.Within start.shelf changes) ↔
      Along Shelf.step Shelf.Lasting start.shelf changes := by
  have same : Along Shelf.step Shelf.Meets start.shelf changes ↔ Along Shelf.step Shelf.Lasting start.shelf changes :=
    @along_congr _ _ _ (fun _ => True) _ _ (fun _ _ _ => trivial) (fun shelf change _ => meets_iff shelf change) _ trivial _
  constructor
  · rintro ⟨meets, _⟩
    exact same.mp meets
  · intro lasting
    have kept : ∀ shelf change, Shelf.Within shelf → Shelf.Lasting shelf change → (Shelf.step shelf change).Within :=
      fun _ change within _ => step_within within change
    exact ⟨same.mpr lasting, always_of_along kept start.within lasting⟩

def zeroId : FreshId := ⟨List.replicate 36 '0', rfl⟩

def talkShelf : StoredShelf where
  shelf := ⟨(∅ : Table ObjectId (List Char)).put ['a'] "talk.mp3".toList, ∅, ∅, ∅⟩
  within :=
    { filenames := fun _ _ found => by
        obtain ⟨_, rfl⟩ := Table.find_only_iff.mp found
        decide +kernel
      transcripts := fun _ _ found => nomatch found
      summaries := fun _ _ found => nomatch found
      names := fun _ _ found => nomatch found }

/-- Its transcript is stored, and fits. -/
theorem derived_titles_talk :
    Along Shelf.step Shelf.Meets talkShelf.shelf [.persistTranscript zeroId (some ['a']) false] ∧
      Always Shelf.step Shelf.Within talkShelf.shelf [.persistTranscript zeroId (some ['a']) false] := by
  refine (derived_titles_iff talkShelf _).mpr ⟨fun _ filename found _ => ?_, trivial⟩
  obtain ⟨_, rfl⟩ := Table.find_only_iff.mp (Option.bind_some .. ▸ found)
  decide +kernel

/-- An audio whose name has 300 characters before its suffix, and one whose name begins with a blank and whose
transcript has no title. -/
def namedShelf : Shelf where
  audios := ((∅ : Table ObjectId (List Char)).put ['a'] (List.replicate 300 'x' ++ ".mp3".toList)).put ['b'] " talk.mp3".toList
  transcripts := (∅ : Table ObjectId Titled).put ['t'] ⟨none, some ['b']⟩
  summaries := ∅
  skills := ∅

/-- The transcript of the first cannot be stored, and deleting the second changes what its transcript shows. -/
theorem derived_titles_break : ¬ namedShelf.Meets (.persistTranscript zeroId (some ['a']) false) ∧
    ¬ namedShelf.Meets (.hardDeleteAudio ['b']) := by
  constructor
  · intro meets
    have short := (persistTranscript_meets zeroId (some ['a']) false).mp meets rfl
      (List.replicate 300 'x' ++ ".mp3".toList) (by decide +kernel) (by decide +kernel)
    exact absurd short (by decide +kernel)
  · intro meets
    obtain ⟨_, kept, _⟩ := (hardDeleteAudio_meets ['b']).mp meets " talk.mp3".toList (by decide +kernel) (by decide)
      ⟨['t'], ⟨none, some ['b']⟩, by decide +kernel, by decide +kernel⟩
    exact absurd kept (by decide +kernel)

end IdigestHub.Library.Titles
