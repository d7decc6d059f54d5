import IdigestHub.Foundation.Runs
import IdigestHub.Foundation.Words
import IdigestHub.Hub.Records

/-! The legal documents of an instance: patches of their texts, and what the users accept. -/

set_option autoImplicit false

namespace IdigestHub.Legal

open Foundation Foundation.Runs

section Markdown

def dropNewline : List Char → Option (List Char)
  | '\r' :: '\n' :: rest => some rest
  | '\n' :: rest => some rest
  | _ => none

def afterPrefix (before text : List Char) : Option (List Char) :=
  if before.isPrefixOf text then some (text.drop before.length) else none

def fenceBody (text : List Char) : Option (List Char) :=
  (afterPrefix ['`', '`', '`'] text).bind fun rest =>
    [['m', 'a', 'r', 'k', 'd', 'o', 'w', 'n'], ['m', 'd'], []].findSome? fun word => (afterPrefix word rest).bind dropNewline

/-- The text before the last line of a fence. The text has no whitespace at its end. -/
def beforeFence (text : List Char) : Option (List Char) :=
  match text.reverse with
  | '`' :: '`' :: '`' :: '\n' :: '\r' :: rest => some rest.reverse
  | '`' :: '`' :: '`' :: '\n' :: rest => some rest.reverse
  | _ => none

def rstrip (text : List Char) : List Char := (text.reverse.dropWhile Text.isSpace).reverse

/-- `_FENCE_FULL`, else `_FENCE_OPEN`. -/
def unfenced (text : List Char) : List Char :=
  match fenceBody text with
  | none => text
  | some body => (beforeFence body).getD (rstrip body)

def singleBars : Bool → List Char → List Char
  | _, [] => []
  | after, c :: rest => if after && c == '|' then singleBars true rest else c :: singleBars (c == '|') rest

/-- Behind a bar at the start of a line: whitespace, and text without a bar up to the end of a line. The whitespace gives way
from its end. -/
def quoteBehind (text : List Char) : Option (List Char × List Char) :=
  (List.range (text.takeWhile Text.isSpace).length).reverse.findSome? fun n =>
    let rest := text.drop (n + 1)
    let line := rest.takeWhile fun c => c != '|' && c != '\n'
    let after := rest.drop line.length
    if line != [] && after.head?.all (· == '\n') then some (line, after) else none

/-- Lines with a bar in front only become quotes; the fuel is the length of the text. -/
def barQuotes : Nat → Bool → List Char → List Char
  | 0, _, text => text
  | _ + 1, _, [] => []
  | fuel + 1, first, c :: rest =>
    match if first && c == '|' then quoteBehind rest else none with
    | some (line, after) => '>' :: ' ' :: line ++ barQuotes fuel false after
    | none => c :: barQuotes fuel (c == '\n') rest

/-- A bar, and two cells at least. -/
def startsTable : List Char → Bool
  | '|' :: rest =>
    let second := (rest.dropWhile (· != '|')).drop 1
    rest.head?.any (· != '|') && second.head?.any (· != '|') && second.contains '|'
  | _ => false

/-- `_GLUED_TABLE` with `_split_glued`: the longest text of the line that a table follows. -/
def splitGlued (line : List Char) : List Char :=
  let places := (List.range line.length).reverse.filter fun n =>
    (line.drop n).head?.any (· != '|') && startsTable (line.drop (n + 1))
  match places.head? with
  | none => line
  | some n =>
    let before := line.take (n + 1)
    if (before.dropWhile Text.isSpace).head? == some '|' then line
    else rstrip before ++ ['\n', '\n'] ++ line.drop (n + 1)

def splitTables (text : List Char) : List Char := List.intercalate ['\n'] ((text.splitOn '\n').map splitGlued)

/-- Bars with whitespace between them end a row and begin the next; the fuel is the length of the text. -/
def splitRows : Nat → List Char → List Char
  | 0, text => text
  | _ + 1, [] => []
  | fuel + 1, c :: rest =>
    match rest.takeWhile Text.isSpace, rest.dropWhile Text.isSpace with
    | _ :: _, '|' :: after => if c == '|' then '|' :: '\n' :: '|' :: splitRows fuel after else c :: splitRows fuel rest
    | _, _ => c :: splitRows fuel rest

def normalizeAgreementMarkdown (text : String) : String :=
  let body := (Text.strip text).toList
  if body = [] then "" else
    let body := singleBars false (unfenced body)
    let body := splitTables (barQuotes body.length true body)
    .ofList (splitTables (splitRows body.length body))

end Markdown

inductive LegalDocumentKey where
  | userAgreement | personalDataConsent | privacyPolicy
  deriving DecidableEq

/-- A value for each language of `LEGAL_DOCUMENT_TEXT_FIELDS`. -/
structure Localized (A : Type) where
  en : A
  ru : A
  es : A
  deriving DecidableEq

namespace Localized

variable {A B C : Type}

def map (f : A → B) (texts : Localized A) : Localized B := ⟨f texts.en, f texts.ru, f texts.es⟩

def zipWith (f : A → B → C) (texts : Localized A) (others : Localized B) : Localized C :=
  ⟨f texts.en others.en, f texts.ru others.ru, f texts.es others.es⟩

def any (p : A → Bool) (texts : Localized A) : Bool := p texts.en || p texts.ru || p texts.es

end Localized

abbrev Texts : Type := Localized (Option String)

structure LegalDocument where
  texts : Texts
  version : Int
  published : Bool

structure LegalDocumentVersion where
  key : LegalDocumentKey
  version : Int
  texts : Texts
  published : Bool
  createdByUserId : Nat

/-- A field of a patch: left out, null, or a text. -/
abbrev TextPatch : Type := Localized (Option (Option String))

/-- `(value or "").strip()`. -/
def stripped (text : Option String) : String := Text.strip (text.getD "")

/-- `document_active`. -/
def LegalDocument.active (document : LegalDocument) : Bool :=
  0 < document.version && document.texts.any fun text => stripped text != ""

/-- `document_pending` for a user who has accepted that version. -/
def LegalDocument.pending (document : LegalDocument) (accepted : Option Int) : Bool :=
  document.active && accepted.getD 0 != document.version

def patchedText (stored : Option String) : Option (Option String) → String
  | none => match stored with
    | none => ""
    | some text => normalizeAgreementMarkdown (Text.strip text)
  | some none => stripped stored
  | some (some text) => normalizeAgreementMarkdown (Text.strip text)

/-- What the user database and the settings hold of the documents. `witnessed` is what was stored when a user last accepted a
document. -/
structure Instance where
  documents : LegalDocumentKey → LegalDocument
  archive : List LegalDocumentVersion
  accepted : Nat → LegalDocumentKey → Option Int
  witnessed : Nat → LegalDocumentKey → Option Texts

inductive Event where
  | patch (author : Nat) (texts : LegalDocumentKey → TextPatch) (published : LegalDocumentKey → Option Bool)
  | accept (user : Nat)

namespace Instance

def opened : Instance := ⟨fun _ => ⟨⟨none, none, none⟩, 0, false⟩, [], fun _ _ => none, fun _ _ => none⟩

/-- `persist_legal_document_version`. -/
def persistVersion (author : Nat) (key : LegalDocumentKey) (document : LegalDocument) (archive : List LegalDocumentVersion) :
    List LegalDocumentVersion :=
  if archive.any fun row => row.key = key && row.version = document.version then archive
  else archive ++ [⟨key, document.version, document.texts, document.published, author⟩]

end Instance

def LegalDocument.patchedTexts (document : LegalDocument) (patch : TextPatch) : Localized String :=
  document.texts.zipWith patchedText patch

/-- `_apply_document_text_patch` finds other values than it had. -/
def LegalDocument.changedBy (document : LegalDocument) (patch : TextPatch) : Bool :=
  document.patchedTexts patch ≠ document.texts.map stripped

/-- `_apply_document_text_patch`, without the archive. -/
def LegalDocument.patched (document : LegalDocument) (patch : TextPatch) : LegalDocument :=
  let values := document.patchedTexts patch
  { document with
    texts := values.map fun text => nonEmpty (some text)
    version := if document.changedBy patch && values.any (· != "") then max 1 (document.version + 1) else document.version }

namespace Instance

def patchDocument (author : Nat) (patch : TextPatch) (key : LegalDocumentKey) (s : Instance) : Instance :=
  if patch.any Option.isSome then
    let document := (s.documents key).patched patch
    { s with
      documents := Function.update s.documents key document
      archive := if document.version = (s.documents key).version then s.archive else persistVersion author key
        document s.archive }
  else s

def publish (published : LegalDocumentKey → Option Bool) (s : Instance) : Instance :=
  { s with documents := fun key => { s.documents key with published := (published key).getD (s.documents key).published } }

/-- `accept_all_pending_documents`. -/
def acceptAll (user : Nat) (s : Instance) : Instance :=
  let pending key := (s.documents key).pending (s.accepted user key)
  { s with
    accepted := Function.update s.accepted user fun key =>
      if pending key then some (s.documents key).version else s.accepted user key
    witnessed := Function.update s.witnessed user fun key =>
      if pending key then some (s.documents key).texts else s.witnessed user key }

def step (s : Instance) : Event → Instance
  | .patch author texts published =>
    (((s.patchDocument author (texts .userAgreement) .userAgreement).patchDocument author (texts .personalDataConsent)
      .personalDataConsent).patchDocument author (texts .privacyPolicy) .privacyPolicy).publish published
  | .accept user => s.acceptAll user

end Instance

def Tidy (texts : Texts) : Prop := (texts.map fun text => nonEmpty (some (stripped text))) = texts

def CurrentTexts (s : Instance) : Prop := ∀ user key, (s.documents key).active = true →
  (s.documents key).pending (s.accepted user key) = false → s.witnessed user key = some (s.documents key).texts

/-- A patch that finds no change in an active document that somebody has accepted finds its texts tidy. -/
def Instance.Sound (s : Instance) : Event → Prop
  | .patch _ texts _ => ∀ key, (texts key).any Option.isSome = true → (s.documents key).changedBy (texts key) = false →
    (s.documents key).active = true → (∃ user, s.accepted user key = some (s.documents key).version) →
      Tidy (s.documents key).texts
  | .accept _ => True

def Behind (s : Instance) : Prop := ∀ user key, (s.accepted user key).getD 0 ≤ (s.documents key).version

section Patches

variable {document : LegalDocument} {patch : TextPatch}

theorem Localized.any_map {A B : Type} (f : A → B) (p : B → Bool) (texts : Localized A) :
    (texts.map f).any p = texts.any (p ∘ f) := rfl

@[simp] theorem stripped_nonEmpty (text : String) : stripped (nonEmpty (some text)) = Text.strip text := by
  by_cases empty : text = ""
  · subst empty
    rfl
  · unfold nonEmpty
    split
    · rename_i same
      exact absurd (Option.some.inj same) empty
    · rfl

theorem active_iff : document.active = true ↔ 0 < document.version ∧
    (document.texts.any fun text => stripped text != "") = true := by
  simp [LegalDocument.active]

theorem not_pending_iff (active : document.active = true) (accepted : Option Int) :
    document.pending accepted = false ↔ accepted = some document.version := by
  have positive := (active_iff.mp active).1
  cases accepted with
  | none => simp [LegalDocument.pending, active, positive.ne]
  | some version => simp [LegalDocument.pending, active]

theorem patched_texts : (document.patched patch).texts = (document.patchedTexts patch).map fun text => nonEmpty (some text) := rfl

theorem version_le_patched : document.version ≤ (document.patched patch).version := by
  simp only [LegalDocument.patched]
  split
  · omega
  · exact le_rfl

/-- A patch that changes a text, and leaves one, gives the document a version that nobody has accepted. -/
theorem patched_bumped (changed : document.changedBy patch = true) (left : (document.patchedTexts patch).any (· != "") = true) :
    document.version < (document.patched patch).version := by
  simp only [LegalDocument.patched, changed, left, Bool.and_self, if_true]
  omega

theorem patched_cleared (left : (document.patchedTexts patch).any (· != "") = false) :
    (document.patched patch).active = false := by
  simp only [Localized.any, Bool.or_eq_false_iff, bne_eq_false_iff_eq] at left
  simp [LegalDocument.active, patched_texts, Localized.any, Localized.map, left, stripped, nonEmpty]

theorem patched_same (same : document.changedBy patch = false) :
    (document.patched patch).version = document.version ∧
      (document.patched patch).texts = document.texts.map fun text => nonEmpty (some (stripped text)) := by
  have values : document.patchedTexts patch = document.texts.map stripped := by simpa [LegalDocument.changedBy] using same
  refine ⟨by simp [LegalDocument.patched, same], ?_⟩
  rw [patched_texts, values]
  rfl

theorem patched_same_active (same : document.changedBy patch = false) : (document.patched patch).active = document.active := by
  obtain ⟨version, texts⟩ := patched_same same
  have kept : ((document.patched patch).texts.any fun text => stripped text != "") = document.texts.any fun text =>
    stripped text != "" := by
    rw [texts, Localized.any_map]
    refine congrArg document.texts.any (funext fun text => ?_)
    rw [Function.comp, stripped_nonEmpty, stripped, Text.strip_strip]
  rw [LegalDocument.active, LegalDocument.active, version, kept]

theorem patched_current_iff {accepted : Option Int} {witnessed : Option Texts} (behind : accepted.getD 0 ≤ document.version)
    (current : document.active = true → document.pending accepted = false → witnessed = some document.texts) :
    ((document.patched patch).active = true → (document.patched patch).pending accepted = false →
        witnessed = some (document.patched patch).texts) ↔
      (document.changedBy patch = false → document.active = true → accepted = some document.version → Tidy document.texts) := by
  cases changed : document.changedBy patch with
  | true =>
    refine iff_of_true (fun active settled => ?_) nofun
    cases left : (document.patchedTexts patch).any (· != "") with
    | true =>
      have bumped := patched_bumped changed left
      have version := (not_pending_iff active accepted).mp settled
      rw [version, Option.getD_some] at behind
      omega
    | false =>
      rw [patched_cleared left] at active
      contradiction
  | false =>
    obtain ⟨version, texts⟩ := patched_same changed
    have active := patched_same_active changed
    constructor
    · intro after _ was_active version_accepted
      have settled := (not_pending_iff was_active accepted).mpr version_accepted
      have now := after (active.trans was_active) ((not_pending_iff (active.trans was_active) accepted).mpr
        (version ▸ version_accepted))
      have before := current was_active settled
      exact texts.symm.trans (Option.some.inj (now.symm.trans before))
    · intro tidy is_active settled
      have was_active := active.symm.trans is_active
      have version_accepted : accepted = some document.version := version ▸ (not_pending_iff is_active accepted).mp settled
      rw [current was_active ((not_pending_iff was_active accepted).mpr version_accepted), texts]
      exact congrArg some (tidy rfl was_active version_accepted).symm

end Patches

section Running

variable {s : Instance}

theorem documents_patchDocument (author : Nat) (patch : TextPatch) (key other : LegalDocumentKey) :
    (s.patchDocument author patch key).documents other =
      if other = key ∧ patch.any Option.isSome = true then (s.documents key).patched patch else s.documents other := by
  unfold Instance.patchDocument
  by_cases named : patch.any Option.isSome = true
  · by_cases same : other = key
    · subst same
      simp [named]
    · simp [named, same]
  · simp [named]

theorem users_patchDocument (author : Nat) (patch : TextPatch) (key : LegalDocumentKey) :
    (s.patchDocument author patch key).accepted = s.accepted ∧ (s.patchDocument author patch key).witnessed = s.witnessed := by
  unfold Instance.patchDocument
  split <;> exact ⟨rfl, rfl⟩

/-- The texts and the version of a document after a patch; nothing else of a document has to do with the users. -/
structure Alike (document other : LegalDocument) : Prop where
  texts : document.texts = other.texts
  version : document.version = other.version

theorem Alike.active {document other : LegalDocument} (alike : Alike document other) : document.active = other.active := by
  rw [LegalDocument.active, LegalDocument.active, alike.texts, alike.version]

theorem Alike.pending {document other : LegalDocument} (alike : Alike document other) (accepted : Option Int) :
    document.pending accepted = other.pending accepted := by
  rw [LegalDocument.pending, LegalDocument.pending, alike.active, alike.version]

theorem step_patch (author : Nat) (texts : LegalDocumentKey → TextPatch) (published : LegalDocumentKey → Option Bool) :
    (s.step (.patch author texts published)).accepted = s.accepted ∧
      (s.step (.patch author texts published)).witnessed = s.witnessed ∧
      ∀ key, Alike ((s.step (.patch author texts published)).documents key)
        (if (texts key).any Option.isSome = true then (s.documents key).patched (texts key) else s.documents key) := by
  refine ⟨?_, ?_, fun key => ?_⟩
  · simp only [Instance.step, Instance.publish, users_patchDocument]
  · simp only [Instance.step, Instance.publish, users_patchDocument]
  · cases key <;> constructor <;> simp [Instance.step, Instance.publish, documents_patchDocument]

theorem version_le_step (event : Event) (key : LegalDocumentKey) :
    (s.documents key).version ≤ ((s.step event).documents key).version := by
  cases event with
  | patch author texts published =>
    rw [((step_patch author texts published).2.2 key).version]
    split
    · exact version_le_patched
    · exact le_rfl
  | accept user => exact le_rfl

theorem Behind.step (behind : Behind s) (event : Event) : Behind (s.step event) := by
  intro user key
  cases event with
  | patch author texts published =>
    rw [(step_patch author texts published).1]
    exact (behind user key).trans (version_le_step _ key)
  | accept other =>
    simp only [Instance.step, Instance.acceptAll]
    by_cases same : user = other
    · subst same
      rw [Function.update_self]
      split
      · exact le_rfl
      · exact behind user key
    · rw [Function.update_of_ne same]
      exact behind user key

theorem CurrentTexts.accepts (current : CurrentTexts s) (user : Nat) : CurrentTexts (s.acceptAll user) := by
  intro other key active settled
  by_cases same : other = user
  · subst same
    simp only [Instance.acceptAll, Function.update_self] at active settled ⊢
    split
    · rfl
    · rename_i waits
      rw [if_neg waits] at settled
      exact current other key active settled
  · simp only [Instance.acceptAll, Function.update_of_ne same] at active settled ⊢
    exact current other key active settled

theorem current_step_iff (behind : Behind s) (current : CurrentTexts s) (event : Event) :
    CurrentTexts (s.step event) ↔ s.Sound event := by
  cases event with
  | accept user => exact iff_of_true (current.accepts user) trivial
  | patch author texts published =>
    obtain ⟨accepted, witnessed, alike⟩ := step_patch (s := s) author texts published
    -- The users of a document that the patch does not name are as they were.
    have at_key (user : Nat) (key : LegalDocumentKey) :
        (((s.step (.patch author texts published)).documents key).active = true →
          ((s.step (.patch author texts published)).documents key).pending (s.accepted user key) = false →
          s.witnessed user key = some ((s.step (.patch author texts published)).documents key).texts) ↔
        ((texts key).any Option.isSome = true → (s.documents key).changedBy (texts key) = false →
          (s.documents key).active = true →
          s.accepted user key = some (s.documents key).version → Tidy (s.documents key).texts) := by
      rw [(alike key).active, (alike key).pending, (alike key).texts]
      by_cases named : (texts key).any Option.isSome = true
      · simp only [named, if_true, forall_const]
        exact patched_current_iff (behind user key) (current user key)
      · rw [if_neg named]
        exact iff_of_true (current user key) fun its => absurd its named
    simp only [CurrentTexts, accepted, witnessed, Instance.Sound]
    constructor
    · rintro after key named unchanged active ⟨user, its⟩
      exact (at_key user key).mp (after user key) named unchanged active its
    · intro tidy user key
      exact (at_key user key).mpr fun named unchanged active its => tidy key named unchanged active ⟨user, its⟩

theorem version_le_run (events : List Event) (key : LegalDocumentKey) :
    (s.documents key).version ≤ ((run Instance.step s events).documents key).version := by
  induction events generalizing s with
  | nil => exact le_rfl
  | cons event rest ih => exact (version_le_step event key).trans ih

end Running

/-- Users have accepted the present texts, and versions do not decrease, in exactly the runs of sound patches. -/
theorem acceptance_current_iff (events : List Event) :
    (Always Instance.step CurrentTexts .opened events ∧
      ∀ done rest, events = done ++ rest → ∀ key, ((run Instance.step .opened done).documents key).version ≤
        ((run Instance.step .opened events).documents key).version) ↔
    Along Instance.step Instance.Sound .opened events := by
  have opened : CurrentTexts .opened := by
    intro user key active
    contradiction
  have behind : Behind .opened := fun _ _ => le_rfl
  have exact_runs : Always Instance.step CurrentTexts .opened events ↔ Along Instance.step Instance.Sound .opened events :=
    always_iff_along_of (A := Behind) (I := CurrentTexts) (fun _ event behind => behind.step event)
      (fun _ event behind current => current_step_iff behind current event) behind opened
  refine Iff.trans (and_iff_left ?_) exact_runs
  rintro done rest rfl key
  rw [run_append]
  exact version_le_run rest key

def english (text : String) : LegalDocumentKey → TextPatch
  | .userAgreement => ⟨some (some text), none, none⟩
  | _ => ⟨none, none, none⟩

/-- The text inside the fence begins with a blank. A user accepts it, and a patch without any text of its own follows. -/
def fencedAgreement : List Event := [
  .patch 1 (english "```\n terms\n```") fun _ => none,
  .accept 2,
  .patch 1 (fun _ => ⟨some none, none, none⟩) fun _ => none]

theorem fenced_agreement_changes : ¬ Always Instance.step CurrentTexts .opened fencedAgreement := by
  intro always
  have current := always _ [] (List.append_nil _).symm 2 .userAgreement (by decide +kernel) (by decide +kernel)
  have differs : (run Instance.step .opened fencedAgreement).witnessed 2 .userAgreement ≠
      some ((run Instance.step .opened fencedAgreement).documents .userAgreement).texts := by
    decide +kernel
  exact differs current

end IdigestHub.Legal
