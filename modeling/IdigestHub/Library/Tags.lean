import IdigestHub.Foundation.Counts
import IdigestHub.Foundation.Runs
import IdigestHub.Foundation.Words
import Mathlib.Data.List.Dedup

/-! The tags that users put on the objects of the library, and the links between the two. -/

set_option autoImplicit false

namespace IdigestHub.Library

open Foundation Foundation.Runs

structure UserTag where
  userId : Nat
  name : String
  nameKey : String
  deriving DecidableEq

structure Tagged where
  userId : Nat
  objectType : String
  objectId : Nat
  deriving DecidableEq

structure UserTagLink extends Tagged where
  tagId : Nat
  deriving DecidableEq

def UserTagLink.isAt (link : UserTagLink) (objectType : String) (objectId : Nat) : Bool :=
  link.objectType == objectType && link.objectId == objectId

structure TagStore where
  tags : Table Nat UserTag
  links : Table Nat UserTagLink
  nextId : Nat

def TagStore.empty (nextId : Nat) : TagStore := ⟨∅, ∅, nextId⟩

inductive TagRefusal where
  | validationError | userTagNameInvalid | userTagLimitPerObject | userTagNameTaken | notFound
  deriving DecidableEq

structure TagPublic where
  id : Nat
  name : String
  usageCount : Option Nat
  deriving DecidableEq

def libraryObjectTypes : List String := ["audio", "transcript", "summary"]

def maxTagNameLen : Nat := 64

def maxTagsPerObject : Nat := 32

def normalizeTagName (raw : String) : Except TagRefusal String :=
  let name := Text.squeeze (Text.strip raw)
  if name = "" || maxTagNameLen < name.length then .error .userTagNameInvalid else .ok name

section Operations

-- `str.casefold`, which makes the key of a name and may lengthen it.
variable (casefold : String → String)

def cleanNames : List String → List String → Except TagRefusal (List String)
  | _, [] => .ok []
  | seen, raw :: rest => do
    let name ← normalizeTagName raw
    if casefold name ∈ seen then cleanNames seen rest
    else return name :: (← cleanNames (casefold name :: seen) rest)

namespace TagStore

def getOrCreateTag (s : TagStore) (userId : Nat) (rawName : String) : Except TagRefusal (TagStore × Nat) := do
  let name ← normalizeTagName rawName
  match (s.tags.select fun _ tag => tag.userId == userId && tag.nameKey == casefold name).head? with
  | some existing => .ok (s, existing)
  | none => .ok ({ s with tags := s.tags.put s.nextId ⟨userId, name, casefold name⟩, nextId := s.nextId + 1 }, s.nextId)

def objectUserTags (s : TagStore) (object : Tagged) : List (Nat × UserTag) :=
  ((s.links.entries.filter fun link => link.2.toTagged = object).filterMap fun link =>
    (s.tags.find link.2.tagId).map (link.2.tagId, ·)).mergeSort fun a b => a.2.nameKey ≤ b.2.nameKey

def objectPublic (s : TagStore) (object : Tagged) : List TagPublic :=
  (s.objectUserTags object).map fun (id, tag) => ⟨id, tag.name, none⟩

def link (s : TagStore) (object : Tagged) (tagId : Nat) : TagStore :=
  { s with links := s.links.put s.nextId { object with tagId }, nextId := s.nextId + 1 }

def attach (object : Tagged) : TagStore → List String → Except TagRefusal TagStore
  | s, [] => .ok s
  | s, name :: rest => do
    let (s, tagId) ← s.getOrCreateTag casefold object.userId name
    attach object (s.link object tagId) rest

/-- `_prune_unused_tags`. -/
def pruneUnused (s : TagStore) (userId : Nat) : TagStore :=
  { s with tags := s.tags.keep fun id tag =>
      tag.userId != userId || s.links.count (fun _ link => link.userId == userId && link.tagId == id) != 0 }

/-- The names that `append_object_tags` adds. -/
def toAdd (s : TagStore) (object : Tagged) (tagNames : List String) : Except TagRefusal (List String) := do
  let current := s.objectUserTags object
  let names ← cleanNames casefold (current.map fun (_, tag) => casefold tag.name) tagNames
  if maxTagsPerObject < current.length + names.length then .error .userTagLimitPerObject else .ok names

def appendObjectTags (s : TagStore) (object : Tagged) (tagNames : List String) : Except TagRefusal (TagStore × List TagPublic) :=
  if object.objectType ∉ libraryObjectTypes then .error .validationError
  else if tagNames = [] then .ok (s, s.objectPublic object)
  else do
    let names ← s.toAdd casefold object tagNames
    let s := (← s.attach casefold object names).pruneUnused object.userId
    return (s, s.objectPublic object)

/-- The names that `set_object_tags` leaves on the object. -/
def toSet (tagNames : List String) : Except TagRefusal (List String) := do
  let names ← cleanNames casefold [] tagNames
  if maxTagsPerObject < names.length then .error .userTagLimitPerObject else .ok names

def withoutLinks (s : TagStore) (object : Tagged) : TagStore :=
  { s with links := s.links.keep fun _ link => link.toTagged != object }

def setObjectTags (s : TagStore) (object : Tagged) (tagNames : List String) : Except TagRefusal (TagStore × List TagPublic) :=
  if object.objectType ∉ libraryObjectTypes then .error .validationError
  else do
    let names ← toSet casefold tagNames
    let s := (← (s.withoutLinks object).attach casefold object names).pruneUnused object.userId
    return (s, s.objectPublic object)

def inheritObjectUserTags (s : TagStore) (source : Tagged) (toType : String) (toId : Nat) : Except TagRefusal TagStore :=
  let tags := s.objectUserTags source
  if tags = [] then .ok s
  else (s.setObjectTags casefold ⟨source.userId, toType, toId⟩ (tags.map fun (_, tag) => tag.name)).map Prod.fst

/-- The name that `rename_user_tag` writes, and the row that gets it. -/
def toRename (s : TagStore) (userId tagId : Nat) (rawName : String) : Except TagRefusal (UserTag × String) :=
  match s.tags.find tagId with
  | none => .error .notFound
  | some row =>
    if row.userId ≠ userId then .error .notFound
    else do
      let name ← normalizeTagName rawName
      if casefold name ≠ row.nameKey ∧
          (s.tags.select fun id tag => tag.userId == userId && tag.nameKey == casefold name && id != tagId) ≠ [] then
        .error .userTagNameTaken
      else .ok (row, name)

def renameUserTag (s : TagStore) (userId tagId : Nat) (rawName : String) : Except TagRefusal (TagStore × TagPublic) := do
  let (row, name) ← s.toRename casefold userId tagId rawName
  let s := { s with tags := s.tags.put tagId { row with name, nameKey := casefold name } }
  let usage := s.links.count fun _ link => link.userId == userId && link.tagId == tagId
  return (s, ⟨tagId, name, some usage⟩)

def deleteUserTag (s : TagStore) (userId tagId : Nat) : Except TagRefusal TagStore :=
  match s.tags.find tagId with
  | none => .error .notFound
  | some row =>
    if row.userId ≠ userId then .error .notFound
    else .ok { s with
      links := s.links.keep fun _ link => !(link.tagId == tagId && link.userId == userId)
      tags := s.tags.delete tagId }

def pruneTagIds (s : TagStore) (tagIds : List Nat) : TagStore :=
  { s with tags := tagIds.dedup.foldl (fun tags id =>
      if s.links.count (fun _ link => link.tagId == id) ≠ 0 then tags else tags.delete id) s.tags }

def wipeObjectTagLinks (s : TagStore) (objectType : String) (objectId : Nat) : TagStore :=
  let tagIds := (s.links.entries.filter fun link => link.2.isAt objectType objectId).map fun link => link.2.tagId
  { s with links := s.links.keep fun _ link => !link.isAt objectType objectId }.pruneTagIds tagIds

def deleteAllUserTags (s : TagStore) (userId : Nat) : TagStore :=
  { s with
    links := s.links.keep fun _ link => link.userId != userId
    tags := s.tags.keep fun _ tag => tag.userId != userId }

end TagStore

inductive TagEvent where
  | append (object : Tagged) (tagNames : List String)
  | set (object : Tagged) (tagNames : List String)
  | inherit (source : Tagged) (toType : String) (toId : Nat)
  | rename (userId tagId : Nat) (rawName : String)
  | delete (userId tagId : Nat)
  | wipe (objectType : String) (objectId : Nat)
  | deleteAll (userId : Nat)

/-- An operation that raises an error is rolled back. -/
def TagStore.step (s : TagStore) : TagEvent → TagStore
  | .append object tagNames => ((s.appendObjectTags casefold object tagNames).toOption.map Prod.fst).getD s
  | .set object tagNames => ((s.setObjectTags casefold object tagNames).toOption.map Prod.fst).getD s
  | .inherit source toType toId => (s.inheritObjectUserTags casefold source toType toId).toOption.getD s
  | .rename userId tagId rawName => ((s.renameUserTag casefold userId tagId rawName).toOption.map Prod.fst).getD s
  | .delete userId tagId => (s.deleteUserTag userId tagId).toOption.getD s
  | .wipe objectType objectId => s.wipeObjectTagLinks objectType objectId
  | .deleteAll userId => s.deleteAllUserTags userId

namespace TagStore

/-- How many tags of its own a user has on an object. -/
def carried (s : TagStore) (object : Tagged) : Nat := s.links.count fun _ link => link.toTagged == object

/-- Keys tell tags apart and fit their column like the names, and a link joins a tag and an object of one user. -/
structure Kept (s : TagStore) : Prop where
  distinct : ∀ id other tag another, s.tags.find id = some tag → s.tags.find other = some another →
    tag.userId = another.userId → tag.nameKey = another.nameKey → id = other
  keyed : ∀ id tag, s.tags.find id = some tag → tag.nameKey = casefold tag.name
  short : ∀ id tag, s.tags.find id = some tag → tag.name.length ≤ maxTagNameLen ∧ tag.nameKey.length ≤ maxTagNameLen
  few : ∀ object, s.carried object ≤ maxTagsPerObject
  once : ∀ key other link, s.links.find key = some link → s.links.find other = some link → key = other
  used : ∀ id tag, s.tags.find id = some tag → ∃ key link, s.links.find key = some link ∧ link.tagId = id
  owned : ∀ key link, s.links.find key = some link → ∃ tag, s.tags.find link.tagId = some tag ∧ tag.userId = link.userId

/-- The names that an operation gives to tags, when its checks let it. -/
def newNames (s : TagStore) : TagEvent → List String
  | .append object tagNames =>
    if object.objectType ∈ libraryObjectTypes then (s.toAdd casefold object tagNames).toOption.getD [] else []
  | .set object tagNames => if object.objectType ∈ libraryObjectTypes then (toSet casefold tagNames).toOption.getD [] else []
  | .rename userId tagId rawName => ((s.toRename casefold userId tagId rawName).toOption.map Prod.snd).toList
  | _ => []

/-- Casefolding makes none of the new names too long. -/
def Fits (s : TagStore) (event : TagEvent) : Prop :=
  ∀ name ∈ s.newNames casefold event, (casefold name).length ≤ maxTagNameLen

end TagStore

end Operations

section Names

variable {casefold : String → String}

theorem normalizeTagName_ok {raw name : String} (normal : normalizeTagName raw = .ok name) :
    normalizeTagName name = .ok name ∧ name.length ≤ maxTagNameLen := by
  unfold normalizeTagName at normal
  extract_lets squeezed at normal
  split at normal
  · cases normal
  · rename_i fits
    obtain rfl := Except.ok.inj normal
    simp only [Bool.or_eq_true, decide_eq_true_eq, not_or, Nat.not_lt] at fits
    -- A squeezed text has nothing to trim, and squeezes to itself.
    have same : Text.squeeze (Text.strip squeezed) = squeezed := Text.squeeze_strip_squeeze _
    refine ⟨?_, fits.2⟩
    simp [normalizeTagName, same, fits.1, Nat.not_lt.mpr fits.2]

theorem cleanNames_spec {seen raws names : List String} (cleaned : cleanNames casefold seen raws = .ok names) :
    (∀ name ∈ names, normalizeTagName name = .ok name ∧ casefold name ∉ seen) ∧ (names.map casefold).Nodup := by
  induction raws generalizing seen names with
  | nil =>
    obtain rfl := Except.ok.inj cleaned
    simp
  | cons raw rest ih =>
    rw [cleanNames] at cleaned
    cases normal : normalizeTagName raw with
    | error refusal => simp [normal, bind, Except.bind] at cleaned
    | ok name =>
      simp only [normal, bind, Except.bind] at cleaned
      split at cleaned
      · exact ih cleaned
      · rename_i fresh
        cases tail : cleanNames casefold (casefold name :: seen) rest with
        | error refusal => simp [tail] at cleaned
        | ok others =>
          simp only [tail, pure, Except.pure, Except.ok.injEq] at cleaned
          obtain rfl := cleaned
          obtain ⟨each, distinct⟩ := ih tail
          constructor
          · intro other member
            rcases List.mem_cons.mp member with rfl | member
            · exact ⟨(normalizeTagName_ok normal).1, fresh⟩
            · exact ⟨(each other member).1, fun there => (each other member).2 (List.mem_cons_of_mem _ there)⟩
          · -- A later name has another key, since this one has been seen by then.
            rw [List.map_cons, List.nodup_cons, List.mem_map]
            refine ⟨?_, distinct⟩
            rintro ⟨other, member, same⟩
            exact (each other member).2 (same ▸ List.mem_cons_self)

theorem cleanNames_given {seen raws names : List String} (cleaned : cleanNames casefold seen raws = .ok names) :
    ∀ name ∈ names, ∃ raw ∈ raws, normalizeTagName raw = .ok name := by
  induction raws generalizing seen names with
  | nil =>
    obtain rfl := Except.ok.inj cleaned
    simp
  | cons raw rest ih =>
    rw [cleanNames] at cleaned
    cases normal : normalizeTagName raw with
    | error refusal => simp [normal, bind, Except.bind] at cleaned
    | ok name =>
      have later {names : List String} {seen : List String} (tail : cleanNames casefold seen rest = .ok names) :
          ∀ name ∈ names, ∃ raw' ∈ raw :: rest, normalizeTagName raw' = .ok name := by
        intro other member
        obtain ⟨its, given, same⟩ := ih tail other member
        exact ⟨its, List.mem_cons_of_mem _ given, same⟩
      simp only [normal, bind, Except.bind] at cleaned
      split at cleaned
      · exact later cleaned
      · cases tail : cleanNames casefold (casefold name :: seen) rest with
        | error refusal => simp [tail] at cleaned
        | ok others =>
          simp only [tail, pure, Except.pure, Except.ok.injEq] at cleaned
          obtain rfl := cleaned
          intro other member
          rcases List.mem_cons.mp member with rfl | member
          · exact ⟨raw, List.mem_cons_self, normal⟩
          · exact later tail other member

end Names

section Storing

variable {casefold : String → String} {s : TagStore}

/-- What of a sound store holds between the steps of an operation too. -/
structure TagsLinked (casefold : String → String) (s : TagStore) : Prop where
  distinct : ∀ id other tag another, s.tags.find id = some tag → s.tags.find other = some another →
    tag.userId = another.userId → tag.nameKey = another.nameKey → id = other
  keyed : ∀ id tag, s.tags.find id = some tag → tag.nameKey = casefold tag.name
  normal : ∀ id tag, s.tags.find id = some tag → normalizeTagName tag.name = .ok tag.name
  once : ∀ key other link, s.links.find key = some link → s.links.find other = some link → key = other
  owned : ∀ key link, s.links.find key = some link → ∃ tag, s.tags.find link.tagId = some tag ∧ tag.userId = link.userId
  below : ∀ id, s.nextId ≤ id → s.tags.find id = none ∧ s.links.find id = none

def Used (s : TagStore) (id : Nat) : Prop := ∃ key link, s.links.find key = some link ∧ link.tagId = id

structure TagsSound (casefold : String → String) (s : TagStore) : Prop where
  linked : TagsLinked casefold s
  few : ∀ object, s.carried object ≤ maxTagsPerObject
  used : ∀ id tag, s.tags.find id = some tag → Used s id

theorem TagsLinked.fewer (linked : TagsLinked casefold s) {tags : Table Nat UserTag} {links : Table Nat UserTagLink}
    (fewer_tags : ∀ id tag, tags.find id = some tag → s.tags.find id = some tag)
    (fewer_links : ∀ key link, links.find key = some link → s.links.find key = some link)
    (needed : ∀ key link tag, links.find key = some link → s.tags.find link.tagId = some tag → tag.userId = link.userId →
      tags.find link.tagId = some tag) :
    TagsLinked casefold { s with tags, links } where
  distinct id other tag another found there := linked.distinct id other tag another (fewer_tags _ _ found) (fewer_tags _ _ there)
  keyed id tag found := linked.keyed id tag (fewer_tags _ _ found)
  normal id tag found := linked.normal id tag (fewer_tags _ _ found)
  once key other link found there := linked.once key other link (fewer_links _ _ found) (fewer_links _ _ there)
  owned key link found := by
    obtain ⟨tag, there, owner⟩ := linked.owned key link (fewer_links _ _ found)
    exact ⟨tag, needed key link tag found there owner, owner⟩
  below id new := by
    obtain ⟨no_tag, no_link⟩ := linked.below id new
    constructor
    · refine Option.eq_none_iff_forall_ne_some.mpr fun tag found => ?_
      rw [fewer_tags id tag found] at no_tag
      contradiction
    · refine Option.eq_none_iff_forall_ne_some.mpr fun link found => ?_
      rw [fewer_links id link found] at no_link
      contradiction

theorem stays_pruned {userId key : Nat} {link : UserTagLink} {tag : UserTag} (found : s.links.find key = some link)
    (there : s.tags.find link.tagId = some tag) (owner : tag.userId = link.userId) :
    (s.pruneUnused userId).tags.find link.tagId = some tag := by
  refine Table.find_keep_iff.mpr ⟨there, ?_⟩
  -- The link itself is one that counts, if the tag is one of the user.
  by_cases its : link.userId = userId
  · have counted : s.links.count (fun _ link' => link'.userId == userId && link'.tagId == link.tagId) ≠ 0 := by
      intro zero
      have uncounted := (Table.count_eq_zero _ _).mp zero key link found
      simp [its] at uncounted
    simp [counted]
  · simp [owner, its]

theorem TagsLinked.pruned (linked : TagsLinked casefold s) (userId : Nat) : TagsLinked casefold (s.pruneUnused userId) :=
  linked.fewer (fun _ _ found => (Table.find_keep_iff.mp found).1) (fun _ _ found => found) fun _ _ _ => stays_pruned

theorem used_pruned {userId : Nat} (others : ∀ id tag, s.tags.find id = some tag → tag.userId ≠ userId → Used s id) :
    ∀ id tag, (s.pruneUnused userId).tags.find id = some tag → Used (s.pruneUnused userId) id := by
  intro id tag found
  obtain ⟨there, stays⟩ := Table.find_keep_iff.mp found
  by_cases its : tag.userId = userId
  · by_contra unused
    have zero : s.links.count (fun _ link => link.userId == userId && link.tagId == id) = 0 := by
      refine (Table.count_eq_zero _ _).mpr fun key link stored => ?_
      cases counts : link.userId == userId && link.tagId == id with
      | false => rfl
      | true =>
        simp only [Bool.and_eq_true, beq_iff_eq] at counts
        exact absurd ⟨key, link, stored, counts.2⟩ unused
    simp [its, zero] at stays
  · exact others id tag there its

theorem TagsLinked.getOrCreate (linked : TagsLinked casefold s) (userId : Nat) {name : String}
    (normal : normalizeTagName name = .ok name) :
    ∃ tags nextId id tag, s.getOrCreateTag casefold userId name = .ok (⟨tags, s.links, nextId⟩, id) ∧
      TagsLinked casefold ⟨tags, s.links, nextId⟩ ∧ tags.find id = some tag ∧ tag.userId = userId ∧ tag.nameKey = casefold name ∧
      (∀ other another, s.tags.find other = some another → tags.find other = some another) ∧
      ∀ other another, tags.find other = some another → s.tags.find other = some another ∨
        another.userId = userId ∧ another.nameKey = casefold name := by
  simp only [TagStore.getOrCreateTag, normal, bind, Except.bind]
  cases existing : (s.tags.select fun _ tag => tag.userId == userId && tag.nameKey == casefold name).head? with
  | some id =>
    obtain ⟨tag, found, holds⟩ := (Table.mem_select _ _ _).mp (List.mem_of_head? existing)
    simp only [Bool.and_eq_true, beq_iff_eq] at holds
    exact ⟨s.tags, s.nextId, id, tag, rfl, linked, found, holds.1, holds.2, fun _ _ there => there, fun _ _ there => .inl there⟩
  | none =>
    -- No tag of the user has the key, so the new row stays the only one with it.
    have none_yet : ∀ id tag, s.tags.find id = some tag → tag.userId = userId → tag.nameKey ≠ casefold name := by
      intro id tag found its same
      have selected : id ∈ s.tags.select fun _ tag => tag.userId == userId && tag.nameKey == casefold name :=
        (Table.mem_select _ _ _).mpr ⟨tag, found, by simp [its, same]⟩
      rw [List.head?_eq_none_iff.mp existing] at selected
      exact (List.not_mem_nil selected).elim
    have row {other : Nat} {another : UserTag} :
        (s.tags.put s.nextId ⟨userId, name, casefold name⟩).find other = some another ↔
          other = s.nextId ∧ another = ⟨userId, name, casefold name⟩ ∨ s.tags.find other = some another :=
      Table.find_put_iff (linked.below s.nextId le_rfl).1
    refine ⟨_, _, _, _, rfl, ⟨?_, ?_, ?_, linked.once, ?_, ?_⟩, Table.find_put_self .., rfl, rfl, fun _ _ there =>
      row.mpr (.inr there), ?_⟩
    · intro id other tag another found there its same
      rcases row.mp found with ⟨rfl, rfl⟩ | found <;> rcases row.mp there with ⟨rfl, rfl⟩ | there
      · rfl
      · exact absurd same.symm (none_yet other another there its.symm)
      · exact absurd same (none_yet id tag found its)
      · exact linked.distinct id other tag another found there its same
    · intro id tag found
      rcases row.mp found with ⟨_, rfl⟩ | found
      · rfl
      · exact linked.keyed id tag found
    · intro id tag found
      rcases row.mp found with ⟨_, rfl⟩ | found
      · exact normal
      · exact linked.normal id tag found
    · intro key link found
      obtain ⟨tag, there, owner⟩ := linked.owned key link found
      exact ⟨tag, row.mpr (.inr there), owner⟩
    · intro id new
      have new' : s.nextId < id := new
      refine ⟨?_, (linked.below id new'.le).2⟩
      rw [Table.find_put, if_neg (Nat.ne_of_gt new')]
      exact (linked.below id new'.le).1
    · intro other another found
      rcases row.mp found with ⟨_, rfl⟩ | found
      · exact .inr ⟨rfl, rfl⟩
      · exact .inl found

theorem find_link (linked : TagsLinked casefold s) (object : Tagged) (tagId : Nat) (key : Nat) (link : UserTagLink) :
    (s.link object tagId).links.find key = some link ↔
      key = s.nextId ∧ link = { object with tagId } ∨ s.links.find key = some link :=
  Table.find_put_iff (linked.below s.nextId le_rfl).2

theorem TagsLinked.link (linked : TagsLinked casefold s) (object : Tagged) {tagId : Nat} {tag : UserTag}
    (found : s.tags.find tagId = some tag)
    (owner : tag.userId = object.userId)
    (unlinked : ∀ key link, s.links.find key = some link → link.toTagged = object → link.tagId ≠ tagId) :
    TagsLinked casefold (s.link object tagId) where
  distinct := linked.distinct
  keyed := linked.keyed
  normal := linked.normal
  once key other link there here := by
    rcases (find_link linked ..).mp there with ⟨rfl, rfl⟩ | there <;> rcases (find_link linked ..).mp here with ⟨rfl, same⟩ | here
    · rfl
    · exact absurd rfl (unlinked other _ here rfl)
    · exact absurd (congrArg UserTagLink.tagId same) (unlinked key link there (congrArg UserTagLink.toTagged same))
    · exact linked.once key other link there here
  owned key link there := by
    rcases (find_link linked ..).mp there with ⟨_, rfl⟩ | there
    · exact ⟨tag, found, owner⟩
    · exact linked.owned key link there
  below id new := by
    have new' : s.nextId < id := new
    obtain ⟨no_tag, no_link⟩ := linked.below id new'.le
    refine ⟨no_tag, ?_⟩
    rw [TagStore.link, Table.find_put, if_neg (Nat.ne_of_gt new')]
    exact no_link

theorem carried_link (linked : TagsLinked casefold s) (object : Tagged) (tagId : Nat) (other : Tagged) :
    (s.link object tagId).carried other = s.carried other + if other = object then 1 else 0 := by
  have counts := Table.count_put_of_none (linked.below s.nextId le_rfl).2 { object with tagId } fun _ link =>
    link.toTagged == other
  simp only [beq_iff_eq, eq_comm (a := object)] at counts
  exact counts

structure Attached (casefold : String → String) (s next : TagStore) (object : Tagged) (names : List String) : Prop where
  linked : TagsLinked casefold next
  tags : ∀ id tag, next.tags.find id = some tag → s.tags.find id = some tag ∨
    tag.userId = object.userId ∧ tag.nameKey ∈ names.map casefold
  tags_kept : ∀ id tag, s.tags.find id = some tag → next.tags.find id = some tag
  links_kept : ∀ key link, s.links.find key = some link → next.links.find key = some link
  carries : ∀ name ∈ names, ∃ id tag, next.tags.find id = some tag ∧ tag.nameKey = casefold name ∧
    ∃ key link, next.links.find key = some link ∧ link.userId = object.userId ∧ link.tagId = id
  carried : ∀ other, next.carried other = s.carried other + if other = object then names.length else 0

/-- Names whose keys the object does not carry can be attached, by induction on the names. -/
theorem TagsLinked.attach (linked : TagsLinked casefold s) (object : Tagged) {names : List String}
    (normal : ∀ name ∈ names, normalizeTagName name = .ok name) (distinct : (names.map casefold).Nodup)
    (unlinked : ∀ key link tag, s.links.find key = some link → link.toTagged = object → s.tags.find link.tagId = some tag →
      tag.nameKey ∉ names.map casefold) :
    ∃ next, s.attach casefold object names = .ok next ∧ Attached casefold s next object names := by
  induction names generalizing s with
  | nil =>
    exact ⟨s, rfl, linked, fun _ _ found => .inl found, fun _ _ found => found, fun _ _ found => found, by simp, by simp⟩
  | cons name rest ih =>
    obtain ⟨tags, nextId, id, tag, got, created, found, owner, keyed, kept, were⟩ :=
      linked.getOrCreate object.userId (normal name List.mem_cons_self)
    rw [List.map_cons, List.nodup_cons] at distinct
    -- A link that is there leads to the tag that it led to before the name got its tag.
    have before {key : Nat} {link : UserTagLink} {its : UserTag} (there : s.links.find key = some link)
        (leads : tags.find link.tagId = some its) : s.tags.find link.tagId = some its := by
      obtain ⟨was, stored, _⟩ := linked.owned key link there
      exact (kept _ _ stored).symm.trans leads ▸ stored
    have now_linked := created.link object found owner (by
      rintro key link there at_object rfl
      exact unlinked key link tag there at_object (before there found) (by simp [keyed]))
    obtain ⟨next, attached, spec⟩ := ih now_linked (fun other member => normal other (List.mem_cons_of_mem _ member))
      distinct.2 (by
      intro key link its there at_object leads member
      rcases (find_link created ..).mp there with ⟨_, rfl⟩ | there
      · obtain rfl : tag = its := Option.some.inj (found.symm.trans leads)
        exact distinct.1 (keyed ▸ member)
      · exact unlinked key link its there at_object (before there leads) (List.mem_cons_of_mem _ member))
    refine ⟨next, ?_, spec.linked, ?_, ?_, ?_, ?_, ?_⟩
    · simp only [TagStore.attach, got, bind, Except.bind]
      exact attached
    · intro other another there
      rcases spec.tags other another there with there | ⟨its, member⟩
      · rcases were other another there with there | ⟨its, same⟩
        · exact .inl there
        · exact .inr ⟨its, same ▸ List.mem_cons_self⟩
      · exact .inr ⟨its, List.mem_cons_of_mem _ member⟩
    · exact fun other another there => spec.tags_kept other another (kept other another there)
    · exact fun key link there => spec.links_kept key link ((find_link created ..).mpr (.inr there))
    · intro other member
      rcases List.mem_cons.mp member with rfl | member
      · have new := spec.links_kept nextId { object with tagId := id } ((find_link created ..).mpr (.inl ⟨rfl, rfl⟩))
        exact ⟨id, tag, spec.tags_kept id tag found, keyed, nextId, _, new, rfl, rfl⟩
      · exact spec.carries other member
    · intro other
      rw [spec.carried, carried_link created]
      change s.carried other + _ + _ = _
      split
      · rw [List.length_cons]
        omega
      · rfl

structure Renewed (casefold : String → String) (s next : TagStore) (names : List String) : Prop where
  sound : TagsSound casefold next
  keys : ∀ id tag, next.tags.find id = some tag →
    (∃ other another, s.tags.find other = some another ∧ another.nameKey = tag.nameKey) ∨ tag.nameKey ∈ names.map casefold
  gives : ∀ name ∈ names, ∃ id tag, next.tags.find id = some tag ∧ tag.nameKey = casefold name

theorem TagsSound.unchanged (sound : TagsSound casefold s) : Renewed casefold s s [] where
  sound := sound
  keys id tag found := .inl ⟨id, tag, found, rfl⟩
  gives _ member := (List.not_mem_nil member).elim

theorem Attached.pruned {next : TagStore} {object : Tagged} {names : List String}
    (attached : Attached casefold s next object names)
    (others : ∀ id tag, s.tags.find id = some tag → tag.userId ≠ object.userId → Used s id)
    (few : ∀ other, s.carried other + (if other = object then names.length else 0) ≤ maxTagsPerObject) :
    Renewed casefold s (next.pruneUnused object.userId) names where
  sound := by
    refine ⟨attached.linked.pruned _, ?_, used_pruned ?_⟩
    · intro other
      have same : (next.pruneUnused object.userId).carried other = next.carried other := rfl
      rw [same, attached.carried]
      exact few other
    · intro id tag found another
      rcases attached.tags id tag found with there | ⟨its, _⟩
      · obtain ⟨key, link, stored, leads⟩ := others id tag there another
        exact ⟨key, link, attached.links_kept key link stored, leads⟩
      · contradiction
  keys id tag found := by
    rcases attached.tags id tag (Table.find_keep_iff.mp found).1 with there | ⟨_, named⟩
    · exact .inl ⟨id, tag, there, rfl⟩
    · exact .inr named
  gives name member := by
    obtain ⟨id, tag, found, same, key, link, stored, _, rfl⟩ := attached.carries name member
    obtain ⟨its, there, owner⟩ := attached.linked.owned key link stored
    obtain rfl : tag = its := Option.some.inj (found.symm.trans there)
    exact ⟨_, tag, stays_pruned stored found owner, same⟩

theorem mem_objectUserTags {object : Tagged} {id : Nat} {tag : UserTag} :
    (id, tag) ∈ s.objectUserTags object ↔
      ∃ key link, s.links.find key = some link ∧ link.toTagged = object ∧ link.tagId = id ∧ s.tags.find id = some tag := by
  rw [TagStore.objectUserTags, List.mem_mergeSort, List.mem_filterMap]
  constructor
  · rintro ⟨⟨key, link⟩, member, joined⟩
    obtain ⟨there, at_object⟩ := List.mem_filter.mp member
    obtain ⟨its, found, same⟩ := Option.map_eq_some_iff.mp joined
    obtain ⟨rfl, rfl⟩ := Prod.mk.inj same
    exact ⟨key, link, (Table.mem_entries ..).mp there, by simpa using at_object, rfl, found⟩
  · rintro ⟨key, link, there, at_object, rfl, found⟩
    exact ⟨⟨key, link⟩, List.mem_filter.mpr ⟨(Table.mem_entries ..).mpr there, by simpa using at_object⟩, by simp [found]⟩

theorem length_objectUserTags (linked : TagsLinked casefold s) (object : Tagged) :
    (s.objectUserTags object).length = s.carried object := by
  rw [TagStore.objectUserTags, List.length_mergeSort, TagStore.carried, Table.count_eq, List.countP_eq_length_filter,
    List.length_filterMap_eq_countP, List.countP_eq_length.mpr]
  · simp only [beq_eq_decide]
  · rintro ⟨key, link⟩ member
    obtain ⟨tag, found, _⟩ := linked.owned key link ((Table.mem_entries ..).mp (List.mem_filter.mp member).1)
    simp [found]

end Storing

section Operating

variable {casefold : String → String} {s : TagStore}

theorem toAdd_ok {object : Tagged} {tagNames names : List String} (checked : s.toAdd casefold object tagNames = .ok names) :
    cleanNames casefold ((s.objectUserTags object).map fun (_, tag) => casefold tag.name) tagNames = .ok names ∧
      (s.objectUserTags object).length + names.length ≤ maxTagsPerObject := by
  rw [TagStore.toAdd] at checked
  simp only [bind, Except.bind] at checked
  split at checked
  · cases checked
  · split at checked
    · cases checked
    · rename_i cleaned few
      obtain rfl := Except.ok.inj checked
      exact ⟨cleaned, Nat.not_lt.mp few⟩

theorem toSet_ok {tagNames names : List String} (checked : TagStore.toSet casefold tagNames = .ok names) :
    cleanNames casefold [] tagNames = .ok names ∧ names.length ≤ maxTagsPerObject := by
  rw [TagStore.toSet] at checked
  simp only [bind, Except.bind] at checked
  split at checked
  · cases checked
  · split at checked
    · cases checked
    · rename_i cleaned few
      obtain rfl := Except.ok.inj checked
      exact ⟨cleaned, Nat.not_lt.mp few⟩

theorem TagsSound.append (sound : TagsSound casefold s) (object : Tagged) (tagNames : List String) :
    Renewed casefold s (s.step casefold (.append object tagNames)) (s.newNames casefold (.append object tagNames)) := by
  simp only [TagStore.step, TagStore.newNames, TagStore.appendObjectTags]
  by_cases known : object.objectType ∈ libraryObjectTypes
  · rw [if_neg (not_not_intro known), if_pos known]
    cases checked : s.toAdd casefold object tagNames with
    | error refusal =>
      split <;> exact sound.unchanged
    | ok names =>
      obtain ⟨cleaned, few⟩ := toAdd_ok checked
      split
      · rename_i empty
        subst empty
        obtain rfl := Except.ok.inj cleaned
        exact sound.unchanged
      · obtain ⟨each, distinct⟩ := cleanNames_spec cleaned
        obtain ⟨next, attaches, attached⟩ := sound.linked.attach object (fun name member => (each name member).1) distinct (by
          intro key link tag there at_object found member
          -- The key of a tag on the object has been seen when the names were cleaned.
          obtain ⟨name, named, same⟩ := List.mem_map.mp member
          refine (each name named).2 (List.mem_map.mpr ⟨(link.tagId, tag), ?_, ?_⟩)
          · exact mem_objectUserTags.mpr ⟨key, link, there, at_object, rfl, found⟩
          · exact (sound.linked.keyed _ tag found).symm.trans same.symm)
        simp only [bind, Except.bind, attaches]
        refine attached.pruned (fun id tag found _ => sound.used id tag found) fun other => ?_
        split
        · rename_i same
          rw [same, ← length_objectUserTags sound.linked]
          exact few
        · exact sound.few other
  · rw [if_pos known, if_neg known]
    exact sound.unchanged

theorem carried_withoutLinks (object other : Tagged) :
    (s.withoutLinks object).carried other = if other = object then 0 else s.carried other := by
  rw [TagStore.carried, TagStore.withoutLinks, Table.count_keep]
  split
  · rename_i same
    refine (Table.count_eq_zero _ _).mpr fun key link _ => ?_
    simp [same]
  · rename_i different
    rw [TagStore.carried, Table.count_eq, Table.count_eq]
    refine List.countP_congr fun link _ => ?_
    simp only [Bool.and_eq_true, beq_iff_eq, bne_iff_ne, ne_eq, and_iff_left_iff_imp]
    rintro rfl
    exact different

/-- Both `set_object_tags` and the inheritance of tags. -/
theorem TagsSound.setTags (sound : TagsSound casefold s) (object : Tagged) (tagNames : List String) :
    Renewed casefold s (s.step casefold (.set object tagNames)) (s.newNames casefold (.set object tagNames)) := by
  simp only [TagStore.step, TagStore.newNames, TagStore.setObjectTags]
  by_cases known : object.objectType ∈ libraryObjectTypes
  · rw [if_neg (not_not_intro known), if_pos known]
    cases checked : TagStore.toSet casefold tagNames with
    | error refusal => exact sound.unchanged
    | ok names =>
      obtain ⟨cleaned, few⟩ := toSet_ok checked
      obtain ⟨each, distinct⟩ := cleanNames_spec cleaned
      have stays {key : Nat} {link : UserTagLink} : (s.withoutLinks object).links.find key = some link ↔
          s.links.find key = some link ∧ link.toTagged ≠ object := by
        rw [TagStore.withoutLinks, Table.find_keep_iff, bne_iff_ne]
      have linked : TagsLinked casefold (s.withoutLinks object) :=
        sound.linked.fewer (fun _ _ found => found) (fun _ _ found => (stays.mp found).1) fun _ _ _ _ found _ => found
      obtain ⟨next, attaches, attached⟩ := linked.attach object (fun name member => (each name member).1) distinct
        fun _ _ _ there at_object => absurd at_object (stays.mp there).2
      simp only [bind, Except.bind, attaches]
      -- A tag of another user keeps its links, none of which is at the object as this user tags it.
      have others_used (id : Nat) (tag : UserTag) (found : s.tags.find id = some tag) (another : tag.userId ≠ object.userId) :
          Used (s.withoutLinks object) id := by
        obtain ⟨key, link, there, rfl⟩ := sound.used id tag found
        obtain ⟨its, leads, owner⟩ := sound.linked.owned key link there
        obtain rfl : tag = its := Option.some.inj (found.symm.trans leads)
        exact ⟨key, link, stays.mpr ⟨there, fun same => another (owner.trans (congrArg Tagged.userId same))⟩, rfl⟩
      have few_left (other : Tagged) : (s.withoutLinks object).carried other + (if other = object then names.length else 0) ≤
          maxTagsPerObject := by
        rw [carried_withoutLinks]
        split
        · simpa using few
        · exact sound.few other
      have renewed := attached.pruned others_used few_left
      exact ⟨renewed.sound, renewed.keys, renewed.gives⟩
  · rw [if_pos known, if_neg known]
    exact sound.unchanged

theorem TagsSound.inherited (sound : TagsSound casefold s) (source : Tagged) (toType : String) (toId : Nat) :
    Renewed casefold s (s.step casefold (.inherit source toType toId)) [] := by
  have as_set : s.objectUserTags source ≠ [] → s.step casefold (.inherit source toType toId) =
      s.step casefold (.set ⟨source.userId, toType, toId⟩ ((s.objectUserTags source).map fun (_, tag) => tag.name)) := by
    intro some_tags
    simp only [TagStore.step, TagStore.inheritObjectUserTags, if_neg some_tags]
    cases s.setObjectTags casefold ⟨source.userId, toType, toId⟩ ((s.objectUserTags source).map fun (_, tag) => tag.name) <;> rfl
  by_cases no_tags : s.objectUserTags source = []
  · simp only [TagStore.step, TagStore.inheritObjectUserTags, if_pos no_tags]
    exact sound.unchanged
  · rw [as_set no_tags]
    obtain ⟨sound', keys, -⟩ := sound.setTags ⟨source.userId, toType, toId⟩
      ((s.objectUserTags source).map fun (_, tag) => tag.name)
    refine ⟨sound', fun id tag found => .inl ?_, by simp⟩
    rcases keys id tag found with there | named
    · exact there
    · obtain ⟨name, new, same⟩ := List.mem_map.mp named
      rw [TagStore.newNames] at new
      split at new
      · cases checked : TagStore.toSet casefold ((s.objectUserTags source).map fun (_, tag) => tag.name) with
        | error refusal =>
          rw [checked] at new
          exact (List.not_mem_nil new).elim
        | ok names =>
          rw [checked] at new
          obtain ⟨raw, given, normal⟩ := cleanNames_given (toSet_ok checked).1 name new
          obtain ⟨⟨other, another⟩, carried, rfl⟩ := List.mem_map.mp given
          obtain ⟨_, _, _, _, _, stored⟩ := mem_objectUserTags.mp carried
          obtain rfl : another.name = name := Except.ok.inj ((sound.linked.normal other another stored).symm.trans normal)
          exact ⟨other, another, stored, (sound.linked.keyed other another stored).trans same⟩
      · exact (List.not_mem_nil new).elim

theorem toRename_ok {userId tagId : Nat} {rawName name : String} {row : UserTag}
    (checked : s.toRename casefold userId tagId rawName = .ok (row, name)) :
    s.tags.find tagId = some row ∧ row.userId = userId ∧ normalizeTagName rawName = .ok name ∧
      (casefold name = row.nameKey ∨
        ∀ id tag, s.tags.find id = some tag → tag.userId = userId → tag.nameKey = casefold name → id = tagId) := by
  unfold TagStore.toRename at checked
  split at checked
  · cases checked
  · rename_i its found
    split at checked
    · cases checked
    · rename_i owner
      cases normal : normalizeTagName rawName with
      | error refusal => simp [normal, bind, Except.bind] at checked
      | ok given =>
        simp only [normal, bind, Except.bind] at checked
        split at checked
        · cases checked
        · rename_i free
          obtain ⟨rfl, rfl⟩ := Prod.mk.inj (Except.ok.inj checked)
          refine ⟨found, not_not.mp owner, rfl, or_iff_not_imp_left.mpr fun other_key id tag there its_user same => ?_⟩
          by_contra different
          refine free ⟨other_key, List.ne_nil_of_mem (a := id) ((Table.mem_select ..).mpr ⟨tag, there, ?_⟩)⟩
          simp [its_user, same, different]

theorem TagsSound.renamed (sound : TagsSound casefold s) (userId tagId : Nat) (rawName : String) :
    Renewed casefold s (s.step casefold (.rename userId tagId rawName)) (s.newNames casefold (.rename userId tagId rawName)) := by
  simp only [TagStore.step, TagStore.newNames, TagStore.renameUserTag]
  cases checked : s.toRename casefold userId tagId rawName with
  | error refusal => exact sound.unchanged
  | ok renames =>
    obtain ⟨row, name⟩ := renames
    obtain ⟨found, rfl, normal, free⟩ := toRename_ok checked
    have normal' := (normalizeTagName_ok normal).1
    have tag {id : Nat} {its : UserTag}
        (there : (s.tags.put tagId { row with name, nameKey := casefold name }).find id = some its) :
        id = tagId ∧ its = { row with name, nameKey := casefold name } ∨ id ≠ tagId ∧ s.tags.find id = some its := by
      rw [Table.find_put] at there
      split at there
      · exact .inl ⟨‹_›, (Option.some.inj there).symm⟩
      · exact .inr ⟨‹_›, there⟩
    -- Another tag of the user has another key: it has one now, or the key was looked for.
    have other_key : ∀ id its, id ≠ tagId → s.tags.find id = some its → its.userId = row.userId →
      its.nameKey ≠ casefold name := by
      intro id its different there owner same
      rcases free with kept | free
      · exact different (sound.linked.distinct id tagId its row there found owner (same.trans kept))
      · exact different (free id its there owner same)
    have remains {id : Nat} {its : UserTag} (there : s.tags.find id = some its) :
        ∃ now, (s.tags.put tagId { row with name, nameKey := casefold name }).find id = some now ∧ now.userId = its.userId := by
      by_cases same : id = tagId
      · subst same
        obtain rfl : row = its := Option.some.inj (found.symm.trans there)
        exact ⟨_, Table.find_put_self .., rfl⟩
      · exact ⟨its, by rw [Table.find_put, if_neg same]; exact there, rfl⟩
    change Renewed casefold s { s with tags := s.tags.put tagId { row with name, nameKey := casefold name } } [name]
    refine ⟨⟨⟨?_, ?_, ?_, sound.linked.once, ?_, ?_⟩, sound.few, ?_⟩, ?_, ?_⟩
    · intro id other its another there here owner same
      rcases tag there with ⟨rfl, rfl⟩ | ⟨apart, stored⟩ <;> rcases tag here with ⟨rfl, rfl⟩ | ⟨apart', held⟩
      · rfl
      · exact absurd same.symm (other_key other another apart' held owner.symm)
      · exact absurd same (other_key id its apart stored owner)
      · exact sound.linked.distinct id other its another stored held owner same
    · intro id its there
      rcases tag there with ⟨_, rfl⟩ | ⟨_, there⟩
      · rfl
      · exact sound.linked.keyed id its there
    · intro id its there
      rcases tag there with ⟨_, rfl⟩ | ⟨_, there⟩
      · exact normal'
      · exact sound.linked.normal id its there
    · intro key link there
      obtain ⟨its, leads, owner⟩ := sound.linked.owned key link there
      obtain ⟨now, stays, same⟩ := remains leads
      exact ⟨now, stays, same.trans owner⟩
    · intro id new
      obtain ⟨no_tag, no_link⟩ := sound.linked.below id new
      refine ⟨?_, no_link⟩
      rw [Table.find_put, if_neg]
      · exact no_tag
      · rintro rfl
        rw [found] at no_tag
        cases no_tag
    · intro id its there
      rcases tag there with ⟨rfl, _⟩ | ⟨_, there⟩
      · exact sound.used id row found
      · exact sound.used id its there
    · intro id its there
      rcases tag there with ⟨_, rfl⟩ | ⟨_, there⟩
      · exact .inr (by simp)
      · exact .inl ⟨id, its, there, rfl⟩
    · intro other member
      obtain rfl : other = name := List.mem_singleton.mp member
      exact ⟨tagId, _, Table.find_put_self .., rfl⟩

theorem TagsSound.fewer (sound : TagsSound casefold s) {tags : Table Nat UserTag} (stays : UserTagLink → Bool)
    (fewer_tags : ∀ id tag, tags.find id = some tag → s.tags.find id = some tag)
    (needed : ∀ key link tag, s.links.find key = some link → stays link = true → s.tags.find link.tagId = some tag →
      tag.userId = link.userId → tags.find link.tagId = some tag)
    (used : ∀ id tag, tags.find id = some tag → ∃ key link, s.links.find key = some link ∧ stays link = true ∧ link.tagId = id) :
    Renewed casefold s { s with tags, links := s.links.keep fun _ => stays } [] where
  sound := by
    refine ⟨sound.linked.fewer fewer_tags (fun _ _ found => (Table.find_keep_iff.mp found).1) ?_, ?_, ?_⟩
    · intro key link tag found
      exact needed key link tag (Table.find_keep_iff.mp found).1 (Table.find_keep_iff.mp found).2
    · intro object
      refine le_trans ?_ (sound.few object)
      rw [TagStore.carried, Table.count_keep]
      exact Table.count_le fun _ _ both => (Bool.and_eq_true_iff.mp both).1
    · intro id tag found
      obtain ⟨key, link, there, remains, its⟩ := used id tag found
      exact ⟨key, link, Table.find_keep_iff.mpr ⟨there, remains⟩, its⟩
  keys id tag found := .inl ⟨id, tag, fewer_tags id tag found, rfl⟩
  gives _ member := (List.not_mem_nil member).elim

theorem TagsSound.deleted (sound : TagsSound casefold s) (userId tagId : Nat) :
    Renewed casefold s (s.step casefold (.delete userId tagId)) [] := by
  simp only [TagStore.step, TagStore.deleteUserTag]
  cases found : s.tags.find tagId with
  | none => exact sound.unchanged
  | some row =>
    by_cases owner : row.userId = userId
    · simp only [owner, ne_eq, not_true_eq_false, if_false]
      have stays {id : Nat} {tag : UserTag} : (s.tags.delete tagId).find id = some tag ↔
        id ≠ tagId ∧ s.tags.find id = some tag := by
        rw [Table.find_delete]
        by_cases same : id = tagId <;> simp [same]
      refine sound.fewer (fun link => !(link.tagId == tagId && link.userId == userId))
        (fun id tag there => (stays.mp there).2) ?_ ?_
      · intro key link tag _ remains leads its_owner
        refine stays.mpr ⟨?_, leads⟩
        -- A link to the deleted tag belongs to its user, and goes with it.
        rintro rfl
        obtain rfl : row = tag := Option.some.inj (found.symm.trans leads)
        simp [← its_owner, owner] at remains
      · intro id tag there
        obtain ⟨different, stored⟩ := stays.mp there
        obtain ⟨key, link, its, rfl⟩ := sound.used id tag stored
        exact ⟨key, link, its, by simp [different], rfl⟩
    · simp only [ne_eq, owner, not_false_eq_true, if_true]
      exact sound.unchanged

/-- The tags that a wipe leaves: those with a link left, and those that it did not ask for. -/
theorem find_pruneTagIds (tagIds : List Nat) (id : Nat) (tag : UserTag) :
    (s.pruneTagIds tagIds).tags.find id = some tag ↔
      s.tags.find id = some tag ∧ (id ∈ tagIds → s.links.count (fun _ link => link.tagId == id) ≠ 0) := by
  simp only [TagStore.pruneTagIds, ← List.mem_dedup (l := tagIds)]
  generalize tagIds.dedup = ids
  generalize s.tags = tags
  induction ids generalizing tags with
  | nil => simp
  | cons other rest ih =>
    rw [List.foldl_cons, ih]
    by_cases needed : s.links.count (fun _ link => link.tagId == other) ≠ 0
    · rw [if_pos needed, List.mem_cons]
      constructor
      · rintro ⟨found, asked⟩
        refine ⟨found, ?_⟩
        rintro (rfl | member)
        · exact needed
        · exact asked member
      · rintro ⟨found, asked⟩
        exact ⟨found, fun member => asked (.inr member)⟩
    · rw [if_neg needed, Table.find_delete, List.mem_cons]
      by_cases same : id = other
      · subst same
        simp only [if_true, reduceCtorEq, false_and, false_iff, not_and]
        exact fun _ asked => needed (asked (.inl trivial))
      · simp [same]

theorem TagsSound.wiped (sound : TagsSound casefold s) (objectType : String) (objectId : Nat) :
    Renewed casefold s (s.step casefold (.wipe objectType objectId)) [] := by
  simp only [TagStore.step, TagStore.wipeObjectTagLinks]
  generalize ids : ((s.links.entries.filter fun link => link.2.isAt objectType objectId).map fun link => link.2.tagId) = tagIds
  have asked {key : Nat} {link : UserTagLink} (found : s.links.find key = some link)
    (goes : link.isAt objectType objectId = true) :
      link.tagId ∈ tagIds :=
    ids ▸ List.mem_map.mpr ⟨⟨key, link⟩, List.mem_filter.mpr ⟨(Table.mem_entries ..).mpr found, goes⟩, rfl⟩
  have stays := find_pruneTagIds (s := { s with links := s.links.keep fun _ link => !link.isAt objectType objectId }) tagIds
  refine sound.fewer (fun link => !link.isAt objectType objectId) (fun id tag found => ((stays id tag).mp found).1) ?_ ?_
  · intro key link tag found remains leads _
    refine (stays _ tag).mpr ⟨leads, fun _ zero => ?_⟩
    have uncounted := (Table.count_eq_zero _ _).mp zero key link (Table.find_keep_iff.mpr ⟨found, remains⟩)
    simp at uncounted
  · intro id tag found
    obtain ⟨stored, counted⟩ := (stays id tag).mp found
    obtain ⟨key, link, its, leads⟩ := sound.used id tag stored
    cases goes : link.isAt objectType objectId with
    | false => exact ⟨key, link, its, by simp [goes], leads⟩
    | true =>
      -- A tag that the wipe asks for stays because another link counts.
      by_contra unused
      refine counted (leads ▸ asked its goes) ((Table.count_eq_zero _ _).mpr fun other another left => ?_)
      obtain ⟨there', remains⟩ := Table.find_keep_iff.mp left
      by_contra points
      exact unused ⟨other, another, there', remains, by simpa using points⟩

theorem TagsSound.allDeleted (sound : TagsSound casefold s) (userId : Nat) :
    Renewed casefold s (s.step casefold (.deleteAll userId)) [] := by
  simp only [TagStore.step, TagStore.deleteAllUserTags]
  refine sound.fewer (fun link => link.userId != userId) (fun id tag found => (Table.find_keep_iff.mp found).1) ?_ ?_
  · intro key link tag _ remains leads owner
    exact Table.find_keep_iff.mpr ⟨leads, by rw [owner]; exact remains⟩
  · intro id tag found
    obtain ⟨stored, other⟩ := Table.find_keep_iff.mp found
    obtain ⟨key, link, its, rfl⟩ := sound.used id tag stored
    obtain ⟨its_tag, leads, owner⟩ := sound.linked.owned key link its
    obtain rfl : tag = its_tag := Option.some.inj (stored.symm.trans leads)
    exact ⟨key, link, its, by rw [← owner]; exact other, rfl⟩

theorem TagsSound.step (sound : TagsSound casefold s) (event : TagEvent) :
    Renewed casefold s (s.step casefold event) (s.newNames casefold event) := by
  cases event with
  | append object tagNames => exact sound.append object tagNames
  | set object tagNames => exact sound.setTags object tagNames
  | inherit source toType toId => exact sound.inherited source toType toId
  | rename userId tagId rawName => exact sound.renamed userId tagId rawName
  | delete userId tagId => exact sound.deleted userId tagId
  | wipe objectType objectId => exact sound.wiped objectType objectId
  | deleteAll userId => exact sound.allDeleted userId

theorem TagsSound.kept_iff (sound : TagsSound casefold s) :
    s.Kept casefold ↔ ∀ id tag, s.tags.find id = some tag → tag.nameKey.length ≤ maxTagNameLen := by
  constructor
  · exact fun kept id tag found => (kept.short id tag found).2
  · intro short
    exact ⟨sound.linked.distinct, sound.linked.keyed,
      fun id tag found => ⟨(normalizeTagName_ok (sound.linked.normal id tag found)).2, short id tag found⟩, sound.few,
      sound.linked.once, sound.used, sound.linked.owned⟩

theorem TagsSound.empty (casefold : String → String) (nextId : Nat) : TagsSound casefold (.empty nextId) where
  linked := by
    refine ⟨?_, ?_, ?_, ?_, ?_, fun _ _ => ⟨rfl, rfl⟩⟩
    · intro _ _ _ _ found
      cases found
    · intro _ _ found
      cases found
    · intro _ _ found
      cases found
    · intro _ _ _ found
      cases found
    · intro _ _ found
      cases found
  few _ := Nat.zero_le _
  used _ _ found := by cases found

end Operating

/-- Every run keeps the tags in order, exactly as long as casefolding makes no new name too long. -/
theorem tags_kept_iff (casefold : String → String) (nextId : Nat) (events : List TagEvent) :
    Always (TagStore.step casefold) (TagStore.Kept casefold) (.empty nextId) events ↔
      Along (TagStore.step casefold) (TagStore.Fits casefold) (.empty nextId) events := by
  refine always_iff_along_of (A := TagsSound casefold) (fun s event sound => (sound.step event).sound) ?_ (.empty casefold nextId)
    ((TagsSound.empty casefold nextId).kept_iff.mpr fun _ _ found => by cases found)
  intro s event sound kept
  have renewed := sound.step event
  rw [renewed.sound.kept_iff]
  constructor
  · intro short name member
    obtain ⟨id, tag, found, same⟩ := renewed.gives name member
    exact same ▸ short id tag found
  · intro fits id tag found
    rcases renewed.keys id tag found with ⟨other, another, there, same⟩ | named
    · exact same ▸ (kept.short other another there).2
    · obtain ⟨name, member, same⟩ := List.mem_map.mp named
      exact same ▸ fits name member

section Samples

def foldSharp (name : String) : String := .ofList (name.toList.flatMap fun c => if c = 'ß' then ['s', 's'] else [c])

def sharpTag : TagEvent := .append ⟨1, "audio", 1⟩ [.ofList (List.replicate 33 'ß')]

theorem sharp_key_too_long : ¬ Always (TagStore.step foldSharp) (TagStore.Kept foldSharp) (.empty 0) [sharpTag] := by
  intro always
  have kept := always [sharpTag] [] rfl
  have found : (((run (TagStore.step foldSharp) (.empty 0) [sharpTag]).tags.find 0).map fun tag =>
    tag.nameKey.length) = some 66 := by
    decide +kernel
  obtain ⟨tag, stored, long⟩ := Option.map_eq_some_iff.mp found
  have short := (kept.short 0 tag stored).2
  rw [long] at short
  exact absurd short (by decide)

end Samples

end IdigestHub.Library
