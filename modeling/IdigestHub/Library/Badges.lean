import IdigestHub.Foundation.Dicts
import IdigestHub.Foundation.Pages
import IdigestHub.Library.Visibility
import Mathlib.Data.String.Basic

/-! The badges of a row: who owns it, with whom it is shared, whether it is hidden, and its tags; computed for one row, and for a
list of rows at once. -/

set_option autoImplicit false

namespace IdigestHub.Library

open Foundation
open Foundation.Pages (Arrangement)
open Foundation.Dicts (collect)
open Auth (AuthContext)
open Offboarding (ObjectType Share)

structure Person where
  email : String
  firstName : Option String
  lastName : Option String

def nameMaxLen : Nat := 128

def normalizeNamePart (value : Option String) : Option String :=
  value.bind fun value =>
    let trimmed := Text.strip value
    if trimmed = "" then none else some (.ofList (trimmed.toList.take nameMaxLen))

def userDisplayName (user : Person) : String :=
  match (normalizeNamePart user.firstName).toList ++ (normalizeNamePart user.lastName).toList with
  | [] => user.email
  | parts => String.intercalate " " parts

/-- The tables that badges read, with their unique constraints. A user that a share names may be missing. -/
structure BadgeShelves extends Shelves where
  users : Table Nat Person
  casefold : String → String
  linked : TagsLinked casefold tagStore
  sharedOnce : ∀ key other share its, shares.find key = some share → shares.find other = some its →
    share.objectType = its.objectType → share.objectId = its.objectId → share.toUserId = its.toUserId → key = other

def typeText : ObjectType → String
  | .audio => "audio"
  | .transcript => "transcript"
  | .summary => "summary"
  | .skill => "skill"
  | .org => "org"

inductive ShareKind where
  | incoming | outgoing
  deriving DecidableEq

structure ShareItem where
  id : Nat
  toUserId : Nat
  email : String
  displayName : String
  deriving DecidableEq

/-- The fields of a badge; one that is not set is missing. -/
structure Badge where
  hidden : Bool
  ownerEmail : Option String
  ownerDisplayName : Option String
  userTags : List TagPublic
  sharedWith : Option (List Nat)
  shares : Option (List ShareItem)
  shareKind : Option (Option ShareKind)
  sharedBy : Option String
  shareId : Option Nat

abbrev ShareRow : Type := (_ : Nat) × Share

namespace BadgeShelves

-- A user's id as text stands in where the user is missing.
variable (idText : Nat → String) (engine : Arrangement) (db : BadgeShelves) (ctx : AuthContext) (objectType : ObjectType)

def query {R : Type} (t : Table Nat R) (condition : Nat → R → Bool) : List ((_ : Nat) × R) :=
  engine.order (fun _ _ => true) (t.entries.filter fun row => condition row.1 row.2)

def isSharedWith (objectId userId : Nat) : Option ShareRow :=
  (query engine db.shares fun _ share =>
    share.objectType == objectType && share.objectId == objectId && share.toUserId == userId).head?

def isHidden (userId objectId : Nat) : Bool :=
  (query engine db.hiddenItems fun _ item =>
    item.userId == userId && item.objectType == objectType && item.objectId == objectId).head?.isSome

def outgoingShares (objectId : Nat) : List ShareRow :=
  query engine db.shares fun _ share => share.objectType == objectType && share.objectId == objectId

def tagBefore (a b : Nat × UserTag) : Bool := a.2.nameKey ≤ b.2.nameKey

def tagPublic (row : Nat × UserTag) : TagPublic := ⟨row.1, row.2.name, none⟩

def joined (link : UserTagLink) : Option (Nat × UserTag) := (db.tagStore.tags.find link.tagId).map (link.tagId, ·)

def tagsOf (userId objectId : Nat) : List (Nat × UserTag) :=
  (db.tagStore.links.entries.filter fun link =>
    link.2.userId == userId && link.2.isAt (typeText objectType) objectId).filterMap fun link => joined db link.2

def objectUserTags (userId objectId : Nat) : List TagPublic :=
  (engine.order tagBefore (tagsOf db objectType userId objectId)).map tagPublic

def shareItem (users : Table Nat Person) (row : ShareRow) : ShareItem :=
  match users.find row.2.toUserId with
  | none =>
    { id := row.1, toUserId := row.2.toUserId, email := idText row.2.toUserId, displayName := idText row.2.toUserId }
  | some user => { id := row.1, toUserId := row.2.toUserId, email := user.email, displayName := userDisplayName user }

/-- `SELECT … WHERE id IN (ids)`, by id. -/
def usersById (ids : List Nat) : Table Nat Person := collect Sigma.fst Sigma.snd
    (query engine db.users fun id _ => ids.contains id)

def shareItems (rows : List ShareRow) : List ShareItem :=
  rows.map (shareItem idText (usersById engine db (rows.map (·.2.toUserId))))

def shareBadge (objectId ownerId : Nat) : Badge :=
  let owner := db.users.find ownerId
  let extra : Badge :=
    { hidden := isHidden engine db objectType ctx.userId objectId
      ownerEmail := owner.map Person.email
      ownerDisplayName := owner.map userDisplayName
      userTags := objectUserTags engine db objectType ctx.userId objectId
      sharedWith := none, shares := none, shareKind := none, sharedBy := none, shareId := none }
  if ownerId = ctx.userId then
    let outgoing := outgoingShares engine db objectType objectId
    { extra with
      sharedWith := some (outgoing.map (·.2.toUserId))
      shares := some (shareItems idText engine db outgoing)
      shareKind := some (if outgoing.isEmpty then none else some .outgoing) }
  else
    match isSharedWith engine db objectType objectId ctx.userId with
    | none => extra
    | some row =>
      { extra with
        shareKind := some (some .incoming)
        sharedBy := some ((db.users.find row.2.fromUserId).elim (idText row.2.fromUserId) userDisplayName)
        shareId := some row.1 }

def taggedPairs (userId : Nat) (objectIds : List Nat) : List (Nat × Nat × UserTag) :=
  (db.tagStore.links.entries.filter fun link => link.2.userId == userId && link.2.objectType == typeText objectType &&
    objectIds.contains link.2.objectId).filterMap fun link => (joined db link.2).map (link.2.objectId, ·)

def pairBefore (a b : Nat × Nat × UserTag) : Bool := tagBefore a.2 b.2

def batchObjectUserTags (userId : Nat) (objectIds : List Nat) (objectId : Nat) : List TagPublic :=
  ((engine.order pairBefore (taggedPairs db objectType userId objectIds)).filter fun pair =>
    pair.1 == objectId).map fun pair => tagPublic pair.2

section Batch

variable (rows : List ((_ : Nat) × LibraryRow))

def hiddenIds : List Nat :=
  (query engine db.hiddenItems fun _ item =>
    item.userId == ctx.userId && item.objectType == objectType && (rows.map Sigma.fst).contains item.objectId).map (·.2.objectId)

def incomingByObject : Table Nat ShareRow :=
  collect (fun share => share.2.objectId) id (query engine db.shares fun _ share =>
    share.objectType == objectType && (rows.map Sigma.fst).contains share.objectId && share.toUserId == ctx.userId)

def ownedIds : List Nat := (rows.filter fun row => row.2.ownerUserId == ctx.userId).map Sigma.fst

def outgoing : List ShareRow :=
  query engine db.shares fun _ share => share.objectType == objectType && (ownedIds ctx rows).contains share.objectId

def emailIds : List Nat :=
  rows.map (·.2.ownerUserId) ++ (incomingByObject engine db ctx objectType rows).entries.map (·.2.2.fromUserId) ++
    (outgoing engine db ctx objectType rows).map (·.2.toUserId)

def rowBadge (userTagsById : Nat → List TagPublic) (row : (_ : Nat) × LibraryRow) : Badge :=
  let users := usersById engine db (emailIds engine db ctx objectType rows)
  let owner := users.find row.2.ownerUserId
  let extra : Badge :=
    { hidden := (hiddenIds engine db ctx objectType rows).contains row.1
      ownerEmail := owner.map Person.email
      ownerDisplayName := owner.map userDisplayName
      userTags := userTagsById row.1
      sharedWith := none, shares := none, shareKind := none, sharedBy := none, shareId := none }
  if row.2.ownerUserId = ctx.userId then
    let its := (outgoing engine db ctx objectType rows).filter fun share => share.2.objectId == row.1
    { extra with
      sharedWith := some (its.map (·.2.toUserId))
      shares := some (its.map (shareItem idText users))
      shareKind := some (if its.isEmpty then none else some .outgoing) }
  else
    match (incomingByObject engine db ctx objectType rows).find row.1 with
    | none => extra
    | some share =>
      { extra with
        shareKind := some (some .incoming)
        sharedBy := some ((users.find share.2.fromUserId).elim (idText share.2.fromUserId) userDisplayName)
        shareId := some share.1 }

def batchShareBadges (userTagsById : Nat → List TagPublic) : Table Nat Badge :=
  collect Sigma.fst (rowBadge idText engine db ctx objectType rows userTagsById) rows

end Batch

section Queries

variable {engine : Arrangement} {db : BadgeShelves} {objectType : ObjectType} {R : Type} {t : Table Nat R}
  {condition : Nat → R → Bool}

theorem query_perm : (query engine t condition).Perm (t.entries.filter fun row => condition row.1 row.2) := engine.perm _ _

theorem mem_query {row : (_ : Nat) × R} :
    row ∈ query engine t condition ↔ t.find row.1 = some row.2 ∧ condition row.1 row.2 = true := by
  rw [query_perm.mem_iff, List.mem_filter]
  exact and_congr_left' (Table.mem_entries t row.1 row.2)

theorem query_head_isSome : (query engine t condition).head?.isSome = true ↔
    ∃ key row, t.find key = some row ∧ condition key row = true := by
  rw [List.isSome_head?, ne_eq, List.eq_nil_iff_forall_not_mem]
  constructor
  · intro given
    obtain ⟨row, member⟩ := not_forall_not.mp given
    exact ⟨row.1, row.2, mem_query.mp member⟩
  · rintro ⟨key, row, found⟩ none
    exact none ⟨key, row⟩ (mem_query.mpr found)

theorem find_usersById {ids : List Nat} {id : Nat} (asked : id ∈ ids) :
    (usersById engine db ids).find id = db.users.find id := by
  rw [usersById]
  cases found : db.users.find id with
  | none =>
    refine Dicts.find_collect_absent fun user member same => ?_
    have there := (mem_query.mp member).1
    rw [same, found] at there
    contradiction
  | some user =>
    have member : (⟨id, user⟩ : (_ : Nat) × Person) ∈ query engine db.users fun id _ => ids.contains id :=
      mem_query.mpr ⟨found, by simpa using asked⟩
    refine Dicts.find_collect member fun other inside same => ?_
    obtain ⟨there, _⟩ := mem_query.mp inside
    rw [same, found] at there
    exact (Option.some.inj there).symm

theorem shareItem_congr {idText : Nat → String} {users : Table Nat Person} {row : ShareRow}
    (same : users.find row.2.toUserId = db.users.find row.2.toUserId) :
    shareItem idText users row = shareItem idText db.users row := by
  rw [shareItem, shareItem, same]

theorem shareItems_eq (idText : Nat → String) (rows : List ShareRow) :
    shareItems idText engine db rows = rows.map (shareItem idText db.users) := by
  rw [shareItems]
  refine List.map_congr_left fun row member => ?_
  exact shareItem_congr (find_usersById (List.mem_map_of_mem member))

end Queries

section Tags

variable {engine single : Arrangement} {db : BadgeShelves} {objectType : ObjectType} {userId objectId : Nat}
    {objectIds : List Nat}

theorem tagBefore_trans (a b c : Nat × UserTag) (first : tagBefore a b = true) (second : tagBefore b c = true) :
    tagBefore a c = true := by
  simp only [tagBefore, decide_eq_true_eq] at *
  exact le_trans first second

theorem tagBefore_total (a b : Nat × UserTag) : tagBefore a b || tagBefore b a := by
  simpa [tagBefore] using le_total a.2.nameKey b.2.nameKey

theorem pairBefore_trans (a b c : Nat × Nat × UserTag) (first : pairBefore a b = true) (second : pairBefore b c = true) :
    pairBefore a c = true := tagBefore_trans _ _ _ first second

theorem pairBefore_total (a b : Nat × Nat × UserTag) : pairBefore a b || pairBefore b a := tagBefore_total _ _

theorem mem_tagsOf {row : Nat × UserTag} (member : row ∈ tagsOf db objectType userId objectId) :
    db.tagStore.tags.find row.1 = some row.2 ∧ row.2.userId = userId := by
  obtain ⟨link, inside, its⟩ := List.mem_filterMap.mp member
  obtain ⟨there, at_object⟩ := List.mem_filter.mp inside
  simp only [Bool.and_eq_true, beq_iff_eq] at at_object
  obtain ⟨tag, found, rfl⟩ := Option.map_eq_some_iff.mp its
  obtain ⟨its_tag, its_found, same⟩ := db.linked.owned link.1 link.2 ((Table.mem_entries ..).mp there)
  obtain rfl : tag = its_tag := Option.some.inj (found.symm.trans its_found)
  exact ⟨found, same.trans at_object.1⟩

theorem tagBefore_antisymm {a b : Nat × UserTag} (first : a ∈ tagsOf db objectType userId objectId)
    (second : b ∈ tagsOf db objectType userId objectId) (before : tagBefore a b = true) (after : tagBefore b a = true) :
    a = b := by
  obtain ⟨found, owner⟩ := mem_tagsOf first
  obtain ⟨its_found, its_owner⟩ := mem_tagsOf second
  simp only [tagBefore, decide_eq_true_eq] at before after
  have same : a.1 = b.1 :=
    db.linked.distinct _ _ _ _ found its_found (owner.trans its_owner.symm) (le_antisymm before after)
  rw [same, its_found] at found
  exact Prod.ext same (Option.some.inj found).symm

theorem tagsOf_eq (asked : objectId ∈ objectIds) :
    ((taggedPairs db objectType userId objectIds).filter fun pair => pair.1 == objectId).map Prod.snd =
      tagsOf db objectType userId objectId := by
  rw [taggedPairs, tagsOf, List.filter_filterMap, List.map_filterMap, List.filterMap_filter, List.filterMap_filter]
  refine List.filterMap_congr fun link _ => ?_
  cases joined db link.2 with
  | none => simp
  | some tag =>
    by_cases same : link.2.objectId = objectId
    · simp [UserTagLink.isAt, same, asked, Option.filter]
    · simp [UserTagLink.isAt, same, Option.filter]

theorem batchObjectUserTags_eq (asked : objectId ∈ objectIds) :
    batchObjectUserTags engine db objectType userId objectIds objectId = objectUserTags single db objectType userId objectId := by
  have own := single.perm tagBefore (tagsOf db objectType userId objectId)
  have all := engine.perm pairBefore (taggedPairs db objectType userId objectIds)
  have sorted := engine.sorted pairBefore_trans pairBefore_total (taggedPairs db objectType userId objectIds)
  rw [batchObjectUserTags, objectUserTags]
  generalize engine.order _ _ = pairs at all sorted ⊢
  have its : ((pairs.filter fun pair => pair.1 == objectId).map Prod.snd).Perm (tagsOf db objectType userId objectId) :=
    ((all.filter _).map _).trans (List.Perm.of_eq (tagsOf_eq asked))
  have its_sorted : ((pairs.filter fun pair => pair.1 == objectId).map Prod.snd).Pairwise fun a b => tagBefore a b = true :=
    List.pairwise_map.mpr (sorted.sublist List.filter_sublist)
  have own_sorted := single.sorted tagBefore_trans tagBefore_total (tagsOf db objectType userId objectId)
  have same : (pairs.filter fun pair => pair.1 == objectId).map Prod.snd =
      single.order tagBefore (tagsOf db objectType userId objectId) := by
    have antisymm : ∀ a b, a ∈ (pairs.filter fun pair => pair.1 == objectId).map Prod.snd →
        b ∈ single.order tagBefore (tagsOf db objectType userId objectId) → tagBefore a b = true → tagBefore b a = true →
          a = b :=
      fun a b first second => tagBefore_antisymm (its.mem_iff.mp first) (own.mem_iff.mp second)
    exact List.Perm.eq_of_pairwise antisymm its_sorted own_sorted (its.trans own.symm)
  rw [← same, List.map_map]
  rfl

end Tags

/-- Two badges with the same fields; the outgoing shares come in any order. -/
structure Same (badge other : Badge) : Prop where
  hidden : badge.hidden = other.hidden
  ownerEmail : badge.ownerEmail = other.ownerEmail
  ownerDisplayName : badge.ownerDisplayName = other.ownerDisplayName
  userTags : badge.userTags = other.userTags
  sharedWith : Option.Rel List.Perm badge.sharedWith other.sharedWith
  shares : Option.Rel List.Perm badge.shares other.shares
  shareKind : badge.shareKind = other.shareKind
  sharedBy : badge.sharedBy = other.sharedBy
  shareId : badge.shareId = other.shareId

section Rows

variable {engine single : Arrangement} {db : BadgeShelves} {ctx : AuthContext} {objectType : ObjectType}
  {rows : List ((_ : Nat) × LibraryRow)} {row : (_ : Nat) × LibraryRow} (listed : row ∈ rows)

include listed

theorem hiddenIds_eq :
    (hiddenIds engine db ctx objectType rows).contains row.1 = isHidden single db objectType ctx.userId row.1 := by
  rw [Bool.eq_iff_iff, List.contains_iff_mem, isHidden, query_head_isSome, hiddenIds, List.mem_map]
  have asked : row.1 ∈ rows.map Sigma.fst := List.mem_map_of_mem listed
  constructor
  · rintro ⟨item, member, same⟩
    obtain ⟨found, holds⟩ := mem_query.mp member
    simp only [Bool.and_eq_true, beq_iff_eq] at holds
    exact ⟨item.1, item.2, found, by simp [holds.1.1, holds.1.2, same]⟩
  · rintro ⟨key, item, found, holds⟩
    simp only [Bool.and_eq_true, beq_iff_eq] at holds
    exact ⟨⟨key, item⟩, mem_query.mpr ⟨found, by simpa [holds] using asked⟩, holds.2⟩

theorem incomingByObject_eq :
    (incomingByObject engine db ctx objectType rows).find row.1 = isSharedWith single db objectType row.1 ctx.userId := by
  have asked : row.1 ∈ rows.map Sigma.fst := List.mem_map_of_mem listed
  rw [incomingByObject]
  cases its : isSharedWith single db objectType row.1 ctx.userId with
  | none =>
    refine Dicts.find_collect_absent fun share member same => ?_
    obtain ⟨found, holds⟩ := mem_query.mp member
    have inside : share ∈ query single db.shares fun _ share =>
        share.objectType == objectType && share.objectId == row.1 && share.toUserId == ctx.userId :=
      mem_query.mpr ⟨found, by simp_all⟩
    rw [List.head?_eq_none_iff.mp its] at inside
    exact absurd inside List.not_mem_nil
  | some share =>
    obtain ⟨found, holds⟩ := mem_query.mp (List.mem_of_mem_head? its)
    simp only [Bool.and_eq_true, beq_iff_eq] at holds
    obtain ⟨⟨type, object⟩, user⟩ := holds
    have member : share ∈ query engine db.shares fun _ share =>
        share.objectType == objectType && (rows.map Sigma.fst).contains share.objectId && share.toUserId == ctx.userId :=
      mem_query.mpr ⟨found, by simpa [type, object, user] using asked⟩
    rw [← object]
    have collected := @Dicts.find_collect _ _ _ _ (fun share : ShareRow => share.2.objectId) id _ _ member
    refine collected fun other inside same => ?_
    obtain ⟨there, holds⟩ := mem_query.mp inside
    simp only [Bool.and_eq_true, beq_iff_eq] at holds
    have key : other.1 = share.1 :=
      db.sharedOnce _ _ _ _ there found (holds.1.1.trans type.symm) same (holds.2.trans user.symm)
    rw [key, found] at there
    exact Sigma.ext key (heq_of_eq (Option.some.inj there).symm)

theorem outgoing_perm (own : row.2.ownerUserId = ctx.userId) :
    ((outgoing engine db ctx objectType rows).filter fun share => share.2.objectId == row.1).Perm
      (outgoingShares single db objectType row.1) := by
  have asked : row.1 ∈ ownedIds ctx rows := List.mem_map_of_mem (List.mem_filter.mpr ⟨listed, by simpa using own⟩)
  refine (query_perm.filter _).trans (List.Perm.trans (List.Perm.of_eq ?_) query_perm.symm)
  rw [List.filter_filter]
  refine List.filter_congr fun share _ => ?_
  by_cases same : share.2.objectId = row.1
  · simp [same, asked]
  · simp [beq_false_of_ne same]

theorem owner_asked : row.2.ownerUserId ∈ emailIds engine db ctx objectType rows :=
  List.mem_append_left _ (List.mem_append_left _ (List.mem_map_of_mem listed))

omit listed in
theorem sender_asked {share : ShareRow} (found : (incomingByObject engine db ctx objectType rows).find row.1 = some share) :
    share.2.fromUserId ∈ emailIds engine db ctx objectType rows := by
  have member := (Table.mem_entries ..).mpr found
  exact List.mem_append_left _ (List.mem_append_right _ (List.mem_map_of_mem (f := fun row => row.2.2.fromUserId) member))

omit listed in
theorem recipient_asked {share : ShareRow} (member : share ∈ outgoing engine db ctx objectType rows) :
    share.2.toUserId ∈ emailIds engine db ctx objectType rows :=
  List.mem_append_right _ (List.mem_map_of_mem member)

theorem rowBadge_same (idText : Nat → String) {userTagsById : Nat → List TagPublic}
    (tags : userTagsById row.1 = objectUserTags single db objectType ctx.userId row.1) :
    Same (rowBadge idText engine db ctx objectType rows userTagsById row)
      (shareBadge idText single db ctx objectType row.1 row.2.ownerUserId) := by
  have owner : (usersById engine db (emailIds engine db ctx objectType rows)).find row.2.ownerUserId =
      db.users.find row.2.ownerUserId := find_usersById (owner_asked listed)
  have hidden : (hiddenIds engine db ctx objectType rows).contains row.1 = isHidden single db objectType ctx.userId row.1 :=
    hiddenIds_eq listed
  rw [rowBadge, shareBadge]
  dsimp only
  rw [owner, hidden, tags]
  by_cases own : row.2.ownerUserId = ctx.userId
  · rw [if_pos own, if_pos own]
    have perm : ((outgoing engine db ctx objectType rows).filter fun share => share.2.objectId == row.1).Perm
        (outgoingShares single db objectType row.1) := outgoing_perm listed own
    have items : ((outgoing engine db ctx objectType rows).filter fun share => share.2.objectId == row.1).map
        (shareItem idText (usersById engine db (emailIds engine db ctx objectType rows))) =
          ((outgoing engine db ctx objectType rows).filter fun share => share.2.objectId == row.1).map
            (shareItem idText db.users) :=
      List.map_congr_left fun share member =>
        shareItem_congr (find_usersById (recipient_asked (List.mem_filter.mp member).1))
    have kind := perm.isEmpty_eq
    exact
      { hidden := rfl, ownerEmail := rfl, ownerDisplayName := rfl, userTags := rfl
        sharedWith := .some (perm.map _)
        shares := .some (by rw [items, shareItems_eq]; exact perm.map _)
        shareKind := by rw [kind]
        sharedBy := rfl, shareId := rfl }
  · have found : (incomingByObject engine db ctx objectType rows).find row.1 =
        isSharedWith single db objectType row.1 ctx.userId := incomingByObject_eq listed
    rw [if_neg own, if_neg own, found]
    cases its : isSharedWith single db objectType row.1 ctx.userId with
    | none =>
      exact
        { hidden := rfl, ownerEmail := rfl, ownerDisplayName := rfl, userTags := rfl, sharedWith := .none, shares := .none
          shareKind := rfl, sharedBy := rfl, shareId := rfl }
    | some share =>
      have sender : (usersById engine db (emailIds engine db ctx objectType rows)).find share.2.fromUserId =
          db.users.find share.2.fromUserId := find_usersById (sender_asked (found.trans its))
      dsimp only
      rw [sender]
      exact
        { hidden := rfl, ownerEmail := rfl, ownerDisplayName := rfl, userTags := rfl, sharedWith := .none, shares := .none
          shareKind := rfl, sharedBy := rfl, shareId := rfl }

end Rows

/-- Rows of one table: those of one id are the same row. -/
structure Listing where
  rows : List ((_ : Nat) × LibraryRow)
  once : ∀ row ∈ rows, ∀ other ∈ rows, other.1 = row.1 → other = row

/-- The badges for a list of rows are those that each row gets alone. -/
theorem batch_badges_same (idText : Nat → String) (engine : Arrangement) (single : Nat → Arrangement) (db : BadgeShelves)
    (ctx : AuthContext) (objectType : ObjectType) (listing : Listing) :
    List.Forall₂ (fun found badge => ∃ its, found = some its ∧ Same its badge)
      (listing.rows.map fun row => (batchShareBadges idText engine db ctx objectType listing.rows
        (batchObjectUserTags engine db objectType ctx.userId (listing.rows.map Sigma.fst))).find row.1)
      (listing.rows.map fun row => shareBadge idText (single row.1) db ctx objectType row.1 row.2.ownerUserId) := by
  rw [List.forall₂_map_left_iff, List.forall₂_map_right_iff, List.forall₂_same]
  intro row listed
  refine ⟨_, Dicts.find_collect listed fun other member same => ?_, rowBadge_same listed idText ?_⟩
  · rw [listing.once row listed other member same]
  · exact batchObjectUserTags_eq (List.mem_map_of_mem listed)

def sharedShelves : BadgeShelves where
  rows
    | .transcript => Table.put ∅ 5 ⟨1, 0, 0⟩
    | _ => ∅
  shares := Table.put ∅ 7 ⟨.transcript, 5, 0, 2⟩
  hiddenItems := ∅
  tagStore := ⟨Table.put ∅ 8 ⟨0, "work", "work"⟩, Table.put ∅ 9 ⟨⟨0, "transcript", 5⟩, 8⟩, 10⟩
  users := Table.put ∅ 0 ⟨"owner@example.org", none, none⟩
  casefold := id
  linked :=
    { distinct := fun _ _ _ _ found there _ _ =>
        (Table.find_only_iff.mp found).1.trans (Table.find_only_iff.mp there).1.symm
      keyed := fun _ _ found => by
        obtain ⟨_, rfl⟩ := Table.find_only_iff.mp found
        rfl
      normal := fun _ _ found => by
        obtain ⟨_, rfl⟩ := Table.find_only_iff.mp found
        decide +kernel
      once := fun _ _ _ found there => (Table.find_only_iff.mp found).1.trans (Table.find_only_iff.mp there).1.symm
      owned := fun _ _ found => by
        obtain ⟨_, rfl⟩ := Table.find_only_iff.mp found
        exact ⟨_, rfl, rfl⟩
      below := fun id new => by
        rw [Table.find_put, Table.find_put, if_neg (by dsimp only at new; omega), if_neg (by dsimp only at new; omega)]
        exact ⟨rfl, rfl⟩ }
  sharedOnce _ _ _ _ found there _ _ _ := (Table.find_only_iff.mp found).1.trans (Table.find_only_iff.mp there).1.symm

def sharedListing : Listing where
  rows := [⟨5, ⟨1, 0, 0⟩⟩]
  once row member other there _ := by rw [List.mem_singleton.mp member, List.mem_singleton.mp there]

/-- Its owner sees the share with the missing user's id, whichever way the badge is computed. -/
theorem batch_badges_same_shared : ∃ badge, (batchShareBadges toString .stable sharedShelves administrator .transcript
      sharedListing.rows (batchObjectUserTags .stable sharedShelves .transcript 0 [5])).find 5 = some badge ∧
    Same badge (shareBadge toString .stable sharedShelves administrator .transcript 5 0) ∧ badge.sharedWith = some [2] := by
  have all := batch_badges_same toString .stable (fun _ => .stable) sharedShelves administrator .transcript sharedListing
  obtain ⟨⟨badge, found, same⟩, _⟩ := List.forall₂_cons.mp all
  refine ⟨badge, found, same, ?_⟩
  have alone : (shareBadge toString .stable sharedShelves administrator .transcript 5 0).sharedWith = some [2] := by
    decide +kernel
  have shared := same.sharedWith
  rw [alone] at shared
  generalize badge.sharedWith = its at shared
  cases shared with
  | some perm => rw [List.perm_singleton.mp perm]

end BadgeShelves

end IdigestHub.Library
