import IdigestHub.Auth.Contexts
import IdigestHub.Library.Shares
import IdigestHub.Library.Tags

/-! What the lists of the library show, against what a caller may read object by object. -/

set_option autoImplicit false

namespace IdigestHub.Library

open Foundation
open Auth (AuthContext)
open Offboarding (ObjectType Share)

inductive Kind where
  | audio | transcript | summary
  deriving DecidableEq

def Kind.objectType : Kind → ObjectType
  | .audio => .audio
  | .transcript => .transcript
  | .summary => .summary

def Kind.text : Kind → String
  | .audio => "audio"
  | .transcript => "transcript"
  | .summary => "summary"

structure LibraryRow where
  orgId : Nat
  ownerUserId : Nat
  createdAt : Nat
  deriving DecidableEq

structure HiddenItem where
  userId : Nat
  objectType : ObjectType
  objectId : Nat
  deriving DecidableEq

structure Shelves where
  rows : Kind → Table Nat LibraryRow
  shares : Table Nat Share
  hiddenItems : Table Nat HiddenItem
  tagStore : TagStore

/-- What a list takes from elsewhere: the key of a tag name, the id that a text spells, and the search through names and titles
with a normalised text. -/
structure Lookup where
  casefold : String → String
  uuid : String → Option Nat
  matches_ : Kind → String → Nat → Bool

section Access

variable (ctx : AuthContext) (db : Shelves)

/-- The id of the organization of a context, which `load_org_bundle` takes from the membership. -/
def orgId : Option Nat := ctx.org.bind fun _ => ctx.membership.map Auth.Membership.orgId

def isOrgAdmin : Bool := ctx.membership.any (·.role == .orgAdmin)

def requireOrg : Except Auth.Refusal (Nat × Auth.Membership) :=
  match ctx.org, ctx.membership with
  | some _, some membership => .ok (membership.orgId, membership)
  | _, _ => .error (.error .forbidden)

def Shelves.sharedWith (kind : Kind) (objectId userId : Nat) : Option Nat :=
  (db.shares.select fun _ share =>
    share.objectType == kind.objectType && share.objectId == objectId && share.toUserId == userId).head?

def Shelves.isHidden (userId : Nat) (kind : Kind) (objectId : Nat) : Bool :=
  (db.hiddenItems.select fun _ item =>
    item.userId == userId && item.objectType == kind.objectType && item.objectId == objectId).head?.isSome

def memberCanReadObject (kind : Kind) (ownerUserId itsOrgId objectId : Nat) : Bool :=
  if orgId ctx ≠ some itsOrgId then false
  else if isOrgAdmin ctx then true
  else if ownerUserId = ctx.userId then true
  else (db.sharedWith kind objectId ctx.userId).isSome

def canReadObject (kind : Kind) (ownerUserId itsOrgId objectId : Nat) : Bool :=
  if ctx.isInstanceAdmin then true else memberCanReadObject ctx db kind ownerUserId itsOrgId objectId

end Access

def librarySearchMaxLen : Nat := 200

def normalizeLibraryQ (q : Option String) : Option String :=
  q.bind fun q =>
    let text := Text.squeeze (Text.strip q)
    if text = "" then none else some (.ofList (text.toList.take librarySearchMaxLen))

abbrev Clause := Nat → LibraryRow → Bool

section Lists

variable (lookup : Lookup) (ctx : AuthContext) (db : Shelves) (kind : Kind)

def librarySearchFilter (q : Option String) : List Clause :=
  (normalizeLibraryQ q).toList.map fun text id _ => lookup.matches_ kind text id

def resolveUserTag (userId : Nat) (tagRef : String) : Option Nat :=
  let ref := Text.strip tagRef
  if ref = "" then none
  else
    let byId := (lookup.uuid ref).filter fun id => (db.tagStore.tags.find id).any fun tag => tag.userId == userId
    byId.or (db.tagStore.tags.select fun _ tag => tag.userId == userId && tag.nameKey == lookup.casefold ref).head?

def hiddenRow : Clause := fun id _ =>
  (db.hiddenItems.select fun _ item =>
    item.userId == ctx.userId && item.objectType == kind.objectType && item.objectId == id) != []

def incomingShare : Clause := fun id _ =>
  (db.shares.select fun _ share =>
    share.objectType == kind.objectType && share.objectId == id && share.toUserId == ctx.userId) != []

def ownerFilter (ownerUserId : Option Nat) : List Clause := ownerUserId.toList.map fun owner _ row => row.ownerUserId == owner

def hiddenFilter (includeHidden : Bool) : List Clause :=
  if includeHidden then [] else [fun id row => !hiddenRow ctx db kind id row]

def tagFilter (tag : Option String) : Option (List Clause) :=
  match tag.filter (· != "") with
  | none => some []
  | some tag => (resolveUserTag lookup db ctx.userId tag).map fun tagId =>
    [fun id _ => db.tagStore.links.count (fun _ link =>
      link.userId == ctx.userId && link.objectType == kind.text && link.tagId == tagId && link.objectId == id) != 0]

/-- `library_visibility_filters`: `none` stands for an empty list. -/
def libraryVisibilityFilters (includeHidden : Bool) (tag : Option String) (ownerUserId : Option Nat) (q : Option String) :
    Except Auth.Refusal (Option (List Clause)) :=
  if ctx.isInstanceAdmin then
    if tag.any (· != "") && ctx.org.isNone then .ok none
    else .ok ((tagFilter lookup ctx db kind tag).map fun tagged =>
      ownerFilter ownerUserId ++ hiddenFilter ctx db kind includeHidden ++ tagged ++ librarySearchFilter lookup kind q)
  else do
    let (org, membership) ← requireOrg ctx
    let own : List Clause := if membership.role ≠ .orgAdmin then
      [fun id row => row.ownerUserId == ctx.userId || incomingShare ctx db kind id row] else []
    return (tagFilter lookup ctx db kind tag).map fun tagged =>
      [fun _ row => row.orgId == org] ++ own ++ ownerFilter ownerUserId ++ hiddenFilter ctx db kind includeHidden ++ tagged ++
        librarySearchFilter lookup kind q

def passes (filters : List Clause) : Clause := fun id row => filters.all fun clause => clause id row

def listLibraryRows (includeHidden : Bool) (tag : Option String) (ownerUserId : Option Nat) (q : Option String)
    (limit : Option Nat)
    (offset : Nat) : Except Auth.Refusal (List Nat) := do
  match ← libraryVisibilityFilters lookup ctx db kind includeHidden tag ownerUserId q with
  | none => return []
  | some filters =>
    let rows := ((db.rows kind).entries.filter fun row => passes filters row.1 row.2).mergeSort fun a b =>
      b.2.createdAt ≤ a.2.createdAt
    let page := rows.drop offset
    return ((limit.elim page page.take).map Sigma.fst)

def countLibraryRows (includeHidden : Bool) (tag : Option String) (ownerUserId : Option Nat) (q : Option String) :
    Except Auth.Refusal Nat := do
  match ← libraryVisibilityFilters lookup ctx db kind includeHidden tag ownerUserId q with
  | none => return 0
  | some filters => return (db.rows kind).count (passes filters)

def countHiddenLibraryRows : Except Auth.Refusal Nat := do
  match ← libraryVisibilityFilters lookup ctx db kind true none none none with
  | none => return 0
  | some filters => return (db.rows kind).count (passes (filters ++ [hiddenRow ctx db kind]))

def InReach (id : Nat) (row : LibraryRow) : Prop :=
  ctx.actor.isInstanceAdmin = true ∧ ctx.impersonating = false ∨
    ∃ membership, ctx.org.isSome = true ∧ ctx.membership = some membership ∧ membership.orgId = row.orgId ∧
      (row.ownerUserId = ctx.userId ∨ membership.role = .orgAdmin ∨ ∃ key share, db.shares.find key = some share ∧
        share.objectType = kind.objectType ∧ share.objectId = id ∧ share.toUserId = ctx.userId)

def readable : Clause := fun id row => canReadObject ctx db kind row.ownerUserId row.orgId id

end Lists

section Refining

variable {lookup : Lookup} {ctx : AuthContext} {db : Shelves} {kind : Kind}

/-- A query finds a row exactly when its first result is one. -/
theorem select_ne_nil {R : Type} (t : Table Nat R) (condition : Nat → R → Bool) :
    (t.select condition != []) = (t.select condition).head?.isSome := by
  cases t.select condition <;> rfl

theorem head_select_isSome {R : Type} (t : Table Nat R) (condition : Nat → R → Bool) :
    (t.select condition).head?.isSome = true ↔ ∃ key row, t.find key = some row ∧ condition key row = true := by
  rw [List.isSome_head?]
  simp only [ne_eq, List.eq_nil_iff_forall_not_mem, not_forall, not_not, Table.mem_select]

theorem incomingShare_eq (id : Nat) (row : LibraryRow) :
    incomingShare ctx db kind id row = (db.sharedWith kind id ctx.userId).isSome :=
  select_ne_nil ..

theorem hiddenRow_eq (id : Nat) (row : LibraryRow) : hiddenRow ctx db kind id row = db.isHidden ctx.userId kind id :=
  select_ne_nil ..

theorem sharedWith_isSome (id userId : Nat) : (db.sharedWith kind id userId).isSome = true ↔
    ∃ key share, db.shares.find key = some share ∧ share.objectType = kind.objectType ∧ share.objectId = id ∧
      share.toUserId = userId := by
  rw [Shelves.sharedWith, head_select_isSome]
  simp only [Bool.and_eq_true, beq_iff_eq, and_assoc]

/-- The rule for one object is the rule in its own terms. -/
theorem readable_iff (id : Nat) (row : LibraryRow) : readable ctx db kind id row = true ↔ InReach ctx db kind id row := by
  unfold readable canReadObject InReach
  by_cases admin : ctx.isInstanceAdmin = true
  · rw [if_pos admin]
    simp only [AuthContext.isInstanceAdmin, Bool.and_eq_true, Bool.not_eq_true'] at admin
    exact iff_of_true rfl (.inl admin)
  · have no_admin : ¬ (ctx.actor.isInstanceAdmin = true ∧ ctx.impersonating = false) := by
      simpa [AuthContext.isInstanceAdmin] using admin
    rw [if_neg admin, or_iff_right no_admin]
    unfold memberCanReadObject orgId isOrgAdmin
    -- A context without an organization, or without a membership in it, reaches nothing.
    cases org : ctx.org with
    | none => simp
    | some its =>
      cases member : ctx.membership with
      | none => simp
      | some membership =>
        by_cases same : membership.orgId = row.orgId
        · simp [same, ← sharedWith_isSome, ← or_assoc, or_comm]
        · simp [same]

theorem passes_append (filters : List Clause) (includeHidden : Bool) (id : Nat) (row : LibraryRow) :
    passes (filters ++ hiddenFilter ctx db kind includeHidden) id row =
      (passes filters id row && (includeHidden || !db.isHidden ctx.userId kind id)) := by
  rw [passes, List.all_append, hiddenFilter, ← hiddenRow_eq id row]
  cases includeHidden <;> simp [passes]

/-- Without a tag, the clauses of a list are the rule for one object and the choice about hidden rows. -/
theorem filters_eq (lookup : Lookup) (ctx : AuthContext) (db : Shelves) (kind : Kind) :
    (∀ includeHidden, libraryVisibilityFilters lookup ctx db kind includeHidden none none none = .error (.error .forbidden)) ∧
        (∀ id row, readable ctx db kind id row = false) ∨
      ∃ filters, (∀ includeHidden, libraryVisibilityFilters lookup ctx db kind includeHidden none none none =
          .ok (some (filters ++ hiddenFilter ctx db kind includeHidden))) ∧
        ∀ id row, passes filters id row = readable ctx db kind id row := by
  unfold libraryVisibilityFilters
  by_cases admin : ctx.isInstanceAdmin = true
  · simp only [if_pos admin]
    refine .inr ⟨[], ?_, fun id row => ?_⟩
    · simp [tagFilter, ownerFilter, librarySearchFilter, normalizeLibraryQ]
    · rw [readable, canReadObject, if_pos admin]
      rfl
  · simp only [if_neg admin]
    have member_rule (id : Nat) (row : LibraryRow) :
        readable ctx db kind id row = memberCanReadObject ctx db kind row.ownerUserId row.orgId id := by
      rw [readable, canReadObject, if_neg admin]
    simp only [member_rule]
    cases org : ctx.org with
    | none => exact .inl ⟨by simp [requireOrg, org, bind, Except.bind], by simp [memberCanReadObject, orgId, org]⟩
    | some its =>
      cases member : ctx.membership with
      | none =>
        exact .inl ⟨by simp [requireOrg, org, member, bind, Except.bind], by simp [memberCanReadObject, orgId, org, member]⟩
      | some membership =>
        refine .inr ⟨[fun _ row => row.orgId == membership.orgId] ++ (if membership.role ≠ .orgAdmin then
          [fun id row => row.ownerUserId == ctx.userId || incomingShare ctx db kind id row] else []), ?_, fun id row => ?_⟩
        · simp [requireOrg, org, member, bind, Except.bind, pure, Except.pure, tagFilter, ownerFilter, librarySearchFilter,
            normalizeLibraryQ]
        · by_cases same : membership.orgId = row.orgId
          · by_cases role : membership.role = .orgAdmin
            · simp [passes, memberCanReadObject, orgId, isOrgAdmin, org, member, same, role]
            · by_cases own : row.ownerUserId = ctx.userId
              · simp [passes, memberCanReadObject, orgId, isOrgAdmin, org, member, same, role, own]
              · simp [passes, memberCanReadObject, orgId, isOrgAdmin, org, member, same, role, own, incomingShare_eq]
          · have apart : ¬ row.orgId = membership.orgId := fun its => same its.symm
            simp [passes, memberCanReadObject, orgId, org, member, same, apart]

end Refining

/-- Lists and counts show exactly what may be read object by object, less what the caller has hidden; a caller who gets no list
may read nothing. -/
theorem list_visible (lookup : Lookup) (ctx : AuthContext) (db : Shelves) (kind : Kind) (includeHidden : Bool) :
    (∀ id row, readable ctx db kind id row = true ↔ InReach ctx db kind id row) ∧
      match listLibraryRows lookup ctx db kind includeHidden none none none none 0,
        countLibraryRows lookup ctx db kind includeHidden none none none, countHiddenLibraryRows lookup ctx db kind with
      | .ok ids, .ok count, .ok hidden =>
        ids.Perm ((db.rows kind).select fun id row =>
            readable ctx db kind id row && (includeHidden || !db.isHidden ctx.userId kind id)) ∧
          count = ids.length ∧
          hidden = (db.rows kind).count fun id row => readable ctx db kind id row && db.isHidden ctx.userId kind id
      | .error refusal, .error _, .error _ => refusal = .error .forbidden ∧ (db.rows kind).select (readable ctx db kind) = []
      | _, _, _ => False := by
  refine ⟨readable_iff, ?_⟩
  unfold listLibraryRows countLibraryRows countHiddenLibraryRows
  rcases filters_eq lookup ctx db kind with ⟨refused, nothing⟩ | ⟨filters, given, same⟩
  · simp only [refused, bind, Except.bind]
    refine ⟨trivial, List.eq_nil_iff_forall_not_mem.mpr fun id member => ?_⟩
    obtain ⟨row, _, reads⟩ := (Table.mem_select ..).mp member
    rw [nothing id row] at reads
    contradiction
  · have shown : passes (filters ++ hiddenFilter ctx db kind includeHidden) = fun id row =>
        readable ctx db kind id row && (includeHidden || !db.isHidden ctx.userId kind id) := by
      funext id row
      rw [passes_append, same]
    have hides : passes (filters ++ hiddenFilter ctx db kind true ++ [hiddenRow ctx db kind]) = fun id row =>
        readable ctx db kind id row && db.isHidden ctx.userId kind id := by
      funext id row
      rw [passes, List.all_append, ← passes, passes_append, same]
      simp [hiddenRow_eq]
    simp only [given, bind, Except.bind, pure, Except.pure, shown, hides, List.drop_zero, Option.elim_none]
    -- Sorting by time moves the rows only.
    have sorted : (((db.rows kind).entries.filter fun row =>
        readable ctx db kind row.1 row.2 && (includeHidden || !db.isHidden ctx.userId kind row.1)).mergeSort fun a b =>
          b.2.createdAt ≤ a.2.createdAt).Perm _ := List.mergeSort_perm ..
    refine ⟨sorted.map Sigma.fst, ?_, trivial⟩
    rw [List.length_map, sorted.length_eq, Table.count, Table.select, List.length_map]

def administrator : AuthContext where
  userId := 0
  user := { Auth.sampleUser with isInstanceAdmin := true }
  actorId := 0
  actor := { Auth.sampleUser with isInstanceAdmin := true }
  org := none
  membership := none
  session := none
  viaApiToken := false
  impersonating := false
  viaOauthToken := false
  oauthScopes := []

end IdigestHub.Library
