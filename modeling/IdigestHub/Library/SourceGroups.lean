import IdigestHub.Foundation.Pages
import IdigestHub.Library.Visibility
import Mathlib.Data.String.Basic

/-! The library in groups of one source each, a page of groups at a time. -/

set_option autoImplicit false

namespace IdigestHub.Library

open Foundation
open Foundation.Pages (Arrangement page keys)
open Auth (AuthContext)

/-- The shelves with the source column of transcripts and summaries. It refers to a primary key, and none of these is empty. -/
structure SourcedShelves extends Shelves where
  source : Kind → Nat → Option String
  given : ∀ kind id, source kind id ≠ some ""

abbrev Entry : Type := (_ : Nat) × LibraryRow

section Groups

variable (lookup : Lookup) (ctx : AuthContext) (db : SourcedShelves) (kind : Kind)

/-- The column to group by; audios have none. -/
def librarySourceColumn : Except Auth.Refusal (Nat → Option String) :=
  match kind with
  | .transcript => .ok (db.source .transcript)
  | .summary => .ok (db.source .summary)
  | .audio => .error (.fault "unsupported object_type for source grouping: audio")

def selected (filters : List Clause) : List Entry := (db.rows kind).entries.filter fun row => passes filters row.1 row.2

/-- `max(created_at)` of a group. -/
def newest (col : Nat → Option String) (rows : List Entry) (source : Option String) : Nat :=
  ((rows.filter fun row => col row.1 = source).map fun row => row.2.createdAt).foldl max 0

/-- Newest groups first, those of one moment by their sources, with an empty text for none. -/
def groupBefore (col : Nat → Option String) (rows : List Entry) (a b : Option String) : Bool :=
  newest col rows b < newest col rows a || (newest col rows a = newest col rows b && a.getD "" ≤ b.getD "")

def newerRow (a b : Entry) : Bool := b.2.createdAt ≤ a.2.createdAt

variable (includeHidden : Bool) (tag : Option String) (ownerUserId : Option Nat) (q : Option String)

def countLibrarySourceGroups : Except Auth.Refusal Nat := do
  match ← libraryVisibilityFilters lookup ctx db.toShelves kind includeHidden tag ownerUserId q with
  | none => return 0
  | some filters =>
    let col ← librarySourceColumn db kind
    return (keys (fun row : Entry => col row.1) (selected db kind filters)).length

/-- `col IN (ids)`, or `col IS NULL` where the page has the group without a source. -/
def idFilter (col : Nat → Option String) (sourceIds : List (Option String)) (row : Entry) : Bool :=
  (col row.1).any (fun source => (sourceIds.filterMap id).contains source) ||
    (sourceIds.any Option.isNone && (col row.1).isNone)

def listLibrarySourceGroupPage (engine : Arrangement) (limit offset : Nat) :
    Except Auth.Refusal (List (Option String) × List Entry) := do
  match ← libraryVisibilityFilters lookup ctx db.toShelves kind includeHidden tag ownerUserId q with
  | none => return ([], [])
  | some filters =>
    let col ← librarySourceColumn db kind
    let rows := selected db kind filters
    let sourceIds := page (engine.order (groupBefore col rows) (keys (fun row : Entry => col row.1) rows)) offset limit
    if sourceIds.isEmpty then return ([], [])
    else return (sourceIds, engine.order newerRow (rows.filter (idFilter col sourceIds)))

end Groups

structure SourceItem where
  id : Nat
  source : Option String
  createdAt : Nat
  deriving DecidableEq

structure SourceGroup where
  sourceId : Option String
  items : List SourceItem

def listItems (col : Nat → Option String) (rows : List Entry) : List SourceItem :=
  rows.map fun row => { id := row.1, source := col row.1, createdAt := row.2.createdAt }

def sourceGroups (sourceIds : List (Option String)) (items : List SourceItem) : List SourceGroup :=
  sourceIds.map fun sid =>
    { sourceId := sid
      items := (items.filter fun item => item.source = sid).mergeSort fun a b => b.createdAt ≤ a.createdAt }

def transcriptSourceGroups : List (Option String) → List SourceItem → List SourceGroup := sourceGroups

def summarySourceGroups : List (Option String) → List SourceItem → List SourceGroup := sourceGroups

/-- The objects whose lists are grouped, with the groups that their endpoints show. -/
inductive Grouped where
  | transcript | summary
  deriving DecidableEq

def Grouped.kind : Grouped → Kind
  | .transcript => .transcript
  | .summary => .summary

def Grouped.groups : Grouped → List (Option String) → List SourceItem → List SourceGroup
  | .transcript => transcriptSourceGroups
  | .summary => summarySourceGroups

def groupPage (lookup : Lookup) (ctx : AuthContext) (db : SourcedShelves) (grouped : Grouped) (includeHidden : Bool)
    (tag : Option String) (ownerUserId : Option Nat) (q : Option String) (engine : Arrangement) (limit offset : Nat) :
    Except Auth.Refusal (List SourceGroup) := do
  let (sourceIds, rows) ←
    listLibrarySourceGroupPage lookup ctx db grouped.kind includeHidden tag ownerUserId q engine limit offset
  return grouped.groups sourceIds (listItems (db.source grouped.kind) rows)

def SourceGroup.newest (group : SourceGroup) : Nat := (group.items.map SourceItem.createdAt).foldl max 0

structure Partition (db : SourcedShelves) (kind : Kind) (ids : List Nat) (total n : Nat)
    (pages : Nat → List SourceGroup) : Prop where
  disjoint : ∀ i j, i ≠ j → ∀ group ∈ pages i, ∀ other ∈ pages j, group.sourceId ≠ other.sourceId
  distinct : ∀ i, ((pages i).map SourceGroup.sourceId).Nodup
  given : ∀ i, ∀ group ∈ pages i, group.items ≠ []
  own : ∀ i, ∀ group ∈ pages i, ∀ item ∈ group.items, db.source kind item.id = group.sourceId
  rows : ∀ m, total ≤ m * n → (((List.range m).flatMap pages).flatMap fun group => group.items.map SourceItem.id).Perm ids
  newestFirst : ∀ m, ((List.range m).flatMap pages).Pairwise fun group next => next.newest ≤ group.newest
  total : ∀ m, total ≤ m * n → ((List.range m).flatMap pages).length = total

section Order

variable {col : Nat → Option String} {rows : List Entry}

theorem groupBefore_iff {a b : Option String} : groupBefore col rows a b = true ↔
    newest col rows b < newest col rows a ∨ newest col rows a = newest col rows b ∧ a.getD "" ≤ b.getD "" := by
  simp [groupBefore]

theorem groupBefore_trans (a b c : Option String) (first : groupBefore col rows a b = true)
    (second : groupBefore col rows b c = true) : groupBefore col rows a c = true := by
  rw [groupBefore_iff] at first second ⊢
  rcases first with newer | ⟨same, before⟩
  · left
    rcases second with next | ⟨same, _⟩
    · exact next.trans newer
    · exact same ▸ newer
  · rcases second with next | ⟨tied, after⟩
    · exact .inl (same ▸ next)
    · exact .inr ⟨same.trans tied, before.trans after⟩

theorem groupBefore_total (a b : Option String) : groupBefore col rows a b || groupBefore col rows b a := by
  rw [Bool.or_eq_true, groupBefore_iff, groupBefore_iff]
  rcases Nat.lt_trichotomy (newest col rows a) (newest col rows b) with less | same | more
  · exact .inr (.inl less)
  · rcases le_total (a.getD "") (b.getD "") with before | after
    · exact .inl (.inr ⟨same, before⟩)
    · exact .inr (.inr ⟨same.symm, after⟩)
  · exact .inl (.inl more)

/-- Groups that tie in their newest rows are told apart by their sources. -/
theorem groupBefore_antisymm (given : ∀ id, col id ≠ some "") {a b : Option String}
    (first : a ∈ keys (fun row : Entry => col row.1) rows) (second : b ∈ keys (fun row : Entry => col row.1) rows)
    (before : groupBefore col rows a b = true) (after : groupBefore col rows b a = true) : a = b := by
  have texts : a.getD "" = b.getD "" := by
    rw [groupBefore_iff] at before after
    rcases before with newer | ⟨same, less⟩
    · rcases after with older | ⟨same, _⟩ <;> omega
    · rcases after with older | ⟨_, more⟩
      · omega
      · exact le_antisymm less more
  obtain ⟨row, _, rfl⟩ := Pages.mem_keys.mp first
  obtain ⟨other, _, rfl⟩ := Pages.mem_keys.mp second
  have row_given := given row.1
  have other_given := given other.1
  cases its : col row.1 with
  | none =>
    cases others : col other.1 with
    | none => rfl
    | some text =>
      rw [its, others] at texts
      exact absurd (others.trans (congrArg some texts.symm)) other_given
  | some text =>
    cases others : col other.1 with
    | none =>
      rw [its, others] at texts
      exact absurd (its.trans (congrArg some texts)) row_given
    | some other =>
      rw [its, others] at texts
      exact congrArg some texts

def orderedGroups (col : Nat → Option String) (rows : List Entry) : List (Option String) :=
  Arrangement.stable.order (groupBefore col rows) (keys (fun row : Entry => col row.1) rows)

theorem orderedGroups_perm : (orderedGroups col rows).Perm (keys (fun row : Entry => col row.1) rows) :=
  Arrangement.stable.perm _ _

theorem orderedGroups_nodup : (orderedGroups col rows).Nodup := orderedGroups_perm.nodup_iff.mpr (Pages.keys_nodup rows)

theorem orderedGroups_sorted : (orderedGroups col rows).Pairwise fun a b => groupBefore col rows a b = true :=
  Arrangement.stable.sorted groupBefore_trans groupBefore_total _

theorem order_groups (given : ∀ id, col id ≠ some "") (engine : Arrangement) :
    engine.order (groupBefore col rows) (keys (fun row : Entry => col row.1) rows) = orderedGroups col rows := by
  have perm := engine.perm (groupBefore col rows) (keys (fun row : Entry => col row.1) rows)
  refine List.Perm.eq_of_pairwise (fun a b first second => ?_) (engine.sorted groupBefore_trans groupBefore_total _)
    orderedGroups_sorted (perm.trans orderedGroups_perm.symm)
  exact groupBefore_antisymm given (perm.mem_iff.mp first) (orderedGroups_perm.mem_iff.mp second)

end Order

section Rows

variable {col : Nat → Option String} {rows : List Entry}

structure Holds (col : Nat → Option String) (rows : List Entry) (group : SourceGroup) : Prop where
  known : group.sourceId ∈ keys (fun row : Entry => col row.1) rows
  items : group.items.Perm (listItems col (rows.filter fun row => col row.1 = group.sourceId))

/-- The second query finds every row of a group on the page. -/
theorem idFilter_of_mem {sourceIds : List (Option String)} {row : Entry} (member : col row.1 ∈ sourceIds) :
    idFilter col sourceIds row = true := by
  rw [idFilter]
  cases its : col row.1 with
  | none =>
    rw [its] at member
    have anyNone : sourceIds.any Option.isNone = true := List.any_eq_true.mpr ⟨none, member, rfl⟩
    simp [anyNone]
  | some source =>
    rw [its] at member
    simp [member]

theorem listItems_filter (shown : List Entry) (sid : Option String) :
    (listItems col shown).filter (fun item => item.source = sid) = listItems col (shown.filter fun row => col row.1 = sid) := by
  rw [listItems, listItems, List.filter_map]
  rfl

theorem holds_sourceGroups {sourceIds : List (Option String)}
    (known : ∀ sid ∈ sourceIds, sid ∈ keys (fun row : Entry => col row.1) rows) {shown : List Entry}
    (perm : shown.Perm (rows.filter (idFilter col sourceIds))) :
    ∀ group ∈ sourceGroups sourceIds (listItems col shown), Holds col rows group := by
  intro group member
  obtain ⟨sid, inside, rfl⟩ := List.mem_map.mp member
  refine ⟨known sid inside, ?_⟩
  dsimp only
  refine (List.mergeSort_perm _ _).trans ?_
  rw [listItems_filter]
  refine List.Perm.map _ ((perm.filter _).trans (List.Perm.of_eq ?_))
  rw [List.filter_filter]
  refine List.filter_congr fun row _ => ?_
  by_cases same : col row.1 = sid
  · rw [idFilter_of_mem (same ▸ inside), Bool.and_true]
  · simp [same]

theorem sourceIds_sourceGroups (sourceIds : List (Option String)) (items : List SourceItem) :
    (sourceGroups sourceIds items).map SourceGroup.sourceId = sourceIds := by
  rw [sourceGroups, List.map_map]
  exact List.map_id _

variable {group : SourceGroup} (holds : Holds col rows group)

include holds

theorem Holds.newest_eq : group.newest = newest col rows group.sourceId := by
  have times : (group.items.map SourceItem.createdAt).Perm
      ((rows.filter fun row => col row.1 = group.sourceId).map fun row => row.2.createdAt) := by
    refine (holds.items.map _).trans (List.Perm.of_eq ?_)
    rw [listItems, List.map_map]
    rfl
  exact times.foldl_eq 0

theorem Holds.given : group.items ≠ [] := by
  obtain ⟨row, member, same⟩ := Pages.mem_keys.mp holds.known
  intro none
  have perm := holds.items
  rw [none] at perm
  have empty := List.map_eq_nil_iff.mp (List.nil_perm.mp perm)
  exact List.not_mem_nil (empty ▸ List.mem_filter.mpr ⟨member, by simpa using same⟩)

theorem Holds.own {item : SourceItem} (member : item ∈ group.items) : col item.id = group.sourceId := by
  obtain ⟨row, inside, rfl⟩ := List.mem_map.mp (holds.items.mem_iff.mp member)
  simpa using (List.mem_filter.mp inside).2

end Rows

section Pages

variable {col : Nat → Option String} {rows : List Entry}

theorem rows_of_holds {groups : List SourceGroup} (hold : ∀ group ∈ groups, Holds col rows group) :
    (groups.flatMap fun group => group.items.map SourceItem.id).Perm
      (((groups.map SourceGroup.sourceId).flatMap fun sid => rows.filter fun row => col row.1 = sid).map Sigma.fst) := by
  induction groups with
  | nil => exact List.Perm.refl _
  | cons group groups ih =>
    rw [List.flatMap_cons, List.map_cons, List.flatMap_cons, List.map_append]
    refine List.Perm.append ?_ (ih fun other member => hold other (List.mem_cons_of_mem _ member))
    refine ((hold group List.mem_cons_self).items.map _).trans (List.Perm.of_eq ?_)
    rw [listItems, List.map_map]
    rfl

variable {db : SourcedShelves} {kind : Kind} {n : Nat} {pages : Nat → List SourceGroup}

theorem partition_of_pages (rows : List Entry)
    (ordered : ∀ i, (pages i).map SourceGroup.sourceId = Pages.page (orderedGroups (db.source kind) rows) (i * n) n)
    (hold : ∀ i, ∀ group ∈ pages i, Holds (db.source kind) rows group) :
    Partition db kind (rows.map Sigma.fst) (keys (fun row : Entry => db.source kind row.1) rows).length n pages := by
  have length : (orderedGroups (db.source kind) rows).length = (keys (fun row : Entry => db.source kind row.1) rows).length :=
    orderedGroups_perm.length_eq
  have sources (m : Nat) : ((List.range m).flatMap pages).map SourceGroup.sourceId =
      (List.range m).flatMap fun i => Pages.page (orderedGroups (db.source kind) rows) (i * n) n := by
    rw [List.map_flatMap]
    exact List.flatMap_congr fun i _ => ordered i
  have together (m : Nat) : ∀ group ∈ (List.range m).flatMap pages, Holds (db.source kind) rows group := by
    intro group member
    obtain ⟨i, _, inside⟩ := List.mem_flatMap.mp member
    exact hold i group inside
  have all {m : Nat} (enough : (keys (fun row : Entry => db.source kind row.1) rows).length ≤ m * n) :
      ((List.range m).flatMap pages).map SourceGroup.sourceId = orderedGroups (db.source kind) rows := by
    rw [sources, Pages.pages_all (length.trans_le enough)]
  refine ⟨?_, ?_, ?_, ?_, ?_, ?_, ?_⟩
  · intro i j apart group first other second same
    have here : group.sourceId ∈ (pages i).map SourceGroup.sourceId := List.mem_map_of_mem first
    have there : other.sourceId ∈ (pages j).map SourceGroup.sourceId := List.mem_map_of_mem second
    rw [ordered] at here there
    exact Pages.pages_disjoint orderedGroups_nodup n apart here (same ▸ there)
  · intro i
    rw [ordered]
    exact orderedGroups_nodup.sublist (Pages.page_sublist _ _ _)
  · exact fun i group member => (hold i group member).given
  · exact fun i group member item inside => (hold i group member).own inside
  · intro m enough
    refine (rows_of_holds (together m)).trans (List.Perm.map _ ?_)
    rw [all enough]
    -- Every row has a source among the groups, so taking the groups apart loses none.
    refine Pages.groups_perm orderedGroups_nodup fun row member => ?_
    exact orderedGroups_perm.mem_iff.mpr (Pages.mem_keys.mpr ⟨row, member, rfl⟩)
  · intro m
    have sorted : (((List.range m).flatMap pages).map SourceGroup.sourceId).Pairwise fun a b =>
        groupBefore (db.source kind) rows a b = true := by
      rw [sources, Pages.pages_take]
      exact orderedGroups_sorted.sublist (List.take_sublist _ _)
    refine (List.pairwise_map.mp sorted).imp_of_mem fun first second before => ?_
    rw [(together m _ first).newest_eq, (together m _ second).newest_eq]
    rcases groupBefore_iff.mp before with newer | ⟨same, _⟩
    · exact newer.le
    · exact same.ge
  · intro m enough
    rw [← List.length_map SourceGroup.sourceId, all enough, length]

variable (lookup : Lookup) (ctx : AuthContext) (db : SourcedShelves) (grouped : Grouped) (includeHidden : Bool)
  (tag : Option String) (ownerUserId : Option Nat) (q : Option String)

theorem groups_eq (sourceIds : List (Option String)) (items : List SourceItem) :
    grouped.groups sourceIds items = sourceGroups sourceIds items := by
  cases grouped <;> rfl

theorem librarySourceColumn_eq : librarySourceColumn db grouped.kind = .ok (db.source grouped.kind) := by
  cases grouped <;> rfl

theorem groupPage_eq {filters : List Clause}
    (visible : libraryVisibilityFilters lookup ctx db.toShelves grouped.kind includeHidden tag ownerUserId q = .ok (some filters))
    (engine : Arrangement) (limit offset : Nat) :
    ∃ groups, groupPage lookup ctx db grouped includeHidden tag ownerUserId q engine limit offset = .ok groups ∧
      groups.map SourceGroup.sourceId =
        Pages.page (orderedGroups (db.source grouped.kind) (selected db grouped.kind filters)) offset limit ∧
      ∀ group ∈ groups, Holds (db.source grouped.kind) (selected db grouped.kind filters) group := by
  rw [groupPage, listLibrarySourceGroupPage, visible]
  simp only [bind, Except.bind, librarySourceColumn_eq, order_groups (db.given grouped.kind) engine]
  generalize its : Pages.page (orderedGroups (db.source grouped.kind) (selected db grouped.kind filters)) offset limit = sourceIds
  cases sourceIds with
  | nil =>
    refine ⟨[], ?_, rfl, fun _ member => absurd member List.not_mem_nil⟩
    rw [List.isEmpty_nil, if_pos rfl]
    exact congrArg _ (groups_eq ..)
  | cons first rest =>
    refine ⟨_, rfl, ?_, ?_⟩
    · dsimp only
      rw [groups_eq, sourceIds_sourceGroups]
    · dsimp only
      rw [groups_eq]
      refine holds_sourceGroups (fun sid member => ?_) (engine.perm _ _)
      rw [← its] at member
      exact orderedGroups_perm.mem_iff.mp ((Pages.page_sublist _ _ _).subset member)

/-- The pages of groups are a partition of the rows that the ungrouped list shows, though each request is sorted by an execution
of its own. -/
theorem group_pages_partition (engine : Nat → Arrangement) (n : Nat) :
    match listLibraryRows lookup ctx db.toShelves grouped.kind includeHidden tag ownerUserId q none 0,
      countLibrarySourceGroups lookup ctx db grouped.kind includeHidden tag ownerUserId q with
    | .ok ids, .ok total => ∃ pages, (∀ i,
        groupPage lookup ctx db grouped includeHidden tag ownerUserId q (engine i) n (i * n) = .ok (pages i)) ∧
          Partition db grouped.kind ids total n pages
    | .error refusal, .error same => refusal = same ∧ ∀ i,
        groupPage lookup ctx db grouped includeHidden tag ownerUserId q (engine i) n (i * n) = .error refusal
    | _, _ => False := by
  rw [listLibraryRows, countLibrarySourceGroups]
  cases visible : libraryVisibilityFilters lookup ctx db.toShelves grouped.kind includeHidden tag ownerUserId q with
  | error refusal =>
    refine ⟨rfl, fun i => ?_⟩
    rw [groupPage, listLibrarySourceGroupPage, visible]
    rfl
  | ok given =>
    cases given with
    | none =>
      refine ⟨fun _ => [], fun i => ?_, ?_⟩
      · rw [groupPage, listLibrarySourceGroupPage, visible]
        exact congrArg _ (groups_eq ..)
      · have empty (m : Nat) : (List.range m).flatMap (fun _ => ([] : List SourceGroup)) = [] := by simp
        exact
          { disjoint := fun _ _ _ _ member => absurd member List.not_mem_nil
            distinct := fun _ => List.nodup_nil
            given := fun _ _ member => absurd member List.not_mem_nil
            own := fun _ _ member => absurd member List.not_mem_nil
            rows := fun m _ => by rw [empty]; exact List.Perm.refl _
            newestFirst := fun m => by rw [empty]; exact List.Pairwise.nil
            total := fun m _ => by rw [empty]; rfl }
    | some filters =>
      simp only [bind, Except.bind, librarySourceColumn_eq, pure, Except.pure, List.drop_zero, Option.elim_none]
      choose pages shown ordered hold using fun i =>
        groupPage_eq lookup ctx db grouped includeHidden tag ownerUserId q visible (engine i) n (i * n)
      refine ⟨pages, shown, ?_⟩
      have parts := partition_of_pages (selected db grouped.kind filters) ordered hold
      have sorted := (List.mergeSort_perm (selected db grouped.kind filters) fun a b =>
        b.2.createdAt ≤ a.2.createdAt).map Sigma.fst
      exact { parts with rows := fun m enough => (parts.rows m enough).trans sorted.symm }

end Pages

def twoSources : SourcedShelves where
  rows
    | .transcript => (Table.put ∅ 1 ⟨0, 0, 5⟩).put 2 ⟨0, 0, 5⟩
    | _ => ∅
  shares := ∅
  hiddenItems := ∅
  tagStore := .empty 0
  source
    | .transcript, 1 => some "audio"
    | _, _ => none
  given kind id := by
    split
    · decide
    · exact nofun

/-- Two rows of two sources come in two groups, one on a page. -/
theorem group_pages_partition_two : ∃ pages, (∀ i,
    groupPage ⟨id, fun _ => none, fun _ _ _ => true⟩ administrator twoSources .transcript false none none none .stable 1 (i * 1) =
      .ok (pages i)) ∧ Partition twoSources .transcript [2, 1] 2 1 pages := by
  have parts := group_pages_partition ⟨id, fun _ => none, fun _ _ _ => true⟩ administrator twoSources .transcript false none none
    none (fun _ => .stable) 1
  have unsorted : (twoSources.rows .transcript).entries.mergeSort (fun a b => b.2.createdAt ≤ a.2.createdAt) =
      (twoSources.rows .transcript).entries := List.mergeSort_of_pairwise (by decide +kernel)
  have listed : listLibraryRows ⟨id, fun _ => none, fun _ _ _ => true⟩ administrator twoSources.toShelves .transcript
    false none none
      none none 0 = .ok (((twoSources.rows .transcript).entries.mergeSort fun a b => b.2.createdAt ≤ a.2.createdAt).map
        Sigma.fst) := by rfl
  have counted : countLibrarySourceGroups ⟨id, fun _ => none, fun _ _ _ => true⟩ administrator twoSources .transcript
    false none none
      none = .ok 2 := by rfl
  rw [show Grouped.transcript.kind = .transcript from rfl, listed, unsorted, counted] at parts
  exact parts

end IdigestHub.Library
