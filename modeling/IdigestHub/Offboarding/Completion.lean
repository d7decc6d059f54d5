import IdigestHub.Offboarding.Removals

/-! When the removals go through: each fails on the rows that none of its statements clears. -/

set_option autoImplicit false

namespace IdigestHub.Offboarding

open Foundation Foundation.Relational

section Harmless

variable {now : Db}

theorem target_of_plain {t : Tbl} {key : ForeignKey Tbl (Row t)} (member : key ∈ schema.keys t) (plain : key.cascades = false) :
    key.target = .users ∨ key.target = .organizations ∨ key.target = .tasks := by
  have all : (schema.keys t).all (fun key => key.cascades || key.target == .users || key.target == .organizations ||
      key.target == .tasks) = true := by cases t <;> rfl
  have one := List.all_eq_true.mp all key member
  simpa [plain, or_assoc] using one

/-- A deletion from a table that no column without an action refers to does no harm. -/
theorem harmless_deleteFrom {t : Tbl} {condition : Nat → Row t → Bool}
    (safe : t ≠ .users ∧ t ≠ .organizations ∧ t ≠ .tasks) : Op.Harmless (S := schema) now (.deleteFrom t condition) := by
  intro other key member plain id row
  have different : key.target ≠ t := by
    rcases target_of_plain member plain with target | target | target <;> rw [target]
    · exact Ne.symm safe.1
    · exact Ne.symm safe.2.1
    · exact Ne.symm safe.2.2
  simp [different]

/-- Nor does a change that keeps references, or makes them refer to a user who is there. -/
theorem harmless_changeIn {t : Tbl} {f : Nat → Row t → Row t}
    (kept : ∀ id row, ∀ key ∈ keys t, ∀ v, key.get (f id row) = some v →
      key.get row = some v ∨ key.cascades = false ∧ Relational.Db.present now key.target v = true) :
    Op.Harmless (S := schema) now (.changeIn t f) := by
  intro other id row key member v refers
  by_cases same : other = t
  · subst same
    simp only [↓reduceDIte] at refers
    exact kept id row key member v refers
  · simp only [same, ↓reduceDIte] at refers
    exact Or.inl refers

end Harmless

section Library

variable {db : Db} {mine : Artifact → Bool} {t : Tbl} {id : Nat} {row row' : Row t}

theorem wipe_op {objectType : ObjectType} {objectId : Nat} {op : Stmt} (member : op ∈ wipeObjectShares objectType objectId) :
    ∃ t condition, op = .deleteFrom t condition ∧ (t = .shares ∨ t = .hiddenItems ∨ t = .userTagLinks) := by
  simp only [wipeObjectShares, List.mem_cons, List.not_mem_nil, or_false] at member
  rcases member with same | same | same
  · exact ⟨.shares, _, same, Or.inl rfl⟩
  · exact ⟨.hiddenItems, _, same, Or.inr (Or.inl rfl)⟩
  · exact ⟨.userTagLinks, _, same, Or.inr (Or.inr rfl)⟩

theorem library_op {op : Stmt} (member : op ∈ hardDeleteLibrary db mine) :
    (∃ t condition, op = .deleteFrom t condition ∧ (t = .shares ∨ t = .hiddenItems ∨ t = .userTagLinks)) ∨
      ∃ audioId ∈ (db .audios).select fun _ row => mine row, op = .deleteFrom .audios fun id _ => id == audioId := by
  simp only [hardDeleteLibrary, hardDeleteAudio, List.mem_append, List.mem_flatMap, List.mem_singleton] at member
  rcases member with (⟨audioId, selected, wiped | same⟩ | ⟨_, _, wiped⟩) | ⟨_, _, wiped⟩
  · exact Or.inl (wipe_op wiped)
  · exact Or.inr ⟨audioId, selected, same⟩
  · exact Or.inl (wipe_op wiped)
  · exact Or.inl (wipe_op wiped)

theorem library_deletes : ∀ op ∈ hardDeleteLibrary db mine, ∃ t condition, op = .deleteFrom t condition ∧
    t ∈ [Tbl.shares, .hiddenItems, .userTagLinks, .audios] := by
  intro op member
  rcases library_op member with ⟨t, condition, same, table⟩ | ⟨audioId, _, same⟩
  · exact ⟨t, condition, same, by simp only [List.mem_cons]; tauto⟩
  · exact ⟨.audios, _, same, by decide⟩

theorem fate_of_delete {op : Stmt} (deletes : ∃ t condition, op = .deleteFrom t condition)
    (became : Op.fate (S := schema) op t id row = some row') : row' = row := by
  obtain ⟨other, condition, same⟩ := deletes
  rw [same, Op.deleteFrom, Op.fate, Option.ite_none_left_eq_some, Option.some.injEq] at became
  exact became.2.symm

theorem fates_library_iff : Op.fates (S := schema) (hardDeleteLibrary db mine) t id row = some row' ↔
    row' = row ∧ ∀ op ∈ hardDeleteLibrary db mine, Op.fate (S := schema) op t id row = some row := by
  apply fates_eq_some_iff
  intro op member row row' became
  obtain ⟨other, condition, same, _⟩ := library_deletes op member
  exact fate_of_delete ⟨other, condition, same⟩ became

theorem fates_library_le (became : Op.fates (S := schema) (hardDeleteLibrary db mine) t id row = some row') : row' = row :=
  (fates_library_iff.mp became).1

theorem library_spares (spared : t ∉ [Tbl.shares, .hiddenItems, .userTagLinks, .audios]) :
    ∀ op ∈ hardDeleteLibrary db mine, ∀ row : Row t, Op.fate (S := schema) op t id row = some row := by
  intro op member row
  obtain ⟨other, condition, same, table⟩ := library_deletes op member
  have different : t ≠ other := by
    intro same_table
    exact spared (same_table ▸ table)
  rw [same]
  exact fate_deleteFrom_ne (S := schema) different row

theorem fates_library_spared (spared : t ∉ [Tbl.shares, .hiddenItems, .userTagLinks, .audios]) :
    Op.fates (S := schema) (hardDeleteLibrary db mine) t id row = some row :=
  fates_of_untouched (library_spares spared)

theorem fates_library_audio {row row' : Artifact} (found : (db .audios).find id = some row) :
    Op.fates (S := schema) (hardDeleteLibrary db mine) .audios id row = some row' ↔ row' = row ∧ mine row = false := by
  rw [fates_library_iff]
  refine and_congr_right fun _ => ?_
  constructor
  · intro spared
    by_contra doomed
    rw [Bool.not_eq_false] at doomed
    have selected : id ∈ (db .audios).select fun _ row => mine row := (Table.mem_select ..).mpr ⟨row, found, doomed⟩
    have inside : Op.deleteFrom (S := schema) .audios (fun other _ => other == id) ∈ hardDeleteLibrary db mine :=
      List.mem_append_left _ (List.mem_append_left _ (List.mem_flatMap.mpr
        ⟨id, selected, List.mem_append_right _ List.mem_cons_self⟩))
    have deleted := spared _ inside
    rw [fate_deleteFrom] at deleted
    simp at deleted
  · intro kept op member
    rcases library_op member with ⟨other, condition, same, table⟩ | ⟨audioId, selected, same⟩
    · rw [same]
      apply fate_deleteFrom_ne
      intro same_table
      rw [← same_table] at table
      simp at table
    · obtain ⟨other, stored, doomed⟩ := (Table.mem_select ..).mp selected
      have different : id ≠ audioId := by
        intro same_id
        subst same_id
        rw [found] at stored
        rw [Option.some.inj stored, doomed] at kept
        contradiction
      rw [same, fate_deleteFrom]
      simp [different]

theorem harmless_library {now : Db} : ∀ op ∈ hardDeleteLibrary db mine, Op.Harmless (S := schema) now op := by
  intro op member
  obtain ⟨other, condition, same, table⟩ := library_deletes op member
  rw [same]
  apply harmless_deleteFrom
  refine ⟨?_, ?_, ?_⟩ <;> rintro rfl <;> simp at table

end Library

section Flushes

variable {db now : Db} {plan : Plan}

/-- The row refers to what the plan removes, by a column without an action on deletion. -/
def dead (db : Db) (plan : Plan) (t : Tbl) (row : Row t) : Bool :=
  (keys t).any fun key => !key.cascades &&
    (key.target = .users && (key.get row).any (plan.removes db) ||
      key.target = .organizations && (key.get row).any plan.removesOrg)

theorem dead_eq_false {t : Tbl} {row : Row t} : dead db plan t row = false ↔
    ∀ key ∈ keys t, key.cascades = false → ∀ v, key.get row = some v →
      (key.target = .users → plan.removes db v = false) ∧ (key.target = .organizations → plan.removesOrg v = false) := by
  simp only [dead, List.any_eq_false, Bool.not_eq_true, Bool.and_eq_false_imp, Bool.not_eq_true', Bool.or_eq_false_iff,
    decide_eq_true_eq]
  refine forall_congr' fun key => forall_congr' fun _ => forall_congr' fun _ => ?_
  cases key.get row <;> simp

theorem doomed_users (id : Nat) (row : User) : plan.doomed db .users id row = plan.removes db id := by
  cases plan <;> rfl

theorem doomed_organizations (id : Nat) (row : Organization) : plan.doomed db .organizations id row = plan.removesOrg id := by
  cases plan <;> rfl

theorem doomed_tasks (id : Nat) (row : Task) : plan.doomed db .tasks id row = false := by
  cases plan <;> rfl

/-- The rows after the last flush, if it succeeds. -/
def flushed (db now : Db) (plan : Plan) : Db := (Op.apply (S := schema) (.delete (plan.doomed db)) now).settled

theorem flushed_some {t : Tbl} {id : Nat} {row : Row t} : (flushed db now plan t).find id = some row ↔
    (now t).find id = some row ∧ plan.doomed db t id row = false ∧
      ∀ key ∈ keys t, key.cascades = true →
        Relational.Db.dangles (Op.apply (S := schema) (.delete (plan.doomed db)) now) key row = false := by
  rw [flushed, settled_some, find_apply, Option.bind_eq_some_iff]
  simp only [Op.fate, Option.ite_none_left_eq_some, Option.some.injEq, Bool.not_eq_true]
  constructor
  · rintro ⟨⟨old, found, kept, same⟩, settled⟩
    subst same
    exact ⟨found, kept, settled⟩
  · rintro ⟨found, kept, settled⟩
    exact ⟨⟨row, found, kept, rfl⟩, settled⟩

/-- The last flush succeeds when no row that it leaves refers to what the plan removes. -/
theorem flush_iff (integral : Relational.Db.Integral now) :
    (Relational.Db.execute now (.delete (plan.doomed db))).isSome ↔
      ∀ t id row, (flushed db now plan t).find id = some row → dead db plan t row = false := by
  rw [execute_delete_iff shallow integral]
  refine forall_congr' fun t => forall_congr' fun id => forall_congr' fun row => forall_congr' fun found => ?_
  rw [dead_eq_false]
  refine forall_congr' fun key => forall_congr' fun member => forall_congr' fun plain => forall_congr' fun v =>
    forall_congr' fun refers => ?_
  have there := dangles_eq_false.mp (integral t id row (flushed_some.mp found).1 key member) v refers
  obtain ⟨target, get, cascades⟩ := key
  rcases target_of_plain member plain with same | same | same <;> dsimp only at same <;> subst same
  · obtain ⟨old, stored⟩ := Option.isSome_iff_exists.mp there
    constructor
    · intro spared
      exact ⟨fun _ => doomed_users v old ▸ spared old stored, nofun⟩
    · intro spared other _
      rw [doomed_users]
      exact spared.1 rfl
  · obtain ⟨old, stored⟩ := Option.isSome_iff_exists.mp there
    constructor
    · intro spared
      exact ⟨nofun, fun _ => doomed_organizations v old ▸ spared old stored⟩
    · intro spared other _
      rw [doomed_organizations]
      exact spared.2 rfl
  · exact iff_of_true (fun other _ => doomed_tasks v other) ⟨nofun, nofun⟩

theorem completes_iff (integral : Relational.Db.Integral db) : plan.Completes db ↔
    ∃ now, Relational.Db.run db (plan.before db) = some now ∧
      ∀ t id row, (flushed db now plan t).find id = some row → dead db plan t row = false := by
  constructor
  · rintro ⟨db', ran, _⟩
    rw [Plan.statements, run_append] at ran
    obtain ⟨now, before, flush⟩ := Option.bind_eq_some_iff.mp ran
    refine ⟨now, before, ?_⟩
    rw [← flush_iff (integral_of_run integral before)]
    rw [run_cons] at flush
    obtain ⟨next, executed, _⟩ := Option.bind_eq_some_iff.mp flush
    rw [executed]
    rfl
  · rintro ⟨now, before, refless⟩
    have executes := (flush_iff (integral_of_run integral before)).mpr refless
    obtain ⟨next, executed⟩ := Option.isSome_iff_exists.mp executes
    have same : flushed db now plan = next := (execute_eq_some.mp executed).2
    refine ⟨next, ?_, ?_, ?_, ?_⟩
    · rw [Plan.statements, run_append, before, Option.bind_some, run_cons, executed]
      rfl
    · intro id gone
      rw [← same]
      by_contra stays
      obtain ⟨row, found⟩ := Option.ne_none_iff_exists'.mp stays
      have kept := (flushed_some.mp found).2.1
      rw [doomed_users, gone] at kept
      contradiction
    · intro id gone
      rw [← same]
      by_contra stays
      obtain ⟨row, found⟩ := Option.ne_none_iff_exists'.mp stays
      have kept := (flushed_some.mp found).2.1
      rw [doomed_organizations, gone] at kept
      contradiction
    · intro t id row found
      rw [← same] at found
      exact dead_eq_false.mp (refless t id row found)

theorem any_beq (reference : Option Nat) (id : Nat) : reference.any (· == id) = (reference == some id) := by
  cases reference <;> simp

/-- What the statements and the flush leave of a row does not refer to what the plan removes. -/
def Outcome (db : Db) (plan : Plan) (t : Tbl) (id : Nat) (row : Row t) : Prop :=
  ∀ row', Op.fates (S := schema) (plan.before db) t id row = some row' → plan.doomed db t id row' = false →
    dead db plan t row' = false

theorem dead_of_outcomes {t : Tbl} (ran : Relational.Db.run db (plan.before db) = some now)
    (outcomes : ∀ id row, (db t).find id = some row → Outcome db plan t id row) {id : Nat} {row : Row t}
    (found : (flushed db now plan t).find id = some row) : dead db plan t row = false := by
  obtain ⟨there, kept, _⟩ := flushed_some.mp found
  obtain ⟨old, before, became⟩ := Option.bind_eq_some_iff.mp (fates_of_run ran there)
  exact outcomes id old before row became kept

theorem outcome_of_dead {t : Tbl} (plain : ∀ key ∈ keys t, key.cascades = false)
    (ran : Relational.Db.run db (plan.before db) = some now)
    (refless : ∀ id row, (flushed db now plan t).find id = some row → dead db plan t row = false) {id : Nat} {row : Row t}
    (found : (db t).find id = some row) : Outcome db plan t id row := by
  intro row' became kept
  apply refless id row'
  rw [flushed_some, find_run plain ran, found]
  refine ⟨became, kept, ?_⟩
  intro key member cascades
  rw [plain key member] at cascades
  contradiction

structure SparesLinks (db : Db) (plan : Plan) : Prop where
  links : ∀ op ∈ plan.before db, ∀ id row, plan.removesOrg row.orgId = false →
    Op.fate (S := schema) op .summaryPublicLinks id row = some row
  taken : ∀ id row row', Op.fates (S := schema) (plan.before db) .summaryPublicLinks id row = some row' →
    row' = row ∧ plan.removesOrg row.orgId = false
  summaries : ∀ op ∈ plan.before db, ∀ id row, (Op.fate (S := schema) op .summaries id row).isSome = true
  flush : ∀ id row, (db .summaries).find id = some row →
    ∃ row', Op.fates (S := schema) (plan.before db) .summaries id row = some row' ∧
      plan.doomed db .summaries id row' = plan.takesSummary db id

theorem flushed_link (spares : SparesLinks db plan) (integral : Relational.Db.Integral db)
    (ran : Relational.Db.run db (plan.before db) = some now) {id : Nat} {row : SummaryPublicLink} :
    (flushed db now plan .summaryPublicLinks).find id = some row ↔ (db .summaryPublicLinks).find id = some row ∧
      plan.removesOrg row.orgId = false ∧ plan.takesSummary db row.summaryId = false := by
  -- no plan deletes links itself: they go with their organization or their summary
  have kept : plan.doomed db .summaryPublicLinks id row = false := by cases plan <;> rfl
  have in_now : (now .summaryPublicLinks).find id = some row ↔
      (db .summaryPublicLinks).find id = some row ∧ plan.removesOrg row.orgId = false := by
    constructor
    · intro found
      obtain ⟨old, before, became⟩ := Option.bind_eq_some_iff.mp (fates_of_run ran found)
      obtain ⟨same, stays⟩ := spares.taken id old row became
      subst same
      exact ⟨before, stays⟩
    · rintro ⟨found, stays⟩
      apply find_run_of_untouched integral ran found fun op member => spares.links op member id row stays
      intro key member cascades op inside v target
      have to_summaries : key.target = .summaries := by
        simp only [keys, List.mem_cons, List.not_mem_nil, or_false] at member
        rcases member with same | same | same
        · rw [same]; rfl
        · rw [same] at cascades; contradiction
        · rw [same] at cascades; contradiction
      revert target
      rw [to_summaries]
      exact spares.summaries op inside v
  rw [flushed_some, in_now, and_assoc]
  refine and_congr_right fun found => and_congr_right fun _ => ?_
  rw [and_iff_right kept]
  obtain ⟨summary, stored⟩ : ∃ summary, (db .summaries).find row.summaryId = some summary :=
    Option.isSome_iff_exists.mp (dangles_eq_false.mp (integral .summaryPublicLinks id row found
      (follows .summaries fun row => some row.summaryId) List.mem_cons_self) row.summaryId rfl)
  -- summaries refer without cascading, so only the flush takes them
  have plain : ∀ key ∈ schema.keys .summaries, key.cascades = false := by
    intro key member
    simp only [keys, List.mem_cons, List.not_mem_nil, or_false] at member
    rcases member with same | same <;> rw [same] <;> rfl
  obtain ⟨after, became, doomed⟩ := spares.flush row.summaryId summary stored
  have in_flush : (Op.apply (S := schema) (.delete (plan.doomed db)) now .summaries).find row.summaryId =
      if plan.takesSummary db row.summaryId then none else some after := by
    rw [find_apply, find_run plain ran, stored, Option.bind_some, became, Option.bind_some, Op.fate, doomed]
  constructor
  · intro settled
    have there := dangles_eq_false.mp (settled (follows .summaries fun row => some row.summaryId) List.mem_cons_self rfl)
      row.summaryId rfl
    by_contra taken
    rw [Bool.not_eq_false] at taken
    have gone : Relational.Db.present (Op.apply (S := schema) (.delete (plan.doomed db)) now) .summaries row.summaryId =
        false := by
      rw [Relational.Db.present, in_flush, taken]
      rfl
    rw [follows] at there
    dsimp only at there
    rw [gone] at there
    contradiction
  · intro stays key member cascades
    simp only [keys, List.mem_cons, List.not_mem_nil, or_false] at member
    rcases member with same | same | same
    · subst same
      rw [dangles_eq_false]
      intro v refers
      obtain rfl := Option.some.inj refers
      rw [follows]
      dsimp only
      rw [Relational.Db.present, in_flush, stays]
      rfl
    · rw [same] at cascades
      contradiction
    · rw [same] at cascades
      contradiction

theorem links_iff (spares : SparesLinks db plan) (integral : Relational.Db.Integral db)
    (ran : Relational.Db.run db (plan.before db) = some now) :
    (∀ id row, (flushed db now plan .summaryPublicLinks).find id = some row → dead db plan .summaryPublicLinks row = false) ↔
      ∀ id row, (db .summaryPublicLinks).find id = some row → plan.leaves db .summaryPublicLinks id row = false := by
  refine forall_congr' fun id => forall_congr' fun row => ?_
  rw [flushed_link spares integral ran]
  have refers_to : dead db plan .summaryPublicLinks row =
      (plan.removesOrg row.orgId || plan.removes db row.createdByUserId) := by
    simp [dead, keys, refers, follows]
  rw [refers_to, Plan.leaves]
  cases plan.removesOrg row.orgId <;> cases plan.takesSummary db row.summaryId <;> simp

theorem refless_iff (spares : SparesLinks db plan) (integral : Relational.Db.Integral db)
    (ran : Relational.Db.run db (plan.before db) = some now)
    (outcomes : ∀ t id row, t ≠ .summaryPublicLinks → (db t).find id = some row →
      (Outcome db plan t id row ↔ plan.leaves db t id row = false)) :
    (∀ t id row, (flushed db now plan t).find id = some row → dead db plan t row = false) ↔ plan.Clear db := by
  refine forall_congr' fun t => ?_
  by_cases link : t = .summaryPublicLinks
  · subst link
    exact links_iff spares integral ran
  by_cases plain : ∀ key ∈ keys t, key.cascades = false
  · constructor
    · intro refless id row found
      exact (outcomes t id row link found).mp (outcome_of_dead plain ran refless found)
    · intro clear id row found
      apply dead_of_outcomes ran _ found
      intro other old stored
      exact (outcomes t other old link stored).mpr (clear other old stored)
  · -- the other tables with cascading keys hold nothing that a plan leaves
    have never_left : ∀ id row, plan.leaves db t id row = false := by
      intro id row
      cases t <;> first | rfl | contradiction
    refine iff_of_true ?_ fun id row _ => never_left id row
    intro id row found
    apply dead_of_outcomes ran _ found
    intro other old stored
    exact (outcomes t other old link stored).mpr (never_left other old)

theorem completes_iff_clear (spares : SparesLinks db plan) (integral : Relational.Db.Integral db)
    (ran : Relational.Db.run db (plan.before db) = some now)
    (outcomes : ∀ t id row, t ≠ .summaryPublicLinks → (db t).find id = some row →
      (Outcome db plan t id row ↔ plan.leaves db t id row = false)) : plan.Completes db ↔ plan.Clear db := by
  rw [completes_iff integral, ← refless_iff spares integral ran outcomes]
  constructor
  · rintro ⟨other, also_ran, refless⟩
    rw [ran] at also_ran
    rw [Option.some.inj also_ran]
    exact refless
  · intro refless
    exact ⟨now, ran, refless⟩

end Flushes

section Wiping

variable {db : Db} {userId membershipId : Nat} {t : Tbl} {id : Nat} {row row' : Row t}

/-- The statements of `wipe_user_content` after the loops over the library. -/
def wipeRest (userId : Nat) : List Stmt :=
  [deleteSkills userId (some .self), deleteShares userId, deleteHiddenItems userId, deleteUserTagLinks userId,
    deleteUserTags userId, deleteApiTokens userId, deleteUserSessions userId]

theorem before_wipe : (Plan.wipe userId membershipId).before db =
    hardDeleteLibrary db (fun row => row.ownerUserId == userId) ++ wipeRest userId := by
  simp [Plan.before, wipeUserContent, wipeRest, deleteAllUserTags]

theorem fates_wipe (spared : t ∉ [Tbl.shares, .hiddenItems, .userTagLinks, .audios]) :
    Op.fates (S := schema) ((Plan.wipe userId membershipId).before db) t id row =
      Op.fates (S := schema) (wipeRest userId) t id row := by
  rw [before_wipe, fates_append, fates_library_spared spared, Option.bind_some]

theorem fates_wipe_le (became : Op.fates (S := schema) ((Plan.wipe userId membershipId).before db) t id row = some row') :
    Op.fates (S := schema) (wipeRest userId) t id row = some row' := by
  rw [before_wipe, fates_append] at became
  obtain ⟨between, first, rest⟩ := Option.bind_eq_some_iff.mp became
  rw [fates_library_le first] at rest
  exact rest

theorem harmless_wipe {now : Db} : ∀ op ∈ (Plan.wipe userId membershipId).before db, Op.Harmless (S := schema) now op := by
  rw [before_wipe, List.forall_mem_append]
  refine ⟨harmless_library, ?_⟩
  intro op member
  simp only [wipeRest, List.mem_cons, List.not_mem_nil, or_false] at member
  rcases member with same | same | same | same | same | same | same <;> rw [same] <;>
    exact harmless_deleteFrom (by decide)

theorem sparesLinks_wipe : SparesLinks db (.wipe userId membershipId) where
  links := by
    rw [before_wipe, List.forall_mem_append]
    constructor
    · intro op member id row _
      exact library_spares (t := .summaryPublicLinks) (by decide) op member row
    · simp [wipeRest]
  taken id row row' became := by
    rw [fates_wipe (by decide)] at became
    simp [wipeRest] at became
    exact ⟨became.symm, rfl⟩
  summaries := by
    rw [before_wipe, List.forall_mem_append]
    constructor
    · intro op member id row
      rw [library_spares (t := .summaries) (by decide) op member row]
      rfl
    · simp [wipeRest]
  flush id row found := by
    rw [fates_wipe (by decide)]
    refine ⟨row, ?_, ?_⟩
    · simp [wipeRest]
    · simp [Plan.doomed, flushUser, Plan.takesSummary, found]

theorem outcome_wipe (link : t ≠ .summaryPublicLinks) (found : (db t).find id = some row) :
    Outcome db (.wipe userId membershipId) t id row ↔ Plan.leaves db (.wipe userId membershipId) t id row = false := by
  by_cases spared : t ∉ [Tbl.shares, .hiddenItems, .userTagLinks, .audios]
  · rw [Outcome, fates_wipe spared]
    cases t
    all_goals try contradiction
    all_goals
      simp [wipeRest, dead, keys, refers, follows, any_beq, Plan.leaves, Plan.doomed, flushUser, Plan.isOffboarding,
        Plan.leavesArtifact, Plan.holdsTask]
    all_goals grind
  · -- the rows that the loops over the library delete from, none of which is left
    have kept : Outcome db (.wipe userId membershipId) t id row := by
      intro row' became _
      have rest := fates_wipe_le became
      cases t
      all_goals try (simp at spared; done)
      case audios =>
        rw [before_wipe, fates_append] at became
        obtain ⟨between, first, _⟩ := Option.bind_eq_some_iff.mp became
        obtain ⟨same, other⟩ := (fates_library_audio found).mp first
        simp [wipeRest] at rest
        simpa [dead, keys, refers, any_beq, ← rest] using other
      all_goals
        simp [wipeRest] at rest
        obtain ⟨other, same⟩ := rest
        subst same
        simpa [dead, keys, refers, follows, any_beq] using other
    have clear : Plan.leaves db (.wipe userId membershipId) t id row = false := by
      cases t <;> first | rfl | simp at spared
    exact iff_of_true kept clear

theorem wipe_completes_iff (integral : Relational.Db.Integral db) :
    (Plan.wipe userId membershipId).Completes db ↔ (Plan.wipe userId membershipId).Clear db := by
  obtain ⟨now, ran, _⟩ := run_of_harmless shallow integral fun op member now _ =>
    @harmless_wipe _ userId membershipId now op member
  exact completes_iff_clear sparesLinks_wipe integral ran fun _ _ _ => outcome_wipe

end Wiping

section Transferring

variable {db : Db} {userId targetId membershipId : Nat} {t : Tbl} {id : Nat} {row : Row t}

theorem before_transfer : (Plan.transfer userId targetId membershipId).before db =
    [moveAudios userId targetId, moveTranscripts userId targetId, moveSummaries userId targetId, moveSkills userId targetId,
      moveTasks userId targetId, deleteHiddenItems userId, deleteUserTagLinks userId, deleteUserTags userId,
      deleteApiTokens userId, deleteUserSessions userId, updateShares db userId targetId] := rfl

theorem forwardIncoming_some {share after : Share} (became : forwardIncoming db userId targetId share = some after) :
    after = { share with toUserId := if share.toUserId = userId then targetId else share.toUserId } ∧
      (share.toUserId = userId → sharedWith db share targetId none = false) := by
  unfold forwardIncoming at became
  split at became
  · rename_i own
    split at became
    · contradiction
    · rename_i free
      rw [Bool.not_eq_true] at free
      rw [← Option.some.inj became, if_pos own]
      exact ⟨rfl, fun _ => free⟩
  · rename_i other
    rw [← Option.some.inj became, if_neg other]
    exact ⟨rfl, fun own => absurd own other⟩

theorem forwardOutgoing_some {share after : Share} (became : forwardOutgoing db userId targetId id share = some after) :
    after = { share with fromUserId := if share.fromUserId = userId then targetId else share.fromUserId } := by
  unfold forwardOutgoing at became
  split at became
  · rename_i own
    split at became
    · contradiction
    · rw [← Option.some.inj became, if_pos own]
  · rename_i other
    rw [← Option.some.inj became, if_neg other]

theorem forwarded_some {share after : Share} (became : forwarded db userId targetId id share = some after) :
    after = { share with
      fromUserId := if share.fromUserId = userId then targetId else share.fromUserId
      toUserId := if share.toUserId = userId then targetId else share.toUserId } ∧
      (share.toUserId = userId → sharedWith db share targetId none = false) := by
  obtain ⟨between, incoming, outgoing⟩ := Option.bind_eq_some_iff.mp became
  obtain ⟨first, free⟩ := forwardIncoming_some incoming
  rw [forwardOutgoing_some outgoing, first]
  exact ⟨rfl, free⟩

theorem sharedWith_iff {share : Share} {recipient : Nat} {except : Option Nat} :
    sharedWith db share recipient except = true ↔ ∃ id stored, (db .shares).find id = some stored ∧
      stored.objectType = share.objectType ∧ stored.objectId = share.objectId ∧ stored.toUserId = recipient ∧
      except ≠ some id := by
  rw [sharedWith, beq_iff_eq, List.isEmpty_eq_false_iff_exists_mem]
  simp only [Table.mem_select, Bool.and_eq_true, beq_iff_eq, bne_iff_ne, and_assoc]

theorem mem_droppedShares {share : Share} (found : (db .shares).find id = some share) :
    id ∈ droppedShares db userId targetId ↔ forwarded db userId targetId id share = none := by
  simp [droppedShares, Table.mem_select, found]

theorem outcome_share {share : Share} (found : (db .shares).find id = some share) :
    (id ∉ droppedShares db userId targetId →
      ¬((forwarded db userId targetId id share).getD share).fromUserId = userId ∧
        ¬((forwarded db userId targetId id share).getD share).toUserId = userId) ↔
      (targetId = userId → share.fromUserId = userId → forwarded db userId targetId id share = none) := by
  rw [mem_droppedShares found]
  cases became : forwarded db userId targetId id share with
  | none => simp
  | some after =>
    obtain ⟨same, free⟩ := forwarded_some became
    subst same
    simp only [reduceCtorEq, not_false_eq_true, forall_const, Option.getD_some, imp_false]
    constructor
    · rintro ⟨sender, _⟩ same own
      rw [if_pos own] at sender
      exact sender same
    · intro stays
      constructor
      · intro sender
        split at sender
        · rename_i own
          exact stays sender own
        · contradiction
      · intro recipient
        split at recipient
        · -- the share itself is stored, so a transfer to the user drops it
          rename_i own
          have itself : sharedWith db share targetId none = true :=
            sharedWith_iff.mpr ⟨id, share, found, rfl, rfl, own.trans recipient.symm, nofun⟩
          rw [free own] at itself
          contradiction
        · contradiction

theorem outcome_transfer (link : t ≠ .summaryPublicLinks) (found : (db t).find id = some row) :
    Outcome db (.transfer userId targetId membershipId) t id row ↔
      Plan.leaves db (.transfer userId targetId membershipId) t id row = false := by
  rw [Outcome, before_transfer]
  cases t
  all_goals try contradiction
  all_goals
    simp [dead, keys, refers, follows, any_beq, Plan.leaves, Plan.doomed, flushUser, Plan.isOffboarding,
        Plan.leavesArtifact, Plan.holdsTask, Artifact.moved]
  case shares => exact outcome_share found
  all_goals grind

theorem sparesLinks_transfer : SparesLinks db (.transfer userId targetId membershipId) where
  links := by simp [before_transfer]
  taken id row row' became := by
    simp [before_transfer] at became
    exact ⟨became.symm, rfl⟩
  summaries := by simp [before_transfer, fate_changeIn]
  flush id row found := by
    simp [before_transfer, Plan.doomed, flushUser, Plan.takesSummary, found]

theorem moved_refers {now : Db} (present : Relational.Db.present now .users targetId = true) {artifact : Artifact} :
    ∀ key ∈ [refers Tbl.organizations fun row : Artifact => some row.orgId, refers .users fun row => some row.ownerUserId],
      ∀ v, key.get (artifact.moved userId targetId) = some v →
        key.get artifact = some v ∨ key.cascades = false ∧ Relational.Db.present now key.target v = true := by
  intro key member v refers_to
  unfold Artifact.moved at refers_to
  split at refers_to
  · simp only [List.mem_cons, List.not_mem_nil, or_false] at member
    rcases member with same | same <;> subst same
    · exact Or.inl refers_to
    · obtain rfl := Option.some.inj refers_to
      exact Or.inr ⟨rfl, present⟩
  · exact Or.inl refers_to

theorem harmless_transfer (target : ((db .users).find targetId).isSome = true) :
    ∀ op ∈ (Plan.transfer userId targetId membershipId).before db, ∀ now, SameTargets db now →
      Op.Harmless (S := schema) now op := by
  intro op member now same_targets
  have present : Relational.Db.present now .users targetId = true :=
    (same_targets .shares (refers .users (·.fromUserId)) List.mem_cons_self rfl targetId).trans target
  rw [before_transfer] at member
  simp only [List.mem_cons, List.not_mem_nil, or_false] at member
  -- in the order of the plan: what is handed over, what is deleted, and the shares
  rcases member with same | same | same | same | same | same | same | same | same | same | same <;> subst same
  · exact harmless_changeIn fun _ _ => moved_refers present
  · exact harmless_changeIn fun _ _ => moved_refers present
  · exact harmless_changeIn fun _ _ => moved_refers present
  · apply harmless_changeIn
    intro id row key inside v refers_to
    split at refers_to
    · simp only [keys, List.mem_cons, List.not_mem_nil, or_false] at inside
      rcases inside with same | same <;> subst same
      · exact Or.inl refers_to
      · obtain rfl := Option.some.inj refers_to
        exact Or.inr ⟨rfl, present⟩
    · exact Or.inl refers_to
  · apply harmless_changeIn
    intro id row key inside v refers_to
    split at refers_to
    · simp only [keys, List.mem_cons, List.not_mem_nil, or_false] at inside
      rcases inside with same | same <;> subst same
      · exact Or.inl refers_to
      · obtain rfl := Option.some.inj refers_to
        exact Or.inr ⟨rfl, present⟩
    · exact Or.inl refers_to
  · exact harmless_deleteFrom (by decide)
  · exact harmless_deleteFrom (by decide)
  · exact harmless_deleteFrom (by decide)
  · exact harmless_deleteFrom (by decide)
  · exact harmless_deleteFrom (by decide)
  · apply harmless_changeIn
    intro id row key inside v refers_to
    -- a share that is handed over changes its ends; the others stay as they are
    cases became : forwarded db userId targetId id row with
    | none =>
      rw [became] at refers_to
      exact Or.inl refers_to
    | some after =>
      rw [became, (forwarded_some became).1] at refers_to
      simp only [keys, List.mem_cons, List.not_mem_nil, or_false] at inside
      rcases inside with same | same <;> subst same
      · by_cases own : row.fromUserId = userId
        · simp only [refers, Option.getD_some, if_pos own, Option.some.injEq] at refers_to
          subst refers_to
          exact Or.inr ⟨rfl, present⟩
        · simp only [refers, Option.getD_some, if_neg own] at refers_to
          exact Or.inl refers_to
      · by_cases own : row.toUserId = userId
        · simp only [refers, Option.getD_some, if_pos own, Option.some.injEq] at refers_to
          subst refers_to
          exact Or.inr ⟨rfl, present⟩
        · simp only [refers, Option.getD_some, if_neg own] at refers_to
          exact Or.inl refers_to

theorem transfer_completes_iff (integral : Relational.Db.Integral db) (target : ((db .users).find targetId).isSome = true) :
    (Plan.transfer userId targetId membershipId).Completes db ↔ (Plan.transfer userId targetId membershipId).Clear db := by
  obtain ⟨now, ran, _⟩ := run_of_harmless shallow integral (@harmless_transfer _ userId targetId membershipId target)
  exact completes_iff_clear sparesLinks_transfer integral ran fun _ _ _ => outcome_transfer

end Transferring

section Tasks

variable {db now : Db}

theorem execute_tasks_iff (integral : Relational.Db.Integral now) (condition : Nat → Task → Bool) :
    (Relational.Db.execute now (.deleteFrom .tasks condition)).isSome ↔
      ∀ id usage, (now .usageEvents).find id = some usage → ∀ v, usage.taskId = some v →
        ∀ task, (now .tasks).find v = some task → condition v task = false := by
  rw [Op.deleteFrom, execute_delete_iff shallow integral]
  constructor
  · intro spared id usage found v refers_to task stored
    have plain : ∀ key ∈ schema.keys .usageEvents, key.cascades = false := by decide
    have stays : ((Op.apply (S := schema) (.deleteFrom .tasks condition) now).settled .usageEvents).find id = some usage := by
      rw [find_settled_of_plain plain, find_apply, found, Option.bind_some]
      apply fate_deleteFrom_ne
      decide
    have kept := spared .usageEvents id usage stays (refers .tasks (·.taskId)) (by simp [keys]) rfl v refers_to task stored
    dsimp only [refers] at kept
    simpa using kept
  · intro spared t id row found key member plain v refers_to old stored
    by_cases to_tasks : key.target = .tasks
    · -- only usage refers to tasks
      have of_usage : (keys t).all (fun key => key.target != .tasks || t == .usageEvents) = true := by cases t <;> rfl
      have usage := List.all_eq_true.mp of_usage key member
      simp only [to_tasks, bne_self_eq_false, Bool.false_or, beq_iff_eq] at usage
      subst usage
      have in_now := (settled_some.mp found).1
      rw [find_apply] at in_now
      obtain ⟨before, stored_before, became⟩ := Option.bind_eq_some_iff.mp in_now
      have same := fate_of_delete ⟨.tasks, condition, rfl⟩ became
      subst same
      simp only [keys, List.mem_cons, List.not_mem_nil, or_false] at member
      rcases member with same | same | same
      · rw [same] at to_tasks
        contradiction
      · rw [same] at to_tasks
        contradiction
      · subst same
        dsimp only [refers] at stored refers_to ⊢
        simpa using spared id row stored_before v refers_to old stored
    · simp [to_tasks]

variable {first last : List Stmt} {condition : Nat → Task → Bool}

/-- A plan that deletes tasks between harmless statements gets through them when no usage event that is
left then refers to one of those tasks. -/
theorem ran_iff (integral : Relational.Db.Integral db) (harmless_first : ∀ op ∈ first, ∀ now, Op.Harmless (S := schema) now op)
    (harmless_last : ∀ op ∈ last, ∀ now, Op.Harmless (S := schema) now op) :
    (∃ now, Relational.Db.run db (first ++ [.deleteFrom .tasks condition] ++ last) = some now) ↔
      ∀ id usage, ((db .usageEvents).find id).bind (Op.fates (S := schema) first .usageEvents id) = some usage →
        ∀ v, usage.taskId = some v → ∀ task, ((db .tasks).find v).bind (Op.fates (S := schema) first .tasks v) = some task →
          condition v task = false := by
  obtain ⟨middle, ran, middle_integral, _⟩ := run_of_harmless shallow integral fun op member now _ => harmless_first op member now
  have usage_plain : ∀ key ∈ schema.keys .usageEvents, key.cascades = false := by decide
  have tasks_plain : ∀ key ∈ schema.keys .tasks, key.cascades = false := by decide
  have tasks := execute_tasks_iff middle_integral condition
  simp only [find_run usage_plain ran, find_run tasks_plain ran] at tasks
  rw [← tasks, List.append_assoc]
  constructor
  · rintro ⟨now, all⟩
    rw [run_append, ran, Option.bind_some, List.singleton_append, run_cons] at all
    obtain ⟨next, executed, _⟩ := Option.bind_eq_some_iff.mp all
    rw [executed]
    rfl
  · intro executes
    obtain ⟨next, executed⟩ := Option.isSome_iff_exists.mp executes
    obtain ⟨integral_next, same⟩ := execute_eq_some.mp executed
    obtain ⟨now, rest, _⟩ := run_of_harmless shallow (same ▸ integral_next) fun op member now _ => harmless_last op member now
    refine ⟨now, ?_⟩
    rw [run_append, ran, Option.bind_some, List.singleton_append, run_cons, executed]
    exact rest

end Tasks

section Deleting

variable {db : Db} {userId : Nat} {membershipId : Option Nat} {promoted : Option (Nat × Nat)} {t : Tbl} {id : Nat}
  {row row' : Row t}

/-- The statements of `delete_user_account` before it deletes the tasks. -/
def accountFirst (userId : Nat) (promoted : Option (Nat × Nat)) : List Stmt :=
  promoted.toList.map (fun (orgId, successor) => promote orgId successor) ++ [clearUsage userId]

def accountRest (userId : Nat) : List Stmt :=
  [deleteSkills userId none, deleteShares userId, deleteHiddenItems userId, deleteUserTagLinks userId, deleteUserTags userId,
    clearImpersonationTarget userId, deleteUserSessions userId, deleteApiTokens userId, deletePasswordResetTokens userId,
    deleteMfaChallenges userId, deleteRecoveryCodes userId]

theorem before_account : (Plan.account userId membershipId promoted).before db =
    accountFirst userId promoted ++ [deleteTasks userId] ++
      (hardDeleteLibrary db (fun row => row.ownerUserId == userId) ++ accountRest userId) := by
  simp [Plan.before, accountFirst, accountRest, purgeUserOwnedData, purgeUserAuth, deleteAllUserTags]

def accountOwn (userId : Nat) (promoted : Option (Nat × Nat)) : List Stmt :=
  accountFirst userId promoted ++ [deleteTasks userId] ++ accountRest userId

theorem fates_account (spared : t ∉ [Tbl.shares, .hiddenItems, .userTagLinks, .audios]) :
    Op.fates (S := schema) ((Plan.account userId membershipId promoted).before db) t id row =
      Op.fates (S := schema) (accountOwn userId promoted) t id row := by
  rw [before_account, accountOwn, fates_append, fates_append (accountFirst userId promoted ++ [deleteTasks userId])]
  congr 1
  funext between
  rw [fates_append, fates_library_spared spared, Option.bind_some]

theorem fates_account_le (became : Op.fates (S := schema) ((Plan.account userId membershipId promoted).before db) t id row =
    some row') : Op.fates (S := schema) (accountOwn userId promoted) t id row = some row' := by
  rw [before_account, fates_append] at became
  obtain ⟨first, begins, rest⟩ := Option.bind_eq_some_iff.mp became
  rw [fates_append] at rest
  obtain ⟨between, middle, rest⟩ := Option.bind_eq_some_iff.mp rest
  rw [fates_library_le middle] at rest
  rw [accountOwn, fates_append, begins]
  exact rest

theorem harmless_accountFirst : ∀ op ∈ accountFirst userId promoted, ∀ now, Op.Harmless (S := schema) now op := by
  rw [accountFirst, List.forall_mem_append]
  constructor
  · intro op member now
    obtain ⟨⟨orgId, successor⟩, _, same⟩ := List.mem_map.mp member
    subst same
    apply harmless_changeIn
    intro id row key inside v refers_to
    simp only [keys, List.mem_cons, List.not_mem_nil, or_false] at inside
    split at refers_to
    · rcases inside with same | same <;> subst same <;> exact Or.inl refers_to
    · exact Or.inl refers_to
  · intro op member now
    rw [List.mem_singleton.mp member]
    apply harmless_changeIn
    intro id row key inside v refers_to
    simp only [keys, List.mem_cons, List.not_mem_nil, or_false] at inside
    split at refers_to
    · rcases inside with same | same | same <;> subst same
      · exact Or.inl refers_to
      · nomatch refers_to
      · nomatch refers_to
    · exact Or.inl refers_to

theorem harmless_clearImpersonation {now : Db} (userId : Nat) :
    Op.Harmless (S := schema) now (clearImpersonationTarget userId) := by
  apply harmless_changeIn
  intro id row key inside v refers_to
  simp only [keys, List.mem_cons, List.not_mem_nil, or_false] at inside
  split at refers_to
  · rcases inside with same | same <;> subst same
    · exact Or.inl refers_to
    · nomatch refers_to
  · exact Or.inl refers_to

theorem harmless_accountLast :
    ∀ op ∈ hardDeleteLibrary db (fun row => row.ownerUserId == userId) ++ accountRest userId, ∀ now,
      Op.Harmless (S := schema) now op := by
  rw [List.forall_mem_append]
  refine ⟨fun op member now => harmless_library op member, ?_⟩
  intro op member now
  simp only [accountRest, List.mem_cons, List.not_mem_nil, or_false] at member
  rcases member with same | same | same | same | same | same | same | same | same | same | same <;> rw [same]
  case inr.inr.inr.inr.inr.inl => exact harmless_clearImpersonation userId
  all_goals exact harmless_deleteFrom (by decide)

theorem sparesLinks_account : SparesLinks db (.account userId membershipId promoted) where
  links := by
    rw [before_account]
    simp only [List.forall_mem_append]
    refine ⟨⟨?_, ?_⟩, ?_, ?_⟩
    · cases promoted <;> simp [accountFirst]
    · simp
    · intro op member id row _
      exact library_spares (t := .summaryPublicLinks) (by decide) op member row
    · simp [accountRest]
  taken id row row' became := by
    rw [fates_account (by decide)] at became
    cases promoted <;> simp [accountOwn, accountFirst, accountRest] at became <;> exact ⟨became.symm, rfl⟩
  summaries := by
    rw [before_account]
    simp only [List.forall_mem_append]
    refine ⟨⟨?_, ?_⟩, ?_, ?_⟩
    · cases promoted <;> simp [accountFirst]
    · simp
    · intro op member id row
      rw [library_spares (t := .summaries) (by decide) op member row]
      rfl
    · simp [accountRest]
  flush id row found := by
    rw [fates_account (by decide)]
    refine ⟨row, ?_, ?_⟩
    · cases promoted <;> simp [accountOwn, accountFirst, accountRest]
    · simp [Plan.doomed, flushUser, Plan.takesSummary, found]

theorem outcome_account (free : ∀ id row, (db .usageEvents).find id = some row →
      Plan.holdsTask db row (.account userId membershipId promoted) = false)
    (link : t ≠ .summaryPublicLinks) (found : (db t).find id = some row) :
    Outcome db (.account userId membershipId promoted) t id row ↔
      Plan.leaves db (.account userId membershipId promoted) t id row = false := by
  by_cases spared : t ∉ [Tbl.shares, .hiddenItems, .userTagLinks, .audios]
  · rw [Outcome, fates_account spared]
    cases t
    all_goals try contradiction
    case usageEvents =>
      have no_task := free id row found
      cases promoted
      all_goals
        simp [accountOwn, accountFirst, accountRest, dead, keys, refers, any_beq, Plan.leaves, Plan.doomed, flushUser, no_task]
        grind
    all_goals
      cases promoted
      all_goals
        simp [accountOwn, accountFirst, accountRest, dead, keys, refers, follows, any_beq, Plan.leaves, Plan.doomed, flushUser,
          Plan.isOffboarding, Plan.leavesArtifact]
    all_goals grind
  · -- the rows that the loops over the library delete from, none of which is left
    have kept : Outcome db (.account userId membershipId promoted) t id row := by
      intro row' became _
      have own := fates_account_le became
      cases t
      all_goals try (simp at spared; done)
      case audios =>
        rw [before_account, fates_append] at became
        obtain ⟨first, begins, rest⟩ := Option.bind_eq_some_iff.mp became
        have untouched : row = first := by
          cases promoted <;> simpa [accountFirst] using begins
        subst untouched
        rw [fates_append] at rest
        obtain ⟨between, middle, _⟩ := Option.bind_eq_some_iff.mp rest
        obtain ⟨_, other⟩ := (fates_library_audio found).mp middle
        have same : row = row' := by
          cases promoted <;> simpa [accountOwn, accountFirst, accountRest] using own
        rw [← same]
        simpa [dead, keys, refers, any_beq] using other
      all_goals
        cases promoted
        all_goals
          simp [accountOwn, accountFirst, accountRest] at own
          obtain ⟨other, same⟩ := own
          subst same
          simpa [dead, keys, refers, follows, any_beq] using other
    have clear : Plan.leaves db (.account userId membershipId promoted) t id row = false := by
      cases t <;> first | rfl | simp at spared
    exact iff_of_true kept clear

theorem account_ran_iff (integral : Relational.Db.Integral db) :
    (∃ now, Relational.Db.run db ((Plan.account userId membershipId promoted).before db) = some now) ↔
      ∀ id row, (db .usageEvents).find id = some row →
        Plan.holdsTask db row (.account userId membershipId promoted) = false := by
  rw [before_account, ran_iff integral harmless_accountFirst harmless_accountLast]
  refine forall_congr' fun id => ?_
  cases found : (db .usageEvents).find id with
  | none => simp
  | some row =>
    have cleared : Op.fates (S := schema) (accountFirst userId promoted) .usageEvents id row =
        some (if row.userId = some userId then { row with userId := none, taskId := none } else row) := by
      cases promoted <;> simp [accountFirst]
    have same_task : ∀ v task, Op.fates (S := schema) (accountFirst userId promoted) .tasks v task = some task := by
      intro v task
      cases promoted <;> simp [accountFirst]
    simp only [Option.bind_some, cleared, Option.some.injEq, forall_eq', same_task]
    by_cases own : row.userId = some userId
    · simp [own, Plan.holdsTask]
    · cases task : row.taskId with
      | none => simp [own, Plan.holdsTask, task]
      | some v => cases stored : (db .tasks).find v <;> simp [own, Plan.holdsTask, Plan.takesTask, task, stored]

theorem account_completes_iff (integral : Relational.Db.Integral db) :
    (Plan.account userId membershipId promoted).Completes db ↔ (Plan.account userId membershipId promoted).Clear db := by
  by_cases free : ∀ id row, (db .usageEvents).find id = some row →
      Plan.holdsTask db row (.account userId membershipId promoted) = false
  · obtain ⟨now, ran⟩ := (account_ran_iff integral).mpr free
    exact completes_iff_clear sparesLinks_account integral ran fun _ _ _ => outcome_account free
  · -- a usage event that holds a task stops the deletion of the tasks
    refine iff_of_false ?_ ?_
    · intro completes
      obtain ⟨now, ran, _⟩ := (completes_iff integral).mp completes
      exact free ((account_ran_iff integral).mp ⟨now, ran⟩)
    · intro clear
      apply free
      intro id row found
      exact (Bool.or_eq_false_iff.mp (clear .usageEvents id row found)).1

end Deleting

end IdigestHub.Offboarding
