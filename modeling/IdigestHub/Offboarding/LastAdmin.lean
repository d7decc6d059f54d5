import IdigestHub.Foundation.Fallible
import IdigestHub.Offboarding.Admins

/-! Whether an organization keeps an active admin while its admins are changed by requests that run at the
same time. -/

set_option autoImplicit false

namespace IdigestHub.Offboarding

open Foundation Foundation.ReadCommitted Foundation.Runs
open Foundation.Relational (Op fates_append fates_cons fates_nil find_apply find_settled_of_plain fates_changeIn
  fates_changeIn_ne fates_deleteFrom_ne fate_changeIn fate_changeIn_ne)

section Conditions

variable (orgId : Nat)

def HasAdmin (db : Db) : Prop :=
  (db .organizations).find orgId = none ∨ ∃ id row, (db .memberships).find id = some row ∧ row.orgId = orgId ∧
    row.role = .orgAdmin ∧ enabled db row.userId = true

namespace Deed

def deletesOrg : Deed → Bool
  | remove _ plan => plan.removesOrg orgId
  | _ => false

def promoted : Deed → Option Nat
  | assign membershipId .orgAdmin => some membershipId
  | remove read plan => plan.promoted read
  | _ => none

def spares : Deed → Nat → Membership → Bool
  | nothing, _, _ => true
  | assign membershipId role, id, _ => id != membershipId || role == .orgAdmin
  | disable userId _, _, row => row.userId != userId
  | remove read plan, id, row => !plan.removes read row.userId && !plan.doomed read .memberships id row

/-- In the rows of the moment an active admin of the organization is there besides those whom the deed takes
away, or its successor is; or the organization goes. -/
def Guarded (deed : Deed) (rows : Db) : Prop :=
  (rows .organizations).find orgId = none ∨ deed.deletesOrg orgId = true ∨
    ∃ id row, (rows .memberships).find id = some row ∧ row.orgId = orgId ∧
      (row.role = .orgAdmin ∨ deed.promoted = some id) ∧ enabled rows row.userId = true ∧ deed.spares id row = true

end Deed

def StillGuarded (server : Server Db (Tbl × Nat)) : Event AdminRequest → Prop
  | .commit tx => ∀ transaction (deed : Deed), server.running tx = some transaction → transaction.left = [] →
      transaction.done = deed.statements → deed.Guarded orgId server.committed
  | _ => True

end Conditions

section Effects

variable {rows : Db} {t : Tbl} {id : Nat}

/-- A statement does to the rows of a table without cascading keys what its change of rows says. -/
def Performs (statement : Sent) (op : Stmt) : Prop :=
  ∀ rows : Db, ∀ t, (∀ key ∈ schema.keys t, key.cascades = false) → ∀ id,
    (statement.apply rows t).find id = ((rows t).find id).bind (op.fate t id)

theorem sent_performs (op : Stmt) : Performs (sent op) op := by
  intro rows t plain id
  change ((Op.apply (S := schema) op rows).settled t).find id = _
  rw [find_settled_of_plain plain, find_apply]

theorem flushUpdate_performs {table : Tbl} {membershipId : Nat} {f : Row table → Row table} :
    Performs (flushUpdate table membershipId (.changeIn table fun id row => if id = membershipId then f row else row))
      (.changeIn table fun id row => if id = membershipId then f row else row) := by
  intro rows t plain id
  rw [Statement.apply, flushUpdate]
  dsimp only
  cases present : (rows table).find membershipId with
  | some row =>
    rw [Option.isSome_some, if_pos rfl, Option.getD_some, find_settled_of_plain plain, find_apply]
  | none =>
    rw [Option.isSome_none, if_neg Bool.false_ne_true, Option.getD_none]
    by_cases same : t = table
    · subst same
      cases found : (rows t).find id with
      | none => rfl
      | some row =>
        rw [Option.bind_some, fate_changeIn, if_neg]
        intro here
        rw [here, present] at found
        contradiction
    · cases (rows t).find id with
      | none => rfl
      | some row => rw [Option.bind_some, fate_changeIn_ne same]

theorem statements_perform (deed : Deed) : List.Forall₂ Performs deed.statements deed.ops := by
  cases deed with
  | nothing => exact .nil
  | assign membershipId role => exact .cons flushUpdate_performs .nil
  | disable userId now => exact .cons (sent_performs _) (.cons flushUpdate_performs .nil)
  | remove read plan =>
    apply List.rel_append
    · cases plan.promoted read with
      | none => exact .nil
      | some id => exact .cons flushUpdate_performs .nil
    · rw [List.forall₂_map_left_iff, List.forall₂_same]
      exact fun op _ => sent_performs op

theorem find_performed {statements : List Sent} {ops : List Stmt} (perform : List.Forall₂ Performs statements ops)
    (plain : ∀ key ∈ schema.keys t, key.cascades = false) :
    (applyAll statements rows t).find id = ((rows t).find id).bind (Op.fates (S := schema) ops t id) := by
  induction perform generalizing rows with
  | nil => cases found : (rows t).find id <;> simp [applyAll, found]
  | cons first _ ih =>
    rw [applyAll, List.foldl_cons, ← applyAll, ih, first _ _ plain, Option.bind_assoc]
    rfl

end Effects

section Rows

variable {read : Db} {id : Nat}

theorem fates_before_users (plan : Plan) (row : User) :
    Op.fates (S := schema) (plan.before read) .users id row = some row := by
  cases plan with
  | transfer => simp [before_transfer]
  | wipe => rw [fates_wipe (by decide)]; simp [wipeRest]
  | account _ _ promoted =>
    rw [fates_account (by decide)]
    cases promoted <;> simp [accountOwn, accountFirst, accountRest]
  | organization =>
    rw [fates_organization (by decide)]
    simp [organizationOwn, fates_organizationMembers, goesWith]

theorem fates_before_organizations (plan : Plan) (row : Organization) :
    Op.fates (S := schema) (plan.before read) .organizations id row = some row := by
  cases plan with
  | transfer => simp [before_transfer]
  | wipe => rw [fates_wipe (by decide)]; simp [wipeRest]
  | account _ _ promoted =>
    rw [fates_account (by decide)]
    cases promoted <;> simp [accountOwn, accountFirst, accountRest]
  | organization =>
    rw [fates_organization (by decide)]
    simp [organizationOwn, fates_organizationMembers, goesWith]

theorem fates_before_memberships (plan : Plan) (row : Membership) :
    Op.fates (S := schema) (plan.unpromoted.before read) .memberships id row = some row := by
  cases plan with
  | transfer => simp [Plan.unpromoted, before_transfer]
  | wipe => dsimp only [Plan.unpromoted]; rw [fates_wipe (by decide)]; simp [wipeRest]
  | account => dsimp only [Plan.unpromoted]; rw [fates_account (by decide)]; simp [accountOwn, accountFirst, accountRest]
  | organization =>
    dsimp only [Plan.unpromoted]
    rw [fates_organization (by decide)]
    simp [organizationOwn, fates_organizationMembers, goesWith]

theorem unpromoted_removes (plan : Plan) : plan.unpromoted.removes read = plan.removes read := by
  cases plan <;> rfl

theorem unpromoted_removesOrg (plan : Plan) : plan.unpromoted.removesOrg = plan.removesOrg := by
  cases plan <;> rfl

theorem unpromoted_doomed (plan : Plan) : plan.unpromoted.doomed read = plan.doomed read := by
  cases plan <;> rfl

theorem fates_promotion {t : Tbl} {row : Row t} (promoted : Option Nat) (other : t ≠ .memberships) :
    Op.fates (S := schema) (promoted.toList.map fun id => setRole id .orgAdmin) t id row = some row := by
  cases promoted with
  | none => rfl
  | some _ => simp [other]

theorem deed_users (deed : Deed) (row : User) : Op.fates (S := schema) deed.ops .users id row =
    match deed with
    | .disable userId now => some (if id = userId then { row with disabledAt := some now } else row)
    | .remove read plan => if plan.removes read id then none else some row
    | _ => some row := by
  cases deed with
  | nothing => rfl
  | assign => simp [Deed.ops]
  | disable => simp [Deed.ops]
  | remove read plan =>
    rw [Deed.ops, fates_append, fates_promotion _ (by decide), Option.bind_some, Plan.statements, fates_append,
      fates_before_users, Option.bind_some, fates_cons, Op.fate, doomed_users, unpromoted_removes]
    dsimp only
    split <;> rfl

theorem deed_organizations (deed : Deed) (row : Organization) : Op.fates (S := schema) deed.ops .organizations id row =
    if deed.deletesOrg id then none else some row := by
  cases deed with
  | nothing => rfl
  | assign => simp [Deed.ops, Deed.deletesOrg]
  | disable => simp [Deed.ops, Deed.deletesOrg]
  | remove read plan =>
    rw [Deed.ops, fates_append, fates_promotion _ (by decide), Option.bind_some, Plan.statements, fates_append,
      fates_before_organizations, Option.bind_some, fates_cons, Op.fate, doomed_organizations, unpromoted_removesOrg,
      Deed.deletesOrg]
    split <;> rfl

theorem deed_memberships (deed : Deed) (row : Membership) : Op.fates (S := schema) deed.ops .memberships id row =
    match deed with
    | .assign membershipId role => some (if id = membershipId then { row with role } else row)
    | .remove read plan =>
      if plan.doomed read .memberships id row then none
      else some (if plan.promoted read = some id then { row with role := .orgAdmin } else row)
    | _ => some row := by
  cases deed with
  | nothing => rfl
  | assign => simp [Deed.ops]
  | disable => simp [Deed.ops]
  | remove read plan =>
    have same : plan.doomed read .memberships id { row with role := .orgAdmin } = plan.doomed read .memberships id row := by
      cases plan <;> rfl
    rw [Deed.ops, fates_append]
    have promotion : Op.fates (S := schema) ((plan.promoted read).toList.map fun id => setRole id .orgAdmin) .memberships id
        row = some (if plan.promoted read = some id then { row with role := .orgAdmin } else row) := by
      cases plan.promoted read with
      | none => rfl
      | some other => simp [eq_comm]
    rw [promotion, Option.bind_some, Plan.statements, fates_append, fates_before_memberships, Option.bind_some,
      fates_cons, Op.fate, unpromoted_doomed]
    dsimp only
    by_cases promotes : plan.promoted read = some id
    · rw [if_pos promotes, same]
      split <;> rfl
    · rw [if_neg promotes]
      split <;> rfl

end Rows

section Guarding

variable {orgId : Nat} {rows : Db}

theorem enabled_performed (deed : Deed) (userId : Nat) : enabled (applyAll deed.statements rows) userId =
    (enabled rows userId && match deed with
      | .disable other _ => userId != other
      | .remove read plan => !plan.removes read userId
      | _ => true) := by
  rw [enabled, enabled, find_performed (statements_perform deed) (by decide)]
  cases (rows .users).find userId with
  | none => rfl
  | some user =>
    rw [Option.bind_some, deed_users]
    cases deed with
    | nothing => simp
    | assign => simp
    | disable other now => by_cases same : userId = other <;> simp [same]
    | remove read plan => by_cases gone : plan.removes read userId = true <;> simp [gone]

/-- The organization has an admin after a deed exactly when the deed was guarded. -/
theorem hasAdmin_performed (deed : Deed) : HasAdmin orgId (applyAll deed.statements rows) ↔ deed.Guarded orgId rows := by
  have organization : (applyAll deed.statements rows .organizations).find orgId = none ↔
      (rows .organizations).find orgId = none ∨ deed.deletesOrg orgId = true := by
    rw [find_performed (statements_perform deed) (by decide)]
    cases (rows .organizations).find orgId with
    | none => simp
    | some row => rw [Option.bind_some, deed_organizations]; simp
  rw [HasAdmin, Deed.Guarded, organization, or_assoc]
  refine or_congr_right (or_congr_right (exists_congr fun id => ?_))
  rw [find_performed (statements_perform deed) (by decide)]
  cases (rows .memberships).find id with
  | none => simp
  | some row =>
    simp only [Option.bind_some, deed_memberships, enabled_performed, Option.some.injEq, exists_eq_left']
    cases deed with
    | nothing => simp [Deed.promoted, Deed.spares]
    | assign membershipId role =>
      by_cases same : id = membershipId
      · cases role <;> simp [Deed.promoted, Deed.spares, same]
      · have other : membershipId ≠ id := Ne.symm same
        cases role <;> simp [Deed.promoted, Deed.spares, same, other]
    | disable userId now => simp [Deed.promoted, Deed.spares]
    | remove read plan =>
      by_cases promotes : plan.promoted read = some id <;>
        simp [Deed.promoted, Deed.spares, promotes, and_comm, and_assoc, and_left_comm]

end Guarding

section Checks

variable {db : Db} {orgId userId : Nat}

def MembersUnique (db : Db) : Prop :=
  ∀ id id' row row', (db .memberships).find id = some row → (db .memberships).find id' = some row' →
    row.userId = row'.userId → id = id'

theorem membershipIn_some {id : Nat} (found : membershipIn db userId orgId = some id) :
    ∃ row, (db .memberships).find id = some row ∧ row.orgId = orgId ∧ row.userId = userId := by
  obtain ⟨row, stored, same⟩ := (Table.mem_select ..).mp (List.mem_of_mem_head? found)
  rw [Bool.and_eq_true, beq_iff_eq, beq_iff_eq] at same
  exact ⟨row, stored, same⟩

theorem membershipRow_some {id : Nat} {row : Membership} (found : membershipRow db userId orgId = some (id, row)) :
    (db .memberships).find id = some row ∧ row.orgId = orgId ∧ row.userId = userId := by
  obtain ⟨member, inside, rest⟩ := Option.bind_eq_some_iff.mp found
  obtain ⟨stored, there, same⟩ := Option.map_eq_some_iff.mp rest
  obtain ⟨same_id, same_row⟩ := Prod.mk.inj same
  subst same_id same_row
  obtain ⟨row, again, fits⟩ := membershipIn_some inside
  rw [there] at again
  rw [Option.some.inj again]
  exact ⟨there.trans again, fits⟩

theorem ownMembership_some {id : Nat} {row : Membership} (found : ownMembership db userId = some (id, row)) :
    (db .memberships).find id = some row ∧ row.userId = userId := by
  obtain ⟨member, inside, rest⟩ := Option.bind_eq_some_iff.mp found
  obtain ⟨stored, there, same⟩ := Option.map_eq_some_iff.mp rest
  obtain ⟨same_id, same_row⟩ := Prod.mk.inj same
  subst same_id same_row
  obtain ⟨row, again, fits⟩ := (Table.mem_select ..).mp (List.mem_of_mem_head? inside)
  rw [there] at again
  rw [Option.some.inj again]
  exact ⟨there.trans again, beq_iff_eq.mp fits⟩

theorem ownMembership_of_member {id : Nat} {row : Membership} (found : (db .memberships).find id = some row)
    (itself : row.userId = userId) : ∃ own, ownMembership db userId = some own := by
  have member : id ∈ (db .memberships).select fun _ row => row.userId == userId :=
    (Table.mem_select ..).mpr ⟨row, found, beq_iff_eq.mpr itself⟩
  rw [ownMembership]
  cases first : ((db .memberships).select fun _ row => row.userId == userId).head? with
  | none =>
    rw [List.head?_eq_none_iff.mp first] at member
    contradiction
  | some other =>
    obtain ⟨stored, there, _⟩ := (Table.mem_select ..).mp (List.mem_of_mem_head? first)
    exact ⟨(other, stored), by rw [Option.bind_some, there, Option.map_some]⟩

theorem other_admin (counted : isLastOrgAdmin db orgId userId = false) : ∃ id row, (db .memberships).find id = some row ∧
    row.orgId = orgId ∧ row.role = .orgAdmin ∧ enabled db row.userId = true ∧ row.userId ≠ userId := by
  have positive : (db .memberships).count (fun _ row => row.orgId == orgId && row.role == .orgAdmin &&
      enabled db row.userId && row.userId != userId) ≠ 0 := by
    intro zero
    rw [isLastOrgAdmin, activeOrgAdmins, zero] at counted
    contradiction
  rw [Ne, Table.count_eq_zero] at positive
  simp only [not_forall, Bool.not_eq_false] at positive
  obtain ⟨id, row, found, counts⟩ := positive
  simp only [Bool.and_eq_true, beq_iff_eq, bne_iff_ne, and_assoc] at counts
  exact ⟨id, row, found, counts⟩

theorem guarded_of_counted {deed : Deed} (has : HasAdmin orgId db)
    (counted : ∀ id row, (db .memberships).find id = some row → row.orgId = orgId → row.role = .orgAdmin →
      enabled db row.userId = true → deed.spares id row = false → deed.Guarded orgId db) : deed.Guarded orgId db := by
  rcases has with gone | ⟨id, row, found, inside, admin, active⟩
  · exact Or.inl gone
  · cases spared : deed.spares id row with
    | true => exact Or.inr (Or.inr ⟨id, row, found, inside, Or.inl admin, active, spared⟩)
    | false => exact counted id row found inside admin active spared

theorem guarded_assign (has : HasAdmin orgId db) {membershipId org : Nat} {membership : Membership} {role : Auth.Role}
    (found : membershipRow db userId org = some (membershipId, membership)) (known : isKnownRole role = true)
    (guard : membership.role = .orgAdmin → role = .orgMember → isLastOrgAdmin db org userId = false) :
    (assignRole membershipId membership role).Guarded orgId db := by
  obtain ⟨stored, inside, itself⟩ := membershipRow_some found
  unfold assignRole
  split
  · exact guarded_of_counted has fun _ _ _ _ _ _ taken => nomatch taken
  · apply guarded_of_counted has
    intro id row found' inside' admin _ taken
    simp only [Deed.spares, Bool.or_eq_false_iff, bne_eq_false_iff_eq, beq_eq_false_iff_ne] at taken
    obtain ⟨same, lower⟩ := taken
    subst same
    rw [stored] at found'
    obtain rfl := Option.some.inj found'
    have demoted : role = .orgMember := by
      simpa [isKnownRole, lower] using known
    -- the guard has counted an admin who is another member
    obtain ⟨other, row, there, same_org, is_admin, active, different⟩ := other_admin (guard admin demoted)
    refine Or.inr (Or.inr ⟨other, row, there, same_org.trans (inside.symm.trans inside'), Or.inl is_admin, active, ?_⟩)
    have other_row : other ≠ id := by
      intro same_id
      rw [same_id, stored] at there
      exact different (Option.some.inj there ▸ itself)
    simp [Deed.spares, other_row]

theorem guarded_of_only {deed : Deed} (unique : MembersUnique db) (has : HasAdmin orgId db) {id org : Nat}
    {membership : Membership}
    (stored : (db .memberships).find id = some membership) (inside : membership.orgId = org) (itself : membership.userId = userId)
    (only : ∀ other row, (db .memberships).find other = some row → deed.spares other row = false → row.userId = userId)
    (guard : membership.role = .orgAdmin → isLastOrgAdmin db org userId = false) : deed.Guarded orgId db := by
  apply guarded_of_counted has
  intro id' row found' inside' admin _ taken
  have same : id' = id := unique id' id row membership found' stored ((only id' row found' taken).trans itself.symm)
  subst same
  rw [stored] at found'
  obtain rfl := Option.some.inj found'
  obtain ⟨other, row, there, same_org, is_admin, active, different⟩ := other_admin (guard admin)
  refine Or.inr (Or.inr ⟨other, row, there, same_org.trans (inside.symm.trans inside'), Or.inl is_admin, active, ?_⟩)
  cases spared : deed.spares other row with
  | true => rfl
  | false => exact absurd (only other row there spared) different

theorem guarded_patchUserRole (has : HasAdmin orgId db) {actorId : Nat} {role : Auth.Role} {deed : Deed}
    (passes : patchUserRole db actorId userId role = .ok deed) : deed.Guarded orgId db := by
  unfold patchUserRole at passes
  split at passes
  · contradiction
  · split at passes
    · contradiction
    · rename_i known
      split at passes
      · contradiction
      · rename_i found
        split at passes
        · contradiction
        · rename_i guard
          split at passes
          · contradiction
          · rw [← Except.ok.inj passes]
            apply guarded_assign has found (by simpa using known)
            intro admin member
            simpa [admin, member] using guard

theorem guarded_patchOrgUserRole (has : HasAdmin orgId db) {actorId org : Nat} {role : Auth.Role} {deed : Deed}
    (passes : patchOrgUserRole db actorId org userId role = .ok deed) : deed.Guarded orgId db := by
  unfold patchOrgUserRole at passes
  split at passes
  · contradiction
  · split at passes
    · rename_i _ found _
      split at passes
      · contradiction
      · split at passes
        · contradiction
        · rename_i known
          split at passes
          · contradiction
          · rename_i guard
            rw [← Except.ok.inj passes]
            apply guarded_assign has found (by simpa using known)
            intro admin member
            simpa [admin, member] using guard
    · contradiction

theorem guarded_disableUser (unique : MembersUnique db) (has : HasAdmin orgId db) {actorId : Nat} {now : Int} {deed : Deed}
    (passes : disableUser db actorId userId now = .ok deed) : deed.Guarded orgId db := by
  unfold disableUser at passes
  split at passes
  · contradiction
  · split at passes
    · rename_i found _
      split at passes
      · contradiction
      · rename_i guard
        rw [← Except.ok.inj passes]
        obtain ⟨stored, inside, itself⟩ := membershipRow_some found
        apply guarded_of_only unique has stored inside itself
        · intro other row _ taken
          simpa [Deed.spares] using taken
        · intro admin
          simpa [admin] using guard
    · contradiction

theorem taken_of_spares {membershipId : Option Nat} {other : Nat} {row : Membership}
    (taken : (!(row.userId == userId) && !(membershipId == some other)) = false) :
    row.userId = userId ∨ membershipId = some other := by
  simpa [or_iff_not_imp_left] using taken

theorem offboardUser_takes {org : Nat} {action : Action} {plan : Plan} (passes : offboardUser db userId org action = .ok plan) :
    ∃ id membership, (db .memberships).find id = some membership ∧ membership.orgId = org ∧ membership.userId = userId ∧
      (membership.role = .orgAdmin → isLastOrgAdmin db org userId = false) ∧
      ∀ other row, (Deed.remove db plan).spares other row = false → row.userId = userId ∨ some id = some other := by
  unfold offboardUser at passes
  split at passes
  · rename_i id _ found _
    obtain ⟨membership, stored, inside, itself⟩ := membershipIn_some found
    dsimp only at passes
    split at passes
    · contradiction
    · rename_i guard
      refine ⟨id, membership, stored, inside, itself, ?_, ?_⟩
      · intro admin
        simpa [stored, admin, isLastOrgAdmin] using guard
      · intro other row taken
        split at passes
        · contradiction
        · split at passes
          · contradiction
          · rw [← Except.ok.inj passes] at taken
            exact taken_of_spares taken
        · rw [← Except.ok.inj passes] at taken
          exact taken_of_spares taken
        · contradiction
  · contradiction

theorem guarded_offboardUser (unique : MembersUnique db) (has : HasAdmin orgId db) {org : Nat} {action : Action} {plan : Plan}
    (passes : offboardUser db userId org action = .ok plan) : (Deed.remove db plan).Guarded orgId db := by
  obtain ⟨id, membership, stored, inside, itself, guard, takes⟩ := offboardUser_takes passes
  apply guarded_of_only unique has stored inside itself _ guard
  intro other row found taken
  rcases takes other row taken with same | same
  · exact same
  · rw [← Option.some.inj same, stored] at found
    exact Option.some.inj found ▸ itself

theorem candidate_membership {org successor : Nat} (candidate : (candidates db userId org).contains successor = true) :
    ∃ id row, membershipIn db successor org = some id ∧ (db .memberships).find id = some row ∧ row.orgId = org ∧
      row.userId = successor ∧ successor ≠ userId ∧ enabled db successor = true := by
  rw [List.contains_iff_mem, candidates, List.mem_filter, List.mem_filterMap, Bool.and_eq_true, bne_iff_ne] at candidate
  obtain ⟨⟨id, member, same⟩, different, active⟩ := candidate
  obtain ⟨row, stored, inside⟩ := (Table.mem_select ..).mp member
  have itself : row.userId = successor := by simpa [stored] using same
  have selected : id ∈ (db .memberships).select fun _ row => row.orgId == org && row.userId == successor :=
    (Table.mem_select ..).mpr ⟨row, stored, by simpa [itself] using inside⟩
  obtain ⟨first, found⟩ : ∃ first, membershipIn db successor org = some first := by
    cases found : membershipIn db successor org with
    | some first => exact ⟨first, rfl⟩
    | none =>
      rw [List.head?_eq_none_iff.mp found] at selected
      contradiction
  obtain ⟨row', there, fits⟩ := membershipIn_some found
  exact ⟨first, row', found, there, fits.1, fits.2, different, active⟩

theorem guarded_organization (unique : MembersUnique db) (has : HasAdmin orgId db) (org : Nat) :
    (Deed.remove db (.organization org)).Guarded orgId db := by
  by_cases same : orgId = org
  · exact Or.inr (Or.inl (beq_iff_eq.mpr same))
  · apply guarded_of_counted has
    intro id row found inside _ _ taken
    have elsewhere : ¬row.orgId = org := fun here => same (inside.symm.trans here)
    simp only [Deed.spares, Plan.removes_organization, Plan.doomed, flushOrganization, Bool.and_eq_false_iff,
      Bool.not_eq_false', List.contains_iff_mem, Bool.and_eq_true, beq_iff_eq, elsewhere, false_and, or_false] at taken
    -- the user goes as a member of the organization, but is a member of this one
    obtain ⟨other, member, rest⟩ := List.mem_filterMap.mp taken
    obtain ⟨row', stored, there⟩ := (Table.mem_select ..).mp member
    rw [stored, Option.bind_some] at rest
    split at rest
    · contradiction
    · have alike := unique other id row' row stored found (Option.some.inj rest)
      rw [alike, found] at stored
      rw [← Option.some.inj stored] at there
      exact absurd (beq_iff_eq.mp there) elsewhere

theorem guarded_deleteUserAccount (unique : MembersUnique db) (has : HasAdmin orgId db) {successor : Option Nat} {plan : Plan}
    (passes : deleteUserAccount db userId successor = .ok plan) : (Deed.remove db plan).Guarded orgId db := by
  unfold deleteUserAccount at passes
  split at passes
  · contradiction
  · split at passes
    · contradiction
    · split at passes
      · -- the user is no member
        rename_i no_membership
        rw [← Except.ok.inj passes]
        apply guarded_of_counted has
        intro id row found _ _ _ taken
        have itself := (taken_of_spares taken).resolve_right nofun
        obtain ⟨own, there⟩ := ownMembership_of_member found itself
        rw [no_membership] at there
        contradiction
      · rename_i id membership own
        obtain ⟨stored, itself⟩ := ownMembership_some own
        have only : ∀ promoted other row, (db .memberships).find other = some row →
            (Deed.remove db (.account userId (some id) promoted)).spares other row = false → row.userId = userId := by
          intro promoted other row found taken
          rcases taken_of_spares taken with same | same
          · exact same
          · rw [← Option.some.inj same, stored] at found
            exact Option.some.inj found ▸ itself
        split at passes
        · rename_i counted
          rw [← Except.ok.inj passes]
          apply guarded_of_only unique has stored rfl itself (only none)
          intro admin
          simpa [admin, isLastOrgAdmin, Nat.one_le_iff_ne_zero] using counted
        · split at passes
          · rw [← Except.ok.inj passes]
            exact guarded_organization unique has membership.orgId
          · split at passes
            · contradiction
            · rename_i successor
              split at passes
              · rename_i candidate
                rw [← Except.ok.inj passes]
                obtain ⟨other, row, found, there, inside, is_successor, different, active⟩ := candidate_membership candidate
                apply guarded_of_counted has
                intro taken_id taken_row found' inside' _ _ taken
                have same_user := only _ taken_id taken_row found' taken
                have same_id := unique taken_id id taken_row membership found' stored (same_user.trans itself.symm)
                rw [same_id, stored] at found'
                have same_org : membership.orgId = orgId := Option.some.inj found' ▸ inside'
                -- the successor is promoted in the place of the user
                refine Or.inr (Or.inr ⟨other, row, there, inside.trans same_org, Or.inr found, is_successor ▸ active, ?_⟩)
                cases spared : (Deed.remove db (.account userId (some id) (some (membership.orgId, successor)))).spares
                    other row with
                | true => rfl
                | false => exact absurd (is_successor.symm.trans (only _ other row there spared)) different
              · contradiction

theorem guarded_of_check (unique : MembersUnique db) (has : HasAdmin orgId db) {request : AdminRequest} {deed : Deed}
    (passes : check db request = .ok deed) : deed.Guarded orgId db := by
  cases request with
  | patchUserRole actorId userId role => exact guarded_patchUserRole has passes
  | disableUser actorId userId now => exact guarded_disableUser unique has passes
  | offboardUser actorId userId action =>
    simp only [check] at passes
    split at passes
    · contradiction
    · obtain ⟨plan, offboards, same⟩ := Fallible.map_ok.mp passes
      rw [← same]
      exact guarded_offboardUser unique has offboards
  | patchOrgUserRole actorId org userId role => exact guarded_patchOrgUserRole has passes
  | deleteUserAccount userId successor =>
    obtain ⟨plan, deletes, same⟩ := Fallible.map_ok.mp passes
    rw [← same]
    exact guarded_deleteUserAccount unique has deletes

end Checks

section Runs

variable {orgId : Nat} {start : Db} {server : Server Db (Tbl × Nat)}

theorem redeeming_nothing : Redeeming plan (fun _ : Db => True) := by
  have never : ∀ request rows redeems statements, plan request rows = some (redeems, statements) → redeems = false := by
    intro request rows redeems statements planned
    unfold plan at planned
    split at planned
    · exact (Prod.mk.inj (Option.some.inj planned)).1.symm
    · contradiction
  refine ⟨?_, ?_, ?_, ?_⟩
  · exact fun _ _ _ _ => trivial
  · intro request rows statements planned
    exact absurd (never request rows true statements planned) (by decide)
  · exact fun _ _ _ _ _ _ _ _ bad => absurd trivial bad
  · exact fun _ _ _ _ _ _ _ _ => trivial

/-- The deeds add no member, and move none. -/
theorem membersUnique_performed (unique : MembersUnique server.committed) (deed : Deed) :
    MembersUnique (applyAll deed.statements server.committed) := by
  have was {id : Nat} {row : Membership} (found : (applyAll deed.statements server.committed .memberships).find id = some row) :
      ∃ before, (server.committed .memberships).find id = some before ∧ before.userId = row.userId := by
    rw [find_performed (statements_perform deed) (by decide), Option.bind_eq_some_iff] at found
    obtain ⟨before, there, becomes⟩ := found
    refine ⟨before, there, ?_⟩
    rw [deed_memberships] at becomes
    cases deed <;> dsimp only at becomes <;> (repeat' split at becomes) <;> first | contradiction | (cases becomes; rfl)
  intro id id' row row' found found' same
  obtain ⟨before, there, user⟩ := was found
  obtain ⟨before', there', user'⟩ := was found'
  exact unique id id' before before' there there' (user.trans (same.trans user'.symm))

theorem deed_of_planned {transaction : Transaction Db (Tbl × Nat)} (planned : Planned plan transaction)
    (finished : transaction.left = []) : ∃ deed : Deed, transaction.done = deed.statements := by
  obtain ⟨request, rows, planned⟩ := planned
  rw [finished, List.append_nil, plan] at planned
  split at planned
  · rename_i deed _
    exact ⟨deed, (Prod.mk.inj (Option.some.inj planned)).2.symm⟩
  · contradiction

theorem hasAdmin_step (server : Server Db (Tbl × Nat)) (event : Event AdminRequest)
    (sound : Sound plan (fun _ => True) start server) (now : HasAdmin orgId server.committed) :
    HasAdmin orgId (server.step plan event).committed ↔ StillGuarded orgId server event := by
  have unchanged : (∀ tx, event ≠ .commit tx) → (server.step plan event).committed = server.committed :=
    fun other => (committed_of_not_commit plan server event other).1
  cases event with
  | commit tx =>
    rcases step_commit plan server tx with ⟨nothing, unfinished⟩ | ⟨transaction, running, finished, committed⟩
    · rw [nothing]
      refine iff_of_true now ?_
      intro transaction _ running finished
      exact absurd finished (unfinished transaction running)
    · obtain ⟨deed, done⟩ := deed_of_planned (sound.planned tx transaction running) finished
      rw [committed]
      dsimp only
      rw [done, hasAdmin_performed]
      constructor
      · intro guarded other deed' running' _ done'
        rw [running] at running'
        rw [← hasAdmin_performed, ← done', ← Option.some.inj running', done, hasAdmin_performed]
        exact guarded
      · intro guarded
        exact guarded transaction deed running finished done
  | start tx request => exact iff_of_true (unchanged nofun ▸ now) trivial
  | execute tx => exact iff_of_true (unchanged nofun ▸ now) trivial
  | abort tx => exact iff_of_true (unchanged nofun ▸ now) trivial

theorem membersUnique_step (server : Server Db (Tbl × Nat)) (event : Event AdminRequest)
    (sound : Sound plan (fun _ => True) start server) (unique : MembersUnique server.committed) :
    MembersUnique (server.step plan event).committed := by
  have unchanged (other : ∀ tx, event ≠ .commit tx) : MembersUnique (server.step plan event).committed := by
    rwa [(committed_of_not_commit plan server event other).1]
  cases event with
  | commit tx =>
    rcases step_commit plan server tx with ⟨nothing, _⟩ | ⟨transaction, running, finished, committed⟩
    · rwa [nothing]
    · obtain ⟨deed, done⟩ := deed_of_planned (sound.planned tx transaction running) finished
      rw [committed]
      dsimp only
      rw [done]
      exact membersUnique_performed unique deed
  | start tx request => exact unchanged nofun
  | execute tx => exact unchanged nofun
  | abort tx => exact unchanged nofun

theorem membersUnique_run (unique : MembersUnique start) (events : List (Event AdminRequest)) :
    MembersUnique (run (Server.step plan) (Server.opening start) events).committed := by
  have both : Sound plan (fun _ => True) start (run (Server.step plan) (Server.opening start) events) ∧
      MembersUnique (run (Server.step plan) (Server.opening start) events).committed :=
    run_induction (I := fun _ server => Sound plan (fun _ => True) start server ∧ MembersUnique server.committed)
      ⟨sound_opening, unique⟩
      (fun _ event server now => ⟨sound_step redeeming_nothing server event now.1, membersUnique_step server event now.1 now.2⟩)
      events
  exact both.2

theorem stillGuarded_of_reads {tx : Nat} {rows : Db} (reads : Reads plan rows tx server) (unique : MembersUnique rows)
    (has : HasAdmin orgId rows) : StillGuarded orgId server (.commit tx) := by
  intro transaction deed running finished done
  obtain ⟨request, planned⟩ := reads.2 transaction running
  rw [finished, List.append_nil, plan] at planned
  split at planned
  · rename_i checked passes
    have guarded := guarded_of_check unique has passes
    have same : checked.statements = deed.statements := (Prod.mk.inj (Option.some.inj planned)).2.trans done
    rw [reads.1, ← hasAdmin_performed, ← same, hasAdmin_performed]
    exact guarded
  · contradiction

/-- An organization that has an active admin keeps one after every commit exactly on the runs on which each
deed is still guarded when it commits. Where users are members once, a deed is guarded unless another has committed since
its transaction began. -/
theorem last_admin_kept_iff (orgId : Nat) (start : Db) (has : HasAdmin orgId start) (events : List (Event AdminRequest)) :
    (Always (Server.step plan) (fun server => HasAdmin orgId server.committed) (Server.opening start) events ↔
      Along (Server.step plan) (StillGuarded orgId) (Server.opening start) events) ∧
    (MembersUnique start → ∀ done since tx rest, events = done ++ since ++ .commit tx :: rest →
      (run (Server.step plan) (Server.opening start) done).running tx = none →
      HasAdmin orgId (run (Server.step plan) (Server.opening start) done).committed →
      (∀ event ∈ since, ∀ other, event ≠ .commit other) →
      StillGuarded orgId (run (Server.step plan) (Server.opening start) (done ++ since)) (.commit tx)) := by
  refine ⟨always_iff_along_of (sound_step redeeming_nothing) hasAdmin_step sound_opening has, ?_⟩
  intro unique done since tx _ _ idle admin uncommitted
  rw [run_append]
  exact stillGuarded_of_reads (reads_of_idle idle uncommitted) (membersUnique_run unique done) admin

instance (db : Db) : Decidable (MembersUnique db) :=
  decidable_of_iff (∀ entry ∈ (db .memberships).entries, ∀ other ∈ (db .memberships).entries,
      entry.2.userId = other.2.userId → entry.1 = other.1) <| by
    constructor
    · exact fun unique id id' row row' found found' same =>
        unique ⟨id, row⟩ ((Table.mem_entries ..).mpr found) ⟨id', row'⟩ ((Table.mem_entries ..).mpr found') same
    · exact fun unique entry member other member' same =>
        unique _ _ _ _ ((Table.mem_entries ..).mp member) ((Table.mem_entries ..).mp member') same

instance (db : Db) : Decidable (HasAdmin orgId db) :=
  decidable_of_iff ((db .organizations).find orgId = none ∨ ∃ entry ∈ (db .memberships).entries, entry.2.orgId = orgId ∧
      entry.2.role = .orgAdmin ∧ enabled db entry.2.userId = true) <| by
    refine or_congr_right ?_
    constructor
    · rintro ⟨entry, member, admin⟩
      exact ⟨entry.1, entry.2, (Table.mem_entries ..).mp member, admin⟩
    · rintro ⟨id, row, found, admin⟩
      exact ⟨⟨id, row⟩, (Table.mem_entries ..).mpr found, admin⟩

def pairOfAdmins : Db
  | .users => (∅ : Table Nat User) |>.put 1 ⟨"first@idigest", false, none⟩ |>.put 2 ⟨"second@idigest", false, none⟩
  | .organizations => (∅ : Table Nat Organization) |>.put 1 ⟨"pair"⟩
  | .memberships => (∅ : Table Nat Membership) |>.put 1 ⟨1, 1, .orgAdmin⟩ |>.put 2 ⟨2, 1, .orgAdmin⟩
  | _ => ∅

def demoteEachOther : List (Event AdminRequest) :=
  [.start 0 (.patchUserRole 1 2 .orgMember), .start 1 (.patchUserRole 2 1 .orgMember), .execute 0, .execute 1, .commit 0,
    .commit 1]

/-- The first of the two commits is guarded. -/
theorem last_admin_kept_of_pair :
    (Always (Server.step plan) (fun server => HasAdmin 1 server.committed) (Server.opening pairOfAdmins) demoteEachOther ↔
      Along (Server.step plan) (StillGuarded 1) (Server.opening pairOfAdmins) demoteEachOther) ∧
    StillGuarded 1 (run (Server.step plan) (Server.opening pairOfAdmins) (demoteEachOther.take 4)) (.commit 0) := by
  obtain ⟨kept, guarded⟩ := last_admin_kept_iff 1 pairOfAdmins (by decide +kernel) demoteEachOther
  refine ⟨kept, guarded (by decide +kernel) [] (demoteEachOther.take 4) 0 [.commit 1] rfl rfl (by decide +kernel) ?_⟩
  simp [demoteEachOther]

/-- Afterwards the organization has no admin. -/
theorem both_admins_demoted : HasAdmin 1 pairOfAdmins ∧
    ¬Always (Server.step plan) (fun server => HasAdmin 1 server.committed) (Server.opening pairOfAdmins) demoteEachOther := by
  refine ⟨by decide +kernel, ?_⟩
  intro always
  have last := always demoteEachOther [] (List.append_nil _).symm
  revert last
  decide +kernel

end Runs

end IdigestHub.Offboarding
