import IdigestHub.Offboarding.Completion

/-! The deletion of an organization with its members, and the four removals together. -/

set_option autoImplicit false

namespace IdigestHub.Offboarding

open Foundation Foundation.Relational

section Members

variable {t : Tbl} {id : Nat} {users : List Nat}

theorem deleteOrgMember_eq (userId : Nat) : deleteOrgMember userId =
    [clearImpersonationTarget userId, deleteUserSessions userId, deleteApiTokens userId, deletePasswordResetTokens userId,
      deleteMfaChallenges userId, deleteRecoveryCodes userId, deleteSkills userId (some .self), deleteShares userId,
      deleteHiddenItems userId, deleteUserTagLinks userId, deleteUserTags userId] := rfl

def endedWith (userId : Nat) (row : Session) : Option Session :=
  if row.userId = userId then none
  else some (if row.impersonateUserId = some userId then { row with impersonateUserId := none } else row)

/-- The rows of other tables that the turn for a member deletes. -/
def goesWith (userId : Nat) : (t : Tbl) → Row t → Bool
  | .apiTokens, row | .passwordResetTokens, row | .mfaChallenges, row | .recoveryCodes, row | .userTags, row =>
    row.userId == userId
  | .skills, row => row.ownerUserId == some userId && .self == row.scope
  | .shares, row => row.fromUserId == userId || row.toUserId == userId
  | .hiddenItems, row => row.userId == userId
  | .userTagLinks, row => row.userId == userId
  | _, _ => false

theorem fates_member_session (userId : Nat) (row : Session) :
    Op.fates (S := schema) (deleteOrgMember userId) .sessions id row = endedWith userId row := by
  simp [deleteOrgMember_eq, endedWith]
  split <;> rfl

theorem fates_member (other : t ≠ .sessions) (userId : Nat) (row : Row t) :
    Op.fates (S := schema) (deleteOrgMember userId) t id row = if goesWith userId t row then none else some row := by
  rw [deleteOrgMember_eq]
  cases t
  all_goals try contradiction
  all_goals simp [goesWith]

theorem fates_members (other : t ≠ .sessions) (row : Row t) :
    Op.fates (S := schema) (users.flatMap deleteOrgMember) t id row =
      if users.any fun userId => goesWith userId t row then none else some row := by
  induction users with
  | nil => rfl
  | cons userId rest ih =>
    rw [List.flatMap_cons, fates_append, fates_member other, List.any_cons]
    cases goesWith userId t row with
    | true => rfl
    | false => simpa using ih

/-- The sessions of the members go, and so do the marks that others impersonate one. -/
theorem fates_members_session (row : Session) :
    Op.fates (S := schema) (users.flatMap deleteOrgMember) .sessions id row =
      if row.userId ∈ users then none
      else some { row with impersonateUserId := row.impersonateUserId.filter fun userId => userId ∉ users } := by
  induction users generalizing row with
  | nil => cases row with | mk userId target => cases target <;> rfl
  | cons userId rest ih =>
    rw [List.flatMap_cons, fates_append, fates_member_session, endedWith]
    by_cases own : row.userId = userId
    · simp [own]
    · rw [if_neg own, Option.bind_some, ih]
      cases row with | mk holder target =>
      cases target with
      | none => simp [own]
      | some target =>
        by_cases same : target = userId
        · simp [own, same, Option.filter]
        · simp [own, same, Option.filter]

end Members

section Organizations

variable {db : Db} {orgId : Nat} {t : Tbl} {id : Nat} {row row' : Row t}

theorem before_organization : (Plan.organization orgId).before db =
    deleteOrganizationLibrary db orgId ++ [deleteOrgTasks orgId] ++ deleteOrganizationMembers db orgId := rfl

theorem fates_organizationFirst (spared : t ∉ [Tbl.shares, .hiddenItems, .userTagLinks, .audios]) :
    Op.fates (S := schema) (deleteOrganizationLibrary db orgId) t id row =
      Op.fates (S := schema) [deleteOrgSkills orgId, deleteOrgPublicLinks orgId, deleteOrgUsageEvents orgId] t id row := by
  rw [deleteOrganizationLibrary, fates_append, fates_library_spared spared, Option.bind_some]

def organizationOwn (orgId : Nat) : List Stmt :=
  [deleteOrgSkills orgId, deleteOrgPublicLinks orgId, deleteOrgUsageEvents orgId, deleteOrgTasks orgId]

theorem fates_organization (spared : t ∉ [Tbl.shares, .hiddenItems, .userTagLinks, .audios]) :
    Op.fates (S := schema) ((Plan.organization orgId).before db) t id row =
      (Op.fates (S := schema) (organizationOwn orgId) t id row).bind
        (Op.fates (S := schema) (deleteOrganizationMembers db orgId) t id) := by
  rw [before_organization, fates_append, fates_append, fates_organizationFirst spared, ← fates_append]
  rfl

theorem fates_organization_le (became : Op.fates (S := schema) ((Plan.organization orgId).before db) t id row = some row') :
    (Op.fates (S := schema) (organizationOwn orgId) t id row).bind
      (Op.fates (S := schema) (deleteOrganizationMembers db orgId) t id) = some row' := by
  rw [before_organization, fates_append, fates_append] at became
  obtain ⟨between, first, last⟩ := Option.bind_eq_some_iff.mp became
  obtain ⟨begun, library, tasks⟩ := Option.bind_eq_some_iff.mp first
  rw [deleteOrganizationLibrary, fates_append] at library
  obtain ⟨wiped, loops, own⟩ := Option.bind_eq_some_iff.mp library
  rw [fates_library_le loops] at own
  have all : Op.fates (S := schema) (organizationOwn orgId) t id row = some between := by
    change Op.fates (S := schema) ([deleteOrgSkills orgId, deleteOrgPublicLinks orgId, deleteOrgUsageEvents orgId] ++
      [deleteOrgTasks orgId]) t id row = some between
    rw [fates_append, own, Option.bind_some]
    exact tasks
  rw [all]
  exact last

theorem fates_organizationMembers (other : t ≠ .sessions) (hidden : t ≠ .hiddenItems) :
    Op.fates (S := schema) (deleteOrganizationMembers db orgId) t id row =
      if (orgMembers db orgId).any fun userId => goesWith userId t row then none else some row := by
  rw [deleteOrganizationMembers, fates_append, fates_members other]
  split
  · rfl
  · rw [Option.bind_some, fates_deleteFrom_ne hidden, fates_nil]

theorem fates_organizationMembers_le (other : t ≠ .sessions)
    (became : Op.fates (S := schema) (deleteOrganizationMembers db orgId) t id row = some row') :
    row' = row ∧ ∀ userId ∈ orgMembers db orgId, goesWith userId t row = false := by
  rw [deleteOrganizationMembers, fates_append, fates_members other] at became
  obtain ⟨between, members, hidden⟩ := Option.bind_eq_some_iff.mp became
  rw [Option.ite_none_left_eq_some, Option.some.injEq, List.any_eq_true, not_exists] at members
  rw [fates_cons, Option.bind_eq_some_iff] at hidden
  obtain ⟨last, deleted, same⟩ := hidden
  rw [← Option.some.inj same, fate_of_delete ⟨_, _, rfl⟩ deleted, ← members.2]
  refine ⟨rfl, ?_⟩
  intro userId member
  rw [← Bool.not_eq_true]
  exact fun goes => members.1 userId ⟨member, goes⟩

theorem fates_organizationMembers_session {session : Session} :
    Op.fates (S := schema) (deleteOrganizationMembers db orgId) .sessions id session =
      if session.userId ∈ orgMembers db orgId then none
      else some { session with
        impersonateUserId := session.impersonateUserId.filter fun userId => userId ∉ orgMembers db orgId } := by
  rw [deleteOrganizationMembers, fates_append, fates_members_session]
  split
  · rfl
  · simp

theorem harmless_organizationFirst : ∀ op ∈ deleteOrganizationLibrary db orgId, ∀ now, Op.Harmless (S := schema) now op := by
  rw [deleteOrganizationLibrary, List.forall_mem_append]
  refine ⟨fun op member now => harmless_library op member, ?_⟩
  intro op member now
  simp only [List.mem_cons, List.not_mem_nil, or_false] at member
  rcases member with same | same | same <;> rw [same] <;> exact harmless_deleteFrom (by decide)

theorem harmless_organizationLast : ∀ op ∈ deleteOrganizationMembers db orgId, ∀ now, Op.Harmless (S := schema) now op := by
  rw [deleteOrganizationMembers, List.forall_mem_append]
  constructor
  · intro op member now
    obtain ⟨userId, _, inside⟩ := List.mem_flatMap.mp member
    rw [deleteOrgMember_eq] at inside
    simp only [List.mem_cons, List.not_mem_nil, or_false] at inside
    rcases inside with same | same | same | same | same | same | same | same | same | same | same <;> rw [same]
    case inl => exact harmless_clearImpersonation userId
    all_goals exact harmless_deleteFrom (by decide)
  · intro op member now
    rw [List.mem_singleton.mp member]
    exact harmless_deleteFrom (by decide)

theorem members_spare (spared : t ∈ [Tbl.summaryPublicLinks, .summaries]) :
    ∀ op ∈ deleteOrganizationMembers db orgId, ∀ row : Row t, Op.fate (S := schema) op t id row = some row := by
  rw [deleteOrganizationMembers, List.forall_mem_append]
  simp only [List.mem_cons, List.not_mem_nil, or_false] at spared
  constructor
  · intro op member row
    obtain ⟨userId, _, inside⟩ := List.mem_flatMap.mp member
    rw [deleteOrgMember_eq] at inside
    simp only [List.mem_cons, List.not_mem_nil, or_false] at inside
    rcases spared with same | same <;> subst same <;>
      rcases inside with same | same | same | same | same | same | same | same | same | same | same <;> rw [same] <;> simp
  · rcases spared with same | same <;> subst same <;> simp

theorem sparesLinks_organization : SparesLinks db (.organization orgId) where
  links := by
    rw [before_organization, deleteOrganizationLibrary]
    simp only [List.forall_mem_append]
    refine ⟨⟨⟨?_, ?_⟩, ?_⟩, ?_⟩
    · intro op member id row _
      exact library_spares (t := .summaryPublicLinks) (by decide) op member row
    · simp +contextual [fate_deleteFrom]
    · simp
    · intro op member id row _
      exact members_spare (t := .summaryPublicLinks) (by decide) op member row
  taken id row row' became := by
    rw [fates_organization (by decide)] at became
    obtain ⟨between, own, members⟩ := Option.bind_eq_some_iff.mp became
    rw [fates_of_untouched fun op member row => members_spare (t := .summaryPublicLinks) (by decide) op member row] at members
    simp [organizationOwn] at own
    rw [← Option.some.inj members, ← own.2]
    exact ⟨rfl, by simpa using own.1⟩
  summaries := by
    rw [before_organization, deleteOrganizationLibrary]
    simp only [List.forall_mem_append]
    refine ⟨⟨⟨?_, ?_⟩, ?_⟩, ?_⟩
    · intro op member id row
      rw [library_spares (t := .summaries) (by decide) op member row]
      rfl
    · simp
    · simp
    · intro op member id row
      rw [members_spare (t := .summaries) (by decide) op member row]
      rfl
  flush id row found := by
    refine ⟨row, ?_, ?_⟩
    · rw [fates_organization (by decide)]
      have own : Op.fates (S := schema) (organizationOwn orgId) .summaries id row = some row := by simp [organizationOwn]
      rw [own, Option.bind_some]
      exact fates_of_untouched fun op member row => members_spare (t := .summaries) (by decide) op member row
    · simp [Plan.doomed, flushOrganization, Plan.takesSummary, found]

theorem outcome_skill {skill : Skill} : Outcome db (.organization orgId) .skills id skill ↔
    Plan.leaves db (.organization orgId) .skills id skill = false := by
  have became : ∀ row', Op.fates (S := schema) ((Plan.organization orgId).before db) .skills id skill = some row' ↔
      ¬skill.orgId = some orgId ∧
        (∀ userId ∈ orgMembers db orgId, skill.ownerUserId = some userId → ¬.self = skill.scope) ∧ skill = row' := by
    intro row'
    rw [fates_organization (by decide), Option.bind_eq_some_iff]
    simp [organizationOwn, fates_organizationMembers, goesWith, and_assoc]
  simp only [Outcome, became]
  simp [Plan.doomed, flushOrganization, dead, keys, refers, Plan.leaves]
  cases skill.ownerUserId with
  | none => simp [any_beq]
  | some userId => simp [any_beq]; grind

/-- An audio of another organization stays, whoever owns it. -/
theorem outcome_audio {audio : Artifact} (found : (db .audios).find id = some audio) :
    Outcome db (.organization orgId) .audios id audio ↔ Plan.leaves db (.organization orgId) .audios id audio = false := by
  have became : ∀ row', Op.fates (S := schema) ((Plan.organization orgId).before db) .audios id audio = some row' ↔
      row' = audio ∧ (audio.orgId == orgId) = false := by
    intro row'
    have library : Op.fates (S := schema) (hardDeleteLibrary db fun row => row.orgId == orgId) .audios id audio = some row' ↔
        row' = audio ∧ (audio.orgId == orgId) = false := fates_library_audio found
    rw [← library, before_organization, deleteOrganizationLibrary,
      List.append_assoc, List.append_assoc, fates_append]
    cases Op.fates (S := schema) (hardDeleteLibrary db fun row => row.orgId == orgId) .audios id audio with
    | none => simp
    | some row => simp [fates_organizationMembers, goesWith]
  simp only [Outcome, became]
  simp [Plan.doomed, flushOrganization, dead, keys, refers, Plan.leaves, Plan.leavesArtifact]
  grind

theorem outcome_organization (free : ∀ id row, (db .usageEvents).find id = some row →
      Plan.holdsTask db row (.organization orgId) = false)
    (link : t ≠ .summaryPublicLinks) (found : (db t).find id = some row) :
    Outcome db (.organization orgId) t id row ↔ Plan.leaves db (.organization orgId) t id row = false := by
  by_cases belongs : t ∈ [Tbl.shares, .hiddenItems, .userTagLinks]
  · -- what belongs to an object or to a member is gone, or refers to others
    have kept : Outcome db (.organization orgId) t id row := by
      intro row' became _
      obtain ⟨between, own, members⟩ := Option.bind_eq_some_iff.mp (fates_organization_le became)
      cases t
      all_goals try (simp at belongs; done)
      all_goals
        simp [organizationOwn] at own
        subst own
        obtain ⟨same, others⟩ := fates_organizationMembers_le (by decide) members
        subst same
        simp [goesWith] at others
        simp [dead, keys, refers, follows]
        grind
    have clear : Plan.leaves db (.organization orgId) t id row = false := by
      cases t <;> first | rfl | simp at belongs
    exact iff_of_true kept clear
  · by_cases audio : t = .audios
    · subst audio
      exact outcome_audio found
    have spared : t ∉ [Tbl.shares, .hiddenItems, .userTagLinks, .audios] := by
      simp only [List.mem_cons, List.not_mem_nil, or_false, not_or] at belongs ⊢
      exact ⟨belongs.1, belongs.2.1, belongs.2.2, audio⟩
    rw [Outcome, fates_organization spared]
    -- Skills, sessions, bookings and memberships are named on their own; for the rest only the references count.
    cases t
    all_goals try contradiction
    case skills =>
      rw [← outcome_skill, Outcome, fates_organization spared]
    case sessions =>
      simp [organizationOwn, fates_organizationMembers_session, dead, keys, refers, Plan.leaves, Plan.isOffboarding,
        Option.any_filter]
      exact fun stays _ => stays
    case usageEvents =>
      have no_task := free id row found
      simp [organizationOwn, fates_organizationMembers, goesWith, dead, keys, refers, Plan.leaves, Plan.doomed,
        flushOrganization, no_task]
      tauto
    case memberships =>
      simp [organizationOwn, fates_organizationMembers, goesWith, dead, keys, refers, Plan.leaves, Plan.doomed,
        flushOrganization]
      by_cases inside : row.orgId = orgId <;> simp [inside]
    all_goals
      simp [organizationOwn, fates_organizationMembers, goesWith, dead, keys, refers, follows, any_beq, Plan.leaves,
        Plan.doomed, flushOrganization, Plan.isOffboarding, Plan.leavesArtifact]
    all_goals grind

theorem organization_ran_iff (integral : Relational.Db.Integral db) :
    (∃ now, Relational.Db.run db ((Plan.organization orgId).before db) = some now) ↔
      ∀ id row, (db .usageEvents).find id = some row → Plan.holdsTask db row (.organization orgId) = false := by
  rw [before_organization, ran_iff integral harmless_organizationFirst harmless_organizationLast]
  simp only [fates_organizationFirst (t := .usageEvents) (by decide), fates_organizationFirst (t := .tasks) (by decide)]
  refine forall_congr' fun id => ?_
  cases found : (db .usageEvents).find id with
  | none => simp
  | some row =>
    by_cases inside : row.orgId = orgId
    · simp [inside, Plan.holdsTask]
    · cases task : row.taskId with
      | none => simp [inside, Plan.holdsTask, task]
      | some v => cases stored : (db .tasks).find v <;> simp [inside, Plan.holdsTask, Plan.takesTask, task, stored]

theorem organization_completes_iff (integral : Relational.Db.Integral db) :
    (Plan.organization orgId).Completes db ↔ (Plan.organization orgId).Clear db := by
  by_cases free : ∀ id row, (db .usageEvents).find id = some row → Plan.holdsTask db row (.organization orgId) = false
  · obtain ⟨now, ran⟩ := (organization_ran_iff integral).mpr free
    exact completes_iff_clear sparesLinks_organization integral ran fun _ _ _ => outcome_organization free
  · -- a usage event of another organization that holds a task stops the deletion of the tasks
    refine iff_of_false ?_ ?_
    · intro completes
      obtain ⟨now, ran, _⟩ := (completes_iff integral).mp completes
      exact free ((organization_ran_iff integral).mp ⟨now, ran⟩)
    · intro clear
      apply free
      intro id row found
      exact (Bool.or_eq_false_iff.mp (clear .usageEvents id row found)).1

end Organizations

section Removal

variable {db : Db}

theorem find_of_enabled {id : Nat} (active : enabled db id = true) : ((db .users).find id).isSome = true := by
  obtain ⟨user, found, _⟩ := Option.any_eq_true .. |>.mp active
  rw [found]
  rfl

/-- The guards of a transfer: another active member of the organization is named. -/
theorem offboardUser_transfer {userId orgId user target membershipId : Nat} {action : Action}
    (passes : offboardUser db userId orgId action = .ok (.transfer user target membershipId)) :
    user = userId ∧ action = .transfer (some target) ∧ enabled db target = true ∧
      membershipIn db userId orgId = some membershipId := by
  unfold offboardUser at passes
  split at passes
  · rename_i membership _ member _
    dsimp only at passes
    split at passes
    · contradiction
    · split at passes
      · contradiction
      · split at passes
        · contradiction
        · rename_i refused
          simp only [Bool.or_eq_true, Bool.not_eq_true', not_or, Bool.not_eq_false] at refused
          simp only [Except.ok.injEq, Plan.transfer.injEq] at passes
          obtain ⟨same_user, same_target, same_membership⟩ := passes
          subst same_user same_target same_membership
          exact ⟨rfl, rfl, refused.2, member⟩
      · nomatch Except.ok.inj passes
      · contradiction
  · contradiction

theorem deleteUserAccount_removes {userId : Nat} {successor : Option Nat} {plan : Plan}
    (passes : deleteUserAccount db userId successor = .ok plan) : plan.isOffboarding = false := by
  unfold deleteUserAccount at passes
  split at passes
  · contradiction
  · split at passes
    · contradiction
    · split at passes
      · rw [← Except.ok.inj passes, Plan.isOffboarding]
      · split at passes
        · rw [← Except.ok.inj passes, Plan.isOffboarding]
        · split at passes
          · rw [← Except.ok.inj passes, Plan.isOffboarding]
          · split at passes
            · contradiction
            · split at passes
              · rw [← Except.ok.inj passes, Plan.isOffboarding]
              · contradiction

theorem deleteOrg_removes {orgId : Nat} {confirmName : String} {plan : Plan}
    (passes : deleteOrg db orgId confirmName = .ok plan) : plan.isOffboarding = false := by
  unfold deleteOrg at passes
  split at passes
  · contradiction
  · split at passes
    · contradiction
    · rw [← Except.ok.inj passes, Plan.isOffboarding]

theorem target_of_passes {request : Request} {userId targetId membershipId : Nat}
    (passes : request.plan db = .ok (.transfer userId targetId membershipId)) :
    ((db .users).find targetId).isSome = true := by
  cases request with
  | offboard user orgId action => exact find_of_enabled (offboardUser_transfer passes).2.2.1
  | deleteAccount user successor => exact Bool.noConfusion (deleteUserAccount_removes passes)
  | deleteOrg orgId confirmName => exact Bool.noConfusion (deleteOrg_removes passes)

/-- Whether a removal that has passed its guards completes is whether the database holds none of the rows
that it leaves. -/
theorem removal_completes_iff (integral : Relational.Db.Integral db) (request : Request) (plan : Plan)
    (passes : request.plan db = .ok plan) : plan.Completes db ↔ plan.Clear db := by
  cases plan with
  | transfer userId targetId membershipId => exact transfer_completes_iff integral (target_of_passes passes)
  | wipe userId membershipId => exact wipe_completes_iff integral
  | account userId membershipId promoted => exact account_completes_iff integral
  | organization orgId => exact organization_completes_iff integral

def office : Db
  | .users => (∅ : Table Nat User) |>.put 1 ⟨"admin@idigest", false, none⟩ |>.put 2 ⟨"member@idigest", false, none⟩
  | .organizations => (∅ : Table Nat Organization) |>.put 1 ⟨"office"⟩
  | .memberships => (∅ : Table Nat Membership) |>.put 1 ⟨1, 1, .orgAdmin⟩ |>.put 2 ⟨2, 1, .orgMember⟩
  | .audios => (∅ : Table Nat Artifact) |>.put 1 ⟨1, 2⟩
  | _ => ∅

def officeWithTask : Db
  | .tasks => (∅ : Table Nat Task) |>.put 1 ⟨1, 2⟩
  | t => office t

theorem removal_completes_of_member : (Plan.wipe 2 2).Completes office ↔ (Plan.wipe 2 2).Clear office :=
  removal_completes_iff (by decide +kernel) (.offboard 2 1 .wipe) _ rfl

/-- A member who has a task passes the guards of a wipe, which then fails on the task. -/
theorem wipe_stopped_by_task : Relational.Db.Integral officeWithTask ∧
    (Request.offboard 2 1 .wipe).plan officeWithTask = .ok (.wipe 2 2) ∧ ¬(Plan.wipe 2 2).Completes officeWithTask := by
  refine ⟨by decide +kernel, rfl, ?_⟩
  rintro ⟨db', ran, _⟩
  have stopped : Relational.Db.run officeWithTask ((Plan.wipe 2 2).statements officeWithTask) = none := by decide +kernel
  rw [stopped] at ran
  contradiction

end Removal

end IdigestHub.Offboarding
