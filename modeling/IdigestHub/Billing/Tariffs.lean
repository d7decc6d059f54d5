import IdigestHub.Billing.Ledgers
import IdigestHub.Foundation.Fallible

/-! Tariffs over their life: which of them an organization can be given, what an administrator is shown before one of
them is deleted, and what its deletion then does. -/

set_option autoImplicit false

namespace IdigestHub.Billing

open Foundation Foundation.Runs

structure TariffChoice where
  id : Nat
  name : String
  deriving DecidableEq

structure TariffDeleteImpact where
  tariff : TariffChoice
  archived : Bool
  lastTariff : Bool
  orgCount : Nat
  affectedOrgs : List Nat
  availableTariffs : List TariffChoice
  suggestedReplacement : Option TariffChoice
  canRemediate : Bool
  blocking : Bool
  deriving DecidableEq

inductive CatalogCode where
  | notFound | lastTariff | tariffInUse | validationError | signupDisabled | tariffNotAvailable
  deriving DecidableEq

inductive CatalogResponse where
  | entered (response : EntryResponse)
  -- of a deletion with a remediation, how many organizations were updated
  | ok (orgsUpdated : Option Nat)
  | failed (code : CatalogCode)
  -- the database refuses: status 500
  | raised
  deriving DecidableEq

inductive CatalogRequest where
  | entry (entry : Entry)
  -- the other checks of a signup have passed
  | signup (tariffId : Nat)
  | patchOrgTariff (orgId tariffId : Nat)
  -- seeds a tariff when there is none
  | listTariffs
  | deleteTariff (tariffId : Nat) (remediation : Option Nat)
  -- with its name as the confirmation
  | deleteOrg (orgId : Nat)

def TariffOf.onSignup {Price : Type} (tariff : TariffOf Price) : Bool := !tariff.archived && tariff.availableOnSignup

def defaultTariff : TariffRow where
  name := "Default"
  unlimited := true
  availableOnSignup := true
  archived := false
  pricePerAudioSec := ((0 : Int) : Fixed)
  pricePer1kSummaryChars := ((0 : Int) : Fixed)
  audioRetentionDays := 0
  apiEnabled := true
  signupCredit := ((0 : Int) : Money)
  maxUploadBytes := maxUploadBytesCap
  toneAnalyticsEnabled := false

namespace Books

def orgsOf (books : Books) (tariffId : Nat) : List Nat := books.orgs.select fun _ org => org.tariffId == tariffId

def orgCountForTariff (books : Books) (tariffId : Nat) : Nat := (books.orgsOf tariffId).length

/-- The tariffs that are not archived, but for one, in the order of their creation: ids are given in that order. -/
def replacements (books : Books) (excludeId : Nat) : List (Nat × TariffRow) :=
  ((books.tariffs.select fun tariffId tariff => tariffId != excludeId && !tariff.archived).insertionSort (· ≤ ·)).filterMap
    fun tariffId => (books.tariffs.find tariffId).map (tariffId, ·)

def tariffChoice (row : Nat × TariffRow) : TariffChoice := ⟨row.1, row.2.name⟩

/-- `_replacement_options`: the oldest that a signup is offered, else the oldest. -/
def replacementOptions (books : Books) (excludeId : Nat) : Option TariffChoice × List TariffChoice :=
  let rows := books.replacements excludeId
  let signup := rows.find? fun row => row.2.availableOnSignup
  ((signup.or rows.head?).map tariffChoice, rows.map tariffChoice)

def computeTariffDeleteImpact (books : Books) (tariffId : Nat) (tariff : TariffRow) : TariffDeleteImpact :=
  let lastTariff : Bool := books.tariffs.size ≤ 1
  let orgCount := books.orgCountForTariff tariffId
  let options := books.replacementOptions tariffId
  { tariff := ⟨tariffId, tariff.name⟩
    archived := tariff.archived
    lastTariff
    orgCount
    affectedOrgs := books.orgsOf tariffId
    availableTariffs := options.2
    suggestedReplacement := options.1
    canRemediate := orgCount != 0 && !options.2.isEmpty
    blocking := lastTariff || (orgCount != 0 && options.2.isEmpty) }

def moveOrg (replacementId : Nat) (state : Table Nat OrgRow × Nat) (orgId : Nat) : Table Nat OrgRow × Nat :=
  (state.1.modify orgId fun org => { org with tariffId := replacementId }, state.2 + 1)

/-- `apply_tariff_remediation`, the loop over the organizations; without a value the replacement is invalid. -/
def applyTariffRemediation (books : Books) (fromTariffId replacementTariffId : Nat) : Option (Books × Nat) :=
  match books.tariffs.find replacementTariffId with
  | none => none
  | some replacement =>
    if replacementTariffId = fromTariffId ∨ replacement.archived then none
    else
      let (orgs, orgsUpdated) := (books.orgsOf fromTariffId).foldl (moveOrg replacementTariffId) (books.orgs, 0)
      some ({ books with orgs }, orgsUpdated)

/-- The row goes, unless an organization refers to it. -/
def dropTariff (books : Books) (tariffId : Nat) : Option Books :=
  if books.orgCountForTariff tariffId = 0 then some { books with tariffs := books.tariffs.delete tariffId } else none

def deleteTariff (books : Books) (tariffId : Nat) (remediation : Option Nat) : CatalogResponse × Books :=
  let failed (code : CatalogCode) : CatalogResponse × Books := (.failed code, books)
  let dropped (books' : Books) (orgsUpdated : Option Nat) : CatalogResponse × Books :=
    match books'.dropTariff tariffId with
    | none => (.raised, books)
    | some after => (.ok orgsUpdated, after)
  match books.tariffs.find tariffId with
  | none => failed .notFound
  | some _ =>
    if books.tariffs.size ≤ 1 then failed .lastTariff
    else
      let orgCount := books.orgCountForTariff tariffId
      if 0 < orgCount then
        match remediation with
        | none => failed .tariffInUse
        | some replacementId =>
          match books.applyTariffRemediation tariffId replacementId with
          | none => failed .validationError
          | some (moved, orgsUpdated) =>
            if orgsUpdated ≠ orgCount then failed .validationError else dropped moved (some orgsUpdated)
      else dropped books none

def seedDefaultTariff (books : Books) : Books :=
  if books.tariffs.size = 0 then (books.storeTariff books.nextId defaultTariff).2 else books

def enter (books : Books) (entry : Entry) : CatalogResponse × Books :=
  let (response, after) := books.handle entry
  (.entered response, after)

def signup (books : Books) (tariffId : Nat) : CatalogResponse × Books :=
  if (books.tariffs.select fun _ tariff => tariff.onSignup).isEmpty then (.failed .signupDisabled, books)
  else
    match (books.tariffs.find tariffId).filter TariffOf.onSignup with
    | none => (.failed .tariffNotAvailable, books)
    | some _ => books.enter (.createOrg tariffId)

def patchOrgTariff (books : Books) (orgId tariffId : Nat) : CatalogResponse × Books :=
  match (books.tariffs.find tariffId).filter TariffOf.onSignup with
  | none => (.failed .tariffNotAvailable, books)
  | some _ => books.enter (.setOrgTariff orgId tariffId)

def serve (books : Books) : CatalogRequest → CatalogResponse × Books
  | .entry entry => books.enter entry
  | .signup tariffId => books.signup tariffId
  | .patchOrgTariff orgId tariffId => books.patchOrgTariff orgId tariffId
  | .listTariffs => (.ok none, books.seedDefaultTariff)
  | .deleteTariff tariffId remediation => books.deleteTariff tariffId remediation
  | .deleteOrg orgId =>
    if (books.orgs.find orgId).isNone then (.failed .notFound, books)
    else (.ok none, { books with orgs := books.orgs.delete orgId })

def serving (books : Books) (request : CatalogRequest) : Books := (books.serve request).2


section Previews

def deletes (books : Books) (tariffId : Nat) (remediation : Option Nat) : Prop :=
  ∃ orgsUpdated, (books.deleteTariff tariffId remediation).1 = .ok orgsUpdated

/-- What a deletion leaves: the organizations of the tariff on its replacement, and everything else as it was. -/
structure Replaced (books after : Books) (tariffId : Nat) (remediation : Option Nat) : Prop where
  orgs : ∀ orgId, after.orgs.find orgId = (books.orgs.find orgId).map fun org =>
    if orgId ∈ books.orgsOf tariffId then { org with tariffId := remediation.getD org.tariffId } else org
  tariffs : ∀ other, after.tariffs.find other = if other = tariffId then none else books.tariffs.find other
  nextId : after.nextId = books.nextId

/-- The preview of a tariff's deletion tells which deletions will succeed, and what they do. -/
structure Foretold (books : Books) (tariffId : Nat) (tariff : TariffRow) (impact : TariffDeleteImpact) : Prop where
  deletes_iff : ∀ remediation, books.deletes tariffId remediation ↔
    impact.lastTariff = false ∧
      (impact.orgCount = 0 ∨ ∃ choice ∈ impact.availableTariffs, remediation = some choice.id)
  blocking_iff : impact.blocking = true ↔ ∀ remediation, ¬ books.deletes tariffId remediation
  suggested : impact.canRemediate = true → ∃ choice, impact.suggestedReplacement = some choice ∧
    choice ∈ impact.availableTariffs ∧ books.deletes tariffId (some choice.id)
  counted : ∀ orgsUpdated remediation, (books.deleteTariff tariffId remediation).1 = .ok (some orgsUpdated) →
    orgsUpdated = impact.orgCount
  affected : impact.affectedOrgs.length = impact.orgCount ∧
    ∀ orgId, orgId ∈ impact.affectedOrgs ↔ ∃ org, books.orgs.find orgId = some org ∧ org.tariffId = tariffId
  replaced : ∀ remediation, books.deletes tariffId remediation →
    books.Replaced (books.deleteTariff tariffId remediation).2 tariffId remediation
  refused : ∀ remediation, ¬ books.deletes tariffId remediation →
    ∃ code, books.deleteTariff tariffId remediation = (.failed code, books)

variable {books : Books} {tariffId : Nat}

theorem mem_orgsOf {orgId : Nat} : orgId ∈ books.orgsOf tariffId ↔ ∃ org, books.orgs.find orgId = some org ∧
    org.tariffId = tariffId := by
  rw [orgsOf, Table.mem_select]
  simp only [beq_iff_eq]

theorem mem_replacements {row : Nat × TariffRow} : row ∈ books.replacements tariffId ↔
    books.tariffs.find row.1 = some row.2 ∧ row.1 ≠ tariffId ∧ row.2.archived = false := by
  obtain ⟨id, tariff⟩ := row
  rw [replacements, List.mem_filterMap]
  constructor
  · rintro ⟨other, member, made⟩
    obtain ⟨its, found, same⟩ := Option.map_eq_some_iff.mp made
    obtain ⟨rfl, rfl⟩ := Prod.mk.inj same
    obtain ⟨again, found_again, selected⟩ := (Table.mem_select ..).mp ((List.mem_insertionSort _).mp member)
    obtain rfl := Option.some.inj (found.symm.trans found_again)
    simpa [found] using selected
  · rintro ⟨found, other, opened⟩
    refine ⟨id, (List.mem_insertionSort _).mpr ((Table.mem_select ..).mpr ⟨tariff, found, ?_⟩), by rw [found]; rfl⟩
    simpa using ⟨other, opened⟩

theorem suggested_available (some_available : (books.replacementOptions tariffId).2 ≠ []) :
    ∃ row ∈ books.replacements tariffId, (books.replacementOptions tariffId).1 = some (tariffChoice row) := by
  have rows : books.replacements tariffId ≠ [] := fun empty => some_available (by rw [replacementOptions, empty]; rfl)
  obtain ⟨first, rest, are⟩ := List.exists_cons_of_ne_nil rows
  rw [replacementOptions]
  cases signup : (books.replacements tariffId).find? fun row => row.2.availableOnSignup with
  | some row => exact ⟨row, List.mem_of_find?_eq_some signup, by rw [Option.some_or, Option.map_some]⟩
  | none => exact ⟨first, are ▸ List.mem_cons_self, by rw [Option.none_or, are]; rfl⟩

theorem moveOrg_run (replacementId : Nat) (orgIds : List Nat) (state : Table Nat OrgRow × Nat) (orgId : Nat) :
    (orgIds.foldl (moveOrg replacementId) state).1.find orgId =
        (state.1.find orgId).map (fun org => if orgId ∈ orgIds then { org with tariffId := replacementId } else org) ∧
      (orgIds.foldl (moveOrg replacementId) state).2 = state.2 + orgIds.length := by
  induction orgIds generalizing state with
  | nil => exact ⟨by simp, rfl⟩
  | cons next rest ih =>
    obtain ⟨found, counted⟩ := ih (moveOrg replacementId state next)
    rw [List.foldl_cons, found, counted, List.length_cons]
    refine ⟨?_, Nat.add_right_comm ..⟩
    change ((state.1.modify next _).find orgId).map _ = _
    rw [Table.find_modify]
    by_cases same : orgId = next
    · subst same
      rw [if_pos rfl, Option.map_map]
      congr 1
      funext org
      -- moved once or twice, to the same tariff
      simp
    · rw [if_neg same]
      simp [same]

theorem Replaced.of_unused {after : Books} {given : Option Nat} (replaced : books.Replaced after tariffId given)
    (unused : books.orgCountForTariff tariffId = 0) (remediation : Option Nat) : books.Replaced after tariffId remediation := by
  refine ⟨fun orgId => ?_, replaced.tariffs, replaced.nextId⟩
  rw [replaced.orgs, List.eq_nil_of_length_eq_zero unused]
  simp

theorem dropTariff_unused (unused : books.orgCountForTariff tariffId = 0) :
    ∃ after, books.dropTariff tariffId = some after ∧ books.Replaced after tariffId none := by
  refine ⟨{ books with tariffs := books.tariffs.delete tariffId }, if_pos unused, ?_, ?_, rfl⟩
  · intro orgId
    rw [List.eq_nil_of_length_eq_zero unused]
    simp
  · exact fun other => Table.find_delete ..

/-- Once its organizations have moved nothing refers to a tariff: the database never refuses. -/
theorem dropTariff_moved {replacementId : Nat} (other : replacementId ≠ tariffId) {moved : Table Nat OrgRow × Nat}
    (ran : (books.orgsOf tariffId).foldl (moveOrg replacementId) (books.orgs, 0) = moved) :
    moved.2 = books.orgCountForTariff tariffId ∧
      ∃ after, ({ books with orgs := moved.1 } : Books).dropTariff tariffId = some after ∧
        books.Replaced after tariffId (some replacementId) := by
  subst ran
  have moves := moveOrg_run replacementId (books.orgsOf tariffId) (books.orgs, 0)
  refine ⟨(moves 0).2.trans (Nat.zero_add _), { books with
    orgs := ((books.orgsOf tariffId).foldl (moveOrg replacementId) (books.orgs, 0)).1
    tariffs := books.tariffs.delete tariffId }, ?_, fun orgId => (moves orgId).1, fun other => Table.find_delete .., rfl⟩
  refine if_pos (List.length_eq_zero_iff.mpr (List.eq_nil_iff_forall_not_mem.mpr fun orgId member => ?_))
  obtain ⟨org, found, refers⟩ := mem_orgsOf.mp member
  rw [(moves orgId).1] at found
  obtain ⟨before, was, now⟩ := Option.map_eq_some_iff.mp found
  by_cases affected : orgId ∈ books.orgsOf tariffId
  · rw [if_pos affected] at now
    exact other (by rw [← refers, ← now])
  · rw [if_neg affected] at now
    exact affected (mem_orgsOf.mpr ⟨before, was, now ▸ refers⟩)

theorem deleteTariff_cases {tariff : TariffRow} (found : books.tariffs.find tariffId = some tariff) (remediation : Option Nat) :
    (books.tariffs.size ≤ 1 ∧ books.deleteTariff tariffId remediation = (.failed .lastTariff, books)) ∨
      (1 < books.tariffs.size ∧ books.orgCountForTariff tariffId = 0 ∧ ∃ after, books.Replaced after tariffId none ∧
        books.deleteTariff tariffId remediation = (.ok none, after)) ∨
      (1 < books.tariffs.size ∧ 0 < books.orgCountForTariff tariffId ∧
        ∃ row ∈ books.replacements tariffId, remediation = some row.1 ∧ ∃ after, books.Replaced after tariffId (some row.1) ∧
          books.deleteTariff tariffId remediation = (.ok (some (books.orgCountForTariff tariffId)), after)) ∨
      (1 < books.tariffs.size ∧ 0 < books.orgCountForTariff tariffId ∧
        (∀ row ∈ books.replacements tariffId, remediation ≠ some row.1) ∧
          ∃ code, books.deleteTariff tariffId remediation = (.failed code, books)) := by
  rw [deleteTariff, found]
  dsimp only
  by_cases last : books.tariffs.size ≤ 1
  · exact .inl ⟨last, if_pos last⟩
  rw [if_neg last]
  have more := Nat.lt_of_not_le last
  by_cases used : 0 < books.orgCountForTariff tariffId
  · rw [if_pos used]
    cases remediation with
    | none => exact .inr (.inr (.inr ⟨more, used, fun _ _ same => (Option.some_ne_none _ same.symm).elim, _, rfl⟩))
    | some replacementId =>
      dsimp only
      rw [applyTariffRemediation]
      cases its : books.tariffs.find replacementId with
      | none =>
        refine .inr (.inr (.inr ⟨more, used, fun row member same => ?_, _, rfl⟩))
        rw [Option.some.inj same, (mem_replacements.mp member).1] at its
        cases its
      | some replacement =>
        dsimp only
        -- The choice is refused exactly where it is not among the replacements.
        by_cases invalid : replacementId = tariffId ∨ replacement.archived = true
        · rw [if_pos invalid]
          refine .inr (.inr (.inr ⟨more, used, fun row member same => ?_, _, rfl⟩))
          obtain ⟨row_found, row_other, row_open⟩ := mem_replacements.mp member
          obtain rfl := Option.some.inj same
          obtain rfl := Option.some.inj (its.symm.trans row_found)
          simp [row_other, row_open] at invalid
        · rw [if_neg invalid]
          obtain ⟨other, opened⟩ := not_or.mp invalid
          obtain ⟨counted, after, dropped, replaced⟩ := @dropTariff_moved books tariffId replacementId other _ rfl
          refine .inr (.inr (.inl ⟨more, used, (replacementId, replacement), ?_, rfl, after, replaced, ?_⟩))
          · exact mem_replacements.mpr ⟨its, other, by simpa using opened⟩
          · dsimp only
            rw [if_neg (not_not.mpr counted), dropped, counted]
  · rw [if_neg used]
    obtain ⟨after, dropped, replaced⟩ := dropTariff_unused (Nat.eq_zero_of_not_pos used)
    exact .inr (.inl ⟨more, Nat.eq_zero_of_not_pos used, after, replaced, by rw [dropped]⟩)

/-- What a preview lists can be chosen, and nothing else. -/
theorem available_iff {remediation : Option Nat} :
    (∃ choice ∈ (books.replacementOptions tariffId).2, remediation = some choice.id) ↔
      ∃ row ∈ books.replacements tariffId, remediation = some row.1 := by
  simp only [replacementOptions, List.mem_map, exists_exists_and_eq_and]
  rfl

theorem deletes_iff {tariff : TariffRow} (found : books.tariffs.find tariffId = some tariff) (remediation : Option Nat) :
    books.deletes tariffId remediation ↔ 1 < books.tariffs.size ∧
      (books.orgCountForTariff tariffId = 0 ∨ ∃ row ∈ books.replacements tariffId, remediation = some row.1) := by
  rw [deletes]
  rcases deleteTariff_cases found remediation with ⟨last, done⟩ | ⟨more, unused, after, _, done⟩ |
    ⟨more, _, row, member, same, after, _, done⟩ | ⟨_, used, unavailable, code, done⟩ <;> rw [done]
  · exact iff_of_false (by simp) fun deletable => absurd deletable.1 (Nat.not_lt_of_le last)
  · exact iff_of_true ⟨_, rfl⟩ ⟨more, .inl unused⟩
  · exact iff_of_true ⟨_, rfl⟩ ⟨more, .inr ⟨row, member, same⟩⟩
  · refine iff_of_false (by simp) fun ⟨_, deletable⟩ => ?_
    rcases deletable with unused | ⟨row, member, same⟩
    · exact absurd unused (Nat.ne_of_gt used)
    · exact unavailable row member same

theorem more_of_replacement {tariff : TariffRow} (found : books.tariffs.find tariffId = some tariff) {row : Nat × TariffRow}
    (member : row ∈ books.replacements tariffId) : 1 < books.tariffs.size := by
  obtain ⟨its, other, _⟩ := mem_replacements.mp member
  have keys : [tariffId, row.1].Subperm (books.tariffs.entries.map Sigma.fst) := by
    -- Two keys of the table that differ.
    refine List.subperm_of_subset (by simpa using Ne.symm other) ?_
    intro key listed
    rcases List.mem_pair.mp listed with rfl | rfl
    · exact List.mem_map.mpr ⟨⟨_, tariff⟩, (Table.mem_entries ..).mpr found, rfl⟩
    · exact List.mem_map.mpr ⟨⟨_, row.2⟩, (Table.mem_entries ..).mpr its, rfl⟩
  have long := keys.length_le
  rwa [List.length_map] at long

theorem foretold {tariff : TariffRow} (found : books.tariffs.find tariffId = some tariff) :
    books.Foretold tariffId tariff (books.computeTariffDeleteImpact tariffId tariff) where
  deletes_iff remediation := by
    rw [deletes_iff found, computeTariffDeleteImpact, available_iff, decide_eq_false_iff_not, Nat.not_le]
  blocking_iff := by
    rw [computeTariffDeleteImpact]
    simp only [deletes_iff found, Bool.or_eq_true, decide_eq_true_eq, Bool.and_eq_true, bne_iff_ne, List.isEmpty_iff]
    constructor
    · rintro (last | ⟨used, empty⟩) remediation ⟨more, deletable⟩
      · omega
      -- Where the tariff is used there is no row to choose.
      · rcases deletable with unused | ⟨row, member, _⟩
        · exact used unused
        · have listed : tariffChoice row ∈ (books.replacementOptions tariffId).2 := List.mem_map_of_mem member
          rw [empty] at listed
          cases listed
    · intro never
      by_contra open_end
      obtain ⟨more, replaceable⟩ := not_or.mp open_end
      -- Nobody has to move, or somebody has and there is a row to move to.
      by_cases unused : books.orgCountForTariff tariffId = 0
      · exact never none ⟨by omega, .inl unused⟩
      · obtain ⟨row, member, _⟩ := suggested_available fun empty => replaceable ⟨unused, empty⟩
        exact never (some row.1) ⟨by omega, .inr ⟨row, member, rfl⟩⟩
  suggested remediable := by
    rw [computeTariffDeleteImpact] at remediable ⊢
    simp only [Bool.and_eq_true, bne_iff_ne, Bool.not_eq_true', List.isEmpty_eq_false_iff] at remediable
    obtain ⟨row, member, suggested⟩ := suggested_available remediable.2
    refine ⟨tariffChoice row, suggested, List.mem_map_of_mem member, ?_⟩
    exact (deletes_iff found _).mpr ⟨more_of_replacement found member, .inr ⟨row, member, rfl⟩⟩
  counted orgsUpdated remediation done := by
    rcases deleteTariff_cases found remediation with ⟨_, ended⟩ | ⟨_, _, after, _, ended⟩ |
      ⟨_, _, row, _, _, after, _, ended⟩ | ⟨_, _, _, code, ended⟩ <;> rw [ended] at done <;> cases done
    rfl
  affected := ⟨rfl, fun _ => mem_orgsOf⟩
  replaced remediation deleted := by
    rcases deleteTariff_cases found remediation with ⟨_, ended⟩ | ⟨_, unused, after, replaced, ended⟩ |
      ⟨_, _, row, _, same, after, replaced, ended⟩ | ⟨_, _, _, code, ended⟩ <;> rw [deletes, ended] at deleted
    · simp at deleted
    · rw [ended]
      exact replaced.of_unused unused remediation
    · rw [ended, same]
      exact replaced
    · simp at deleted
  refused remediation stays := by
    rcases deleteTariff_cases found remediation with ⟨_, ended⟩ | ⟨_, _, after, _, ended⟩ |
      ⟨_, _, row, _, _, after, _, ended⟩ | ⟨_, _, _, code, ended⟩
    · exact ⟨_, ended⟩
    · exact absurd ⟨_, by rw [ended]⟩ stays
    · exact absurd ⟨_, by rw [ended]⟩ stays
    · exact ⟨code, ended⟩

end Previews

section Steps

variable {books : Books}

structure Kept (books : Books) : Prop where
  numbered : books.Numbered
  assigned : ∀ orgId org, books.orgs.find orgId = some org → (books.tariffs.find org.tariffId).isSome
  remaining : ∃ tariffId, (books.tariffs.find tariffId).isSome
  offered : ∀ tariffId tariff, books.tariffs.find tariffId = some tariff → tariff.availableOnSignup = true →
    tariff.archived = false

/-- Why an organization has another tariff than before: an administrator or its own gave it that one, or the one it had is
deleted. -/
inductive Reason (books : Books) (orgId fromTariffId toTariffId : Nat) : CatalogRequest → Prop where
  | assigned : Reason books orgId fromTariffId toTariffId (.entry (.setOrgTariff orgId toTariffId))
  | chosen (tariff : TariffRow) (found : books.tariffs.find toTariffId = some tariff) (offered : tariff.onSignup = true) :
      Reason books orgId fromTariffId toTariffId (.patchOrgTariff orgId toTariffId)
  | replaced (tariff : TariffRow) (found : books.tariffs.find toTariffId = some tariff) (opened : tariff.archived = false) :
      Reason books orgId fromTariffId toTariffId (.deleteTariff fromTariffId (some toTariffId))

/-- A new organization starts on a tariff in use, which a signup is offered unless an administrator opened it; the tariff of
another one changes for a reason. -/
structure Explained (books after : Books) (request : CatalogRequest) : Prop where
  opens : ∀ orgId org, books.orgs.find orgId = none → after.orgs.find orgId = some org →
    ∃ tariff, books.tariffs.find org.tariffId = some tariff ∧ tariff.archived = false ∧
      (tariff.availableOnSignup = true ∨ request = .entry (.createOrg org.tariffId))
  changes : ∀ orgId before org, books.orgs.find orgId = some before → after.orgs.find orgId = some org →
    org.tariffId = before.tariffId ∨ books.Reason orgId before.tariffId org.tariffId request

/-- What entering money can do: nothing; a tariff is stored; or an organization's row, an old one or a new one. -/
inductive Entering (books : Books) (entry : Entry) : EntryResponse × Books → Prop where
  | refused (failure : EntryFailure) : Entering books entry (books.fail failure)
  | tariff (tariffId : Nat) (row : TariffRow) (offered : row.availableOnSignup = true → row.archived = false) :
      Entering books entry (books.storeTariff tariffId row)
  | org (orgId : Nat) (before row : OrgRow) (found : books.orgs.find orgId = some before)
      (same : row.tariffId = before.tariffId) :
      Entering books entry (books.storeOrg orgId row)
  | moves (orgId tariffId : Nat) (before : OrgRow) (found : books.orgs.find orgId = some before)
      (there : (books.tariffs.find tariffId).isSome) (asked : entry = .setOrgTariff orgId tariffId) :
      Entering books entry (books.storeOrg orgId { before with tariffId })
  | opens (row : OrgRow) (tariff : TariffRow) (found : books.tariffs.find row.tariffId = some tariff)
      (opened : tariff.archived = false) (asked : entry = .createOrg row.tariffId) :
      Entering books entry (books.storeOrg books.nextId row)

theorem applyTariff_offered {archived : Bool} {body : TariffBody} {draft : TariffDraft}
    (applied : applyTariff archived body = .ok draft) :
    draft.availableOnSignup = true → draft.archived = false := by
  rw [applyTariff] at applied
  split at applied
  · cases applied
  · obtain ⟨audio, _, applied⟩ := Fallible.bind_ok.mp applied
    obtain ⟨chars, _, applied⟩ := Fallible.bind_ok.mp applied
    split at applied
    · cases applied
    · obtain ⟨credit, _, applied⟩ := Fallible.bind_ok.mp applied
      obtain rfl := Except.ok.inj applied
      intro offered
      exact (Bool.not_eq_true' _).mp (Bool.and_eq_true_iff.mp offered).2

theorem saved_offered {draft : TariffDraft} {row : TariffRow} (saved : draft.saved = some row) :
    row.availableOnSignup = draft.availableOnSignup ∧ row.archived = draft.archived := by
  obtain ⟨audio, _, saved⟩ := Option.bind_eq_some_iff.mp saved
  obtain ⟨chars, _, saved⟩ := Option.bind_eq_some_iff.mp saved
  split at saved
  · obtain rfl := Option.some.inj saved
    exact ⟨rfl, rfl⟩
  · cases saved

theorem entering_saveTariff {entry : Entry} (tariffId : Nat) (archived : Bool) (body : TariffBody) :
    books.Entering entry (books.saveTariff tariffId (applyTariff archived body)) := by
  cases applied : applyTariff archived body with
  | error failure => exact .refused failure
  | ok draft =>
    rw [saveTariff]
    split
    · exact .refused .raised
    · rename_i row saved
      obtain ⟨offered, open_still⟩ := saved_offered saved
      exact .tariff tariffId row (by rw [offered, open_still]; exact applyTariff_offered applied)

theorem handle_cases (entry : Entry) : books.Entering entry (books.handle entry) := by
  cases entry with
  | createTariff body => exact entering_saveTariff ..
  | patchTariff tariffId body =>
    rw [handle]
    split
    · exact .refused _
    · exact entering_saveTariff ..
  | cloneTariff tariffId name =>
    rw [handle]
    split
    · exact .refused _
    · dsimp only
      split
      · exact .refused _
      · split
        · exact .tariff _ _ fun _ => rfl
        · exact .refused _
  -- archiving takes the tariff off the sign-up page too
  | setArchived tariffId archived =>
    rw [handle]
    split
    · exact .refused _
    · refine .tariff _ _ fun offered => ?_
      exact (Bool.not_eq_true' _).mp (Bool.and_eq_true_iff.mp offered).2
  | walletDelta orgId delta =>
    rcases @walletDelta_cases books orgId delta with ⟨failure, failed⟩ | ⟨org, value, balance, found, _, _, stored⟩
    · rw [handle, failed]
      exact .refused failure
    · rw [handle, stored]
      exact .org orgId org _ found rfl
  | charge orgId taskId audioSec amount summaryChars task =>
    rw [handle, charge]
    split
    · exact .refused _
    · rename_i org found
      dsimp only
      split
      · exact .refused _
      · split
        · exact .org orgId org _ found rfl
        · exact .refused _
  | createOrg tariffId =>
    rw [handle]
    split
    · exact .refused _
    · rename_i tariff its
      obtain ⟨found, opened⟩ := Option.filter_eq_some_iff.mp its
      split
      · exact .refused _
      · exact .opens _ tariff found (by simpa using opened) rfl
  | setOrgTariff orgId tariffId =>
    rw [handle]
    split
    · rename_i org tariff found its
      exact .moves orgId tariffId org found (by rw [its]; rfl) rfl
    · exact .refused _

theorem Kept.storeTariff (kept : books.Kept) (tariffId : Nat) {row : TariffRow}
    (offered : row.availableOnSignup = true → row.archived = false) : (books.storeTariff tariffId row).2.Kept where
  numbered := (storeTariff_moved kept.numbered tariffId row).numbered
  assigned orgId org found := by
    change ((books.tariffs.put tariffId row).find org.tariffId).isSome
    rw [Table.find_put]
    split
    · rfl
    · exact kept.assigned orgId org found
  remaining := ⟨tariffId, by
    change ((books.tariffs.put tariffId row).find tariffId).isSome
    rw [Table.find_put_self]
    rfl⟩
  offered other tariff found := by
    change (books.tariffs.put tariffId row).find other = some tariff at found
    rw [Table.find_put] at found
    split at found
    · exact Option.some.inj found ▸ offered
    · exact kept.offered other tariff found

theorem Kept.storeOrg (kept : books.Kept) (orgId : Nat) {row : OrgRow} (there : (books.tariffs.find row.tariffId).isSome) :
    (books.storeOrg orgId row).2.Kept where
  numbered other org found := by
    show other < max books.nextId (orgId + 1)
    change (books.orgs.put orgId row).find other = some org at found
    rw [Table.find_put] at found
    split at found
    · omega
    · exact (kept.numbered other org found).trans_le (le_max_left _ _)
  assigned other org found := by
    change (books.orgs.put orgId row).find other = some org at found
    rw [Table.find_put] at found
    split at found
    · exact Option.some.inj found ▸ there
    · exact kept.assigned other org found
  remaining := kept.remaining
  offered := kept.offered

theorem Entering.kept {entry : Entry} {result : EntryResponse × Books} (entering : books.Entering entry result)
    (kept : books.Kept) : result.2.Kept := by
  cases entering with
  | refused failure => exact kept
  | tariff tariffId row offered => exact kept.storeTariff tariffId offered
  | org orgId before row found same => exact kept.storeOrg orgId (same ▸ kept.assigned orgId before found)
  | moves orgId tariffId before found there asked => exact kept.storeOrg orgId there
  | opens row tariff found opened asked => exact kept.storeOrg books.nextId (by rw [found]; rfl)

theorem Explained.of_same {after : Books} (same : ∀ orgId, after.orgs.find orgId = books.orgs.find orgId)
    (request : CatalogRequest) :
    books.Explained after request where
  opens orgId org absent found := by
    rw [same, absent] at found
    cases found
  changes orgId before org found now := by
    rw [same, found] at now
    exact .inl (Option.some.inj now ▸ rfl)

theorem Explained.of_stored {orgId : Nat} {before row : OrgRow} (found : books.orgs.find orgId = some before)
    {request : CatalogRequest} (reason : row.tariffId = before.tariffId ∨
      books.Reason orgId before.tariffId row.tariffId request) :
    books.Explained (books.storeOrg orgId row).2 request where
  opens other org absent now := by
    change (books.orgs.put orgId row).find other = some org at now
    rw [Table.find_put] at now
    split at now
    · rename_i same
      rw [same, found] at absent
      cases absent
    · rw [absent] at now
      cases now
  changes other was org its now := by
    change (books.orgs.put orgId row).find other = some org at now
    rw [Table.find_put] at now
    split at now
    · rename_i same
      subst same
      obtain rfl := Option.some.inj (found.symm.trans its)
      exact Option.some.inj now ▸ reason
    · rw [its] at now
      exact .inl (Option.some.inj now ▸ rfl)

theorem Entering.explained {entry : Entry} {result : EntryResponse × Books} (entering : books.Entering entry result)
    (kept : books.Kept) {request : CatalogRequest}
    (moves : ∀ orgId fromTariffId tariffId, entry = .setOrgTariff orgId tariffId →
      books.Reason orgId fromTariffId tariffId request)
    (opens : ∀ tariffId tariff, entry = .createOrg tariffId → books.tariffs.find tariffId = some tariff →
      tariff.availableOnSignup = true ∨ request = .entry (.createOrg tariffId)) : books.Explained result.2 request := by
  cases entering with
  | refused failure => exact .of_same (fun _ => rfl) request
  | tariff tariffId row offered => exact @Explained.of_same books (books.storeTariff tariffId row).2 (fun _ => rfl) request
  | org orgId before row found same => exact .of_stored found (.inl same)
  | moves orgId tariffId before found there asked => exact .of_stored found (.inr (moves orgId before.tariffId tariffId asked))
  | opens row tariff found opened asked =>
    refine ⟨fun orgId org absent now => ?_, fun orgId before org its now => ?_⟩
    · change (books.orgs.put books.nextId row).find orgId = some org at now
      rw [Table.find_put] at now
      split at now
      · obtain rfl := Option.some.inj now
        exact ⟨tariff, found, opened, opens row.tariffId tariff asked found⟩
      · rw [absent] at now
        cases now
    · change (books.orgs.put books.nextId row).find orgId = some org at now
      -- the next id is no organization's yet
      rw [Table.find_put, if_neg (Nat.ne_of_lt (kept.numbered orgId before its)), its] at now
      exact .inl (Option.some.inj now ▸ rfl)

theorem Kept.enter (kept : books.Kept) (entry : Entry) : (books.enter entry).2.Kept := (handle_cases entry).kept kept

theorem other_of_more {tariffId : Nat} (more : 1 < books.tariffs.size) : ∃ other, other ≠ tariffId ∧
    (books.tariffs.find other).isSome := by
  by_contra none_other
  have only : books.tariffs.entries.map Sigma.fst ⊆ [tariffId] := by
    intro key listed
    obtain ⟨row, member, rfl⟩ := List.mem_map.mp listed
    by_contra differs
    refine none_other ⟨row.1, by simpa using differs, ?_⟩
    rw [(Table.mem_entries books.tariffs row.1 row.2).mp member]
    rfl
  have short : (books.tariffs.entries.map Sigma.fst).length ≤ 1 :=
    (List.subperm_of_subset books.tariffs.nodupKeys only).length_le
  rw [List.length_map] at short
  exact absurd more (Nat.not_lt_of_le short)

theorem Kept.deleteTariff (kept : books.Kept) (tariffId : Nat) (remediation : Option Nat) :
    (books.deleteTariff tariffId remediation).2.Kept := by
  cases found : books.tariffs.find tariffId with
  | none =>
    rw [Books.deleteTariff, found]
    exact kept
  | some tariff =>
    have of_replaced {after : Books} {given : Option Nat} (replaced : books.Replaced after tariffId given)
        (more : 1 < books.tariffs.size)
        (stays : books.orgsOf tariffId = [] ∨ ∃ row ∈ books.replacements tariffId, given = some row.1) : after.Kept := by
      refine ⟨fun orgId org its => ?_, fun orgId org its => ?_, ?_, fun other row its => ?_⟩
      · rw [replaced.orgs] at its
        obtain ⟨before, was, _⟩ := Option.map_eq_some_iff.mp its
        exact replaced.nextId ▸ kept.numbered orgId before was
      · rw [replaced.orgs] at its
        obtain ⟨before, was, rfl⟩ := Option.map_eq_some_iff.mp its
        rw [replaced.tariffs]
        -- An organization of the tariff has moved to one that stays, and another one was never on it.
        by_cases affected : orgId ∈ books.orgsOf tariffId
        · rw [if_pos affected]
          obtain empty | ⟨row, member, rfl⟩ := stays
          · rw [empty] at affected
            cases affected
          · obtain ⟨its, other, _⟩ := mem_replacements.mp member
            simp [other, its]
        · rw [if_neg affected, if_neg fun same => affected (mem_orgsOf.mpr ⟨before, was, same⟩)]
          exact kept.assigned orgId before was
      · obtain ⟨other, differs, there⟩ := @other_of_more books tariffId more
        exact ⟨other, by rw [replaced.tariffs, if_neg differs]; exact there⟩
      · rw [replaced.tariffs] at its
        exact kept.offered other row (Option.ite_none_left_eq_some.mp its).2
    rcases deleteTariff_cases found remediation with ⟨_, ended⟩ | ⟨more, unused, after, replaced, ended⟩ |
      ⟨more, _, row, member, same, after, replaced, ended⟩ | ⟨_, _, _, code, ended⟩ <;> rw [ended]
    · exact kept
    · exact of_replaced replaced more (.inl (List.eq_nil_of_length_eq_zero unused))
    · exact of_replaced replaced more (.inr ⟨row, member, rfl⟩)
    · exact kept

theorem explained_deleteTariff (tariffId : Nat) (remediation : Option Nat) :
    books.Explained (books.deleteTariff tariffId remediation).2 (.deleteTariff tariffId remediation) := by
  cases found : books.tariffs.find tariffId with
  | none =>
    rw [Books.deleteTariff, found]
    exact .of_same (fun _ => rfl) _
  | some tariff =>
    have of_replaced {after : Books} {given : Option Nat} (replaced : books.Replaced after tariffId given)
        (stays : books.orgsOf tariffId = [] ∨ ∃ row ∈ books.replacements tariffId, given = some row.1 ∧
          remediation = some row.1) :
        books.Explained after (.deleteTariff tariffId remediation) := by
      refine ⟨fun orgId org absent now => ?_, fun orgId before org was now => ?_⟩
      · rw [replaced.orgs, absent] at now
        cases now
      · rw [replaced.orgs, was] at now
        obtain rfl := Option.some.inj now
        dsimp only
        -- Only the organizations that the preview names have moved, and each from the tariff that goes.
        by_cases affected : orgId ∈ books.orgsOf tariffId
        · rw [if_pos affected]
          obtain empty | ⟨row, member, rfl, rfl⟩ := stays
          · rw [empty] at affected
            cases affected
          · obtain ⟨its, other, opened⟩ := mem_replacements.mp member
            obtain ⟨again, was_again, of_tariff⟩ := mem_orgsOf.mp affected
            obtain rfl := Option.some.inj (was.symm.trans was_again)
            rw [of_tariff]
            exact .inr (.replaced row.2 its opened)
        · rw [if_neg affected]
          exact .inl rfl
    rcases deleteTariff_cases found remediation with ⟨_, ended⟩ | ⟨_, unused, after, replaced, ended⟩ |
      ⟨_, _, row, member, same, after, replaced, ended⟩ | ⟨_, _, _, code, ended⟩ <;> rw [ended]
    · exact .of_same (fun _ => rfl) _
    · exact of_replaced replaced (.inl (List.eq_nil_of_length_eq_zero unused))
    · exact of_replaced replaced (.inr ⟨row, member, rfl, same⟩)
    · exact .of_same (fun _ => rfl) _

theorem Kept.serving (kept : books.Kept) (request : CatalogRequest) : (books.serving request).Kept := by
  rw [Books.serving]
  cases request with
  | entry entry => exact kept.enter entry
  | signup tariffId =>
    rw [serve, signup]
    split
    · exact kept
    · split
      · exact kept
      · exact kept.enter _
  | patchOrgTariff orgId tariffId =>
    rw [serve, patchOrgTariff]
    split
    · exact kept
    · exact kept.enter _
  | listTariffs =>
    rw [serve, seedDefaultTariff]
    dsimp only
    split
    · exact kept.storeTariff _ fun _ => rfl
    · exact kept
  | deleteTariff tariffId remediation => exact kept.deleteTariff tariffId remediation
  | deleteOrg orgId =>
    rw [serve]
    split
    · exact kept
    · have before {other : Nat} {org : OrgRow} (its : (books.orgs.delete orgId).find other = some org) :
          books.orgs.find other = some org := by
        rw [Table.find_delete] at its
        exact (Option.ite_none_left_eq_some.mp its).2
      exact ⟨fun other org its => kept.numbered other org (before its), fun other org its => kept.assigned other org (before its),
        kept.remaining, kept.offered⟩

theorem explained (kept : books.Kept) (request : CatalogRequest) : books.Explained (books.serving request) request := by
  rw [Books.serving]
  have unmoved {tariffId : Nat} : ∀ orgId fromTariffId toTariffId, Entry.createOrg tariffId = .setOrgTariff orgId toTariffId →
      books.Reason orgId fromTariffId toTariffId request := fun _ _ _ same => by cases same
  cases request with
  | entry entry =>
    refine (handle_cases entry).explained kept (fun orgId _ tariffId asked => ?_) fun tariffId _ asked _ => ?_
    · exact asked ▸ .assigned
    · exact .inr (asked ▸ rfl)
  | signup tariffId =>
    rw [serve, signup]
    split
    · exact .of_same (fun _ => rfl) _
    · split
      · exact .of_same (fun _ => rfl) _
      · rename_i tariff its
        obtain ⟨found, offered⟩ := Option.filter_eq_some_iff.mp its
        refine (handle_cases _).explained kept unmoved fun other row asked its => .inl ?_
        cases asked
        obtain rfl := Option.some.inj (found.symm.trans its)
        exact (Bool.and_eq_true_iff.mp offered).2
  | patchOrgTariff orgId tariffId =>
    rw [serve, patchOrgTariff]
    split
    · exact .of_same (fun _ => rfl) _
    · rename_i tariff its
      obtain ⟨found, offered⟩ := Option.filter_eq_some_iff.mp its
      refine (handle_cases (.setOrgTariff orgId tariffId)).explained kept
        (fun other _ toTariffId asked => ?_) fun other row asked its => ?_
      · cases asked
        exact .chosen tariff found offered
      · cases asked
  | listTariffs =>
    refine .of_same (fun orgId => ?_) _
    rw [serve, seedDefaultTariff]
    dsimp only
    split <;> rfl
  | deleteTariff tariffId remediation => exact explained_deleteTariff tariffId remediation
  | deleteOrg orgId =>
    rw [serve]
    split
    · exact .of_same (fun _ => rfl) _
    · refine ⟨fun other org absent now => ?_, fun other before org was now => .inl ?_⟩
      · change (books.orgs.delete orgId).find other = some org at now
        rw [Table.find_delete, absent, ite_self] at now
        cases now
      · change (books.orgs.delete orgId).find other = some org at now
        rw [Table.find_delete, was] at now
        exact Option.some.inj (Option.ite_none_left_eq_some.mp now).2 ▸ rfl

end Steps

/-- Every preview is right about the deletion that it is for, and the request moves no organization without a reason. -/
structure Handled (books : Books) (request : CatalogRequest) : Prop where
  foretold : ∀ tariffId tariff, books.tariffs.find tariffId = some tariff →
    books.Foretold tariffId tariff (books.computeTariffDeleteImpact tariffId tariff)
  explained : books.Explained (books.serving request) request

end Books

structure SeededBooks where
  books : Books
  kept : books.Kept

def setupBooks : SeededBooks where
  books := (⟨∅, ∅, 0⟩ : Books).seedDefaultTariff
  kept := {
    numbered := fun _ _ found => by cases found
    assigned := fun _ _ found => by cases found
    remaining := ⟨0, rfl⟩
    offered := fun tariffId tariff found => by
      change (Table.put ∅ 0 defaultTariff).find tariffId = some tariff at found
      rw [Table.find_put] at found
      split at found
      · exact Option.some.inj found ▸ fun _ => rfl
      · cases found }

/-- In every run each organization always has a tariff that exists, and what a preview tells of a deletion is what it does. -/
theorem tariffs_kept (start : SeededBooks) (requests : List CatalogRequest) :
    Always Books.serving Books.Kept start.books requests ∧ Along Books.serving Books.Handled start.books requests := by
  have keeps : ∀ books request, Books.Kept books → (Books.serving books request).Kept :=
    fun _ request kept => kept.serving request
  constructor
  · intro done rest split_at
    exact run_induction (I := fun _ books => Books.Kept books) start.kept
      (fun _ request books kept => keeps books request kept) done
  · refine along_of_kept keeps ?_ start.kept requests
    intro books request kept
    exact ⟨fun _ _ found => Books.foretold found, Books.explained kept request⟩

section Samples

def Books.tariffOf (books : Books) (orgId : Nat) : Option Nat := (books.orgs.find orgId).map OrgRow.tariffId

def trial : List CatalogRequest := [.signup 0, .entry (.cloneTariff 0 "Trial")]

-- archived, it is still some organization's
example : (run Books.serving setupBooks.books (trial ++ [.entry (.setArchived 0 true), .signup 0])).tariffOf 1 = some 0 := by
  decide +kernel

example : (run Books.serving setupBooks.books (trial ++ [.deleteTariff 0 (some 2)])).tariffOf 1 = some 2 := by decide +kernel

end Samples

end IdigestHub.Billing
