import IdigestHub.Backup.Restore

/-! What a whole part of a restore does to its rows, in the account that the archive comes from, when no two files
name the same row. -/

set_option autoImplicit false

namespace IdigestHub.Backup

open Foundation Foundation.Fallible

variable {R : Type}

/-- What a file does to the row with its id: it rewrites an own row, and makes one where there is none. -/
structure Plan (R : Type) where
  id : Id
  rewrite : R → R
  fresh : R

section Plans

variable (own : R → Bool)

def Plan.verdict (plan : Plan R) : Option R → Verdict R
  | none => .created plan.id plan.id plan.fresh
  | some row => if own row then .updated plan.id (plan.rewrite row) else .skipped

def Plan.outcome (plan : Plan R) : Option R → R
  | none => plan.fresh
  | some row => if own row then plan.rewrite row else row

def Follows (rows : Table Id R) : Option (Plan R) → Verdict R → Prop
  | none, verdict => verdict = .ignored ∨ verdict = .skipped
  | some plan, verdict => verdict = plan.verdict own (rows.find plan.id)

end Plans

def Plan.insertion (rows : Table Id R) (plan : Plan R) : Option (Id × R) :=
  if (rows.find plan.id).isSome then none else some (plan.id, plan.fresh)

theorem insertion_eq_some {rows : Table Id R} {plan : Plan R} {row : Id × R} :
    plan.insertion rows = some row ↔ rows.find plan.id = none ∧ row = (plan.id, plan.fresh) := by
  unfold Plan.insertion
  cases rows.find plan.id <;> simp [eq_comm]

section Flushing

theorem insertAll_of_fresh {pending : List (Id × R)} {rows : Table Id R} (distinct : (pending.map Prod.fst).Nodup)
    (absent : ∀ row ∈ pending, rows.find row.1 = none) :
    ∃ stored, insertAll rows pending = some stored ∧ (∀ row ∈ pending, stored.find row.1 = some row.2) ∧
      ∀ key, key ∉ pending.map Prod.fst → stored.find key = rows.find key := by
  induction pending generalizing rows with
  | nil => exact ⟨rows, rfl, fun row member => absurd member List.not_mem_nil, fun _ _ => rfl⟩
  | cons first rest ih =>
    obtain ⟨id, row⟩ := first
    rw [List.map_cons, List.nodup_cons] at distinct
    have free : rows.find id = none := absent (id, row) (List.mem_cons_self ..)
    have later : ∀ other ∈ rest, (rows.put id row).find other.1 = none := by
      intro other member
      have apart : other.1 ≠ id := by
        intro same
        exact distinct.1 (List.mem_map.mpr ⟨other, member, same⟩)
      rw [Table.find_put, if_neg apart]
      exact absent other (List.mem_cons_of_mem _ member)
    obtain ⟨stored, inserted, new, old⟩ := ih distinct.2 later
    refine ⟨stored, ?_, fun other member => ?_, fun key unlisted => ?_⟩
    · rw [insertAll, free]
      exact inserted
    · rcases List.mem_cons.mp member with rfl | member
      · rw [old _ distinct.1, Table.find_put_self]
      · exact new other member
    · rw [List.map_cons, List.mem_cons, not_or] at unlisted
      rw [old key unlisted.2, Table.find_put, if_neg unlisted.1]

end Flushing

section Running

variable {own : R → Bool} {rows : Table Id R} {plan : (_ : String) × Content → Option (Plan R)}

structure Restoring (own : R → Bool) (rows : Table Id R) (plan : (_ : String) × Content → Option (Plan R))
    (done : List ((_ : String) × Content)) (part : Part R) : Prop where
  pending : part.pending = done.filterMap fun file => (plan file).bind (Plan.insertion rows)
  planned : ∀ file ∈ done, ∀ its, plan file = some its → ∀ row, rows.find its.id = some row →
    part.rows.find its.id = some (its.outcome own (some row))
  others : ∀ id, (∀ file ∈ done, ∀ its, plan file = some its → its.id ≠ id) → part.rows.find id = rows.find id
  absent : ∀ id, rows.find id = none → part.rows.find id = none
  map : ∀ id mapped, part.map.find id = some mapped → mapped = id ∧ ∃ file ∈ done, ∃ its, plan file = some its ∧ its.id = id ∧
    (rows.find id).all own = true

theorem Restoring.start (drawn : Nat) : Restoring own rows plan [] (.start rows drawn) where
  pending := rfl
  planned _ member := absurd member List.not_mem_nil
  others _ _ := rfl
  absent _ free := free
  map id mapped found := by cases found

variable {done : List ((_ : String) × Content)} {part : Part R} {file : (_ : String) × Content}

theorem Restoring.idle (restoring : Restoring own rows plan done part) (nothing : plan file = none) {next : Part R}
    (same : next.rows = part.rows ∧ next.pending = part.pending ∧ next.map = part.map) :
    Restoring own rows plan (done ++ [file]) next where
  pending := by simp [same.2.1, restoring.pending, nothing]
  planned other member its planned row found := by
    rw [same.1]
    rcases List.mem_append.mp member with earlier | last
    · exact restoring.planned other earlier its planned row found
    · obtain rfl := List.mem_singleton.mp last
      cases nothing.symm.trans planned
  others id apart := by
    rw [same.1]
    exact restoring.others id fun other earlier => apart other (List.mem_append_left _ earlier)
  absent id free := same.1 ▸ restoring.absent id free
  map id mapped found := by
    rw [same.2.2] at found
    obtain ⟨its, other, earlier, rest⟩ := restoring.map id mapped found
    exact ⟨its, other, List.mem_append_left _ earlier, rest⟩

theorem Restoring.skipped (restoring : Restoring own rows plan done part) {its : Plan R}
    (planned : plan file = some its) {row : R}
    (found : rows.find its.id = some row) (foreign : own row = false) (current : part.rows.find its.id = rows.find its.id) :
    Restoring own rows plan (done ++ [file]) (part.take .skipped) where
  pending := by simp [Part.take, restoring.pending, planned, Plan.insertion, found]
  planned other member plan' planned' stored found' := by
    rcases List.mem_append.mp member with earlier | last
    · exact restoring.planned other earlier plan' planned' stored found'
    · obtain rfl := List.mem_singleton.mp last
      cases planned.symm.trans planned'
      cases found.symm.trans found'
      simp [Part.take, current, found, Plan.outcome, foreign]
  others id apart := restoring.others id fun other earlier => apart other (List.mem_append_left _ earlier)
  absent := restoring.absent
  map id mapped stored := by
    obtain ⟨same, other, earlier, rest⟩ := restoring.map id mapped stored
    exact ⟨same, other, List.mem_append_left _ earlier, rest⟩

theorem Restoring.updated (restoring : Restoring own rows plan done part) {its : Plan R}
    (planned : plan file = some its) {row : R}
    (found : rows.find its.id = some row) (mine : own row = true) (current : part.rows.find its.id = rows.find its.id)
    (once : ∀ other ∈ done, ∀ plan', plan other = some plan' → plan'.id ≠ its.id) :
    Restoring own rows plan (done ++ [file]) (part.take (.updated its.id (its.rewrite row))) where
  pending := by simp [Part.take, restoring.pending, planned, Plan.insertion, found]
  planned other member plan' planned' stored found' := by
    rw [Part.take, Table.find_modify]
    rcases List.mem_append.mp member with earlier | last
    · rw [if_neg (once other earlier plan' planned')]
      exact restoring.planned other earlier plan' planned' stored found'
    · obtain rfl := List.mem_singleton.mp last
      cases planned.symm.trans planned'
      cases found.symm.trans found'
      simp [current, found, Plan.outcome, mine]
  others id apart := by
    rw [Part.take, Table.find_modify, if_neg (apart file (List.mem_append_right _ (List.mem_singleton_self _)) its planned).symm]
    exact restoring.others id fun other earlier => apart other (List.mem_append_left _ earlier)
  absent id free := by
    rw [Part.take, Table.find_modify]
    split
    · rename_i same
      rw [← same, restoring.absent id free]
      rfl
    · exact restoring.absent id free
  map id mapped stored := by
    rw [Part.take, Table.find_assign] at stored
    split at stored
    · rename_i same
      cases stored
      refine ⟨same.symm, file, List.mem_append_right _ (List.mem_singleton_self _), its, planned, same.symm, ?_⟩
      simp [same, found, mine]
    · obtain ⟨same, other, earlier, rest⟩ := restoring.map id mapped stored
      exact ⟨same, other, List.mem_append_left _ earlier, rest⟩

theorem Restoring.created (restoring : Restoring own rows plan done part) {its : Plan R} (planned : plan file = some its)
    (free : rows.find its.id = none) :
    Restoring own rows plan (done ++ [file]) (part.take (.created its.id its.id its.fresh)) where
  pending := by simp [Part.take, restoring.pending, planned, Plan.insertion, free]
  planned other member plan' planned' stored found := by
    rcases List.mem_append.mp member with earlier | last
    · exact restoring.planned other earlier plan' planned' stored found
    · obtain rfl := List.mem_singleton.mp last
      cases planned.symm.trans planned'
      cases free.symm.trans found
  others id apart := restoring.others id fun other earlier => apart other (List.mem_append_left _ earlier)
  absent := restoring.absent
  map id mapped stored := by
    rw [Part.take, Table.find_assign] at stored
    split at stored
    · rename_i same
      cases stored
      refine ⟨same.symm, file, List.mem_append_right _ (List.mem_singleton_self _), its, planned, same.symm, ?_⟩
      simp [same, free]
    · obtain ⟨same, other, earlier, rest⟩ := restoring.map id mapped stored
      exact ⟨same, other, List.mem_append_left _ earlier, rest⟩

theorem Restoring.turn (restoring : Restoring own rows plan done part) {verdict : Verdict R}
    (follows : Follows own part.rows (plan file) verdict)
    (once : ∀ other ∈ done, ∀ a b, plan other = some a → plan file = some b → a.id ≠ b.id) :
    Restoring own rows plan (done ++ [file]) (part.take verdict) := by
  cases planned : plan file with
  | none =>
    rw [planned] at follows
    rcases follows with rfl | rfl
    · exact restoring.idle planned ⟨rfl, rfl, rfl⟩
    · exact restoring.idle planned ⟨rfl, rfl, rfl⟩
  | some its =>
    have before : ∀ other ∈ done, ∀ plan', plan other = some plan' → plan'.id ≠ its.id :=
      fun other earlier plan' planned' => once other earlier plan' its planned' planned
    have current : part.rows.find its.id = rows.find its.id := restoring.others its.id before
    rw [planned] at follows
    obtain rfl : verdict = its.verdict own (part.rows.find its.id) := follows
    rw [current]
    cases found : rows.find its.id with
    | none => exact restoring.created planned found
    | some row =>
      cases mine : own row with
      | false =>
        rw [Plan.verdict, mine]
        exact restoring.skipped planned found mine current
      | true =>
        rw [Plan.verdict, mine]
        exact restoring.updated planned found mine current before

structure Restored (own : R → Bool) (source : Plan R → Prop) (rows stored : Table Id R) (map : Table Id Id) : Prop where
  planned : ∀ its, source its → stored.find its.id = some (its.outcome own (rows.find its.id))
  others : ∀ id, (∀ its, source its → its.id ≠ id) → stored.find id = rows.find id
  map : ∀ id mapped, map.find id = some mapped → mapped = id ∧ ∃ its, source its ∧ its.id = id ∧ (rows.find id).all own = true

theorem run_restores {judge : Part R → String → Content → Option (Verdict R)} {files : Files}
    (judged : ∀ part, ∀ file ∈ files.entries, ∃ verdict, judge part file.1 file.2 = some verdict ∧
      Follows own part.rows (plan file) verdict)
    (distinct : files.entries.Pairwise fun first second => ∀ a b, plan first = some a → plan second = some b → a.id ≠ b.id)
    (rows : Table Id R) (drawn : Nat) :
    ∃ after stored, (Part.start rows drawn).run judge files = some after ∧ after.flush = some stored ∧
      Restored own (fun its => ∃ file ∈ files.entries, plan file = some its) rows stored after.map := by
  obtain ⟨after, ran, restored⟩ : ∃ after, (Part.start rows drawn).run judge files = some after ∧
      Restoring own rows plan files.entries after := by
    refine foldlM_along (fun done file rest part place restoring => ?_) (Restoring.start drawn)
    have member : file ∈ files.entries := by
      rw [place]
      exact List.mem_append_right _ (List.mem_cons_self ..)
    obtain ⟨verdict, its, follows⟩ := judged part file member
    refine ⟨_, by rw [its]; rfl, restoring.turn follows fun other earlier a b => ?_⟩
    rw [place, List.pairwise_append] at distinct
    exact distinct.2.2 other earlier file (List.mem_cons_self ..) a b
  have inserted (row : Id × R) : row ∈ after.pending ↔ ∃ file ∈ files.entries, ∃ its, plan file = some its ∧
      rows.find its.id = none ∧ row = (its.id, its.fresh) := by
    simp only [restored.pending, List.mem_filterMap, Option.bind_eq_some_iff, insertion_eq_some]
  -- the plans of two files have different ids, so the insertions do not clash
  have keys : (after.pending.map Prod.fst).Nodup := by
    rw [restored.pending, List.map_filterMap, List.Nodup, List.pairwise_filterMap]
    refine distinct.imp fun {first second} apart a its b other => ?_
    obtain ⟨row, inserts, rfl⟩ := Option.map_eq_some_iff.mp its
    obtain ⟨row', inserts', rfl⟩ := Option.map_eq_some_iff.mp other
    obtain ⟨p, planned, its⟩ := Option.bind_eq_some_iff.mp inserts
    obtain ⟨q, planned', other⟩ := Option.bind_eq_some_iff.mp inserts'
    rw [(insertion_eq_some.mp its).2, (insertion_eq_some.mp other).2]
    exact apart p q planned planned'
  obtain ⟨stored, flushed, new, old⟩ := insertAll_of_fresh keys fun row member => by
    obtain ⟨_, _, its, _, free, rfl⟩ := (inserted row).mp member
    exact restored.absent its.id free
  -- an id that no insertion has keeps its row in the flush
  have unlisted (id : Id) (kept : ∀ file ∈ files.entries, ∀ its, plan file = some its → rows.find its.id = none → its.id ≠ id) :
      id ∉ after.pending.map Prod.fst := by
    intro listed
    obtain ⟨row, member, same⟩ := List.mem_map.mp listed
    obtain ⟨file, place, its, planned, free, rfl⟩ := (inserted row).mp member
    exact kept file place its planned free same
  refine ⟨after, stored, ran, flushed, ?_, ?_, ?_⟩
  · rintro its ⟨file, member, planned⟩
    cases found : rows.find its.id with
    | none => exact new _ ((inserted _).mpr ⟨file, member, its, planned, found, rfl⟩)
    | some row =>
      rw [old its.id (unlisted its.id fun _ _ other _ free same => by rw [same, found] at free; cases free)]
      exact restored.planned file member its planned row found
  · intro id apart
    have apart (file) (member : file ∈ files.entries) (its : Plan R) (planned : plan file = some its) : its.id ≠ id :=
      apart its ⟨file, member, planned⟩
    rw [old id (unlisted id fun file member its planned _ => apart file member its planned)]
    exact restored.others id apart
  · intro id mapped found
    obtain ⟨same, file, member, its, planned, named, mine⟩ := restored.map id mapped found
    exact ⟨same, its, ⟨file, member, planned⟩, named, mine⟩

end Running

end IdigestHub.Backup
