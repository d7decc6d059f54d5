import IdigestHub.Ingest.Thread
import IdigestHub.System.Announcing
import IdigestHub.System.Failures

/-! The sessions that work on one task, in any order, with a failure possible at each statement: what has been
announced of a run, and what has been committed. -/

set_option autoImplicit false

namespace IdigestHub.Announcing

open Foundation Foundation.Runs Foundation.UnitOfWork Dispatcher Ingest

/-- A session with its object of the task. `telling` says that it has announced what it has yet to commit. -/
structure View where
  held : Held
  source : Source
  telling : Bool

structure Ending where
  run : Nat
  status : TaskStatus
  source : Source
  deriving DecidableEq

structure State where
  row : Task
  book : Book
  endings : List Ending
  views : Table Nat View

/-- The hub that a session works in besides the task is whatever the other requests have made of it. -/
inductive Event where
  | loads (who : Nat) (source : Source)
  | works (who : Nat) (world : World) (hub : Hub) (process : Process) (part : Section)
  | commits (who : Nat)
  | drops (who : Nat)

/-- The hub with this object of the task, whose id has been given out. -/
def seen (id : Nat) (task : Task) (hub : Hub) : Hub :=
  { hub with tasks := hub.tasks.put id task, nextId := max hub.nextId (id + 1) }

def View.session (view : View) (id : Nat) (hub : Hub) (process : Process) (book : Book) : Telling :=
  ⟨seen id view.held.base hub, seen id view.held.own hub, seen id view.held.own hub, (process, book)⟩

def View.writes (view : View) : Bool := view.held.own.status != view.held.base.status

namespace State

def created (task : Task) : State := ⟨task, ⟨0, []⟩, [], ∅⟩

/-- A section of a session. An exception rolls the session back; what it has announced stays announced. A session that
has announced something goes on to its commit. -/
def works (id : Nat) (s : State) (who : Nat) (view : View) (world : World) (hub : Hub) (process : Process) (part : Section) :
    State :=
  if view.telling || part.source id != view.source then s
  else
    match part.program world id (view.session id hub process s.book) with
    | (.ok _, after) =>
      let book := after.memory.2
      let held := { view.held with own := (after.working.tasks.find id).getD view.held.own }
      let telling := decide (s.book.notices.length < book.notices.length)
      { s with book, views := s.views.put who { view with held, telling } }
    | (.error _, after) => { s with book := after.memory.2, views := s.views.delete who }

/-- The session stores the columns that it has changed. A retry opens a run; a status that ends one is written, or has
been announced. -/
def commits (s : State) (who : Nat) (view : View) : State :=
  let row := Task.merged view.held.base view.held.own s.row
  let run := if view.writes && view.source == .retry then s.book.run + 1 else s.book.run
  let ending : List Ending :=
    if (view.writes || view.telling) && !row.active then [⟨s.book.run, row.status, view.source⟩] else []
  { row
    book := { s.book with run }
    endings := s.endings ++ ending
    views := s.views.put who { view with held := ⟨view.held.own, view.held.own⟩, telling := false } }

def step (id : Nat) (s : State) : Event → State
  | .loads who source => { s with views := s.views.put who ⟨⟨s.row, s.row⟩, source, false⟩ }
  | .works who world hub process part =>
    match s.views.find who with
    | none => s
    | some view => s.works id who view world hub process part
  | .commits who =>
    match s.views.find who with
    | none => s
    | some view => s.commits who view
  | .drops who => { s with views := s.views.delete who }

end State

/-- Each run is announced once at most, with the status that it is committed with, and an outcome that the hub itself has
committed has been announced. -/
structure Matching (s : State) : Prop where
  once : (s.book.notices.map Notice.run).Nodup
  agrees : ∀ notice ∈ s.book.notices, ∀ ending ∈ s.endings, ending.run = notice.run → ending.status = notice.status
  kept : ∀ notice ∈ s.book.notices, ⟨notice.run, notice.status, .outcome⟩ ∈ s.endings ∨
    ∃ who view, s.views.find who = some view ∧ view.telling = true ∧ notice = ⟨s.book.run, view.held.own.status⟩
  complete : ∀ ending ∈ s.endings, ending.source = .outcome → ⟨ending.run, ending.status⟩ ∈ s.book.notices

section Condition

/-- No session holds back what it has announced. -/
def State.Settled (s : State) : Prop := ∀ entry ∈ s.views.entries, entry.2.telling = false

def State.Open (s : State) (view : View) (part : Section) : Prop :=
  (s.row.active = true ∧ view.held.base.active = true) ∨
    (part.onlyFails = true ∧ s.row.status = .error ∧
      ∀ ending ∈ s.endings, ending.run = s.book.run → ending.source = .request)

/-- The commit does not overwrite an outcome that its session does not know. -/
def State.Admits (s : State) (view : View) : Prop :=
  if view.telling then s.row.active = true ∨ s.row.status = view.held.own.status
  else view.writes = true →
    if view.source = .retry then s.Settled
    else if view.held.own.active then s.row.active = true
    else s.row.status ≠ .success ∧
      ∀ entry ∈ s.views.entries, entry.2.telling = true → entry.2.held.own.status ≠ .success

/-- A session that announces something finds the run open and nothing else announced of it, and goes on to its commit without
an exception; it is not rolled back before. -/
def Careful (id : Nat) (s : State) : Event → Prop
  | .loads who _ | .drops who => ∀ view ∈ s.views.find who, view.telling = false
  | .works who world hub _ part => ∀ view ∈ s.views.find who, part.announces world view.held.own = true →
      s.Settled ∧ s.Open view part ∧ part.lasts world id (seen id view.held.own hub) view.held.own = true
  | .commits who => ∀ view ∈ s.views.find who, s.Admits view

instance (s : State) : Decidable s.Settled := inferInstanceAs (Decidable (∀ entry ∈ s.views.entries, entry.2.telling = false))

instance (s : State) (view : View) (part : Section) : Decidable (s.Open view part) := inferInstanceAs (Decidable (_ ∨ _))

instance (s : State) (view : View) : Decidable (s.Admits view) := by
  unfold State.Admits
  infer_instance

instance (id : Nat) (s : State) : ∀ event, Decidable (Careful id s event)
  | .loads who _ | .drops who => inferInstanceAs (Decidable (∀ view ∈ s.views.find who, view.telling = false))
  | .works who world hub _ part => inferInstanceAs (Decidable (∀ view ∈ s.views.find who,
      part.announces world view.held.own = true → s.Settled ∧ s.Open view part ∧
        part.lasts world id (seen id view.held.own hub) view.held.own = true))
  | .commits who => inferInstanceAs (Decidable (∀ view ∈ s.views.find who, s.Admits view))

end Condition

section Invariant

/-- How a session's object relates to the row that it has read and to the row that is stored. -/
structure View.Fits (s : State) (view : View) : Prop where
  outcome : view.source = .outcome → view.writes = true → view.held.own.active = false → view.telling = true
  request : view.source = .request → view.writes = true → view.held.own.status ≠ .success
  retry : view.source = .retry → view.writes = true → view.held.own.status = .queued
  telling : view.telling = true → view.source = .outcome ∧ view.held.own.active = false ∧
    (⟨s.book.run, view.held.own.status⟩ : Notice) ∈ s.book.notices ∧
    (view.writes = false → s.row.status = view.held.own.status)

/-- What holds all along a careful run. -/
structure Sound (s : State) : Prop where
  matching : Matching s
  notices : ∀ notice ∈ s.book.notices, notice.run ≤ s.book.run
  endings : ∀ ending ∈ s.endings, ending.run ≤ s.book.run
  closed : ∀ ending ∈ s.endings, ending.run = s.book.run → ending.status = s.row.status ∧ s.row.active = false
  alone : ∀ who view other view', s.views.find who = some view → view.telling = true → s.views.find other = some view' →
    view'.telling = true → who = other
  views : ∀ who view, s.views.find who = some view → view.Fits s

variable {s : State} {who : Nat} {view : View}

theorem State.Settled.silent (settled : s.Settled) (found : s.views.find who = some view) : view.telling = false :=
  settled ⟨who, view⟩ ((Table.mem_entries s.views who view).mpr found)

theorem View.Fits.clean {row : Task} {source : Source} : View.Fits s ⟨⟨row, row⟩, source, false⟩ := by
  have reads : View.writes ⟨⟨row, row⟩, source, false⟩ = false := by simp [View.writes]
  refine ⟨fun _ writes => ?_, fun _ writes => ?_, fun _ writes => ?_, fun telling => by contradiction⟩
  all_goals
    rw [reads] at writes
    contradiction

/-- Only the row's status and the notices of the run matter to a session that has announced something. -/
theorem View.Fits.of_state {after : State} (fits : view.Fits s) (telling : view.telling = true →
    after.book.run = s.book.run ∧ (∀ notice ∈ s.book.notices, notice ∈ after.book.notices) ∧
      (view.writes = false → s.row.status = view.held.own.status → after.row.status = view.held.own.status)) :
    view.Fits after where
  outcome := fits.outcome
  request := fits.request
  retry := fits.retry
  telling tells := by
    obtain ⟨source, ended, noticed, shown⟩ := fits.telling tells
    obtain ⟨run, notices, same⟩ := telling tells
    exact ⟨source, ended, notices _ (run ▸ noticed), fun reads => same reads (shown reads)⟩

/-- A session comes, goes on or goes, and has nothing announced. -/
theorem Sound.replaced (sound : Sound s) {views : Table Nat View}
    (quiet : ∀ old, s.views.find who = some old → old.telling = false)
    (others : ∀ other, other ≠ who → views.find other = s.views.find other)
    (its : ∀ view, views.find who = some view → view.Fits s ∧ view.telling = false) : Sound { s with views } := by
  have same {other : Nat} {view : View} (found : views.find other = some view) (telling : view.telling = true) :
      s.views.find other = some view := by
    by_cases same : other = who
    · subst same
      rw [(its view found).2] at telling
      contradiction
    · rw [← others other same, found]
  refine ⟨⟨sound.matching.once, sound.matching.agrees, fun notice member => ?_, sound.matching.complete⟩, sound.notices,
    sound.endings, sound.closed, fun one view other view' found telling found' telling' => ?_, fun other view found => ?_⟩
  · rcases sound.matching.kept notice member with ended | ⟨other, view, found, telling, notices⟩
    · exact .inl ended
    · refine .inr ⟨other, view, ?_, telling, notices⟩
      by_cases same : other = who
      · subst same
        rw [quiet view found] at telling
        contradiction
      · rw [others other same, found]
  · exact sound.alone one view other view' (same found telling) telling (same found' telling') telling'
  · refine View.Fits.of_state (s := s) ?_ fun _ => ⟨rfl, fun _ member => member, fun _ shown => shown⟩
    by_cases same : other = who
    · subst same
      exact (its view found).1
    · rw [others other same] at found
      exact sound.views other view found

theorem Sound.put (sound : Sound s) (quiet : ∀ old, s.views.find who = some old → old.telling = false) (fits : view.Fits s)
    (silent : view.telling = false) : Sound { s with views := s.views.put who view } := by
  refine sound.replaced quiet (fun other different => ?_) fun its found => ?_
  · rw [Table.find_put, if_neg different]
  · rw [Table.find_put_self] at found
    obtain rfl := Option.some.inj found
    exact ⟨fits, silent⟩

theorem Sound.delete (sound : Sound s) (quiet : ∀ old, s.views.find who = some old → old.telling = false) :
    Sound { s with views := s.views.delete who } := by
  refine sound.replaced quiet (fun other different => ?_) fun its found => ?_
  · rw [Table.find_delete, if_neg different]
  · rw [Table.find_delete, if_pos rfl] at found
    contradiction

section Working

variable {id : Nat} {world : World} {hub : Hub} {process : Process} {part : Section}

theorem session_found (view : View) (book : Book) :
    (view.session id hub process book).working.tasks.find id = some view.held.own := by
  simp [View.session, seen]

theorem session_below (view : View) (book : Book) : id < (view.session id hub process book).working.nextId :=
  (Nat.lt_succ_self id).trans_le (Nat.le_max_right ..)

/-- A section is skipped, ends at its commit, or is rolled back. -/
theorem works_of_wp {P : State → Prop} {Q R : Telling → Prop} (skipped : P s)
    (holds : view.telling = false → part.source id = view.source →
      wp (part.program world id) (fun _ => Q) (fun _ => R) (view.session id hub process s.book))
    (ended : ∀ after, view.telling = false → part.source id = view.source → Q after →
      P { s with
        book := after.memory.2
        views := s.views.put who { view with
          held := { view.held with own := (after.working.tasks.find id).getD view.held.own }
          telling := decide (s.book.notices.length < after.memory.2.notices.length) } })
    (raised : ∀ after, view.telling = false → R after → P { s with book := after.memory.2, views := s.views.delete who }) :
    P (s.works id who view world hub process part) := by
  rw [State.works]
  split
  · exact skipped
  · rename_i goes
    simp only [Bool.or_eq_true, bne_iff_ne, not_or, Bool.not_eq_true, not_not] at goes
    have holds := holds goes.1 goes.2
    simp only [wp] at holds
    generalize part.program world id (view.session id hub process s.book) = ran at holds ⊢
    obtain ⟨outcome, after⟩ := ran
    cases outcome with
    | ok _ => exact ended after goes.1 goes.2 holds
    | error _ => exact raised after goes.1 holds

theorem active_of_status {task row : Task} (same : row.status = task.status) : row.active = task.active := by
  rw [Task.active, Task.active, same]

theorem error_of_ended {row : Task} (ended : row.active = false) (unsuccessful : row.status ≠ .success) :
    row.status = .error := by
  cases status : row.status <;> simp_all [Task.active]

/-- A session that has announced nothing may write its object. -/
theorem View.Fits.rewritten {own : Task} (fits : view.Fits s) (silent : view.telling = false) (source : view.source = .outcome)
    (goes_on : own.status = view.held.own.status ∨ own.active = true) :
    View.Fits s { view with held := { view.held with own }, telling := false } := by
  have other {source' : Source} (different : .outcome ≠ source') {P : Prop} (its : view.source = source') : P :=
    absurd (source.symm.trans its) different
  refine ⟨fun _ writes ended => ?_, fun its => other (by decide) its, fun its => other (by decide) its,
    fun telling => by contradiction⟩
  rcases goes_on with same | active
  · have told := fits.outcome source (by rwa [View.writes, ← same]) (by rwa [← active_of_status same])
    rw [silent] at told
    contradiction
  · rw [active] at ended
    contradiction

theorem View.Fits.requested {own : Task} (fits : view.Fits s) (asks : view.source ≠ .outcome)
    (unsuccessful : own.status = view.held.own.status ∨ own.status ≠ .success)
    (retries : view.source = .retry → own.status = view.held.own.status ∨ own.status = .queued) :
    View.Fits s { view with held := { view.held with own }, telling := false } := by
  refine ⟨fun outcome => absurd outcome asks, fun request writes => ?_, fun retry writes => ?_,
    fun telling => by contradiction⟩
  · rcases unsuccessful with same | unsuccessful
    · exact same ▸ fits.request request (by rwa [View.writes, ← same])
    · exact unsuccessful
  · rcases retries retry with same | queued
    · exact same ▸ fits.retry retry (by rwa [View.writes, ← same])
    · exact queued

theorem Sound.tells (sound : Sound s) (found : s.views.find who = some view) (source : view.source = .outcome) {row : Task}
    (ended : row.active = false) (fails : part.onlyFails = true → row.status = .error) (settled : s.Settled)
    (is_open : s.Open view part) :
    Sound { s with
      book := s.book.announce row.status
      views := s.views.put who { view with held := { view.held with own := row }, telling := true } } := by
  -- the run has no ending but of this status: the section saw the row active, or only repeats a failure
  have closed {ending : Ending} (member : ending ∈ s.endings) (now : ending.run = s.book.run) :
      ending.status = row.status ∧ ending.source = .request := by
    obtain ⟨status, ended⟩ := sound.closed ending member now
    rcases is_open with ⟨active, _⟩ | ⟨only, error, requests⟩
    · rw [active] at ended
      contradiction
    · exact ⟨by rw [status, error, fails only], requests ending member now⟩
  -- so it is the first notice of the run
  have first (notice : Notice) (member : notice ∈ s.book.notices) : notice.run ≠ s.book.run := by
    intro now
    rcases sound.matching.kept notice member with kept | ⟨other, view', found', telling, _⟩
    · have its := (closed kept now).2
      contradiction
    · rw [settled.silent found'] at telling
      contradiction
  have shown : row.status = view.held.base.status → s.row.status = row.status := by
    intro reads
    rcases is_open with ⟨_, active⟩ | ⟨only, error, _⟩
    · rw [← active_of_status reads, ended] at active
      contradiction
    · rw [error, fails only]
  have noticed (notice : Notice) (member : notice ∈ (s.book.announce row.status).notices) :
      notice ∈ s.book.notices ∨ notice = ⟨s.book.run, row.status⟩ := by
    rcases List.mem_append.mp member with before | new
    · exact .inl before
    · exact .inr (List.mem_singleton.mp new)
  have others {other : Nat} {view' : View} (found' : (s.views.put who
      { view with held := { view.held with own := row }, telling := true }).find other = some view') (different : other ≠ who) :
      s.views.find other = some view' := by
    rwa [Table.find_put, if_neg different] at found'
  -- no other view is telling while this one does
  have only {other : Nat} {view' : View} (found' : (s.views.put who
      { view with held := { view.held with own := row }, telling := true }).find other = some view')
      (telling : view'.telling = true) : other = who := by
    by_contra different
    rw [settled.silent (others found' different)] at telling
    contradiction
  refine ⟨⟨?_, fun notice member ending ended now => ?_, fun notice member => ?_, fun ending member outcome => ?_⟩,
    fun notice member => ?_, sound.endings, sound.closed, fun one view' other view'' found' telling' found'' telling'' => ?_,
    fun other view' found' => ?_⟩
  · rw [Book.announce, List.map_append, List.map_singleton, List.nodup_append]
    refine ⟨sound.matching.once, List.nodup_singleton _, fun run member last new => ?_⟩
    obtain ⟨notice, before, rfl⟩ := List.mem_map.mp member
    rw [List.mem_singleton.mp new]
    exact first notice before
  · rcases noticed notice member with before | rfl
    · exact sound.matching.agrees notice before ending ended now
    · exact (closed ended now).1
  · rcases noticed notice member with before | rfl
    · rcases sound.matching.kept notice before with kept | ⟨other, view', found', telling, _⟩
      · exact .inl kept
      · rw [settled.silent found'] at telling
        contradiction
    · exact .inr ⟨who, _, Table.find_put_self .., rfl, rfl⟩
  · exact List.mem_append_left _ (sound.matching.complete ending member outcome)
  · rcases noticed notice member with before | rfl
    · exact sound.notices notice before
    · exact le_rfl
  · rw [only found' telling', only found'' telling'']
  · by_cases same : other = who
    · subst same
      rw [Table.find_put_self] at found'
      obtain rfl := Option.some.inj found'
      have other {source' : Source} (different : .outcome ≠ source') {P : Prop} (its : view.source = source') : P :=
        absurd (source.symm.trans its) different
      refine ⟨fun _ _ _ => rfl, fun its => other (by decide) its, fun its => other (by decide) its, fun _ => ?_⟩
      refine ⟨source, ended, List.mem_append_right _ (List.mem_singleton.mpr rfl), fun reads => shown ?_⟩
      simpa [View.writes] using reads
    · refine (sound.views other view' (others found' same)).of_state fun telling => ?_
      rw [settled.silent (others found' same)] at telling
      contradiction

theorem Sound.works (sound : Sound s) (found : s.views.find who = some view)
    (careful : part.announces world view.held.own = true →
      s.Settled ∧ s.Open view part ∧ part.lasts world id (seen id view.held.own hub) view.held.own = true) :
    Sound (s.works id who view world hub process part) := by
  have its (old : View) (here : s.views.find who = some old) : old = view := Option.some.inj (here.symm.trans found)
  by_cases own : part.source id = .outcome
  · refine works_of_wp sound (fun _ _ => section_speaks part own (session_found view _) (session_below view _)
      fun announces => (careful announces).2.2) (fun after silent source spoken => ?_) fun after silent book => ?_
    · have outcome : view.source = .outcome := source.symm.trans own
      cases spoken with
      | quiet row here book goes_on =>
        have same : after.memory.2 = s.book := book
        rw [here, same]
        simp only [Option.getD_some, lt_irrefl, decide_false]
        refine sound.put (fun old here => ?_) ((sound.views who view found).rewritten silent outcome goes_on) rfl
        rwa [its old here]
      | told announces spoke =>
        obtain ⟨row, here, ended, book, fails⟩ := spoke
        obtain ⟨settled, is_open, _⟩ := careful announces
        have same : after.memory.2 = s.book.announce row.status := book
        have longer : s.book.notices.length < (s.book.announce row.status).notices.length := by simp [Book.announce]
        rw [here, same]
        simp only [Option.getD_some, longer, decide_true]
        exact sound.tells found outcome ended fails settled is_open
    · have same : after.memory.2 = s.book := book
      rw [same]
      exact sound.delete fun old here => by rwa [its old here]
  · cases part with
    | asks request =>
      refine works_of_wp (Q := fun after => after = (view.session id hub process s.book).edit
        (request.rows (view.session id hub process s.book).working)) (R := fun _ => False) sound (fun _ _ => rfl) ?_
        fun _ _ never => never.elim
      rintro _ silent source rfl
      have own_found : (view.session id hub process s.book).working.tasks.find id = some view.held.own :=
        session_found view s.book
      obtain ⟨row, here, unsuccessful, retries⟩ := request_edits request own_found (session_below view s.book)
      have same : ((view.session id hub process s.book).edit
        (request.rows (view.session id hub process s.book).working)).memory.2 = s.book := rfl
      simp only [Session.edit_working, here, same, Option.getD_some, lt_irrefl, decide_false]
      refine sound.put (fun old here => by rwa [its old here]) ?_ rfl
      exact (sound.views who view found).requested (fun outcome => own (source.trans outcome)) unsuccessful
        fun retry => retries (source.trans retry)
    | _ => exact absurd rfl own

end Working

section Committing

theorem Sound.moved (sound : Sound s) {row : Task}
    (goes_on : row.status = s.row.status ∨ s.row.active = true ∧ row.active = true) : Sound { s with row } := by
  refine ⟨⟨sound.matching.once, sound.matching.agrees, sound.matching.kept, sound.matching.complete⟩, sound.notices,
    sound.endings, fun ending member now => ?_, sound.alone, fun other view found => ?_⟩
  · obtain ⟨status, ended⟩ := sound.closed ending member now
    rcases goes_on with same | ⟨active, _⟩
    · exact ⟨status.trans same.symm, by rw [active_of_status same, ended]⟩
    · rw [active] at ended
      contradiction
  · have fits := sound.views other view found
    refine fits.of_state fun telling => ⟨rfl, fun _ member => member, fun _ shown => ?_⟩
    rcases goes_on with same | ⟨active, _⟩
    · exact same.trans shown
    · have ended := (fits.telling telling).2.1
      rw [← active_of_status shown, active] at ended
      contradiction

/-- Nothing is pending when a retry opens the next run. -/
theorem Sound.retried (sound : Sound s) (settled : s.Settled) (row : Task) :
    Sound { s with row, book := { s.book with run := s.book.run + 1 } } := by
  refine ⟨⟨sound.matching.once, sound.matching.agrees, fun notice member => ?_, sound.matching.complete⟩,
    fun notice member => (sound.notices notice member).trans (Nat.le_succ _),
    fun ending member => (sound.endings ending member).trans (Nat.le_succ _), fun ending member now => ?_, sound.alone,
    fun other view found => ?_⟩
  · rcases sound.matching.kept notice member with kept | ⟨other, view, found, telling, _⟩
    · exact .inl kept
    · rw [settled.silent found] at telling
      contradiction
  · have before := sound.endings ending member
    rw [now] at before
    exact absurd before (Nat.not_succ_le_self _)
  · refine (sound.views other view found).of_state fun telling => ?_
    rw [settled.silent found] at telling
    contradiction

/-- A request ends the run with an error, where nothing else has been announced or committed. -/
theorem Sound.canceled (sound : Sound s) {row : Task} (error : row.status = .error) (unsuccessful : s.row.status ≠ .success)
    (telling_error : ∀ who view, s.views.find who = some view → view.telling = true → view.held.own.status ≠ .success) :
    Sound { s with row, endings := s.endings ++ [⟨s.book.run, row.status, .request⟩] } := by
  have inactive : row.active = false := by rw [Task.active, error]; rfl
  have member_or {ending : Ending} (member : ending ∈ s.endings ++ [⟨s.book.run, row.status, .request⟩]) :
      ending ∈ s.endings ∨ ending = ⟨s.book.run, row.status, .request⟩ := by
    rcases List.mem_append.mp member with before | new
    · exact .inl before
    · exact .inr (List.mem_singleton.mp new)
  have closed (ending : Ending) (member : ending ∈ s.endings) (now : ending.run = s.book.run) : ending.status = row.status := by
    obtain ⟨status, ended⟩ := sound.closed ending member now
    rw [status, error, error_of_ended ended unsuccessful]
  have pending {who : Nat} {view : View} (found : s.views.find who = some view) (telling : view.telling = true) :
      view.held.own.status = row.status := by
    rw [error, error_of_ended ((sound.views who view found).telling telling).2.1 (telling_error who view found telling)]
  refine ⟨⟨sound.matching.once, fun notice member ending ended now => ?_, fun notice member => ?_,
    fun ending ended outcome => ?_⟩, sound.notices, fun ending ended => ?_,
    fun ending ended now => ?_, sound.alone, fun other view found => ?_⟩
  · rcases member_or ended with before | rfl
    · exact sound.matching.agrees notice member ending before now
    · -- The run of the new ending is the current one: what was announced in it is pending, or committed.
      rcases sound.matching.kept notice member with kept | ⟨other, view, found, telling, rfl⟩
      · exact (closed _ kept now.symm).symm
      · exact (pending found telling).symm
  · exact (sound.matching.kept notice member).imp_left (List.mem_append_left _)
  · rcases member_or ended with before | rfl
    · exact sound.matching.complete ending before outcome
    · contradiction
  · rcases member_or ended with before | rfl
    · exact sound.endings ending before
    · exact le_rfl
  · rcases member_or ended with before | rfl
    · exact ⟨closed ending before now, inactive⟩
    · exact ⟨rfl, inactive⟩
  · refine (sound.views other view found).of_state fun telling => ⟨rfl, fun _ member => member, fun _ _ => ?_⟩
    exact (pending found telling).symm

theorem Sound.confirmed (sound : Sound s) (found : s.views.find who = some view) (telling : view.telling = true) {row : Task}
    (shows : row.status = view.held.own.status) (admits : s.row.active = true ∨ s.row.status = view.held.own.status) :
    Sound { s with
      row
      endings := s.endings ++ [⟨s.book.run, row.status, .outcome⟩]
      views := s.views.put who { view with held := ⟨view.held.own, view.held.own⟩, telling := false } } := by
  obtain ⟨source, ended, noticed, _⟩ := (sound.views who view found).telling telling
  have inactive : row.active = false := ended_of_status shows ended
  have closed (ending : Ending) (member : ending ∈ s.endings) (now : ending.run = s.book.run) : ending.status = row.status := by
    obtain ⟨status, ended⟩ := sound.closed ending member now
    rcases admits with active | same
    · rw [active] at ended
      contradiction
    · rw [status, same, shows]
  have its (notice : Notice) (member : notice ∈ s.book.notices) (now : notice.run = s.book.run) :
      notice = ⟨s.book.run, row.status⟩ := by
    rw [shows]
    exact List.inj_on_of_nodup_map sound.matching.once member noticed now
  have member_or {ending : Ending} (member : ending ∈ s.endings ++ [⟨s.book.run, row.status, .outcome⟩]) :
      ending ∈ s.endings ∨ ending = ⟨s.book.run, row.status, .outcome⟩ := by
    rcases List.mem_append.mp member with before | new
    · exact .inl before
    · exact .inr (List.mem_singleton.mp new)
  have silent (other : Nat) (view' : View) (found' : s.views.find other = some view') (different : other ≠ who) :
      view'.telling = false := by
    by_contra tells
    exact different (sound.alone other view' who view found' (Bool.not_eq_false _ |>.mp tells) found telling)
  -- Now no session holds anything back.
  have clean (other : Nat) (view' : View) (found' : (s.views.put who
      { view with held := ⟨view.held.own, view.held.own⟩, telling := false }).find other = some view') :
      view'.telling = false ∧ view'.Fits s := by
    rw [Table.find_put] at found'
    split at found'
    · obtain rfl := Option.some.inj found'
      exact ⟨rfl, .clean⟩
    · exact ⟨silent other view' found' ‹_›, sound.views other view' found'⟩
  refine ⟨⟨sound.matching.once, fun notice member ending ended now => ?_, fun notice member => .inl ?_,
    fun ending ended outcome => ?_⟩, sound.notices, fun ending ended => ?_, fun ending ended now => ?_,
    fun other view' _ _ found' tells _ _ => ?_, fun other view' found' => ?_⟩
  · rcases member_or ended with before | rfl
    · exact sound.matching.agrees notice member ending before now
    · rw [its notice member now.symm]
  · rcases sound.matching.kept notice member with kept | ⟨other, view', found', tells, rfl⟩
    · exact List.mem_append_left _ kept
    · rw [its _ member rfl]
      exact List.mem_append_right _ (List.mem_singleton.mpr rfl)
  · rcases member_or ended with before | rfl
    · exact sound.matching.complete ending before outcome
    · exact shows ▸ noticed
  · rcases member_or ended with before | rfl
    · exact sound.endings ending before
    · exact le_rfl
  · rcases member_or ended with before | rfl
    · exact ⟨closed ending before now, inactive⟩
    · exact ⟨rfl, inactive⟩
  · rw [(clean other view' found').1] at tells
    contradiction
  · refine (clean other view' found').2.of_state fun tells => ?_
    rw [(clean other view' found').1] at tells
    contradiction

theorem merged_status (base own stored : Task) :
    (Task.merged base own stored).status = if own.status = base.status then stored.status else own.status := rfl

theorem Sound.commits (sound : Sound s) (found : s.views.find who = some view) (admits : s.Admits view) :
    Sound (s.commits who view) := by
  have fits := sound.views who view found
  have its (old : View) (here : s.views.find who = some old) : old = view := Option.some.inj (here.symm.trans found)
  have status := merged_status view.held.base view.held.own s.row
  rw [State.commits]
  generalize Task.merged view.held.base view.held.own s.row = row at status ⊢
  rw [State.Admits] at admits
  cases telling : view.telling with
  | true =>
    obtain ⟨source, ended, _, shown⟩ := fits.telling telling
    rw [telling, if_pos rfl] at admits
    have shows : row.status = view.held.own.status := by
      rw [status]
      split
      · exact shown (by simpa [View.writes])
      · rfl
    have inactive : row.active = false := ended_of_status shows ended
    have confirmed := sound.confirmed found telling shows admits
    simpa [source, inactive] using confirmed
  | false =>
    rw [telling, if_neg Bool.false_ne_true] at admits
    have quiet (old : View) (here : s.views.find who = some old) : old.telling = false := by rwa [its old here]
    cases writes : view.writes with
    | false =>
      have same : row.status = s.row.status := by
        rw [status, if_pos]
        simpa [View.writes] using writes
      simpa using (sound.moved (.inl same)).put quiet .clean rfl
    | true =>
      have stored : row.status = view.held.own.status := by
        rw [status, if_neg]
        simpa [View.writes] using writes
      have admits := admits writes
      -- A session that goes on with the run writes an active status over an active one.
      have goes_on (other : view.source ≠ .retry) (active : view.held.own.active = true) :
          Sound ⟨row, s.book, s.endings, s.views.put who ⟨⟨view.held.own, view.held.own⟩, view.source, false⟩⟩ := by
        rw [if_neg other, if_pos active] at admits
        have now : row.active = true := by rwa [active_of_status stored]
        exact (sound.moved (.inr ⟨admits, now⟩)).put quiet .clean rfl
      cases source : view.source with
      | outcome =>
        have active : view.held.own.active = true := by
          by_contra ended
          have told := fits.outcome source writes (Bool.not_eq_true _ |>.mp ended)
          rw [telling] at told
          contradiction
        have now : row.active = true := by rwa [active_of_status stored]
        simpa [now, source] using goes_on (by simp [source]) active
      | request =>
        cases active : view.held.own.active with
        | true =>
          have now : row.active = true := by rwa [active_of_status stored]
          simpa [now, source] using goes_on (by simp [source]) active
        | false =>
          rw [source, if_neg (by decide), active, if_neg Bool.false_ne_true] at admits
          have inactive : row.active = false := ended_of_status stored active
          have error : row.status = .error := stored.trans (error_of_ended active (fits.request source writes))
          have canceled := sound.canceled error admits.1 fun other view' found' =>
            admits.2 ⟨other, view'⟩ ((Table.mem_entries ..).mpr found')
          simpa [inactive] using canceled.put quiet .clean rfl
      | retry =>
        rw [source, if_pos rfl] at admits
        have now : row.active = true := by
          rw [active_of_status stored, Task.active, fits.retry source writes]
          rfl
        simpa [now] using (sound.retried admits row).put quiet .clean rfl

end Committing

theorem Sound.created (task : Task) : Sound (.created task) := by
  have none_found (who : Nat) (view : View) (found : (State.created task).views.find who = some view) : False := by
    simp [State.created, Table.find] at found
  have nothing {A : Type} {a : A} {P : Prop} (member : a ∈ ([] : List A)) : P := (List.not_mem_nil member).elim
  refine ⟨⟨List.nodup_nil, fun _ => nothing, fun _ => nothing, fun _ => nothing⟩, fun _ => nothing, fun _ => nothing,
    fun _ => nothing, fun who view _ _ found => ?_, fun who view found => ?_⟩
  · exact (none_found who view found).elim
  · exact (none_found who view found).elim

theorem Sound.step {id : Nat} (sound : Sound s) {event : Event} (careful : Careful id s event) : Sound (s.step id event) := by
  cases event with
  | loads who source => exact sound.put careful .clean rfl
  | drops who => exact sound.delete careful
  | works who world hub process part =>
    rw [State.step]
    cases found : s.views.find who with
    | none => exact sound
    | some view => exact sound.works found (careful view found)
  | commits who =>
    rw [State.step]
    cases found : s.views.find who with
    | none => exact sound
    | some view => exact sound.commits found (careful view found)

end Invariant

/-- Along every run of careful steps, what is announced matches what is committed. -/
theorem announcements_match (id : Nat) (task : Task) {events : List Event}
    (careful : Along (State.step id) (Careful id) (.created task) events) :
    Always (State.step id) Matching (.created task) events := by
  have always : Always (State.step id) Sound (.created task) events :=
    always_of_along (fun _ _ sound now => sound.step now) (.created task) careful
  exact fun done rest same => (always done rest same).matching

def pageImport : Task :=
  Tasks.newTask .importUrl System.smallSubmission (some [("url", .str "page"), ("stage", .str "queued")])

def fetched : ImportResult := ⟨"talk.mp3", none, none, "generic", "host", "Page"⟩

def works (who : Nat) (part : Section) : Event := .works who System.silentWorld System.smallHub .fresh part

def retriedImport : List Event := [
  .loads 0 .outcome, works 0 (.moves (.starts "probing")), .commits 0,
  works 0 (.fails .downloadFailed []), .commits 0,
  .loads 1 .retry, works 1 (.asks (.retry 5 2 0)), .commits 1,
  .loads 0 .outcome, works 0 (.imports [] fetched), .commits 0]

theorem announcements_match_retried :
    ((State.created pageImport).row.status = .queued ∧
      (run (State.step 5) (.created pageImport) retriedImport).book.notices = [⟨0, .error⟩, ⟨1, .success⟩]) ∧
    Always (State.step 5) Matching (.created pageImport) retriedImport :=
  ⟨by decide +kernel, announcements_match 5 pageImport (by decide +kernel)⟩

/-- The file is stored and announced, and the commit fails: the handler announces an error. -/
def failedCommit : List Event := [
  .loads 0 .outcome, works 0 (.moves (.starts "probing")), .commits 0,
  works 0 (.imports [] fetched), .drops 0,
  .loads 0 .outcome, works 0 (.fails .downloadFailed []), .commits 0]

/-- One run is announced twice, and with two statuses. -/
theorem failed_commit_announced_twice :
    ¬∀ (id : Nat) (task : Task) (events : List Event), Always (State.step id) Matching (.created task) events := by
  intro always
  have once := (always 5 pageImport failedCommit failedCommit [] (List.append_nil _).symm).once
  have twice : (run (State.step 5) (.created pageImport) failedCommit).book.notices = [⟨0, .success⟩, ⟨0, .error⟩] := by
    decide +kernel
  rw [twice] at once
  exact absurd once (by decide)

end IdigestHub.Announcing
