import IdigestHub.Foundation.Runs
import Mathlib.Logic.Function.Basic

/-! Transactions that read committed rows: each statement runs on the rows that are committed at
that moment and on those that its own transaction has written, and waits for a transaction
that holds a row which it writes. -/

set_option autoImplicit false

namespace Foundation.ReadCommitted

open Runs

/-- The keys of the rows that a statement writes, and what it makes of the rows, unless it fails. -/
structure Statement (D K : Type) where
  keys : D → List K
  run : D → Option D

def Statement.apply {D K : Type} (statement : Statement D K) (rows : D) : D := (statement.run rows).getD rows

def applyAll {D K : Type} (statements : List (Statement D K)) (rows : D) : D :=
  statements.foldl (fun rows statement => statement.apply rows) rows

/-- A transaction that has passed its checks. `redeems` says that it has found the secret in question good. -/
structure Transaction (D K : Type) where
  redeems : Bool
  done : List (Statement D K)
  left : List (Statement D K)

structure Server (D K : Type) where
  committed : D
  running : Nat → Option (Transaction D K)
  holder : K → Option Nat
  log : List (Transaction D K)

inductive Event (R : Type) where
  | start (tx : Nat) (request : R)
  | execute (tx : Nat)
  | commit (tx : Nat)
  | abort (tx : Nat)

variable {D K R : Type} [DecidableEq K]

namespace Server

def opening (rows : D) : Server D K := ⟨rows, fun _ => none, fun _ => none, []⟩

/-- The transaction ends, and lets go of its rows. -/
def closed (server : Server D K) (tx : Nat) : Server D K :=
  { server with
    running := Function.update server.running tx none
    holder := fun key => (server.holder key).filter (· != tx) }

def waits (server : Server D K) (tx : Nat) (keys : List K) : Bool :=
  keys.any fun key => (server.holder key).any (· != tx)

def executed (server : Server D K) (tx : Nat) (transaction : Transaction D K) (keys : List K) : Server D K :=
  { server with
    running := Function.update server.running tx (some transaction)
    holder := fun key => if key ∈ keys then some tx else server.holder key }

/-- `plan` is what a request does after its checks, in the rows that it reads, when it passes them. -/
def step (plan : R → D → Option (Bool × List (Statement D K))) (server : Server D K) : Event R → Server D K
  | .start tx request =>
    if (server.running tx).isSome then server
    else
      match plan request server.committed with
      | none => server
      | some (redeems, statements) =>
        { server with running := Function.update server.running tx (some ⟨redeems, [], statements⟩) }
  | .execute tx =>
    match server.running tx with
    | none => server
    | some transaction =>
      match transaction.left with
      | [] => server
      | statement :: rest =>
        let rows := applyAll transaction.done server.committed
        if server.waits tx (statement.keys rows) then server
        else
          match statement.run rows with
          | none => server.closed tx
          | some _ => server.executed tx { transaction with done := transaction.done ++ [statement], left := rest }
              (statement.keys rows)
  | .commit tx =>
    match server.running tx with
    | none => server
    | some transaction =>
      if transaction.left.isEmpty then
        { server.closed tx with
          committed := applyAll transaction.done server.committed
          log := server.log ++ [transaction] }
      else server
  | .abort tx => server.closed tx

def redemptions (server : Server D K) : List (Transaction D K) := server.log.filter Transaction.redeems

structure RedeemedOnce (start : D) (server : Server D K) : Prop where
  once : server.redemptions.length ≤ 1
  traced : server.committed = server.log.foldl (fun rows transaction => applyAll transaction.done rows) start

/-- A redemption that commits finds the secret good as it did at its check. -/
def StillGood (good : D → Prop) (server : Server D K) : Event R → Prop
  | .commit tx => ∀ transaction, server.running tx = some transaction → transaction.left = [] →
      transaction.redeems = true → good server.committed
  | _ => True

end Server

/-- What the requests have to do with the secret: those that redeem it check that it is good and spend
it, no statement makes a spent secret good, and the other requests leave it good. -/
structure Redeeming (plan : R → D → Option (Bool × List (Statement D K))) (good : D → Prop) : Prop where
  checks : ∀ request rows statements, plan request rows = some (true, statements) → good rows
  spends : ∀ request rows statements, plan request rows = some (true, statements) →
    ∃ statement ∈ statements, ∀ rows, ¬ good (statement.apply rows)
  final : ∀ request rows redeems statements, plan request rows = some (redeems, statements) →
    ∀ statement ∈ statements, ∀ rows, ¬ good rows → ¬ good (statement.apply rows)
  others : ∀ request rows statements, plan request rows = some (false, statements) →
    ∀ statement ∈ statements, ∀ rows, good rows → good (statement.apply rows)

section Once

variable {plan : R → D → Option (Bool × List (Statement D K))} {good : D → Prop} {start : D}
  {server : Server D K}

def Planned (plan : R → D → Option (Bool × List (Statement D K))) (transaction : Transaction D K) : Prop :=
  ∃ request rows, plan request rows = some (transaction.redeems, transaction.done ++ transaction.left)

/-- A secret that has been redeemed is spent. One that a running transaction has found good, and that
nobody has redeemed, is good. -/
structure Sound (plan : R → D → Option (Bool × List (Statement D K))) (good : D → Prop) (start : D)
    (server : Server D K) : Prop where
  planned : ∀ tx transaction, server.running tx = some transaction → Planned plan transaction
  spent : server.redemptions ≠ [] → ¬ good server.committed
  fresh : server.redemptions = [] → ∀ tx transaction, server.running tx = some transaction →
    transaction.redeems = true → good server.committed
  traced : server.committed = server.log.foldl (fun rows transaction => applyAll transaction.done rows) start

omit [DecidableEq K] in
theorem sound_opening : Sound plan good start (Server.opening start) where
  planned _ _ running := nomatch running
  spent some_redemption := absurd rfl some_redemption
  fresh _ _ _ running := nomatch running
  traced := rfl

omit [DecidableEq K] in
theorem apply_all_keeps {P : D → Prop} {statements : List (Statement D K)}
    (kept : ∀ statement ∈ statements, ∀ rows, P rows → P (statement.apply rows)) {rows : D} (now : P rows) :
    P (applyAll statements rows) := by
  induction statements generalizing rows with
  | nil => exact now
  | cons statement rest ih =>
    apply ih
    · intro later member
      exact kept later (List.mem_cons_of_mem _ member)
    · exact kept statement List.mem_cons_self rows now

omit [DecidableEq K] in
theorem apply_all_spends {statements : List (Statement D K)} {spending : Statement D K}
    (member : spending ∈ statements) (spends : ∀ rows, ¬ good (spending.apply rows))
    (final : ∀ statement ∈ statements, ∀ rows, ¬ good rows → ¬ good (statement.apply rows)) (rows : D) :
    ¬ good (applyAll statements rows) := by
  induction statements generalizing rows with
  | nil => nomatch member
  | cons statement rest ih =>
    have later : ∀ statement ∈ rest, ∀ rows, ¬ good rows → ¬ good (statement.apply rows) :=
      fun statement member => final statement (List.mem_cons_of_mem _ member)
    rcases List.mem_cons.mp member with same | member
    · subst same
      exact apply_all_keeps (P := fun rows => ¬ good rows) later (spends rows)
    · exact ih member later _

omit [DecidableEq K] in
theorem closed_running {tx other : Nat} {transaction : Transaction D K}
    (running : (server.closed tx).running other = some transaction) : server.running other = some transaction := by
  by_cases same : other = tx
  · subst same
    simp [Server.closed] at running
  · simpa [Server.closed, same] using running

omit [DecidableEq K] in
theorem sound_closed (sound : Sound plan good start server) (tx : Nat) : Sound plan good start (server.closed tx) where
  planned other transaction running := sound.planned other transaction (closed_running running)
  spent := sound.spent
  fresh none_yet other transaction running := sound.fresh none_yet other transaction (closed_running running)
  traced := sound.traced

omit [DecidableEq K] in
/-- A transaction that has nothing left to do has made a good secret of none, and has spent the secret if it
redeems it. -/
theorem applied_of_planned (redeeming : Redeeming plan good) {transaction : Transaction D K}
    (planned : Planned plan transaction) (finished : transaction.left = []) (rows : D) :
    (transaction.redeems = true → ¬ good (applyAll transaction.done rows)) ∧
      (¬ good rows → ¬ good (applyAll transaction.done rows)) ∧
      (transaction.redeems = false → good rows → good (applyAll transaction.done rows)) := by
  obtain ⟨request, read, planned⟩ := planned
  rw [finished, List.append_nil] at planned
  have final := redeeming.final request read _ _ planned
  refine ⟨?_, ?_, ?_⟩
  · intro redeems
    rw [redeems] at planned
    obtain ⟨spending, member, spends⟩ := redeeming.spends request read _ planned
    exact apply_all_spends member spends final rows
  · exact apply_all_keeps (P := fun rows => ¬ good rows) final
  · intro redeems
    rw [redeems] at planned
    exact apply_all_keeps (redeeming.others request read _ planned)

theorem sound_start (redeeming : Redeeming plan good) (sound : Sound plan good start server) (tx : Nat)
    (request : R) : Sound plan good start (server.step plan (.start tx request)) := by
  unfold Server.step
  dsimp only
  split
  · exact sound
  cases planned : plan request server.committed with
  | none => exact sound
  | some admitted =>
    obtain ⟨redeems, statements⟩ := admitted
    -- the transaction that starts is the only one that was not running before
    have running_after : ∀ other transaction,
        Function.update server.running tx (some ⟨redeems, [], statements⟩) other = some transaction →
          transaction = ⟨redeems, [], statements⟩ ∨ server.running other = some transaction := by
      intro other transaction running
      by_cases same : other = tx
      · subst same
        rw [Function.update_self] at running
        exact Or.inl (Option.some.inj running).symm
      · rw [Function.update_of_ne same] at running
        exact Or.inr running
    refine ⟨?_, sound.spent, ?_, sound.traced⟩
    · intro other transaction running
      rcases running_after other transaction running with same | before
      · subst same
        exact ⟨request, server.committed, planned⟩
      · exact sound.planned other transaction before
    · intro none_yet other transaction running claims
      rcases running_after other transaction running with same | before
      · subst same
        have redeems_it : redeems = true := claims
        subst redeems_it
        exact redeeming.checks request _ _ planned
      · exact sound.fresh none_yet other transaction before claims

theorem sound_execute (sound : Sound plan good start server) (tx : Nat) :
    Sound plan good start (server.step plan (.execute tx)) := by
  unfold Server.step
  dsimp only
  cases running : server.running tx with
  | none => exact sound
  | some transaction =>
    obtain ⟨redeems, done, left⟩ := transaction
    cases left with
    | nil => exact sound
    | cons statement rest =>
      dsimp only
      split
      · exact sound
      split
      · exact sound_closed sound tx
      -- a statement that runs moves from what is left to what is done
      have moved : ∀ other transaction,
          Function.update server.running tx (some ⟨redeems, done ++ [statement], rest⟩) other = some transaction →
            transaction = ⟨redeems, done ++ [statement], rest⟩ ∧ other = tx ∨
              server.running other = some transaction := by
        intro other transaction after
        by_cases same : other = tx
        · subst same
          rw [Function.update_self] at after
          exact Or.inl ⟨(Option.some.inj after).symm, rfl⟩
        · rw [Function.update_of_ne same] at after
          exact Or.inr after
      refine ⟨?_, sound.spent, ?_, sound.traced⟩
      · intro other transaction after
        rcases moved other transaction after with ⟨same, _⟩ | before
        · subst same
          obtain ⟨request, rows, planned⟩ := sound.planned tx _ running
          refine ⟨request, rows, ?_⟩
          rw [planned, List.append_assoc, List.singleton_append]
        · exact sound.planned other transaction before
      · intro none_yet other transaction after claims
        rcases moved other transaction after with ⟨same, _⟩ | before
        · subst same
          exact sound.fresh none_yet tx _ running claims
        · exact sound.fresh none_yet other transaction before claims

theorem step_commit (plan : R → D → Option (Bool × List (Statement D K))) (server : Server D K) (tx : Nat) :
    server.step plan (.commit tx) = server ∧
        (∀ transaction, server.running tx = some transaction → transaction.left ≠ []) ∨
      ∃ transaction, server.running tx = some transaction ∧ transaction.left = [] ∧
        server.step plan (.commit tx) =
          { server.closed tx with
            committed := applyAll transaction.done server.committed
            log := server.log ++ [transaction] } := by
  cases running : server.running tx with
  | none => exact Or.inl ⟨by simp only [Server.step, running], by intro _ nothing; nomatch nothing⟩
  | some transaction =>
    cases left : transaction.left with
    | nil => exact Or.inr ⟨transaction, rfl, left, by simp [Server.step, running, left]⟩
    | cons statement rest =>
      refine Or.inl ⟨by simp [Server.step, running, left], ?_⟩
      intro same is_same
      rw [← Option.some.inj is_same, left]
      exact List.cons_ne_nil _ _

theorem committed_of_not_commit (plan : R → D → Option (Bool × List (Statement D K))) (server : Server D K) (event : Event R)
    (other : ∀ tx, event ≠ .commit tx) : (server.step plan event).committed = server.committed ∧
      (server.step plan event).log = server.log := by
  cases event with
  | commit tx => exact absurd rfl (other tx)
  | abort tx => exact ⟨rfl, rfl⟩
  | start tx request =>
    unfold Server.step
    dsimp only
    split
    · exact ⟨rfl, rfl⟩
    · split <;> exact ⟨rfl, rfl⟩
  | execute tx =>
    unfold Server.step
    dsimp only
    split
    · exact ⟨rfl, rfl⟩
    · split
      · exact ⟨rfl, rfl⟩
      · split
        · exact ⟨rfl, rfl⟩
        · split <;> exact ⟨rfl, rfl⟩

def Reads (plan : R → D → Option (Bool × List (Statement D K))) (rows : D) (tx : Nat) (server : Server D K) : Prop :=
  server.committed = rows ∧ ∀ transaction, server.running tx = some transaction →
    ∃ request, plan request rows = some (transaction.redeems, transaction.done ++ transaction.left)

theorem Reads.step {rows : D} {tx : Nat} (reads : Reads plan rows tx server) (event : Event R)
    (other : ∀ tx, event ≠ .commit tx) : Reads plan rows tx (server.step plan event) := by
  refine ⟨(committed_of_not_commit plan server event other).1.trans reads.1, ?_⟩
  cases event with
  | commit tx => exact absurd rfl (other tx)
  | abort another => exact fun transaction running => reads.2 transaction (closed_running running)
  | start another request =>
    unfold Server.step
    dsimp only
    split
    · exact reads.2
    · split
      · exact reads.2
      · rename_i redeems statements planned
        intro transaction running
        dsimp only at running
        by_cases same : tx = another
        · subst same
          rw [Function.update_self] at running
          rw [← Option.some.inj running]
          exact ⟨request, reads.1 ▸ planned⟩
        · rw [Function.update_of_ne same] at running
          exact reads.2 transaction running
  | execute another =>
    unfold Server.step
    dsimp only
    split
    · exact reads.2
    · rename_i before is_running
      split
      · exact reads.2
      · rename_i statement rest left
        split
        · exact reads.2
        · split
          · exact fun transaction running => reads.2 transaction (closed_running running)
          · intro transaction running
            by_cases same : tx = another
            -- Done and left together stay the plan, as one statement goes from the one to the other.
            · subst same
              obtain ⟨request, planned⟩ := reads.2 before is_running
              simp only [Server.executed, Function.update_self, Option.some.injEq] at running
              subst running
              refine ⟨request, ?_⟩
              rw [planned, left, List.append_assoc, List.singleton_append]
            · simp only [Server.executed, Function.update_of_ne same] at running
              exact reads.2 transaction running

theorem Reads.run {rows : D} {tx : Nat} (reads : Reads plan rows tx server) {events : List (Event R)}
    (uncommitted : ∀ event ∈ events, ∀ other, event ≠ .commit other) :
    Reads plan rows tx (Runs.run (Server.step plan) server events) := by
  induction events generalizing server with
  | nil => exact reads
  | cons event rest ih =>
    apply ih (reads.step event (uncommitted event List.mem_cons_self))
    exact fun later member => uncommitted later (List.mem_cons_of_mem event member)

/-- As long as nobody commits, a transaction has made its plan in the rows that are committed. -/
theorem reads_of_idle {tx : Nat} (idle : server.running tx = none) {events : List (Event R)}
    (uncommitted : ∀ event ∈ events, ∀ other, event ≠ .commit other) :
    Reads plan server.committed tx (Runs.run (Server.step plan) server events) := by
  have reads : Reads plan server.committed tx server := ⟨rfl, fun transaction running => nomatch idle.symm.trans running⟩
  exact reads.run uncommitted

omit [DecidableEq K] in
theorem redemptions_committed {committed : D} {transaction : Transaction D K} {running : Nat → Option (Transaction D K)}
    {holder : K → Option Nat} {log : List (Transaction D K)} :
    (Server.redemptions ⟨committed, running, holder, log ++ [transaction]⟩) =
      log.filter Transaction.redeems ++ if transaction.redeems then [transaction] else [] := by
  simp only [Server.redemptions, List.filter_append, List.filter_cons, List.filter_nil]

theorem sound_commit (redeeming : Redeeming plan good) (sound : Sound plan good start server) (tx : Nat) :
    Sound plan good start (server.step plan (.commit tx)) := by
  rcases step_commit plan server tx with ⟨nothing, _⟩ | ⟨transaction, running, finished, committed⟩
  · rw [nothing]
    exact sound
  rw [committed]
  obtain ⟨spends, final, keeps⟩ :=
    applied_of_planned redeeming (sound.planned tx transaction running) finished server.committed
  refine ⟨?_, ?_, ?_, ?_⟩
  · intro other _ after
    exact sound.planned other _ (closed_running after)
  · rw [redemptions_committed]
    intro redeemed
    cases redeems : transaction.redeems with
    | true => exact spends redeems
    | false =>
      apply final
      apply sound.spent
      rw [redeems] at redeemed
      rwa [if_neg Bool.false_ne_true, List.append_nil] at redeemed
  · rw [redemptions_committed]
    intro none_yet other another after claims
    obtain ⟨none_before, not_this⟩ := List.append_eq_nil_iff.mp none_yet
    have not_redeeming : transaction.redeems = false := by
      cases redeems : transaction.redeems with
      | true => simp [redeems] at not_this
      | false => rfl
    exact keeps not_redeeming (sound.fresh none_before other another (closed_running after) claims)
  · simp only [List.foldl_append, List.foldl_cons, List.foldl_nil]
    rw [← sound.traced]

theorem sound_step (redeeming : Redeeming plan good) (server : Server D K) (event : Event R)
    (sound : Sound plan good start server) : Sound plan good start (server.step plan event) := by
  cases event with
  | start tx request => exact sound_start redeeming sound tx request
  | execute tx => exact sound_execute sound tx
  | commit tx => exact sound_commit redeeming sound tx
  | abort tx => exact sound_closed sound tx

theorem redeemed_once_step (redeeming : Redeeming plan good) (server : Server D K) (event : Event R)
    (sound : Sound plan good start server) (now : server.RedeemedOnce start) :
    (server.step plan event).RedeemedOnce start ↔ server.StillGood good event := by
  have next := sound_step redeeming server event sound
  have only_once : (server.step plan event).RedeemedOnce start ↔ (server.step plan event).redemptions.length ≤ 1 :=
    ⟨fun once => once.once, fun once => ⟨once, next.traced⟩⟩
  have nothing_logged : (server.step plan event).log = server.log →
      (server.step plan event).RedeemedOnce start := by
    intro same
    rw [only_once, Server.redemptions, same]
    exact now.once
  cases event with
  | start tx request =>
    exact iff_of_true (nothing_logged (committed_of_not_commit plan server (.start tx request) nofun).2) trivial
  | execute tx => exact iff_of_true (nothing_logged (committed_of_not_commit plan server (.execute tx) nofun).2) trivial
  | abort tx => exact iff_of_true (nothing_logged rfl) trivial
  | commit tx =>
    rcases step_commit plan server tx with ⟨nothing, unfinished⟩ | ⟨transaction, running, finished, committed⟩
    · refine iff_of_true (nothing_logged (by rw [nothing])) ?_
      intro transaction running finished
      exact absurd finished (unfinished transaction running)
    rw [only_once, committed, redemptions_committed]
    cases redeems : transaction.redeems with
    | false =>
      refine iff_of_true ?_ ?_
      · simpa [Server.redemptions] using now.once
      · intro other is_running _ claims
        rw [running] at is_running
        rw [← Option.some.inj is_running, redeems] at claims
        nomatch claims
    | true =>
      -- a first redemption finds the secret good, a second one finds it spent
      constructor
      · intro once other is_running _ _
        apply sound.fresh ?_ tx transaction running redeems
        rw [if_pos rfl, List.length_append, List.length_singleton] at once
        exact List.length_eq_zero_iff.mp (by simpa [Server.redemptions] using once)
      · intro still_good
        have is_good := still_good transaction running finished redeems
        have none_yet : server.redemptions = [] := by
          by_contra some_redemption
          exact sound.spent some_redemption is_good
        have none_logged : server.log.filter Transaction.redeems = [] := none_yet
        rw [none_logged]
        simp

/-- A secret is redeemed once on the runs on which each redemption commits while the secret is still good. -/
theorem spent_once_iff (redeeming : Redeeming plan good) (start : D) (events : List (Event R)) :
    Always (Server.step plan) (Server.RedeemedOnce start) (Server.opening start) events ↔
      Along (Server.step plan) (Server.StillGood good) (Server.opening start) events :=
  always_iff_along_of (sound_step redeeming) (redeemed_once_step redeeming) sound_opening
    ⟨Nat.zero_le 1, rfl⟩

end Once

end Foundation.ReadCommitted
