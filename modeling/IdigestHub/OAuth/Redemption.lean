import IdigestHub.Foundation.Runs
import IdigestHub.OAuth.Exchange

/-! Exchanges of authorization codes in concurrent transactions. Each one reads committed
rows, and its `UPDATE` of the code's row waits for the one that holds the row. -/

set_option autoImplicit false

namespace IdigestHub.OAuth

open Foundation Foundation.Runs

/-- An exchange that has passed its checks and not committed yet. -/
structure InFlight where
  exchanged : Exchanged
  flushed : Bool

inductive Answer where
  | tokens (exchanged : Exchanged)
  | refused (provider : Provider) (request : CodeRequest) (refusal : Refusal)

structure Server where
  db : Db
  inFlight : Nat → Option InFlight
  locks : String → Option Nat
  answers : Nat → Option Answer
  redeemed : List (Nat × Exchanged)

inductive Step where
  | load (tx : Nat) (provider : Provider) (request : CodeRequest)
  | flush (tx : Nat)
  | commit (tx : Nat)
  | abort (tx : Nat)

namespace Server

def start (db : Db) : Server := ⟨db, fun _ => none, fun _ => none, fun _ => none, []⟩

def answer (server : Server) (tx : Nat) (answer : Answer) : Server :=
  { server with answers := Function.update server.answers tx (some answer) }

def opened (server : Server) (tx : Nat) (exchanged : Exchanged) : Server :=
  { server with inFlight := Function.update server.inFlight tx (some ⟨exchanged, false⟩) }

/-- The row is written in the transaction, and held. -/
def locked (server : Server) (tx : Nat) (exchanged : Exchanged) : Server :=
  { server with
    inFlight := Function.update server.inFlight tx (some ⟨exchanged, true⟩)
    locks := Function.update server.locks exchanged.codeHash (some tx) }

def closed (server : Server) (tx : Nat) (exchanged : Exchanged) : Server :=
  { server with
    inFlight := Function.update server.inFlight tx none
    locks := if server.locks exchanged.codeHash = some tx then
      Function.update server.locks exchanged.codeHash none else server.locks }

def committed (server : Server) (tx : Nat) (exchanged : Exchanged) : Server :=
  { server.closed tx exchanged with
    db := server.db.redeem exchanged
    answers := Function.update server.answers tx (some (.tokens exchanged))
    redeemed := server.redeemed ++ [(tx, exchanged)] }

def step (server : Server) : Step → Server
  | .load tx provider request =>
    if (server.inFlight tx).isSome || (server.answers tx).isSome then server
    else
      match exchangeAuthorizationCode provider server.db request with
      | .error refusal => server.answer tx (.refused provider request refusal)
      | .ok exchanged => server.opened tx exchanged
  | .flush tx =>
    match server.inFlight tx with
    | none => server
    | some t => if (server.locks t.exchanged.codeHash).isNone then server.locked tx t.exchanged else server
  | .commit tx =>
    match server.inFlight tx with
    | none => server
    | some t => if t.flushed then server.committed tx t.exchanged else server
  | .abort tx =>
    match server.inFlight tx with
    | none => server
    | some t => server.closed tx t.exchanged

/-- Each code has been redeemed at most once, every refresh token comes from a redemption,
and a request that was right for its code and got no tokens was refused with `invalid_grant`. -/
structure RedeemedOnce (start : Db) (server : Server) : Prop where
  once : (server.redeemed.map fun redemption => redemption.2.codeHash).Nodup
  minted : server.db.refreshTokens = start.refreshTokens ++ server.redeemed.map fun redemption => redemption.2.refresh
  refused : ∀ tx provider request refusal, server.answers tx = some (.refused provider request refusal) →
    tx ∉ server.redeemed.map Prod.fst ∧ (Fits provider start request → refusal = invalidGrant)

def StillUnused (server : Server) : Step → Prop
  | .commit tx => ∀ t, server.inFlight tx = some t → t.flushed = true →
      ∀ row, server.db.codes.find t.exchanged.codeHash = some row → row.usedAt = none
  | _ => True

def used (server : Server) : List String := server.redeemed.map fun redemption => redemption.2.codeHash

end Server

def AuthorizationCode.unmarked (row : AuthorizationCode) : AuthorizationCode := { row with usedAt := none }

structure SameCodes (start db : Db) : Prop where
  clients : db.clients = start.clients
  codes : ∀ hash, (db.codes.find hash).map AuthorizationCode.unmarked =
    (start.codes.find hash).map AuthorizationCode.unmarked

theorem SameCodes.redeem {start db : Db} (same : SameCodes start db) (exchanged : Exchanged) :
    SameCodes start (db.redeem exchanged) := by
  refine ⟨same.clients, fun hash => ?_⟩
  rw [← same.codes hash, Db.redeem, Table.find_modify]
  split
  · rename_i here
    subst here
    cases db.codes.find exchanged.codeHash <;> rfl
  · rfl

theorem Fits.of_start {start db : Db} {provider : Provider} {request : CodeRequest} (same : SameCodes start db)
    (fits : Fits provider start request) : Fits provider db request := by
  refine ⟨by rw [same.clients]; exact fits.client, fits.issuer, fun row found => ?_⟩
  have marks := same.codes (provider.hashSecret request.code)
  rw [found] at marks
  obtain ⟨first, issued, unmarked⟩ := Option.map_eq_some_iff.mp marks.symm
  obtain ⟨client, redirect, pkce⟩ := fits.code first issued
  simp only [AuthorizationCode.unmarked, AuthorizationCode.mk.injEq] at unmarked
  obtain ⟨clientId, _, redirectUri, _, _, challenge, method, _⟩ := unmarked
  exact ⟨clientId ▸ client, redirectUri ▸ redirect, challenge ▸ method ▸ pkce⟩

/-- What every step keeps, whatever the order. -/
structure Sound (start : Db) (server : Server) : Prop where
  same : SameCodes start server.db
  marked : ∀ hash ∈ server.used, ∀ row, server.db.codes.find hash = some row → row.usedAt.isSome
  loaded : ∀ tx t, server.inFlight tx = some t → ∃ row, server.db.codes.find t.exchanged.codeHash = some row ∧
    (row.usedAt.isSome → t.exchanged.codeHash ∈ server.used)
  minted : server.db.refreshTokens = start.refreshTokens ++ server.redeemed.map fun redemption => redemption.2.refresh
  answered : ∀ tx ∈ server.redeemed.map Prod.fst, ∃ exchanged, server.answers tx = some (.tokens exchanged)
  apart : ∀ tx, (server.inFlight tx).isSome → server.answers tx = none
  refused : ∀ tx provider request refusal, server.answers tx = some (.refused provider request refusal) →
    Fits provider start request → refusal = invalidGrant

section Steps

variable {start : Db} {server : Server}

theorem Sound.opening (db : Db) : Sound db (.start db) where
  same := ⟨rfl, fun _ => rfl⟩
  marked := by simp [Server.used, Server.start]
  loaded := by simp [Server.start]
  minted := by simp [Server.start]
  answered := by simp [Server.start]
  apart := by simp [Server.start]
  refused := by simp [Server.start]

theorem Sound.answer (sound : Sound start server) {tx : Nat} {provider : Provider} {request : CodeRequest}
    {refusal : Refusal} (idle : server.inFlight tx = none) (unanswered : server.answers tx = none)
    (refused : exchangeAuthorizationCode provider server.db request = .error refusal) :
    Sound start (server.answer tx (.refused provider request refusal)) where
  same := sound.same
  marked := sound.marked
  loaded := sound.loaded
  minted := sound.minted
  answered other member := by
    obtain ⟨exchanged, tokens⟩ := sound.answered other member
    have different : other ≠ tx := by rintro rfl; simp [unanswered] at tokens
    exact ⟨exchanged, by simp [Server.answer, different, tokens]⟩
  apart other running := by
    have different : other ≠ tx := by rintro rfl; simp [Server.answer, idle] at running
    simpa [Server.answer, different] using sound.apart other running
  refused other provider' request' refusal' here fits := by
    by_cases same : other = tx
    · subst same
      obtain ⟨rfl, rfl, rfl⟩ : provider = provider' ∧ request = request' ∧ refusal = refusal' := by
        simpa [Server.answer] using here
      exact exchange_refusal (fits.of_start sound.same) refused
    · exact sound.refused other provider' request' refusal' (by simpa [Server.answer, same] using here) fits

theorem Sound.opened (sound : Sound start server) {tx : Nat} {provider : Provider} {request : CodeRequest}
    {exchanged : Exchanged} (unanswered : server.answers tx = none)
    (goes : exchangeAuthorizationCode provider server.db request = .ok exchanged) :
    Sound start (server.opened tx exchanged) where
  same := sound.same
  marked := sound.marked
  loaded other t open_tx := by
    by_cases same : other = tx
    · subst same
      obtain rfl : InFlight.mk exchanged false = t := by simpa [Server.opened] using open_tx
      obtain ⟨row, found, unused⟩ := exchange_unused goes
      exact ⟨row, found, by simp [unused]⟩
    · exact sound.loaded other t (by simpa [Server.opened, same] using open_tx)
  minted := sound.minted
  answered := sound.answered
  apart other running := by
    by_cases same : other = tx
    · exact same ▸ unanswered
    · exact sound.apart other (by simpa [Server.opened, same] using running)
  refused := sound.refused

theorem Sound.locked (sound : Sound start server) {tx : Nat} {t : InFlight} (open_tx : server.inFlight tx = some t) :
    Sound start (server.locked tx t.exchanged) where
  same := sound.same
  marked := sound.marked
  loaded other t' there := by
    by_cases same : other = tx
    · subst same
      obtain rfl : InFlight.mk t.exchanged true = t' := by simpa [Server.locked] using there
      exact sound.loaded other t open_tx
    · exact sound.loaded other t' (by simpa [Server.locked, same] using there)
  minted := sound.minted
  answered := sound.answered
  apart other running := by
    by_cases same : other = tx
    · exact same ▸ sound.apart tx (by simp [open_tx])
    · exact sound.apart other (by simpa [Server.locked, same] using running)
  refused := sound.refused

theorem closed_inFlight {tx other : Nat} {t : InFlight} (exchanged : Exchanged)
    (there : (server.closed tx exchanged).inFlight other = some t) : other ≠ tx ∧ server.inFlight other = some t := by
  by_cases same : other = tx
  · simp [Server.closed, same] at there
  · exact ⟨same, by simpa [Server.closed, same] using there⟩

theorem Sound.closed (sound : Sound start server) (tx : Nat) (exchanged : Exchanged) :
    Sound start (server.closed tx exchanged) where
  same := sound.same
  marked := sound.marked
  loaded other t there := sound.loaded other t (closed_inFlight _ there).2
  minted := sound.minted
  answered := sound.answered
  apart other running := by
    obtain ⟨t, there⟩ := Option.isSome_iff_exists.mp running
    exact sound.apart other (by simp [(closed_inFlight _ there).2])
  refused := sound.refused

theorem used_committed (tx : Nat) (exchanged : Exchanged) :
    (server.committed tx exchanged).used = server.used ++ [exchanged.codeHash] := by
  simp [Server.used, Server.committed]

theorem Sound.committed (sound : Sound start server) (tx : Nat) (t : InFlight) :
    Sound start (server.committed tx t.exchanged) where
  same := sound.same.redeem t.exchanged
  marked hash member row found := by
    rw [used_committed] at member
    rw [Server.committed, Db.redeem, Table.find_modify] at found
    split at found
    · obtain ⟨_, _, rfl⟩ := Option.map_eq_some_iff.mp found
      rfl
    · rename_i different
      rcases List.mem_append.mp member with before | now
      · exact sound.marked hash before row found
      · exact absurd (List.mem_singleton.mp now) different
  loaded other t' there := by
    obtain ⟨row, found, recorded⟩ := sound.loaded other t' (closed_inFlight t.exchanged there).2
    rw [used_committed]
    by_cases same : t'.exchanged.codeHash = t.exchanged.codeHash
    · refine ⟨{ row with usedAt := some t.exchanged.usedAt }, ?_, fun _ => by simp [same]⟩
      rw [same] at found ⊢
      simp [Server.committed, Db.redeem, Table.find_modify, found]
    · refine ⟨row, ?_, fun marked => List.mem_append_left _ (recorded marked)⟩
      simpa [Server.committed, Db.redeem, Table.find_modify, same] using found
  minted := by simp [Server.committed, Db.redeem, sound.minted]
  answered other member := by
    by_cases same : other = tx
    · exact ⟨t.exchanged, by simp [Server.committed, same]⟩
    · have before : other ∈ server.redeemed.map Prod.fst := by simpa [Server.committed, same] using member
      obtain ⟨exchanged, tokens⟩ := sound.answered other before
      exact ⟨exchanged, by simp [Server.committed, same, tokens]⟩
  apart other running := by
    obtain ⟨t', there⟩ := Option.isSome_iff_exists.mp running
    obtain ⟨different, before⟩ := closed_inFlight t.exchanged there
    simpa [Server.committed, different] using sound.apart other (by simp [before])
  refused other provider request refusal here fits := by
    by_cases same : other = tx
    · simp [Server.committed, same] at here
    · exact sound.refused other provider request refusal (by simpa [Server.committed, same] using here) fits

theorem Sound.step (sound : Sound start server) (step : Step) : Sound start (server.step step) := by
  cases step with
  | load tx provider request =>
    rw [Server.step]
    split
    · exact sound
    · rename_i fresh
      obtain ⟨idle, unanswered⟩ : server.inFlight tx = none ∧ server.answers tx = none := by simpa using fresh
      split
      · exact sound.answer idle unanswered ‹_›
      · exact sound.opened unanswered ‹_›
  | flush tx =>
    rw [Server.step]
    split
    · exact sound
    · split
      · exact sound.locked ‹_›
      · exact sound
  | commit tx =>
    rw [Server.step]
    split
    · exact sound
    · split
      · exact sound.committed tx _
      · exact sound
  | abort tx =>
    rw [Server.step]
    split
    · exact sound
    · exact sound.closed tx _

theorem Sound.redeemedOnce (sound : Sound start server) (once : server.used.Nodup) : server.RedeemedOnce start := by
  refine ⟨once, sound.minted, fun tx provider request refusal here => ⟨fun member => ?_, ?_⟩⟩
  · obtain ⟨exchanged, tokens⟩ := sound.answered tx member
    simp [here] at tokens
  · exact sound.refused tx provider request refusal here

/-- Only a commit redeems, and it redeems a code that is not yet marked. -/
theorem step_once_iff (sound : Sound start server) (once : server.used.Nodup) (step : Step) :
    (server.step step).used.Nodup ↔ server.StillUnused step := by
  cases step with
  | load tx provider request =>
    refine ⟨fun _ => trivial, fun _ => ?_⟩
    rw [Server.step]
    split
    · exact once
    · split <;> exact once
  | flush tx =>
    refine ⟨fun _ => trivial, fun _ => ?_⟩
    rw [Server.step]
    split
    · exact once
    · split <;> exact once
  | abort tx =>
    refine ⟨fun _ => trivial, fun _ => ?_⟩
    rw [Server.step]
    split <;> exact once
  | commit tx =>
    cases open_tx : server.inFlight tx with
    | none => simpa [Server.step, Server.StillUnused, open_tx] using once
    | some t =>
      cases flushed : t.flushed with
      | false => simpa [Server.step, Server.StillUnused, open_tx, flushed] using once
      | true =>
        obtain ⟨row, found, recorded⟩ := sound.loaded tx t open_tx
        have commits : (server.step (.commit tx)) = server.committed tx t.exchanged := by
          simp [Server.step, open_tx, flushed]
        rw [commits, used_committed, List.nodup_append_comm, List.singleton_append, List.nodup_cons]
        constructor
        · rintro ⟨unused, -⟩ t' same - row' found'
          obtain rfl : t = t' := Option.some.inj (open_tx.symm.trans same)
          obtain rfl : row = row' := Option.some.inj (found.symm.trans found')
          rw [← Option.not_isSome_iff_eq_none]
          exact fun marked => unused (recorded marked)
        · intro still
          refine ⟨fun member => ?_, once⟩
          have marked := sound.marked _ member row found
          rw [still t open_tx flushed row found] at marked
          contradiction

end Steps

/-- In every interleaving, codes are redeemed at most once and every other fitting request is
refused with `invalid_grant`, if and only if each commit finds its code still unused. -/
theorem redeemed_once_iff (db : Db) (steps : List Step) :
    Always Server.step (Server.RedeemedOnce db) (.start db) steps ↔
      Along Server.step Server.StillUnused (.start db) steps := by
  refine always_iff_along_of (A := Sound db) (fun s e now => Sound.step now e) (fun server step sound now => ?_)
    (.opening db) ((Sound.opening db).redeemedOnce List.nodup_nil)
  rw [← step_once_iff sound now.once step]
  exact ⟨Server.RedeemedOnce.once, (sound.step step).redeemedOnce⟩

section Samples

/-- Digests that keep the text; every user exists and may sign in. -/
def openProvider (newToken : String) : Provider where
  hashSecret text := text
  challengeOf text := text
  publicBaseUrl := some "https://hub"
  accessTokenTtl := 3600
  refreshTokenTtl := 86400
  userExists _ := true
  userOauthBlocked _ := none
  now := 10
  newToken := newToken

def oneCode : Db where
  clients := Table.put ∅ "app" ⟨none, "none"⟩
  codes := Table.put ∅ "code" ⟨"app", 1, "https://app/cb", "audio:read", "https://hub/mcp", "verifier", "S256", 60, none⟩
  refreshTokens := []

def codeRequest : CodeRequest := ⟨"code", "app", "https://app/cb", "verifier", none⟩

def overlapping : List Step := [
  .load 1 (openProvider "first") codeRequest,
  .load 2 (openProvider "second") codeRequest,
  .flush 1,
  .commit 1,
  .flush 2,
  .commit 2]

/-- Both exchanges commit: the code yields two refresh tokens. -/
theorem code_redeemed_twice :
    let server := run Server.step (.start oneCode) overlapping
    server.used = ["code", "code"] ∧
    server.db.refreshTokens.map RefreshToken.tokenHash = ["first", "second"] ∧ ¬server.RedeemedOnce oneCode := by
  intro server
  have both : server.used = ["code", "code"] := by decide +kernel
  refine ⟨both, by decide +kernel, fun redeemed => ?_⟩
  have once : server.used.Nodup := redeemed.once
  simp [both] at once

end Samples

end IdigestHub.OAuth
