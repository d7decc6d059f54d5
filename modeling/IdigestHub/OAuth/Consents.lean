import IdigestHub.OAuth.Grants

/-! Runs of the authorization server: every token that it hands out goes back to the consent of its user. -/

set_option autoImplicit false

namespace IdigestHub.OAuth

open Foundation Foundation.Runs

/-- The server of the exchanges with the rest of its tables, and what has happened so far:
the registrations by client, the consents, the codes presented, and the tokens renewed. -/
structure Authority where
  server : Server
  registrations : Table String Registration
  consents : List Consent
  presented : List (Provider × CodeRequest)
  renewed : List (Site × RefreshRequest × AccessToken)

inductive Event where
  | register (site : Site) (clientId secret : String) (metadata : ClientMetadata)
  | confirm (site : Site) (caller : Option Caller) (form : AuthorizeForm) (code : String)
  | exchange (step : Step)
  | refresh (site : Site) (request : RefreshRequest)

namespace Authority

def start : Authority := ⟨.start ⟨∅, ∅, []⟩, ∅, [], [], []⟩

def withDb (authority : Authority) (db : Db) : Authority := { authority with server := { authority.server with db } }

def registered (authority : Authority) (clientId : String) (client : OAuthClient) (registration : Registration) :
    Authority :=
  { authority.withDb { authority.server.db with clients := authority.server.db.clients.put clientId client } with
    registrations := authority.registrations.put clientId registration }

def consented (authority : Authority) (consent : Consent) : Authority :=
  { authority.withDb { authority.server.db with codes := authority.server.db.codes.put consent.codeHash consent.row } with
    consents := authority.consents ++ [consent] }

def presents : Step → List (Provider × CodeRequest)
  | .load _ provider request => [(provider, request)]
  | _ => []

def step (authority : Authority) : Event → Authority
  | .register site clientId secret metadata =>
    -- `client_id` is unique: a second row is not inserted
    if (authority.registrations.find clientId).isSome then authority
    else
      match registerClient site secret metadata with
      | .error _ => authority
      | .ok (client, registration) => authority.registered clientId client registration
  | .confirm site caller form code =>
    match authorizeConfirm site authority.registrations caller form code with
    | .error _ => authority
    | .ok consent =>
      -- and so is `code_hash`
      if (authority.server.db.codes.find consent.codeHash).isSome then authority else authority.consented consent
  | .exchange step =>
    { authority with server := authority.server.step step, presented := authority.presented ++ presents step }
  | .refresh site request =>
    match refreshAccessToken site authority.server.db request with
    | .error _ => authority
    | .ok access => { authority with renewed := authority.renewed ++ [(site, request, access)] }

end Authority

/-! ## What every event keeps -/

section Runs

def Authority.Backed (authority : Authority) (exchanged : Exchanged) : Prop :=
  ∃ consent ∈ authority.consents, ∃ shown ∈ authority.presented, Granted consent shown.1 shown.2 exchanged

/-- Codes and refresh tokens in the tables, exchanges under way and tokens handed out all go back to a consent. -/
structure Traced (authority : Authority) : Prop where
  codes : ∀ hash row, authority.server.db.codes.find hash = some row →
    ∃ consent ∈ authority.consents, consent.codeHash = hash ∧ row.unmarked = consent.row
  issued : ∀ consent ∈ authority.consents,
    ∃ row, authority.server.db.codes.find consent.codeHash = some row ∧ row.unmarked = consent.row
  flying : ∀ tx t, authority.server.inFlight tx = some t → authority.Backed t.exchanged
  redeemed : ∀ redemption ∈ authority.server.redeemed, authority.Backed redemption.2
  refreshTokens : ∀ row ∈ authority.server.db.refreshTokens,
    ∃ redemption ∈ authority.server.redeemed, redemption.2.refresh = row
  renewed : ∀ renewal ∈ authority.renewed,
    ∃ redemption ∈ authority.server.redeemed, Renews renewal.1 renewal.2.1 renewal.2.2 redemption.2
  consents : ∀ consent ∈ authority.consents,
    consent.Valid ∧ authority.registrations.find consent.form.clientId = some consent.registration
  registrations : ∀ clientId registration, authority.registrations.find clientId = some registration →
    ∀ uri ∈ registration.redirectUris, startsHttp uri = true

theorem Traced.start : Traced .start where
  codes hash row found := by simp [Authority.start, Server.start, Table.find] at found
  issued consent member := by simp [Authority.start] at member
  flying tx t there := by simp [Authority.start, Server.start] at there
  redeemed redemption member := by simp [Authority.start, Server.start] at member
  refreshTokens row member := by simp [Authority.start, Server.start] at member
  renewed renewal member := by simp [Authority.start] at member
  consents consent member := by simp [Authority.start] at member
  registrations clientId registration found := by simp [Authority.start, Table.find] at found

variable {authority : Authority}

theorem Traced.registered (traced : Traced authority) {site : Site} {clientId secret : String} {metadata : ClientMetadata}
    {client : OAuthClient} {registration : Registration} (fresh : authority.registrations.find clientId = none)
    (goes : registerClient site secret metadata = .ok (client, registration)) :
    Traced (authority.registered clientId client registration) where
  codes := traced.codes
  issued := traced.issued
  flying := traced.flying
  redeemed := traced.redeemed
  refreshTokens := traced.refreshTokens
  renewed := traced.renewed
  consents consent member := by
    obtain ⟨valid, known⟩ := traced.consents consent member
    refine ⟨valid, ?_⟩
    -- a consent is for a client that was registered before
    have other : consent.form.clientId ≠ clientId := by rintro same; simp [same, fresh] at known
    rw [Authority.registered, Table.find_put, if_neg other]
    exact known
  registrations other there found := by
    rw [Authority.registered, Table.find_put] at found
    split at found
    · cases found
      exact registerClient_http goes
    · exact traced.registrations other there found

theorem Authority.Backed.consented {exchanged : Exchanged} (backed : authority.Backed exchanged) (consent : Consent) :
    (authority.consented consent).Backed exchanged := by
  obtain ⟨earlier, agreed, shown, seen, granted⟩ := backed
  exact ⟨earlier, List.mem_append_left _ agreed, shown, seen, granted⟩

theorem Traced.consented (traced : Traced authority) {consent : Consent} (valid : consent.Valid)
    (fresh : authority.server.db.codes.find consent.codeHash = none)
    (known : authority.registrations.find consent.form.clientId = some consent.registration) :
    Traced (authority.consented consent) where
  codes hash row found := by
    rw [Authority.consented, Authority.withDb, Table.find_put] at found
    split at found
    · cases found
      exact ⟨consent, List.mem_append_right _ (List.mem_singleton_self _), Eq.symm ‹_›, rfl⟩
    · obtain ⟨earlier, member, issued⟩ := traced.codes hash row found
      exact ⟨earlier, List.mem_append_left _ member, issued⟩
  issued other member := by
    rcases List.mem_append.mp member with earlier | now
    · obtain ⟨row, found, same⟩ := traced.issued other earlier
      -- the new code is not one that is there already
      have different : other.codeHash ≠ consent.codeHash := by rintro same; simp [same, fresh] at found
      exact ⟨row, by rw [Authority.consented, Authority.withDb, Table.find_put, if_neg different, found], same⟩
    · obtain rfl := List.mem_singleton.mp now
      exact ⟨other.row, by rw [Authority.consented, Authority.withDb, Table.find_put, if_pos rfl], rfl⟩
  flying tx t there := (traced.flying tx t there).consented consent
  redeemed redemption member := (traced.redeemed redemption member).consented consent
  refreshTokens := traced.refreshTokens
  renewed := traced.renewed
  consents other member := by
    rcases List.mem_append.mp member with earlier | now
    · exact traced.consents other earlier
    · obtain rfl := List.mem_singleton.mp now
      exact ⟨valid, known⟩
  registrations := traced.registrations

def Authority.serve (authority : Authority) (server : Server) (shown : List (Provider × CodeRequest)) : Authority :=
  { authority with server, presented := authority.presented ++ shown }

theorem Authority.Backed.serve {exchanged : Exchanged} (backed : authority.Backed exchanged) (server : Server)
    (shown : List (Provider × CodeRequest)) : (authority.serve server shown).Backed exchanged := by
  obtain ⟨consent, agreed, earlier, seen, granted⟩ := backed
  exact ⟨consent, agreed, earlier, List.mem_append_left _ seen, granted⟩

/-- What a move of the server may do: mark codes, open exchanges that are backed, and commit those under way. -/
structure Moves (authority : Authority) (server : Server) (shown : List (Provider × CodeRequest))
    (more : List (Nat × Exchanged)) : Prop where
  codes : ∀ hash row, server.db.codes.find hash = some row →
    ∃ before, authority.server.db.codes.find hash = some before ∧ row.unmarked = before.unmarked
  kept : ∀ hash before, authority.server.db.codes.find hash = some before →
    ∃ row, server.db.codes.find hash = some row ∧ row.unmarked = before.unmarked
  flying : ∀ tx t, server.inFlight tx = some t →
    (∃ before, authority.server.inFlight tx = some before ∧ before.exchanged = t.exchanged) ∨
      (authority.serve server shown).Backed t.exchanged
  redeemed : server.redeemed = authority.server.redeemed ++ more
  refreshTokens : server.db.refreshTokens =
    authority.server.db.refreshTokens ++ more.map fun redemption => redemption.2.refresh
  committed : ∀ redemption ∈ more, authority.Backed redemption.2

theorem Traced.moves (traced : Traced authority) {server : Server} {shown : List (Provider × CodeRequest)}
    {more : List (Nat × Exchanged)} (moves : Moves authority server shown more) : Traced (authority.serve server shown) where
  codes hash row found := by
    obtain ⟨before, there, same⟩ := moves.codes hash row found
    obtain ⟨consent, member, ofHash, issued⟩ := traced.codes hash before there
    exact ⟨consent, member, ofHash, same.trans issued⟩
  issued consent member := by
    obtain ⟨before, there, same⟩ := traced.issued consent member
    obtain ⟨row, found, unmarked⟩ := moves.kept _ before there
    exact ⟨row, found, unmarked.trans same⟩
  flying tx t there := by
    rcases moves.flying tx t there with ⟨before, open_tx, same⟩ | backed
    · exact same ▸ (traced.flying tx before open_tx).serve server shown
    · exact backed
  redeemed redemption member := by
    rcases List.mem_append.mp (moves.redeemed ▸ member) with earlier | now
    · exact (traced.redeemed redemption earlier).serve server shown
    · exact (moves.committed redemption now).serve server shown
  refreshTokens row member := by
    have here : row ∈ server.db.refreshTokens := member
    change ∃ redemption ∈ server.redeemed, redemption.2.refresh = row
    rw [moves.redeemed]
    rcases List.mem_append.mp (moves.refreshTokens ▸ here) with earlier | now
    · obtain ⟨redemption, there, same⟩ := traced.refreshTokens row earlier
      exact ⟨redemption, List.mem_append_left _ there, same⟩
    · obtain ⟨redemption, there, same⟩ := List.mem_map.mp now
      exact ⟨redemption, List.mem_append_right _ there, same⟩
  renewed renewal member := by
    obtain ⟨redemption, there, renews⟩ := traced.renewed renewal member
    change ∃ redemption ∈ server.redeemed, _
    rw [moves.redeemed]
    exact ⟨redemption, List.mem_append_left _ there, renews⟩
  consents := traced.consents
  registrations := traced.registrations

theorem find_redeem {db : Db} {exchanged : Exchanged} {hash : String} {row : AuthorizationCode}
    (found : (db.redeem exchanged).codes.find hash = some row) :
    ∃ before, db.codes.find hash = some before ∧ row.unmarked = before.unmarked := by
  rw [Db.redeem, Table.find_modify] at found
  split at found
  · rename_i same
    obtain ⟨before, there, rfl⟩ := Option.map_eq_some_iff.mp found
    exact ⟨before, same ▸ there, rfl⟩
  · exact ⟨row, found, rfl⟩

theorem redeem_find {db : Db} {hash : String} {before : AuthorizationCode} (found : db.codes.find hash = some before)
    (exchanged : Exchanged) : ∃ row, (db.redeem exchanged).codes.find hash = some row ∧ row.unmarked = before.unmarked := by
  rw [Db.redeem, Table.find_modify]
  split
  · rename_i same
    subst same
    exact ⟨{ before with usedAt := some exchanged.usedAt }, by rw [found]; rfl, rfl⟩
  · exact ⟨before, found, rfl⟩

theorem Moves.still {server : Server} (shown : List (Provider × CodeRequest)) (db : server.db = authority.server.db)
    (redeemed : server.redeemed = authority.server.redeemed)
    (flying : ∀ tx t, server.inFlight tx = some t →
      ∃ before, authority.server.inFlight tx = some before ∧ before.exchanged = t.exchanged) :
    Moves authority server shown [] where
  codes hash row found := ⟨row, db ▸ found, rfl⟩
  kept hash before found := ⟨before, db ▸ found, rfl⟩
  flying tx t there := .inl (flying tx t there)
  redeemed := by rw [redeemed, List.append_nil]
  refreshTokens := by rw [db, List.map_nil, List.append_nil]
  committed redemption member := by cases member

theorem Moves.rest (shown : List (Provider × CodeRequest)) : Moves authority authority.server shown [] :=
  .still shown rfl rfl fun _ t there => ⟨t, there, rfl⟩

theorem Traced.backed (traced : Traced authority) {provider : Provider} {request : CodeRequest} {exchanged : Exchanged}
    (goes : exchangeAuthorizationCode provider authority.server.db request = .ok exchanged) (server : Server) :
    (authority.serve server [(provider, request)]).Backed exchanged := by
  obtain ⟨_, row, found, passes⟩ := exchange_checks goes
  obtain ⟨consent, member, ofHash, issued⟩ := traced.codes _ row found
  have shown : (provider, request) ∈ authority.presented ++ [(provider, request)] := by simp
  exact ⟨consent, member, (provider, request), shown,
    exchange_granted (traced.consents consent member).1 issued ofHash.symm (exchange_redeems goes).1 passes⟩

theorem Traced.server_moves (traced : Traced authority) (step : Step) :
    ∃ more, Moves authority (authority.server.step step) (Authority.presents step) more := by
  cases step with
  | load tx provider request =>
    rw [Server.step]
    split
    · exact ⟨[], .rest _⟩
    split
    · exact ⟨[], .still _ rfl rfl fun _ t there => ⟨t, there, rfl⟩⟩
    · rename_i exchanged goes
      refine ⟨[], ⟨fun hash row found => ⟨row, found, rfl⟩, fun hash row found => ⟨row, found, rfl⟩,
        fun other t there => ?_, by simp [Server.opened],
        by simp [Server.opened], by simp⟩⟩
      -- What the transaction has read is backed by a consent from then on, whatever the others do.
      by_cases same : other = tx
      · subst same
        obtain rfl : InFlight.mk exchanged false = t := by simpa [Server.opened] using there
        exact .inr (traced.backed goes _)
      · exact .inl ⟨t, by simpa [Server.opened, same] using there, rfl⟩
  | flush tx =>
    rw [Server.step]
    split
    · exact ⟨[], .rest _⟩
    rename_i flight open_tx
    split
    · refine ⟨[], .still _ rfl rfl fun other t there => ?_⟩
      by_cases same : other = tx
      · subst same
        obtain rfl : InFlight.mk flight.exchanged true = t := by simpa [Server.locked] using there
        exact ⟨flight, open_tx, rfl⟩
      · exact ⟨t, by simpa [Server.locked, same] using there, rfl⟩
    · exact ⟨[], .rest _⟩
  | commit tx =>
    rw [Server.step]
    split
    · exact ⟨[], .rest _⟩
    rename_i flight open_tx
    split
    · -- what was backed when it was read is still backed now
      refine ⟨[(tx, flight.exchanged)], ⟨fun hash row found => find_redeem found,
        fun hash before found => redeem_find found flight.exchanged, fun other t there => .inl ?_, rfl,
        by simp [Server.committed, Db.redeem], fun redemption member => ?_⟩⟩
      · exact ⟨t, (closed_inFlight flight.exchanged there).2, rfl⟩
      · obtain rfl := List.mem_singleton.mp member
        exact traced.flying tx flight open_tx
    · exact ⟨[], .rest _⟩
  | abort tx =>
    rw [Server.step]
    split
    · exact ⟨[], .rest _⟩
    · rename_i flight open_tx
      exact ⟨[], .still _ rfl rfl fun other t there => ⟨t, (closed_inFlight flight.exchanged there).2, rfl⟩⟩

theorem Traced.step (traced : Traced authority) (event : Event) : Traced (authority.step event) := by
  cases event with
  | register site clientId secret metadata =>
    rw [Authority.step]
    split
    · exact traced
    rename_i fresh
    split
    · exact traced
    · exact traced.registered (Option.not_isSome_iff_eq_none.mp fresh) ‹_›
  | confirm site caller form code =>
    rw [Authority.step]
    split
    · exact traced
    rename_i consent goes
    split
    · exact traced
    · rename_i fresh
      obtain ⟨valid, known⟩ := authorizeConfirm_ok goes
      exact traced.consented valid (Option.not_isSome_iff_eq_none.mp fresh) known
  | exchange step =>
    obtain ⟨more, moves⟩ := traced.server_moves step
    exact traced.moves moves
  | refresh site request =>
    rw [Authority.step]
    split
    · exact traced
    · rename_i access goes
      obtain ⟨row, there, renews⟩ := refresh_renews goes
      obtain ⟨redemption, member, same⟩ := traced.refreshTokens row there
      refine { traced with renewed := fun renewal earlier => ?_ }
      rcases List.mem_append.mp earlier with before | now
      · exact traced.renewed renewal before
      · obtain rfl := List.mem_singleton.mp now
        exact ⟨redemption, member, renews redemption.2 same⟩

end Runs

/-- Every token that has been handed out is one that its user has consented to: the consent
was given in a session of the user's own, to a registered client and redirection, and the
token is for its scopes and resource only. -/
structure Consented (authority : Authority) : Prop where
  exchanged : ∀ redemption ∈ authority.server.redeemed,
    ∃ consent ∈ authority.consents, ∃ shown ∈ authority.presented, Granted consent shown.1 shown.2 redemption.2
  renewed : ∀ renewal ∈ authority.renewed,
    ∃ redemption ∈ authority.server.redeemed, Renews renewal.1 renewal.2.1 renewal.2.2 redemption.2 ∧
      renewal.2.2.scope = redemption.2.access.scope
  valid : ∀ consent ∈ authority.consents, consent.Valid
  registered : ∀ consent ∈ authority.consents,
    authority.registrations.find consent.form.clientId = some consent.registration ∧
      startsHttp consent.form.redirectUri = true
  goes : ∀ consent ∈ authority.consents, ∀ provider request, provider.hashSecret request.code = consent.codeHash →
    ((∃ exchanged, exchangeAuthorizationCode provider authority.server.db request = .ok exchanged) ↔
      Presents authority.server.db consent provider request)

/-- In every order of registrations, consents, exchanges that overlap, and refreshes. -/
theorem tokens_consented (events : List Event) : Consented (run Authority.step .start events) := by
  have traced : Traced (run Authority.step .start events) :=
    run_induction (I := fun _ authority => Traced authority) Traced.start (fun _ event _ before => before.step event) events
  refine ⟨traced.redeemed, fun renewal member => ?_, fun consent member => (traced.consents consent member).1,
    fun consent member => ?_, fun consent member provider request code => ?_⟩
  · obtain ⟨redemption, there, renews⟩ := traced.renewed renewal member
    obtain ⟨consent, _, shown, _, granted⟩ := traced.redeemed redemption there
    exact ⟨redemption, there, renews, renews.scope_eq granted⟩
  · obtain ⟨valid, known⟩ := traced.consents consent member
    exact ⟨known, traced.registrations _ _ known _ valid.redirect⟩
  · obtain ⟨row, found, issued⟩ := traced.issued consent member
    exact exchange_goes_iff (traced.consents consent member).1 found issued code

section Samples

def openSite (now : Nat) : Site where
  toProvider := { openProvider "" with now }
  oauthProviderEnabled := true
  oauthMcpResourceUrl := ""
  authCodeTtl := 60

/-- A public client registers, a user consents, the code is exchanged and the token renewed. -/
def grantRun : List Event := [
  .register (openSite 0) "app" "" ⟨some [some "https://app/cb"], none, none⟩,
  .confirm (openSite 5) (some ⟨1, true, false⟩)
    ⟨"app", "https://app/cb", "code", some "tasks:write, audio:read", "verifier", "S256", some "https://hub/mcp/", true⟩
    "code",
  .exchange (.load 1 (openProvider "first") codeRequest),
  .exchange (.flush 1),
  .exchange (.commit 1),
  .refresh (openSite 100) ⟨"first", "app", none, none⟩]

example : (run Authority.step .start grantRun).renewed.map (fun renewal => renewal.2.2.scope) = ["audio:read tasks:write"] := by
  decide +kernel

end Samples

end IdigestHub.OAuth
