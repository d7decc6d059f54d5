import IdigestHub.Foundation.Runs
import IdigestHub.Foundation.Table
import IdigestHub.Foundation.Words

/-! Public links of summaries: their PINs, and the cookie of a guest who has entered one. -/

set_option autoImplicit false

namespace IdigestHub.Library

open Foundation Foundation.Runs

/-- `hash_secret` with the secret of the server, the password hashes with their salts, and what `isdigit` and `int` make of a
text. -/
structure LinkCrypto where
  hashSecret : String → String
  hashPassword : (salt : Nat) → String → String
  verifyPassword : String → String → Bool
  isDigit : String → Bool
  int : String → Option Nat

def pinMinLen : Nat := 4

def pinMaxLen : Nat := 6

def unlockTtlSec : Nat := 1800

/-- Times are counted in microseconds, from the year 1970 on. -/
def seconds (time : Nat) : Nat := time / 1000000

structure PublicLink where
  id : Nat
  orgId : Nat
  /-- What `token_encrypted` holds, where it can be decrypted. -/
  token : String
  tokenHash : String
  createdByUserId : Nat
  expiresAt : Option Nat
  revokedAt : Option Nat
  pinHash : Option String
  createdAt : Nat
  deriving DecidableEq

/-- A cookie that an unlock has issued: when, for which link, until which second, and the PIN that was entered. -/
structure Unlock where
  at_ : Nat
  link : Nat
  expires : Nat
  pin : String
  deriving DecidableEq

structure LinkedSummary where
  orgId : Nat
  ownerUserId : Nat

/-- The links under the summaries they show, and the rows around them. -/
structure Links where
  links : Table Nat PublicLink
  summaries : Table Nat LinkedSummary
  orgs : Table Nat Bool
  publicBaseUrl : Option String
  nextId : Nat
  clock : Nat
  unlocks : List Unlock

def Links.opened (summaries : Table Nat LinkedSummary) (orgs : Table Nat Bool) (publicBaseUrl : Option String)
    (nextId clock : Nat) :
    Links :=
  ⟨∅, summaries, orgs, publicBaseUrl, nextId, clock, []⟩

/-- A refusal, or an exception that nothing catches. -/
inductive LinkRefusal where
  | publicBaseUrlMissing | publicLinksDisabled | validationError | notFound | forbidden | invalidPin
  | overflow
  deriving DecidableEq

section Endpoints

variable (crypto : LinkCrypto)

def validatePin : Option String → Except LinkRefusal (Option String)
  | none => .ok none
  | some "" => .ok none
  | some pin =>
    let cleaned := Text.strip pin
    if !crypto.isDigit cleaned || cleaned.length < pinMinLen || pinMaxLen < cleaned.length then .error .validationError
    else .ok (some cleaned)

/-- The end of the year 9999, the last that a `datetime` has. -/
def endOfTime : Nat := 253402300800 * 1000000

def expiresAt (now : Nat) : Option Int → Except LinkRefusal (Option Nat)
  | none => .ok none
  | some days =>
    let expires := now + days.toNat * 86400 * 1000000
    if days ≤ 0 then .error .validationError else if expires < endOfTime then .ok (some expires) else .error .overflow

namespace Links

/-- `instance_public_base_url` finds an address. -/
def hasBaseUrl (s : Links) : Bool := Text.stripChar '/' (Text.strip (s.publicBaseUrl.getD "")) != ""

/-- `link_is_active`. -/
def isActive (s : Links) (now : Nat) (link : PublicLink) : Bool :=
  link.revokedAt.isNone && link.expiresAt.all (now < ·) && (s.orgs.find link.orgId).any id && s.hasBaseUrl

/-- `resolve_link`. -/
def resolve (s : Links) (now : Nat) (token : String) : Option PublicLink := do
  let summaryId ← (s.links.select fun _ link => link.tokenHash == crypto.hashSecret token).head?
  let link ← s.links.find summaryId
  if (s.summaries.find summaryId).isSome && s.isActive now link then some link else none

def fresh (s : Links) (orgId userId now : Nat) (token : String) (expires : Option Nat) (pinHash : Option String) :
    PublicLink where
  id := s.nextId
  orgId := orgId
  token := token
  tokenHash := crypto.hashSecret token
  createdByUserId := userId
  expiresAt := expires
  revokedAt := none
  pinHash := pinHash
  createdAt := now

/-- A request to `create_or_update_link`. `token` and `salt` are what the server draws, and `decrypts` tells whether the stored
token can be read. -/
structure Update where
  summaryId : Nat
  userId : Nat
  expiresInDays : Option Int
  pin : Option String
  token : String
  salt : Nat
  decrypts : Bool

def kept (s : Links) (update : Update) : Option PublicLink :=
  (s.links.find update.summaryId).filter fun link => link.revokedAt.isNone && update.decrypts

def createOrUpdateLink (s : Links) (now orgId : Nat) (update : Update) : Except LinkRefusal Links := do
  if !s.hasBaseUrl then .error .publicBaseUrlMissing
  else if !(s.orgs.find orgId).any id then .error .publicLinksDisabled
  else do
    let pin ← validatePin crypto update.pin
    let expires ← expiresAt now update.expiresInDays
    let pinHash := pin.map (crypto.hashPassword update.salt)
    match s.kept update with
    | some link => .ok { s with links := s.links.put update.summaryId { link with expiresAt := expires, pinHash } }
    | none => .ok { s with
      links := s.links.put update.summaryId (s.fresh crypto orgId update.userId now update.token expires pinHash)
      nextId := s.nextId + 1 }

def createSummaryPublicLink (s : Links) (now : Nat) (update : Update) : Except LinkRefusal Links :=
  match s.summaries.find update.summaryId with
  | none => .error .notFound
  | some summary =>
    if summary.ownerUserId ≠ update.userId then .error .forbidden else s.createOrUpdateLink crypto now summary.orgId update

/-- `parse_unlock_cookie`. -/
def parseCookie (value : String) : Option (String × Nat) :=
  match Text.split '.' value with
  | [link, expires, signature] =>
    if link = "" || !crypto.isDigit expires then none
    else (crypto.int expires).bind fun seconds =>
      if signature = crypto.hashSecret ("plu:" ++ link ++ ":" ++ toString seconds) then some (link, seconds) else none
  | _ => none

/-- `unlock_cookie_valid`. -/
def cookieValid (now : Nat) (cookie : Option String) (link : PublicLink) : Bool :=
  ((cookie.filter (· != "")).bind (parseCookie crypto)).any fun (its, expires) => its == toString link.id && seconds now < expires

/-- `get_public_summary`: whether the guest sees the summary, for a link that is there. -/
def getPublicSummary (s : Links) (now : Nat) (token : String) (cookie : Option String) : Except LinkRefusal Bool :=
  match s.resolve crypto now token with
  | none => .error .notFound
  | some link => .ok (link.pinHash.isNone || cookieValid crypto now cookie link)

/-- `verify_link_pin`. -/
def verifyPin (link : PublicLink) (pin : String) : Bool :=
  link.pinHash.all fun hash => crypto.verifyPassword (Text.strip pin) hash

def unlockPublicSummary (s : Links) (now : Nat) (token pin : String) : Except LinkRefusal (Option Unlock) :=
  match s.resolve crypto now token with
  | none => .error .notFound
  | some link =>
    if link.pinHash.isNone then .ok none
    else if !verifyPin crypto link pin then .error .invalidPin
    else .ok (some ⟨now, link.id, seconds (now + unlockTtlSec * 1000000), Text.strip pin⟩)

end Links

inductive LinkEvent where
  | update (update : Links.Update)
  | revoke (summaryId : Nat)
  | unlock (token pin : String)
  | view (token : String) (cookie : Option String)
  | allow (orgId : Nat) (allowed : Bool)
  | configure (publicBaseUrl : Option String)
  | deleteSummary (summaryId : Nat)

/-- The request comes at a time of its own, and a later one never earlier. -/
def Links.step (s : Links) : Nat × LinkEvent → Links
  | (time, event) =>
    let now := max s.clock time
    let s := { s with clock := now }
    match event with
    | .update update => (s.createSummaryPublicLink crypto now update).toOption.getD s
    | .revoke summaryId => { s with links := s.links.delete summaryId }
    | .unlock token pin =>
      match s.unlockPublicSummary crypto now token pin with
      | .ok (some unlock) => { s with unlocks := unlock :: s.unlocks }
      | _ => s
    | .view .. => s
    | .allow orgId allowed => { s with orgs := s.orgs.modify orgId fun _ => allowed }
    | .configure publicBaseUrl => { s with publicBaseUrl }
    | .deleteSummary summaryId => { s with summaries := s.summaries.delete summaryId, links := s.links.delete summaryId }

/-- A guest cannot sign: what the server accepts as its cookie, it has issued. -/
def Links.Issued (s : Links) (cookie : Option String) : Prop :=
  ∀ value link expires, cookie = some value → Links.parseCookie crypto value = some (link, expires) →
    ∃ unlock ∈ s.unlocks, toString unlock.link = link ∧ unlock.expires = expires

/-- Whoever sees a summary behind a PIN has entered the PIN that the link has now, less than the lifetime of a cookie ago. -/
def PinGuarded (s : Links) : Prop :=
  ∀ now token cookie link hash, s.clock ≤ now → s.Issued crypto cookie → s.resolve crypto now token = some link →
    link.pinHash = some hash → s.getPublicSummary crypto now token cookie = .ok true →
    ∃ value, cookie = some value ∧ ∃ unlock ∈ s.unlocks, unlock.link = link.id ∧
      Links.parseCookie crypto value = some (toString link.id, unlock.expires) ∧ now < unlock.at_ + unlockTtlSec * 1000000 ∧
      crypto.verifyPassword unlock.pin hash = true

/-- An update that gives a PIN to a link that it keeps finds no cookie for another PIN that would still be accepted. -/
def Links.Sound (s : Links) : Nat × LinkEvent → Prop
  | (time, .update update) => ∀ link pin, s.kept update = some link → validatePin crypto update.pin = .ok (some pin) →
    ∀ unlock ∈ s.unlocks, unlock.link = link.id → seconds (max s.clock time) < unlock.expires →
      crypto.verifyPassword unlock.pin (crypto.hashPassword update.salt pin) = true
  | _ => True

end Endpoints

section Guarding

variable {crypto : LinkCrypto} {s : Links}

/-- Cookies that are still accepted are for the PIN that their link has now. -/
structure Vouched (crypto : LinkCrypto) (s : Links) : Prop where
  below : ∀ summaryId link, s.links.find summaryId = some link → link.id < s.nextId
  distinct : ∀ summaryId other link another, s.links.find summaryId = some link → s.links.find other = some another →
    link.id = another.id → summaryId = other
  issued : ∀ unlock ∈ s.unlocks, unlock.link < s.nextId ∧ unlock.expires = seconds (unlock.at_ + unlockTtlSec * 1000000)
  verified : ∀ summaryId link hash, s.links.find summaryId = some link → link.pinHash = some hash → ∀ unlock ∈ s.unlocks,
    unlock.link = link.id → seconds s.clock < unlock.expires → crypto.verifyPassword unlock.pin hash = true

theorem Vouched.later (vouched : Vouched crypto s) {now : Nat} (later : s.clock ≤ now) : Vouched crypto { s with clock := now } :=
  { vouched with
    verified := fun summaryId link hash found its unlock member same live =>
      vouched.verified summaryId link hash found its unlock member same (lt_of_le_of_lt (Nat.div_le_div_right later) live) }

/-- Links that go take nothing away from the others. -/
theorem Vouched.fewer (vouched : Vouched crypto s) {links : Table Nat PublicLink} (summaries : Table Nat LinkedSummary)
    (fewer : ∀ summaryId link, links.find summaryId = some link → s.links.find summaryId = some link) :
    Vouched crypto { s with links, summaries } where
  below summaryId link found := vouched.below summaryId link (fewer _ _ found)
  distinct summaryId other link another found there := vouched.distinct summaryId other link another (fewer _ _ found)
    (fewer _ _ there)
  issued := vouched.issued
  verified summaryId link hash found := vouched.verified summaryId link hash (fewer _ _ found)

theorem find_of_delete {links : Table Nat PublicLink} (key : Nat) :
    ∀ summaryId link, (links.delete key).find summaryId = some link → links.find summaryId = some link := by
  intro summaryId link found
  rw [Table.find_delete] at found
  split at found
  · contradiction
  · exact found

theorem resolve_found {now : Nat} {token : String} {link : PublicLink} (resolved : s.resolve crypto now token = some link) :
    ∃ summaryId, s.links.find summaryId = some link := by
  simp only [Links.resolve, Option.bind_eq_bind, Option.bind_eq_some_iff] at resolved
  obtain ⟨summaryId, _, its, found, same⟩ := resolved
  split at same
  · obtain rfl := Option.some.inj same
    exact ⟨summaryId, found⟩
  · contradiction

theorem Vouched.updated (vouched : Vouched crypto s) {summaryId : Nat} {link : PublicLink}
    (found : s.links.find summaryId = some link)
    (expires : Option Nat) (pinHash : Option String) (verifies : ∀ hash, pinHash = some hash →
      ∀ unlock ∈ s.unlocks, unlock.link = link.id →
      seconds s.clock < unlock.expires → crypto.verifyPassword unlock.pin hash = true) :
    Vouched crypto { s with links := s.links.put summaryId { link with expiresAt := expires, pinHash } } := by
  have row {key : Nat} {its : PublicLink}
      (there : (s.links.put summaryId { link with expiresAt := expires, pinHash }).find key = some its) :
      key = summaryId ∧ its = { link with expiresAt := expires, pinHash } ∨ key ≠ summaryId ∧ s.links.find key = some its := by
    rw [Table.find_put] at there
    split at there
    · exact .inl ⟨‹_›, (Option.some.inj there).symm⟩
    · exact .inr ⟨‹_›, there⟩
  -- A row keeps its id, whether it is the one that changes or another.
  have before {key : Nat} {its : PublicLink}
      (there : (s.links.put summaryId { link with expiresAt := expires, pinHash }).find key = some its) :
      ∃ was, s.links.find key = some was ∧ was.id = its.id := by
    rcases row there with ⟨rfl, rfl⟩ | ⟨_, there⟩
    · exact ⟨link, found, rfl⟩
    · exact ⟨its, there, rfl⟩
  constructor
  · intro key its there
    obtain ⟨was, stored, same⟩ := before there
    exact same ▸ vouched.below key was stored
  · intro key other its another there here same
    obtain ⟨was, stored, its_id⟩ := before there
    obtain ⟨were, held, another_id⟩ := before here
    exact vouched.distinct key other was were stored held (its_id.trans (same.trans another_id.symm))
  · exact vouched.issued
  · intro key its hash there pin unlock member same live
    rcases row there with ⟨rfl, rfl⟩ | ⟨_, there⟩
    · exact verifies hash pin unlock member same live
    · exact vouched.verified key its hash there pin unlock member same live

theorem Vouched.created (vouched : Vouched crypto s) (summaryId orgId userId now : Nat) (token : String) (expires : Option Nat)
    (pinHash : Option String) :
    Vouched crypto { s with
      links := s.links.put summaryId (s.fresh crypto orgId userId now token expires pinHash)
      nextId := s.nextId + 1 } := by
  have row {key : Nat} {its : PublicLink}
      (there : (s.links.put summaryId (s.fresh crypto orgId userId now token expires pinHash)).find key = some its) :
      key = summaryId ∧ its.id = s.nextId ∨ key ≠ summaryId ∧ s.links.find key = some its := by
    rw [Table.find_put] at there
    split at there
    · exact .inl ⟨‹_›, by rw [← Option.some.inj there]; rfl⟩
    · exact .inr ⟨‹_›, there⟩
  constructor
  · intro key its there
    rcases row there with ⟨_, id⟩ | ⟨_, there⟩
    · exact lt_of_eq_of_lt id (Nat.lt_succ_self _)
    · exact Nat.lt_succ_of_lt (vouched.below key its there)
  · intro key other its another there here same
    rcases row there with ⟨its_key, id⟩ | ⟨_, was⟩ <;> rcases row here with ⟨another_key, another_id⟩ | ⟨_, were⟩
    · exact its_key.trans another_key.symm
    · exact absurd (same.symm.trans id) (Nat.ne_of_lt (vouched.below other another were))
    · exact absurd (same.trans another_id) (Nat.ne_of_lt (vouched.below key its was))
    · exact vouched.distinct key other its another was were same
  · exact fun unlock member => ⟨Nat.lt_succ_of_lt (vouched.issued unlock member).1, (vouched.issued unlock member).2⟩
  · intro key its hash there pin unlock member same live
    rcases row there with ⟨_, id⟩ | ⟨_, there⟩
    · exact absurd (same.trans id) (Nat.ne_of_lt (vouched.issued unlock member).1)
    · exact vouched.verified key its hash there pin unlock member same live

theorem updated_inv {now : Nat} {update : Links.Update} {next : Links}
    (updated : s.createSummaryPublicLink crypto now update = .ok next) :
    ∃ pin expires, validatePin crypto update.pin = .ok pin ∧
      ((∃ link, s.kept update = some link ∧ next = { s with
          links := s.links.put update.summaryId { link with
            expiresAt := expires
            pinHash := pin.map (crypto.hashPassword update.salt) } }) ∨
        ∃ orgId, next = { s with
          links := s.links.put update.summaryId
            (s.fresh crypto orgId update.userId now update.token expires (pin.map (crypto.hashPassword update.salt)))
          nextId := s.nextId + 1 }) := by
  rw [Links.createSummaryPublicLink] at updated
  cases found : s.summaries.find update.summaryId with
  | none => simp [found] at updated
  | some summary =>
    have owner : summary.ownerUserId = update.userId := by
      by_contra other
      simp [found, other] at updated
    have base : s.hasBaseUrl = true := by
      cases has : s.hasBaseUrl with
      | true => rfl
      | false => simp [found, owner, Links.createOrUpdateLink, has] at updated
    have allowed : (s.orgs.find summary.orgId).any id = true := by
      cases allows : (s.orgs.find summary.orgId).any id with
      | true => rfl
      | false => simp [found, owner, Links.createOrUpdateLink, base, allows] at updated
    cases valid : validatePin crypto update.pin with
    | error refusal => simp [found, owner, Links.createOrUpdateLink, base, allowed, valid, bind, Except.bind] at updated
    | ok pin =>
      cases expires : expiresAt now update.expiresInDays with
      | error refusal =>
        simp [found, owner, Links.createOrUpdateLink, base, allowed, valid, expires, bind, Except.bind] at updated
      | ok expires_at =>
        refine ⟨pin, expires_at, rfl, ?_⟩
        simp only [found, owner, ne_eq, not_true_eq_false, if_false, Links.createOrUpdateLink, base, Bool.not_true,
          Bool.false_eq_true, allowed, valid, expires, bind, Except.bind] at updated
        cases kept : s.kept update with
        | some link =>
          rw [kept] at updated
          exact .inl ⟨link, rfl, (Except.ok.inj updated).symm⟩
        | none =>
          rw [kept] at updated
          exact .inr ⟨summary.orgId, (Except.ok.inj updated).symm⟩

theorem Vouched.updates (vouched : Vouched crypto s) {now : Nat} {update : Links.Update} {next : Links}
    (updated : s.createSummaryPublicLink crypto now update = .ok next)
    (sound : ∀ link pin, s.kept update = some link → validatePin crypto update.pin = .ok (some pin) →
      ∀ unlock ∈ s.unlocks, unlock.link = link.id → seconds s.clock < unlock.expires →
        crypto.verifyPassword unlock.pin (crypto.hashPassword update.salt pin) = true) :
    Vouched crypto next := by
  obtain ⟨pin, expires, valid, ⟨link, kept, rfl⟩ | ⟨orgId, rfl⟩⟩ := updated_inv updated
  · refine vouched.updated (Option.filter_eq_some_iff.mp kept).1 _ _ fun hash its => ?_
    obtain ⟨entered, rfl, rfl⟩ := Option.map_eq_some_iff.mp its
    exact sound link entered kept valid
  · exact vouched.created ..

theorem Vouched.unlocked (vouched : Vouched crypto s) {token pin : String} {unlock : Unlock}
    (unlocks : s.unlockPublicSummary crypto s.clock token pin = .ok (some unlock)) :
    Vouched crypto { s with unlocks := unlock :: s.unlocks } := by
  rw [Links.unlockPublicSummary] at unlocks
  split at unlocks
  · contradiction
  · rename_i link resolved
    obtain ⟨summaryId, found⟩ := resolve_found resolved
    split at unlocks
    · cases unlocks
    · split at unlocks
      · cases unlocks
      · rename_i verifies
        obtain rfl := Option.some.inj (Except.ok.inj unlocks)
        exact { vouched with
          issued := by
            intro other member
            rcases List.mem_cons.mp member with rfl | member
            · exact ⟨vouched.below summaryId link found, rfl⟩
            · exact vouched.issued other member
          verified := by
            intro key its hash there has other member same live
            rcases List.mem_cons.mp member with rfl | member
            · -- The link that the cookie names is the one whose PIN was entered.
              obtain rfl := vouched.distinct summaryId key link its found there same
              obtain rfl : link = its := Option.some.inj (found.symm.trans there)
              simpa [Links.verifyPin, has] using verifies
            · exact vouched.verified key its hash there has other member same live }

theorem Vouched.step (vouched : Vouched crypto s) (event : Nat × LinkEvent) (sound : s.Sound crypto event) :
    Vouched crypto (s.step crypto event) := by
  obtain ⟨time, event⟩ := event
  have later := vouched.later (le_max_left s.clock time)
  cases event with
  | update update =>
    simp only [Links.step]
    cases updated : ({ s with clock := max s.clock time } : Links).createSummaryPublicLink crypto (max s.clock time) update with
    | error refusal => exact later
    | ok next => exact later.updates updated sound
  | revoke summaryId => exact later.fewer s.summaries (find_of_delete summaryId)
  | unlock token pin =>
    simp only [Links.step]
    split
    · exact later.unlocked ‹_›
    · exact later
  | view token cookie => exact later
  | allow orgId allowed => exact ⟨later.below, later.distinct, later.issued, later.verified⟩
  | configure publicBaseUrl => exact ⟨later.below, later.distinct, later.issued, later.verified⟩
  | deleteSummary summaryId => exact later.fewer _ (find_of_delete summaryId)

theorem Vouched.guarded (vouched : Vouched crypto s) : PinGuarded crypto s := by
  intro now token cookie link hash later issued resolved pin sees
  obtain ⟨summaryId, found⟩ := resolve_found resolved
  simp only [Links.getPublicSummary, resolved, pin, Option.isNone_some, Bool.false_or, Except.ok.injEq] at sees
  obtain ⟨⟨its, expires⟩, parsed, valid⟩ := (Option.any_eq_true _ _).mp sees
  obtain ⟨value, given, parses⟩ := Option.bind_eq_some_iff.mp parsed
  have cookie_is := (Option.filter_eq_some_iff.mp given).1
  simp only [Bool.and_eq_true, beq_iff_eq, decide_eq_true_eq] at valid
  obtain ⟨rfl, live⟩ := valid
  obtain ⟨unlock, member, same, rfl⟩ := issued value _ expires cookie_is parses
  have same_link : unlock.link = link.id := Text.toString_injective same
  refine ⟨value, cookie_is, unlock, member, same_link, parses, ?_, ?_⟩
  · rw [(vouched.issued unlock member).2] at live
    exact lt_of_not_ge fun late => (Nat.div_le_div_right late).not_gt live
  · exact vouched.verified summaryId link hash found pin unlock member same_link
      (lt_of_le_of_lt (Nat.div_le_div_right later) live)

theorem Vouched.opened (summaries : Table Nat LinkedSummary) (orgs : Table Nat Bool) (publicBaseUrl : Option String)
    (nextId clock : Nat) : Vouched crypto (.opened summaries orgs publicBaseUrl nextId clock) where
  below _ _ found := by cases found
  distinct _ _ _ _ found := by cases found
  issued _ member := (List.not_mem_nil member).elim
  verified _ _ _ found := by cases found

end Guarding

/-- A summary behind a PIN is seen with that PIN only, in every run of sound updates. -/
theorem pin_guards_summary (crypto : LinkCrypto) (summaries : Table Nat LinkedSummary) (orgs : Table Nat Bool)
    (publicBaseUrl : Option String) (nextId clock : Nat) {events : List (Nat × LinkEvent)}
    (sound : Along (Links.step crypto) (Links.Sound crypto) (.opened summaries orgs publicBaseUrl nextId clock) events) :
    Always (Links.step crypto) (PinGuarded crypto) (.opened summaries orgs publicBaseUrl nextId clock) events := by
  have vouched := always_of_along (I := Vouched crypto) (fun _ event vouched its => vouched.step event its) (.opened ..) sound
  exact fun done rest same => (vouched done rest same).guarded

section Samples

def plainCrypto : LinkCrypto where
  hashSecret text := "h" ++ text
  hashPassword salt password := toString salt ++ "$" ++ password
  verifyPassword password hash := (Text.split '$' hash).drop 1 == [password]
  isDigit text := text != "" && text.toList.all Char.isDigit
  int text := some (Nat.ofDigitChars 10 text.toList 0)

/-- A summary of user 2, whose organization allows links. -/
def linkable : Links := .opened (Table.put ∅ 1 ⟨3, 2⟩) (Table.put ∅ 3 true) (some "https://hub.example") 1 0

def withPin (pin : String) : LinkEvent := .update ⟨1, 2, none, some pin, "t", 5, true⟩

def savedAgain : List (Nat × LinkEvent) := [(1, withPin "1234"), (2, .unlock "t" "1234"), (3, withPin "1234")]

theorem pin_guards_saved_again : Always (Links.step plainCrypto) (PinGuarded plainCrypto) linkable savedAgain := by
  refine pin_guards_summary plainCrypto _ _ _ _ _ ⟨?_, trivial, ?_, trivial⟩
  · intro link pin _ _ unlock member
    exact (List.not_mem_nil member).elim
  · intro link pin _ valid unlock member _ _
    have unlocks : (Links.step plainCrypto (Links.step plainCrypto linkable (1, withPin "1234"))
      (2, .unlock "t" "1234")).unlocks.map
        Unlock.pin = ["1234"] := by decide +kernel
    have entered : unlock.pin ∈ ["1234"] := unlocks ▸ List.mem_map_of_mem member
    have same : validatePin plainCrypto (some "1234") = .ok (some "1234") := by decide +kernel
    obtain rfl : "1234" = pin := Option.some.inj (Except.ok.inj (same.symm.trans valid))
    rw [List.mem_singleton.mp entered]
    decide +kernel

/-- A guest enters the PIN, and the owner gives the link another one. -/
def pinChanged : List (Nat × LinkEvent) := [(1, withPin "1234"), (2, .unlock "t" "1234"), (3, withPin "9999")]

theorem old_pin_still_opens : ¬ Always (Links.step plainCrypto) (PinGuarded plainCrypto) linkable pinChanged := by
  intro always
  have guarded := always _ [] (List.append_nil _).symm
  have unlocks : (run (Links.step plainCrypto) linkable pinChanged).unlocks = [⟨2, 1, 1800, "1234"⟩] := by decide +kernel
  have parses : Links.parseCookie plainCrypto "1.1800.hplu:1:1800" = some ("1", 1800) := by decide +kernel
  obtain ⟨_, _, unlock, member, _, _, _, verifies⟩ := guarded 4 "t" (some "1.1800.hplu:1:1800")
    ⟨1, 3, "t", "ht", 2, none, none, some "5$9999", 1⟩ "5$9999" (by decide +kernel)
    (by
      rintro value link expires cookie parsed
      obtain rfl := Option.some.inj cookie
      obtain ⟨rfl, rfl⟩ := Prod.mk.inj (Option.some.inj (parses.symm.trans parsed))
      exact ⟨⟨2, 1, 1800, "1234"⟩, unlocks ▸ List.mem_singleton_self _, rfl, rfl⟩)
    (by decide +kernel) rfl (by decide +kernel)
  rw [unlocks, List.mem_singleton] at member
  rw [member] at verifies
  exact absurd verifies (by decide +kernel)

end Samples

end IdigestHub.Library
