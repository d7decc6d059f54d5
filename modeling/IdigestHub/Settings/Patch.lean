import IdigestHub.Crypto.Startup
import IdigestHub.Foundation.Fallible
import IdigestHub.Foundation.Runs
import IdigestHub.Foundation.Words
import IdigestHub.Settings.Proxy

/-! The settings of an instance, and the patches of an admin: each field of a patch is applied to the row in a fixed order, and
an error in any of them leaves the row as it was. -/

set_option autoImplicit false

namespace IdigestHub.Settings

open Foundation Foundation.Runs Foundation.Urls

def filled (text : Option String) : Bool := (Text.strip (text.getD "")) != ""

/-- `Other` are the columns that the switches do not depend on. -/
structure InstanceSettings (Other : Type) where
  diarizationModel : Option String
  smtpPasswordEncrypted : Option String
  importAudioBitrateKbps : Int
  importMaxConcurrent : Int
  sessionTtlHours : Int
  taskHistoryRetentionDays : Int
  outboundProxyEnabled : Bool
  downloadProxyUrl : Option String
  downloadProxyPasswordEncrypted : Option String
  downloadProxyEnabled : Bool
  telegramEnabled : Bool
  telegramBotTokenEncrypted : Option String
  telegramUseProxy : Bool
  telegramWebhookSecret : Option String
  telegramBotUsername : Option String
  telegramBotId : Option Int
  telegramBotRevision : Int
  other : Other

def defaults {Other : Type} (other : Other) : InstanceSettings Other where
  diarizationModel := some "pyannote"
  smtpPasswordEncrypted := none
  importAudioBitrateKbps := 64
  importMaxConcurrent := 2
  sessionTtlHours := 24
  taskHistoryRetentionDays := 0
  outboundProxyEnabled := false
  downloadProxyUrl := none
  downloadProxyPasswordEncrypted := none
  downloadProxyEnabled := false
  telegramEnabled := false
  telegramBotTokenEncrypted := none
  telegramUseProxy := false
  telegramWebhookSecret := none
  telegramBotUsername := none
  telegramBotId := none
  telegramBotRevision := 0
  other

/-- A field of a body: missing, `null`, or a value. -/
abbrev Field (A : Type) : Type := Option (Option A)

structure SettingsPatch where
  diarizationModel : Field String
  smtpPassword : Field String
  outboundProxyEnabled : Field Bool
  downloadProxyUrl : Field String
  downloadProxyPassword : Field String
  downloadProxyEnabled : Field Bool
  telegramEnabled : Field Bool
  telegramBotToken : Field String
  telegramUseProxy : Field Bool
  telegramUseWebhook : Field Bool
  publicBaseUrl : Field String
  importAudioBitrateKbps : Field Int
  importMaxConcurrent : Field Int
  sessionTtlHours : Field Int
  taskHistoryRetentionDays : Field Int

/-- What `getMe` tells about the bot: nothing where the request fails, and no bot where there is no token. -/
inductive Identity where
  | failed
  | absent
  | bot (id : Option Int) (username : Option String)

/-- What `token_urlsafe` draws. -/
structure Secret where
  text : String
  drawn : filled (some text) = true

/-- A request with what it meets: the keys of the instance, the answer of Telegram, the checks of the other fields and of the
models, and whether its transaction commits. -/
structure Request (Nonce Other : Type) where
  body : SettingsPatch
  db : Crypto.Database
  nonce : Crypto.Column → Nonce
  secret : Secret
  identity : Identity
  rest : Other → Option Other
  valid : InstanceSettings Other → Bool
  commits : Bool

section Steps

variable {A Nonce Other : Type} (unicode : Unicode) (fernet : Crypto.Fernet Nonce) (secrets : Crypto.Secrets)
  (request : Request Nonce Other)

/-- A step of the patch; `none` is an error, whose transaction is rolled back. -/
abbrev Step (Other : Type) : Type := InstanceSettings Other → Option (InstanceSettings Other)

def whenSet (field : Field A) (apply : Option A → Step Other) : Step Other :=
  match field with
  | none => some
  | some value => apply value

def encryptStr (column : Crypto.Column) (plain : String) : Option String :=
  match Crypto.encryptStr fernet secrets (request.nonce column) plain.toList request.db with
  | .ok token => some (.ofList token)
  | .error _ => none

def storeEncrypted (column : Crypto.Column) (plain : Option String)
    (store : String → InstanceSettings Other → InstanceSettings Other) : Step Other := fun s =>
  match plain.getD "" with
  | "" => some s
  | plain => (encryptStr fernet secrets request column plain).map fun token => store token s

def patchDiarizationModel : Step Other :=
  whenSet request.body.diarizationModel fun value s =>
    some { s with diarizationModel := if filled value then value.map Text.strip else none }

def patchSmtpPassword : Step Other :=
  whenSet request.body.smtpPassword fun password =>
    storeEncrypted fernet secrets request .smtpPasswordEncrypted password fun token s => { s with smtpPasswordEncrypted := token }

def patchDownloadProxyUrl : Step Other :=
  whenSet request.body.downloadProxyUrl fun url s =>
    if !filled url then
      some { s with
        downloadProxyUrl := none
        outboundProxyEnabled := false
        downloadProxyEnabled := false
        telegramUseProxy := false }
    else (normalizeDownloadProxyUrl unicode (url.getD "").toList).map fun url => { s with downloadProxyUrl := some (.ofList url) }

def patchOutboundProxyEnabled : Step Other :=
  whenSet request.body.outboundProxyEnabled fun enabled s =>
    if !enabled.getD false then
      some { s with outboundProxyEnabled := false, downloadProxyEnabled := false, telegramUseProxy := false }
    else if filled s.downloadProxyUrl then some { s with outboundProxyEnabled := true }
    else none

def proxyReady (s : InstanceSettings Other) : Bool := s.outboundProxyEnabled && filled s.downloadProxyUrl

def patchDownloadProxyEnabled : Step Other :=
  whenSet request.body.downloadProxyEnabled fun enabled s =>
    let enabled := enabled.getD false
    if enabled && !proxyReady s then none else some { s with downloadProxyEnabled := enabled }

def patchDownloadProxyPassword : Step Other :=
  whenSet request.body.downloadProxyPassword fun password =>
    storeEncrypted fernet secrets request .downloadProxyPasswordEncrypted password fun token s =>
      { s with downloadProxyPasswordEncrypted := token }

def withSecret (s : InstanceSettings Other) : InstanceSettings Other :=
  if filled s.telegramWebhookSecret then s else { s with telegramWebhookSecret := some request.secret.text }

def patchTelegramBotToken : Step Other :=
  whenSet request.body.telegramBotToken fun token =>
    storeEncrypted fernet secrets request .telegramBotTokenEncrypted token fun token s =>
      let s := { s with telegramBotTokenEncrypted := some token, telegramBotUsername := none, telegramBotId := none }
      if s.telegramEnabled then withSecret request s else s

def patchTelegramEnabled : Step Other :=
  whenSet request.body.telegramEnabled fun enabled s =>
    if !enabled.getD false then
      some { s with telegramEnabled := false, telegramWebhookSecret := none, telegramBotUsername := none }
    else if filled s.telegramBotTokenEncrypted then some (withSecret request { s with telegramEnabled := true })
    else none

def patchTelegramUseProxy : Step Other :=
  whenSet request.body.telegramUseProxy fun enabled s =>
    let enabled := enabled.getD false
    if enabled && !proxyReady s then none else some { s with telegramUseProxy := enabled }

def normalizeImportAudioBitrateKbps (value : Option Int) : Int :=
  match value with
  | none => 0
  | some value => if value ≤ 0 then 0 else max 48 (min 320 value)

def normalizeImportMaxConcurrent (value : Option Int) : Int :=
  match value with
  | none => 2
  | some value => max 1 (min 16 value)

def patchImportAudioBitrateKbps : Step Other :=
  whenSet request.body.importAudioBitrateKbps fun value s =>
    some { s with importAudioBitrateKbps := normalizeImportAudioBitrateKbps value }

def patchImportMaxConcurrent : Step Other :=
  whenSet request.body.importMaxConcurrent fun value s =>
    some { s with importMaxConcurrent := normalizeImportMaxConcurrent value }

def patchSessionTtlHours : Step Other :=
  whenSet request.body.sessionTtlHours fun value s =>
    match value with
    | none => none
    | some hours => if hours < 1 || 336 < hours then none else some { s with sessionTtlHours := hours }

def patchTaskHistoryRetentionDays : Step Other :=
  whenSet request.body.taskHistoryRetentionDays fun value s =>
    match value with
    | none => none
    | some days => if days < 0 then none else some { s with taskHistoryRetentionDays := days }

/-- The fields that are checked and stored beside the switches. -/
def patchRest : Step Other := fun s => (request.rest s.other).map fun other => { s with other }

/-- One of `_telegram_transport_keys` is set. -/
def setsTransport (body : SettingsPatch) : Bool :=
  body.telegramBotToken.isSome || body.telegramEnabled.isSome || body.telegramUseProxy.isSome || body.telegramUseWebhook.isSome ||
    body.publicBaseUrl.isSome || body.outboundProxyEnabled.isSome || body.downloadProxyEnabled.isSome ||
    body.downloadProxyUrl.isSome || body.downloadProxyPassword.isSome

/-- `refresh_bot_username_sync`. -/
def refreshBot (identity : Identity) (s : InstanceSettings Other) : InstanceSettings Other :=
  match identity with
  | .failed => s
  | .absent => { s with telegramBotUsername := none, telegramBotId := none }
  | .bot id username =>
    { s with
      telegramBotRevision :=
        if id.isSome && s.telegramBotId.isSome && s.telegramBotId != id then s.telegramBotRevision + 1 else s.telegramBotRevision
      telegramBotId := id.or s.telegramBotId
      telegramBotUsername :=
        if filled username then username.map fun name => .ofList ((Text.strip name).toList.dropWhile (· == '@')) else none }

def refreshTelegram : Step Other := fun s =>
  if s.telegramEnabled && filled s.telegramBotTokenEncrypted && setsTransport request.body then
    let s := refreshBot request.identity s
    some { s with
      telegramBotRevision := if request.body.telegramBotToken.isSome then s.telegramBotRevision + 1 else s.telegramBotRevision }
  else some s

def validateModels : Step Other := fun s => if request.valid s then some s else none

/-- The statements of `patch_settings`, in its order. -/
def steps : List (Step Other) :=
  [patchDiarizationModel request, patchSmtpPassword fernet secrets request, patchDownloadProxyUrl unicode request,
    patchOutboundProxyEnabled request, patchDownloadProxyEnabled request, patchDownloadProxyPassword fernet secrets request,
    patchTelegramBotToken fernet secrets request, patchTelegramEnabled request, patchTelegramUseProxy request,
    patchImportAudioBitrateKbps request, patchImportMaxConcurrent request, patchSessionTtlHours request,
    patchTaskHistoryRetentionDays request, patchRest request, refreshTelegram request, validateModels request]

def patchSettings (s : InstanceSettings Other) : Option (InstanceSettings Other) :=
  (steps unicode fernet secrets request).foldlM (fun s step => step s) s

/-- The row after the request: a patch that is rejected, or whose transaction fails, is rolled back. -/
def patched (s : InstanceSettings Other) (request : Request Nonce Other) : InstanceSettings Other :=
  if request.commits then (patchSettings unicode fernet secrets request s).getD s else s

structure Consistent (s : InstanceSettings Other) : Prop where
  proxied : s.downloadProxyEnabled = true ∨ s.telegramUseProxy = true → s.outboundProxyEnabled = true
  addressed : s.outboundProxyEnabled = true → filled s.downloadProxyUrl = true
  reachable : s.telegramEnabled = true → filled s.telegramBotTokenEncrypted = true ∧ filled s.telegramWebhookSecret = true

def Keeps (step : Step Other) : Prop := ∀ s next, Consistent s → step s = some next → Consistent next

theorem keeps_whenSet {field : Field A} {apply : Option A → Step Other} (kept : ∀ value, Keeps (apply value)) :
    Keeps (whenSet field apply) := by
  cases field with
  | none =>
    intro s next sound done
    cases done
    exact sound
  | some value => exact kept value

theorem filled_of_head {text : List Char} (begins : text.head?.any Char.isAlpha = true) :
    filled (some (.ofList text)) = true := by
  cases text with
  | nil => contradiction
  | cons first text =>
    have letter : Text.isSpace first = false := isSpace_of_isAlpha begins
    rw [filled, Option.getD_some, Text.strip, String.toList_ofList, bne_iff_ne]
    intro blank
    have trimmed := congrArg String.toList blank
    rw [String.toList_ofList] at trimmed
    have spaces := (Text.trimBoth_eq_nil_iff _).mp trimmed first List.mem_cons_self
    rw [letter] at spaces
    contradiction

theorem filled_encrypted {column : Crypto.Column} {plain token : String}
    (written : encryptStr fernet secrets request column plain = some token) : filled (some token) = true := by
  rw [encryptStr] at written
  split at written
  · rename_i text encrypted
    cases written
    have v1 := List.isPrefixOf_iff_prefix.mp (Crypto.encryptStr_v1 encrypted)
    obtain ⟨rest, rfl⟩ := v1
    exact filled_of_head (by rfl)
  · contradiction

theorem consistent_of_off {s : InstanceSettings Other} (outbound : s.outboundProxyEnabled = false)
    (download : s.downloadProxyEnabled = false) (telegramProxy : s.telegramUseProxy = false)
    (reachable : s.telegramEnabled = true → filled s.telegramBotTokenEncrypted = true ∧ filled s.telegramWebhookSecret = true) :
    Consistent s := by
  refine ⟨fun on => ?_, fun on => ?_, reachable⟩
  · rw [download, telegramProxy] at on
    simp at on
  · rw [outbound] at on
    contradiction

theorem keeps_diarizationModel : Keeps (patchDiarizationModel request) := by
  refine keeps_whenSet fun value s next sound done => ?_
  cases done
  exact ⟨sound.proxied, sound.addressed, sound.reachable⟩

/-- A password that is stored says nothing of the switches. -/
theorem keeps_storeEncrypted {column : Crypto.Column} {plain : Option String}
    {store : String → InstanceSettings Other → InstanceSettings Other}
    (stores : ∀ s token, Consistent s → filled (some token) = true → Consistent (store token s)) :
    Keeps (storeEncrypted fernet secrets request column plain store) := by
  intro s next sound done
  rw [storeEncrypted] at done
  split at done
  · cases done
    exact sound
  · obtain ⟨token, written, rfl⟩ := Option.map_eq_some_iff.mp done
    exact stores s token sound (filled_encrypted fernet secrets request written)

theorem keeps_smtpPassword : Keeps (patchSmtpPassword fernet secrets request) :=
  keeps_whenSet fun _ => keeps_storeEncrypted fernet secrets request fun _ _ sound _ =>
    ⟨sound.proxied, sound.addressed, sound.reachable⟩

theorem keeps_downloadProxyPassword : Keeps (patchDownloadProxyPassword fernet secrets request) :=
  keeps_whenSet fun _ => keeps_storeEncrypted fernet secrets request fun _ _ sound _ =>
    ⟨sound.proxied, sound.addressed, sound.reachable⟩

theorem keeps_downloadProxyUrl : Keeps (patchDownloadProxyUrl unicode request) := by
  refine keeps_whenSet fun url s next sound done => ?_
  split at done
  · cases done
    exact consistent_of_off rfl rfl rfl sound.reachable
  · rename_i given
    obtain ⟨normalized, accepted, rfl⟩ := Option.map_eq_some_iff.mp done
    refine ⟨sound.proxied, fun _ => ?_, sound.reachable⟩
    refine filled_of_head (normalize_nonblank accepted fun blank => ?_)
    have blank : Text.trimBoth Text.isSpace (url.getD "").toList = [] := blank
    rw [filled, Text.strip, blank] at given
    exact given rfl

theorem keeps_outboundProxyEnabled : Keeps (patchOutboundProxyEnabled request) := by
  refine keeps_whenSet fun enabled s next sound done => ?_
  split at done
  · cases done
    exact consistent_of_off rfl rfl rfl sound.reachable
  · split at done
    · rename_i addressed
      cases done
      exact ⟨fun _ => rfl, fun _ => addressed, sound.reachable⟩
    · contradiction

theorem keeps_downloadProxyEnabled : Keeps (patchDownloadProxyEnabled request) := by
  refine keeps_whenSet fun enabled s next sound done => ?_
  dsimp only at done
  split at done
  · contradiction
  · rename_i allowed
    cases done
    refine ⟨fun on => ?_, sound.addressed, sound.reachable⟩
    rcases on with on | on
    · have ready : proxyReady s = true := by simpa [show enabled.getD false = true from on] using allowed
      exact (Bool.and_eq_true_iff.mp ready).1
    · exact sound.proxied (.inr on)

theorem keeps_telegramUseProxy : Keeps (patchTelegramUseProxy request) := by
  refine keeps_whenSet fun enabled s next sound done => ?_
  dsimp only at done
  split at done
  · contradiction
  · rename_i allowed
    cases done
    refine ⟨fun on => ?_, sound.addressed, sound.reachable⟩
    rcases on with on | on
    · exact sound.proxied (.inl on)
    · have ready : proxyReady s = true := by simpa [show enabled.getD false = true from on] using allowed
      exact (Bool.and_eq_true_iff.mp ready).1

theorem filled_withSecret (s : InstanceSettings Other) : filled (withSecret request s).telegramWebhookSecret = true := by
  rw [withSecret]
  split
  · assumption
  · exact request.secret.drawn

theorem Consistent.withSecret {s : InstanceSettings Other}
    (proxied : s.downloadProxyEnabled = true ∨ s.telegramUseProxy = true → s.outboundProxyEnabled = true)
    (addressed : s.outboundProxyEnabled = true → filled s.downloadProxyUrl = true)
    (token : filled s.telegramBotTokenEncrypted = true) : Consistent (withSecret request s) := by
  have secret := filled_withSecret request s
  rw [Settings.withSecret] at secret ⊢
  split
  · exact ⟨proxied, addressed, fun _ => ⟨token, ‹_›⟩⟩
  · exact ⟨proxied, addressed, fun _ => ⟨token, request.secret.drawn⟩⟩

theorem keeps_telegramBotToken : Keeps (patchTelegramBotToken fernet secrets request) := by
  refine keeps_whenSet fun _ => keeps_storeEncrypted fernet secrets request fun s token sound written => ?_
  dsimp only
  split
  · exact Consistent.withSecret request sound.proxied sound.addressed written
  · rename_i off
    exact ⟨sound.proxied, sound.addressed, fun on => absurd on off⟩

theorem keeps_telegramEnabled : Keeps (patchTelegramEnabled request) := by
  refine keeps_whenSet fun enabled s next sound done => ?_
  split at done
  · cases done
    exact ⟨sound.proxied, sound.addressed, fun on => (Bool.false_ne_true on).elim⟩
  · split at done
    · rename_i token
      cases done
      exact Consistent.withSecret request sound.proxied sound.addressed token
    · contradiction

theorem keeps_importAudioBitrateKbps : Keeps (patchImportAudioBitrateKbps request) := by
  refine keeps_whenSet fun value s next sound done => ?_
  cases done
  exact ⟨sound.proxied, sound.addressed, sound.reachable⟩

theorem keeps_importMaxConcurrent : Keeps (patchImportMaxConcurrent request) := by
  refine keeps_whenSet fun value s next sound done => ?_
  cases done
  exact ⟨sound.proxied, sound.addressed, sound.reachable⟩

theorem keeps_sessionTtlHours : Keeps (patchSessionTtlHours request) := by
  refine keeps_whenSet fun value s next sound done => ?_
  cases value with
  | none => contradiction
  | some hours =>
    dsimp only at done
    split at done
    · contradiction
    · cases done
      exact ⟨sound.proxied, sound.addressed, sound.reachable⟩

theorem keeps_taskHistoryRetentionDays : Keeps (patchTaskHistoryRetentionDays request) := by
  refine keeps_whenSet fun value s next sound done => ?_
  cases value with
  | none => contradiction
  | some days =>
    dsimp only at done
    split at done
    · contradiction
    · cases done
      exact ⟨sound.proxied, sound.addressed, sound.reachable⟩

theorem keeps_rest : Keeps (patchRest request) := by
  intro s next sound done
  obtain ⟨other, _, rfl⟩ := Option.map_eq_some_iff.mp done
  exact ⟨sound.proxied, sound.addressed, sound.reachable⟩

theorem Consistent.named {s : InstanceSettings Other} (sound : Consistent s) (id : Option Int) (username : Option String)
    (revision : Int) :
    Consistent { s with telegramBotId := id, telegramBotUsername := username, telegramBotRevision := revision } :=
  ⟨sound.proxied, sound.addressed, sound.reachable⟩

theorem refreshBot_consistent (identity : Identity) {s : InstanceSettings Other} (sound : Consistent s) :
    Consistent (refreshBot identity s) := by
  cases identity with
  | failed => exact sound
  | absent => exact sound.named ..
  | bot id username => exact sound.named ..

theorem keeps_refreshTelegram : Keeps (refreshTelegram request) := by
  intro s next sound done
  rw [refreshTelegram] at done
  split at done
  · cases done
    exact (refreshBot_consistent request.identity sound).named ..
  · cases done
    exact sound

theorem keeps_validateModels : Keeps (validateModels request) := by
  intro s next sound done
  rw [validateModels] at done
  split at done
  · cases done
    exact sound
  · contradiction

theorem steps_keep : ∀ step ∈ steps unicode fernet secrets request, Keeps step := by
  simp only [steps, List.forall_mem_cons, List.not_mem_nil, IsEmpty.forall_iff, implies_true, and_true]
  exact ⟨keeps_diarizationModel request, keeps_smtpPassword fernet secrets request, keeps_downloadProxyUrl unicode request,
    keeps_outboundProxyEnabled request, keeps_downloadProxyEnabled request, keeps_downloadProxyPassword fernet secrets request,
    keeps_telegramBotToken fernet secrets request, keeps_telegramEnabled request, keeps_telegramUseProxy request,
    keeps_importAudioBitrateKbps request, keeps_importMaxConcurrent request, keeps_sessionTtlHours request,
    keeps_taskHistoryRetentionDays request, keeps_rest request, keeps_refreshTelegram request, keeps_validateModels request⟩

theorem patched_consistent {s : InstanceSettings Other} (sound : Consistent s) :
    Consistent (patched unicode fernet secrets s request) := by
  rw [patched]
  split
  · cases done : patchSettings unicode fernet secrets request s with
    | none => exact sound
    | some next =>
      exact Fallible.foldlM_keeps (fun s sound step member next turned => steps_keep unicode fernet secrets request step member
        s next sound turned) sound done
  · exact sound

end Steps

theorem defaults_consistent {Other : Type} (other : Other) : Consistent (defaults other) :=
  consistent_of_off rfl rfl rfl fun on => (Bool.false_ne_true on).elim

/-- Whatever is patched, and whichever of the patches are rejected, no switch is on without what it needs. -/
theorem switches_stay_consistent {Nonce Other : Type} (unicode : Unicode) (fernet : Crypto.Fernet Nonce)
    (secrets : Crypto.Secrets)
    (other : Other) (requests : List (Request Nonce Other)) :
    Always (patched unicode fernet secrets) Consistent (defaults other) requests := by
  intro done rest _
  exact run_induction (I := fun _ s => Consistent s) (defaults_consistent other)
    (fun _ request s sound => patched_consistent unicode fernet secrets request sound) done

def SettingsPatch.nothing : SettingsPatch :=
  ⟨none, none, none, none, none, none, none, none, none, none, none, none, none, none, none⟩

/-- A request that stores a proxy, puts downloads through it and turns the bot on, which has no token. -/
def proxyRequest (telegram : Bool) : Request Unit Unit where
  body := { SettingsPatch.nothing with
    downloadProxyUrl := some (some "proxy : 1080")
    outboundProxyEnabled := some (some true)
    downloadProxyEnabled := some (some true)
    telegramEnabled := if telegram then some (some true) else none }
  db := ⟨fun _ => ∅, ∅, ∅⟩
  nonce _ := ()
  secret := ⟨"drawn", by decide +kernel⟩
  identity := .absent
  rest := some
  valid _ := true
  commits := true

def plainCipher : Crypto.Fernet Unit where
  encrypt _ _ plain := .ok plain
  decrypt _ token := .ok token
  decrypt_encrypt _ _ _ _ done := done.symm

/-- With the bot the request is rejected as a whole; without it the proxy is on, with its address. -/
theorem switches_stay_consistent_proxy :
    let s := run (patched asciiUnicode plainCipher ⟨[], [], id⟩) (defaults ()) [proxyRequest true, proxyRequest false]
    s.downloadProxyEnabled = true ∧ s.downloadProxyUrl = some "socks5://proxy:1080" ∧ Consistent s :=
  ⟨by decide +kernel, by decide +kernel,
    switches_stay_consistent asciiUnicode plainCipher ⟨[], [], id⟩ () [proxyRequest true, proxyRequest false] _ [] rfl⟩

end IdigestHub.Settings
