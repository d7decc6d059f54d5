import IdigestHub.Foundation.Authority
import IdigestHub.Foundation.Words
import Mathlib.Data.List.Infix
import IdigestHub.Foundation.Fallible
import IdigestHub.Capture.Meeting

/-! The checks of an import URL before a task is created. Each parses the text again, and a part of it is read only when a check
asks for it. -/

set_option autoImplicit false

namespace IdigestHub.Ingest

open Foundation Dispatcher

structure UrlImportError where
  code : ErrorCode
  metaDict : List (String × String)
  deriving DecidableEq

/-- `UrlImportError`, the refusal of the endpoint itself, or any other exception. -/
inductive CheckFault where
  | urlImport (error : UrlImportError)
  | api (code : ErrorCode)
  | exception
  deriving DecidableEq

abbrev Check (A : Type) : Type := Except CheckFault A

structure Address where
  text : String
  isPrivate : Bool
  isLoopback : Bool
  isLinkLocal : Bool
  isReserved : Bool
  isMulticast : Bool
  isUnspecified : Bool

/-- What `ipaddress` reads; an IPv6 address may stand for one of IPv4. -/
structure Ip where
  address : Address
  ipv4Mapped : Option Address

inductive Lookup where
  | addresses (found : List String)
  | gaierror (text : String)
  | timeout

/-- What the checks take from elsewhere: the language, `ipaddress` and the name service. -/
structure Net where
  python : Python
  unicode : Urls.Unicode
  ipAddress : String → Option Ip
  getaddrinfo : String → Nat → Lookup
  /-- No letter becomes a delimiter in lower case. -/
  lowered : ∀ text c, Urls.netlocEnd c = true → c ∈ (python.lower (.ofList text)).toList → c ∈ text
  lower_empty : python.lower "" = ""

/-- The settings that the checks read. -/
structure Site where
  settings : InstanceSettings
  importAllowedExtractors : Option (List String)
  downloadProxyReady : Bool

structure Platform where
  id : String
  label : String
  domains : List String

def importPlatformCatalog : List Platform :=
  [{ id := "Youtube", label := "YouTube", domains := ["youtube.com", "youtu.be", "m.youtube.com", "music.youtube.com"] },
    { id := "Rutube", label := "Rutube", domains := ["rutube.ru"] },
    { id := "TikTok", label := "TikTok", domains := ["tiktok.com"] }]

def catalogPlatformForHost (host : String) : Option Platform :=
  if host = "" then none
  else importPlatformCatalog.find? fun entry =>
    entry.domains.contains host || entry.domains.any fun domain => ('.' :: domain.toList).isSuffixOf host.toList

def normalizeAllowedExtractors (raw : List String) : List String :=
  raw.foldl (fun out item =>
    let key := Text.strip item
    if key != "" && importPlatformCatalog.any (·.id == key) && !out.contains key then out ++ [key] else out) []

def allowedExtractors (site : Site) : List String :=
  match normalizeAllowedExtractors (site.importAllowedExtractors.getD []) with
  | [] => importPlatformCatalog.map (·.id)
  | out => out

/-- A character up to its case, as a pattern that ignores case has it: the long s is an s. -/
def foldCase (c : Char) : Char := if c = 'ſ' then 's' else c.toLower

def urlRe (text : String) : Bool :=
  "http://".toList.isPrefixOf (text.toList.map foldCase) || "https://".toList.isPrefixOf (text.toList.map foldCase)

def dnsResolutionTimeoutSec : String := "5.0"

def errorDetailMaxLen : Nat := 500

def errorDetail (text : String) : String :=
  let msg := Text.strip text
  if msg.length ≤ errorDetailMaxLen then msg else .ofList (msg.toList.take (errorDetailMaxLen - 3)) ++ "..."

def normalizeIp (ip : Ip) : Address := ip.ipv4Mapped.getD ip.address

def isBlockedAddress (ip : Ip) : Bool :=
  let address := normalizeIp ip
  address.isPrivate || address.isLoopback || address.isLinkLocal || address.isReserved || address.isMulticast ||
    address.isUnspecified

def refuse {A : Type} (code : ErrorCode) (metaDict : List (String × String)) : Check A := .error (.urlImport { code, metaDict })

variable (net : Net)

namespace Net

def lower (text : List Char) : List Char := (net.python.lower (.ofList text)).toList

def urlparse (text : String) : Option Urls.Parsed := Urls.urlparse net.unicode text.toList

/-- The part of a parsed URL that is read without a further exception. -/
def view (parsed : Urls.Parsed) : Url where
  scheme := .ofList parsed.scheme
  hostname := (Urls.hostname net.lower parsed.netloc).map String.ofList
  path := .ofList parsed.path

def language : Python := { net.python with urlparse := fun text => (net.urlparse text).map net.view }

theorem language_urlparse (text : String) : net.language.urlparse text = (net.urlparse text).map net.view := by
  rw [language]

end Net

/-- An exception of a parser is none of the exceptions that the endpoint knows. -/
def escaping {A : Type} : Capture.Meeting A → Check A
  | .ok result => .ok result
  | .error _ => .error .exception

def hostFromUrl (url : String) : Check String := escaping (Capture.hostFromUrl net.language url)

def validateImportUrl (url : String) : Check String := do
  let cleaned := Text.strip url
  if cleaned = "" || !urlRe cleaned then refuse .invalidUrl []
  else do
    let host ← hostFromUrl net cleaned
    if host = "" then refuse .invalidUrl [] else .ok cleaned

def portFromUrl (url : String) : Check Nat :=
  match net.urlparse (Text.strip url) with
  | none => .error .exception
  | some parsed =>
    match Urls.port parsed.netloc with
    | none => .error .exception
    | some (some port) => .ok port
    | some none => .ok (if String.ofList (parsed.scheme.map Char.toLower) = "https" then 443 else 80)

def rejectLiteralBlockedHost (host : String) : Check Unit :=
  match net.ipAddress host with
  | none => .ok ()
  | some ip =>
    if isBlockedAddress ip then refuse .unsupportedHost [("host", host), ("reason", "blocked_address")] else .ok ()

def resolveAddrinfo (host : String) (port : Nat) : Check (List String) :=
  match net.getaddrinfo host port with
  | .timeout =>
    refuse .unsupportedHost [("host", host), ("reason", "dns_resolution_failed"),
      ("error_detail", "DNS lookup timed out after " ++ dnsResolutionTimeoutSec ++ "s")]
  | .gaierror text =>
    refuse .unsupportedHost [("host", host), ("reason", "dns_resolution_failed"), ("error_detail", errorDetail text)]
  | .addresses found => .ok found

def rejectBlockedResolvedIps (host : String) (port : Nat) : Check Unit :=
  if (net.ipAddress host).isSome then .ok ()
  else do
    let infos ← resolveAddrinfo net host port
    if infos.isEmpty then refuse .unsupportedHost [("host", host), ("reason", "dns_resolution_failed")]
    else
      -- an address that the service gives twice is looked at once
      match infos.eraseDups.findSome? fun addr => (net.ipAddress addr).filter isBlockedAddress with
      | none => .ok ()
      | some ip =>
        refuse .unsupportedHost [("host", host), ("reason", "blocked_address"), ("resolved_ip", (normalizeIp ip).text)]

def rejectLiteralBlockedImportUrl (url : String) : Check String := do
  let cleaned ← validateImportUrl net url
  let host ← hostFromUrl net cleaned
  if host != "" then rejectLiteralBlockedHost net host
  .ok cleaned

def rejectBlockedImportUrl (url : String) : Check String := do
  let cleaned ← validateImportUrl net url
  let host ← hostFromUrl net cleaned
  if host != "" then do
    rejectLiteralBlockedHost net host
    rejectBlockedResolvedIps net host (← portFromUrl net cleaned)
  .ok cleaned

def assertImportFetchAllowed (url : String) (settingsAllowed : List String) : Check String := do
  let cleaned ← validateImportUrl net url
  let host ← hostFromUrl net cleaned
  rejectLiteralBlockedHost net host
  match catalogPlatformForHost host with
  | none => refuse .unsupportedHost [("host", host), ("reason", "not_in_catalog")]
  | some platform =>
    if !settingsAllowed.contains platform.id then
      refuse .unsupportedHost
        [("host", host), ("platform", platform.label), ("extractor", platform.id), ("reason", "disabled_by_admin")]
    else do
      rejectBlockedResolvedIps net host (← portFromUrl net cleaned)
      .ok cleaned

def importUrlRoutesToCapture (url : String) (settings : InstanceSettings) : Capture.Meeting Bool :=
  if !settings.captureEnabled then .ok false
  else do
    let connector ← Capture.detectCaptureConnector net.language url (Capture.allowedConnectors settings)
    .ok connector.isSome

def importUrlLooksLikeMeeting (url : String) : Capture.Meeting Bool := do
  if ← Capture.isTelemostMeetingUrl net.language (Text.strip url) then .ok true
  else do
    let raw := Text.strip url
    let host ← Capture.normalizeHost net.language (← Capture.hostFromUrl net.language raw)
    if host = "" || (catalogPlatformForHost host).isSome then .ok false
    else
      match Capture.parseMeetingRoom net.language raw with
      | .ok _ => .ok true
      | .error (.meeting _) => .ok false
      | .error .exception => .error .exception

inductive Route where
  | importing (url : String)
  | capture (url : String)
  deriving DecidableEq

/-- The checks of `enqueue_import_task`, which answers an `UrlImportError` with an API error of its code. -/
def importRoute (site : Site) (url : String) : Check Route := do
  let _ ← rejectLiteralBlockedImportUrl net url
  if !site.settings.importEnabled then .error (.api .importDisabled)
  else if !site.downloadProxyReady then .error (.api .proxyUnavailable)
  else if ← escaping (importUrlRoutesToCapture net url site.settings) then .ok (.capture (Text.strip url))
  else if ← escaping (importUrlLooksLikeMeeting net url) then .error (.api .captureDisabled)
  else do
    let _ ← rejectBlockedImportUrl net url
    let url ← assertImportFetchAllowed net url (allowedExtractors site)
    .ok (.importing url)

section Parsed

def hostOf (parsed : Urls.Parsed) : String := Capture.dropWww (net.python.lower ((net.view parsed).hostname.getD ""))

def plainHost (host : String) : String :=
  if Text.strip host = "" then "" else Capture.dropWww (net.python.lower (Text.strip host))

def meetingHead (raw : String) : Bool :=
  let head := net.python.lower (.ofList (raw.toList.take 8))
  "http://".toList.isPrefixOf head.toList || "https://".toList.isPrefixOf head.toList

def meetingScheme (raw : String) (url : Url) : Bool := meetingHead net raw && (url.scheme = "http" || url.scheme = "https")

def telemostPath (path : String) : Bool :=
  match (Text.split '/' (Text.stripChar '/' path)).filter fun part => part != "" with
  | kind :: _ :: _ => kind = "j" || kind = "private-join"
  | _ => false

def roomOf (path : String) : String := (Text.split '/' (Text.stripChar '/' path)).getLastD ""

def namesTelemost (raw : String) (parsed : Urls.Parsed) : Bool :=
  meetingScheme net raw (net.view parsed) &&
    Capture.telemostHosts.contains (plainHost net ((net.view parsed).hostname.getD "")) && telemostPath (net.view parsed).path

def hasRoom (raw : String) (parsed : Urls.Parsed) : Bool :=
  meetingScheme net raw (net.view parsed) &&
    !(hostOf net parsed = "" || Text.stripChar '/' (net.view parsed).path = "" || roomOf (net.view parsed).path = "")

def namesRoom (raw : String) (parsed : Urls.Parsed) : Bool :=
  let host := plainHost net (hostOf net parsed)
  !(host = "" || (catalogPlatformForHost host).isSome) && hasRoom net raw parsed

def namesMeeting (raw : String) (parsed : Urls.Parsed) : Bool := namesTelemost net raw parsed || namesRoom net raw parsed

theorem strip_strip (text : String) : Text.strip (Text.strip text) = Text.strip text := by
  rw [Text.strip, Text.strip, String.toList_ofList, Text.trimBoth_trimBoth]

theorem split_of_not_mem {c : Char} {text : String} (outside : c ∉ text.toList) : Text.split c text = [text] := by
  have alone : ∀ x ∈ text.toList, (x == c) = false := fun x member => beq_false_of_ne fun same => outside (same ▸ member)
  rw [Text.split, List.splitOn, List.splitOnP_eq_singleton alone, List.map_singleton, String.ofList_toList]

theorem mem_of_strip {c : Char} {text : String} (member : c ∈ (Text.strip text).toList) : c ∈ text.toList := by
  rw [Text.strip, String.toList_ofList] at member
  exact (Text.trimBoth_sublist _).subset member

theorem onPlatform_eq (host : String) : Capture.onPlatform host = (catalogPlatformForHost host).isSome := by
  rw [Capture.onPlatform, catalogPlatformForHost]
  by_cases empty : host = ""
  · simp [empty]
  · rw [if_neg empty, List.isSome_find?]
    simp only [bne_iff_ne.mpr empty, Bool.true_and, Capture.platformDomains, importPlatformCatalog, List.any_cons, List.any_nil,
      List.contains_cons, List.contains_nil, Bool.or_false]
    grind

variable {net} {host : String} (plain : ∀ c ∈ host.toList, Urls.netlocEnd c = false)

include plain in
theorem normalizeHost_eq : Capture.normalizeHost net.language host = .ok (plainHost net host) := by
  have outside {c : Char} (ends : Urls.netlocEnd c = true) : c ∉ (Text.strip host).toList := fun member =>
    Bool.false_ne_true ((plain c (mem_of_strip member)).symm.trans ends)
  have slash : '/' ∉ (Text.strip host).toList := outside (by decide)
  have query : '?' ∉ (Text.strip host).toList := outside (by decide)
  have noScheme : Capture.hasScheme (Text.strip host) = false := by
    rw [Capture.hasScheme, List.any_eq_false]
    intro rest tail begins
    obtain ⟨more, rfl⟩ := List.isPrefixOf_iff_prefix.mp begins
    exact slash (((List.mem_tails _ _).mp tail).subset (by simp))
  have noSlashes : "//".toList.isPrefixOf (Text.strip host).toList = false := by
    rw [Bool.eq_false_iff]
    intro begins
    obtain ⟨more, whole⟩ := List.isPrefixOf_iff_prefix.mp begins
    exact slash (by rw [← whole]; simp)
  rw [Capture.normalizeHost, plainHost]
  split
  · rfl
  · rw [noScheme, noSlashes, split_of_not_mem slash]
    simp only [Bool.or_self, Bool.false_eq_true, if_false, List.headD_cons, split_of_not_mem query, strip_strip]
    rfl

end Parsed

section Meetings

variable {net} {url : String} {parsed : Urls.Parsed} (parses : net.urlparse (Text.strip url) = some parsed)

include parses

theorem capture_urlparse : Capture.urlparse net.language (Text.strip url) = .ok (net.view parsed) := by
  rw [Capture.urlparse, Net.language_urlparse, parses, Option.map_some]

theorem hostname_plain : ∀ c ∈ ((net.view parsed).hostname.getD "").toList, Urls.netlocEnd c = false := by
  obtain ⟨rfl, _⟩ := Urls.parts_of_urlparse parses
  cases named : Urls.hostname net.lower (Urls.parts (Text.strip url).toList).netloc with
  | none => simp [Net.view, named]
  | some host =>
    have safe := Urls.hostname_safe net.lowered named
    simpa [Net.view, named] using safe

theorem hostOf_plain : ∀ c ∈ (hostOf net parsed).toList, Urls.netlocEnd c = false := by
  intro c member
  have inside : c ∈ (net.python.lower ((net.view parsed).hostname.getD "")).toList := by
    rw [hostOf, Capture.dropWww] at member
    split at member
    · exact List.mem_of_mem_drop (by simpa using member)
    · exact member
  by_contra ends
  have ends : Urls.netlocEnd c = true := by simpa using ends
  rw [← String.ofList_toList (s := (net.view parsed).hostname.getD "")] at inside
  exact Bool.false_ne_true ((hostname_plain parses c (net.lowered _ c ends inside)).symm.trans ends)

theorem capture_hostFromUrl : Capture.hostFromUrl net.language (Text.strip url) = .ok (hostOf net parsed) := by
  rw [Capture.hostFromUrl, strip_strip, capture_urlparse parses]
  rfl

theorem hostFromUrl_eq : hostFromUrl net (Text.strip url) = .ok (hostOf net parsed) := by
  rw [hostFromUrl, capture_hostFromUrl parses, escaping]

theorem parseMeetingUrl_eq : Capture.parseMeetingUrl net.language (Text.strip url) =
    if meetingScheme net (Text.strip url) (net.view parsed) then .ok (net.view parsed) else .error (.meeting .invalidUrl) := by
  have head : Capture.parseMeetingUrl net.language (Text.strip url) =
      if !meetingHead net (Text.strip url) then .error (.meeting .invalidUrl)
      else (do
        let parsed ← Capture.urlparse net.language (Text.strip url)
        if parsed.scheme = "http" || parsed.scheme = "https" then .ok parsed else .error (.meeting .invalidUrl)) := rfl
  rw [head, capture_urlparse parses, meetingScheme]
  cases meetingHead net (Text.strip url) with
  | false => rfl
  | true => rfl

theorem isTelemostMeetingUrl_eq :
    Capture.isTelemostMeetingUrl net.language (Text.strip url) = .ok (namesTelemost net (Text.strip url) parsed) := by
  rw [Capture.isTelemostMeetingUrl, Capture.parseTelemostMeeting, strip_strip, parseMeetingUrl_eq parses, namesTelemost]
  cases meetingScheme net (Text.strip url) (net.view parsed) with
  | false => rfl
  | true =>
    have host : Capture.normalizeHost net.language _ = .ok _ := normalizeHost_eq (hostname_plain parses)
    simp only [if_true, bind, Except.bind, host, Bool.true_and]
    cases Capture.telemostHosts.contains (plainHost net ((net.view parsed).hostname.getD "")) with
    | false => rfl
    | true =>
      simp only [Bool.not_true, Bool.false_eq_true, if_false, Bool.true_and, telemostPath]
      rcases (Text.split '/' (Text.stripChar '/' (net.view parsed).path)).filter fun part => part != "" with
        _ | ⟨kind, _ | ⟨meeting, rest⟩⟩
      · rfl
      · rfl
      · by_cases known : kind = "j" ∨ kind = "private-join"
        · simp [known]
        · rw [not_or] at known
          simp [known]

theorem parseMeetingRoom_eq : Capture.parseMeetingRoom net.language (Text.strip url) =
    if hasRoom net (Text.strip url) parsed then .ok (hostOf net parsed, roomOf (net.view parsed).path)
    else .error (.meeting .invalidUrl) := by
  rw [Capture.parseMeetingRoom, strip_strip, parseMeetingUrl_eq parses, capture_hostFromUrl parses, hasRoom]
  cases meetingScheme net (Text.strip url) (net.view parsed) with
  | false => rfl
  | true =>
    simp only [if_true, bind, Except.bind, Bool.true_and]
    change (if hostOf net parsed = "" || Text.stripChar '/' (net.view parsed).path = "" || roomOf (net.view parsed).path = "" then
      Except.error (Capture.MeetingFault.meeting .invalidUrl) else .ok (hostOf net parsed, roomOf (net.view parsed).path)) = _
    by_cases missing : (hostOf net parsed = "" || Text.stripChar '/' (net.view parsed).path = "" ||
        roomOf (net.view parsed).path = "") = true
    · rw [if_pos missing, if_neg (by simp [missing])]
    · rw [if_neg missing, if_pos (by simpa using missing)]

theorem importUrlLooksLikeMeeting_eq :
    importUrlLooksLikeMeeting net url = .ok (namesMeeting net (Text.strip url) parsed) := by
  have host : Capture.normalizeHost net.language _ = .ok _ := normalizeHost_eq (hostOf_plain parses)
  rw [importUrlLooksLikeMeeting, isTelemostMeetingUrl_eq parses, namesMeeting, namesRoom]
  dsimp only
  rw [capture_hostFromUrl parses, parseMeetingRoom_eq parses]
  cases namesTelemost net (Text.strip url) parsed with
  | true => rfl
  | false =>
    simp only [bind, Except.bind, Bool.false_eq_true, if_false, host, Bool.false_or]
    by_cases elsewhere : (plainHost net (hostOf net parsed) = "" ||
        (catalogPlatformForHost (plainHost net (hostOf net parsed))).isSome) = true
    · rw [if_pos elsewhere, elsewhere]
      rfl
    · rw [if_neg elsewhere, Bool.eq_false_iff.mpr elsewhere]
      cases hasRoom net (Text.strip url) parsed with
      | false => rfl
      | true => rfl

theorem detectCaptureConnector_eq (settingsAllowed : List String) :
    ∃ connector, Capture.detectCaptureConnector net.language url settingsAllowed = .ok connector ∧
      (connector.isSome = true → namesMeeting net (Text.strip url) parsed = true) := by
  have host : Capture.normalizeHost net.language _ = .ok _ := normalizeHost_eq (hostOf_plain parses)
  rw [Capture.detectCaptureConnector, isTelemostMeetingUrl_eq parses, namesMeeting, namesRoom]
  cases namesTelemost net (Text.strip url) parsed with
  | true => exact ⟨_, rfl, fun _ => rfl⟩
  | false =>
    simp only [bind, Except.bind, Bool.false_eq_true, if_false, Bool.false_or]
    by_cases listed : settingsAllowed.contains "jitsi" = true
    · rw [listed, capture_hostFromUrl parses]
      simp only [Bool.not_true, Bool.false_eq_true, if_false, host]
      rw [onPlatform_eq, parseMeetingRoom_eq parses]
      by_cases elsewhere : (plainHost net (hostOf net parsed) = "" ||
          (catalogPlatformForHost (plainHost net (hostOf net parsed))).isSome) = true
      · exact ⟨none, if_pos elsewhere, fun some => Bool.noConfusion some⟩
      · rw [if_neg elsewhere, Bool.eq_false_iff.mpr elsewhere]
        cases hasRoom net (Text.strip url) parsed with
        | false => exact ⟨none, rfl, fun some => Bool.noConfusion some⟩
        | true => exact ⟨_, rfl, fun _ => rfl⟩
    · rw [Bool.eq_false_iff.mpr listed]
      exact ⟨none, rfl, fun some => Bool.noConfusion some⟩

/-- Whatever is recorded instead of imported looks like a meeting. -/
theorem importUrlRoutesToCapture_eq (settings : InstanceSettings) :
    ∃ routes, importUrlRoutesToCapture net url settings = .ok routes ∧
      (routes = true → namesMeeting net (Text.strip url) parsed = true) := by
  rw [importUrlRoutesToCapture]
  cases settings.captureEnabled with
  | false => exact ⟨false, rfl, fun routed => Bool.noConfusion routed⟩
  | true =>
    obtain ⟨connector, detected, names⟩ := detectCaptureConnector_eq parses (Capture.allowedConnectors settings)
    exact ⟨connector.isSome, by rw [detected]; rfl, names⟩

end Meetings

section Schemes

theorem isAlpha_of_foldCase {c : Char} (lower : (foldCase c).isLower = true) : c = 'ſ' ∨ c.isAlpha = true := by
  by_cases long : c = 'ſ'
  · exact .inl long
  · right
    rw [foldCase, if_neg long] at lower
    rw [Text.isAlpha_iff]
    by_cases upper : c.isUpper = true
    · exact .inl upper
    · rw [Text.toLower_of_not_upper upper] at lower
      exact .inr lower

theorem toNat_of_isAlpha {c : Char} (alpha : c.isAlpha = true) : 65 ≤ c.toNat := by
  have range := Text.isAlpha_iff.mp alpha
  rw [Text.isUpper_iff, Text.isLower_iff] at range
  omega

theorem toLower_eq {c x : Char} (same : c.toLower = x) (other : x.isLower = false) : c = x := by
  by_cases upper : c.isUpper = true
  · have lower : c.toLower.isLower = true := by
      have range := Text.isUpper_iff.mp upper
      rw [Text.isLower_iff, Text.toNat_toLower upper]
      omega
    rw [same, other] at lower
    contradiction
  · rw [← Text.toLower_of_not_upper upper, same]

theorem foldCase_eq {c x : Char} (same : foldCase c = x) (other : x.isLower = false) : c = x := by
  rw [foldCase] at same
  split at same
  · rw [← same] at other
    contradiction
  · exact toLower_eq same other

theorem exists_label {text : String} (matched : urlRe text = true) :
    ∃ label rest, text.toList = label ++ ':' :: rest ∧
      (label.map foldCase = "http".toList ∨ label.map foldCase = "https".toList) := by
  have labelled {scheme : List Char} (begins : (scheme ++ ':' :: "//".toList).isPrefixOf (text.toList.map foldCase) = true) :
      ∃ label rest, text.toList = label ++ ':' :: rest ∧ label.map foldCase = scheme := by
    obtain ⟨more, whole⟩ := List.isPrefixOf_iff_prefix.mp begins
    rw [List.append_assoc] at whole
    obtain ⟨label, behind, split, folded, other⟩ := List.map_eq_append_iff.mp whole.symm
    obtain ⟨colon, rest, rfl, mark, _⟩ := List.map_eq_cons_iff.mp other
    obtain rfl : colon = ':' := foldCase_eq mark (by decide)
    exact ⟨label, rest, split, folded⟩
  rw [urlRe, Bool.or_eq_true] at matched
  rcases matched with plain | secure
  · obtain ⟨label, rest, split, folded⟩ := @labelled "http".toList plain
    exact ⟨label, rest, split, .inl folded⟩
  · obtain ⟨label, rest, split, folded⟩ := @labelled "https".toList secure
    exact ⟨label, rest, split, .inr folded⟩

theorem scheme_of_urlRe {text : String} {parsed : Urls.Parsed} (matched : urlRe text = true)
    (parses : net.urlparse text = some parsed) (hosted : parsed.netloc ≠ []) :
    String.ofList parsed.scheme = "http" ∨ String.ofList parsed.scheme = "https" := by
  obtain ⟨rfl, _⟩ := Urls.parts_of_urlparse parses
  obtain ⟨label, rest, whole, folded⟩ := exists_label matched
  -- the pattern ignores case, and a long s folds to the letter s as well
  have letters : ∀ c ∈ label, c = 'ſ' ∨ c.isAlpha = true := by
    intro c member
    have inside : foldCase c ∈ label.map foldCase := List.mem_map_of_mem member
    refine isAlpha_of_foldCase ?_
    rcases folded with same | same
    · rw [same] at inside
      exact List.all_eq_true.mp (by decide +kernel : "http".toList.all Char.isLower = true) _ inside
    · rw [same] at inside
      exact List.all_eq_true.mp (by decide +kernel : "https".toList.all Char.isLower = true) _ inside
  obtain ⟨first, tail, rfl, begins⟩ : ∃ first tail, label = first :: tail ∧ first.isAlpha = true := by
    cases label with
    | nil =>
      rcases folded with same | same
      · exact absurd same (by decide)
      · exact absurd same (by decide)
    | cons first tail =>
      refine ⟨first, tail, rfl, (letters first List.mem_cons_self).resolve_left ?_⟩
      rintro rfl
      rcases folded with same | same
      · exact absurd (List.cons.inj same).1 (by decide)
      · exact absurd (List.cons.inj same).1 (by decide)
  rw [whole] at hosted ⊢
  -- a label with the long s is no scheme, and then there is no host
  cases legal : (first :: tail).all Urls.schemeChar with
  | false =>
    refine absurd (Urls.netloc_unlabelled ?_ ?_ ?_ ?_ legal rest) hosted
    · rw [Urls.c0OrSpace, decide_eq_false_iff_not]
      have visible := toNat_of_isAlpha begins
      omega
    · rintro rfl
      exact absurd begins (by decide)
    · intro c member
      rcases letters c member with rfl | alpha
      · decide
      · rw [Urls.unsafeChar]
        by_contra blank
        simp only [Bool.not_eq_false, Bool.or_eq_true, beq_iff_eq] at blank
        rcases blank with (rfl | rfl) | rfl <;> exact absurd alpha (by decide)
    · intro member
      rcases letters ':' member with same | alpha
      · exact absurd same (by decide)
      · exact absurd alpha (by decide)
  | true =>
    have label : Urls.IsScheme (first :: tail) := ⟨begins, legal⟩
    have lower : (first :: tail).map Char.toLower = (first :: tail).map foldCase := by
      refine List.map_congr_left fun c member => ?_
      rw [foldCase, if_neg]
      rintro rfl
      exact absurd (List.all_eq_true.mp legal _ member) (by decide)
    rw [Urls.scheme_parts label, lower]
    rcases folded with same | same
    · exact .inl (by rw [same, String.ofList_toList])
    · exact .inr (by rw [same, String.ofList_toList])

end Schemes

def Sound (url : String) : Check Route → Prop
  | .error .exception => False
  | .error _ => True
  | .ok (.importing accepted) => Accepts accepted
  | .ok (.capture accepted) => Accepts accepted
where
  Accepts (accepted : String) : Prop :=
    accepted = Text.strip url ∧ ∃ parsed, net.urlparse accepted = some parsed ∧ (net.view parsed).hostname.isSome = true ∧
      ((net.view parsed).scheme = "http" ∨ (net.view parsed).scheme = "https")

def literalBlocked (host : String) : Bool := (net.ipAddress host).any isBlockedAddress

def Settled (site : Site) (url : String) (parsed : Urls.Parsed) : Prop :=
  hostOf net parsed = "" ∨ literalBlocked net (hostOf net parsed) = true ∨ site.settings.importEnabled = false ∨
    site.downloadProxyReady = false ∨ namesMeeting net (Text.strip url) parsed = true

/-- A text that looks like a URL is read by the parser, and so is its port, unless the URL is settled before. -/
def Readable (site : Site) (url : String) : Prop :=
  urlRe (Text.strip url) = true → ∃ parsed, net.urlparse (Text.strip url) = some parsed ∧
    (Settled net site url parsed ∨ (Urls.port parsed.netloc).isSome = true)

section Totality

variable {net} {url : String} {parsed : Urls.Parsed}

theorem validateImportUrl_unmatched (unmatched : urlRe (Text.strip url) = false) :
    validateImportUrl net url = refuse .invalidUrl [] := by
  rw [validateImportUrl]
  simp [unmatched]

inductive Answers {A : Type} (accepted : A) : Check A → Prop where
  | accepts : Answers accepted (.ok accepted)
  | refuses (error : UrlImportError) : Answers accepted (.error (.urlImport error))

theorem rejectLiteralBlockedHost_eq (host : String) : rejectLiteralBlockedHost net host =
    if literalBlocked net host then refuse .unsupportedHost [("host", host), ("reason", "blocked_address")] else .ok () := by
  rw [rejectLiteralBlockedHost, literalBlocked]
  cases net.ipAddress host with
  | none => rfl
  | some ip => rfl

theorem answers_resolved (host : String) (port : Nat) : Answers () (rejectBlockedResolvedIps net host port) := by
  rw [rejectBlockedResolvedIps]
  split
  · exact .accepts
  · rw [resolveAddrinfo]
    cases net.getaddrinfo host port with
    | timeout => exact .refuses _
    | gaierror text => exact .refuses _
    | addresses found =>
      simp only [bind, Except.bind]
      split
      · exact .refuses _
      · split
        · exact .accepts
        · exact .refuses _

section Matched

variable (matched : urlRe (Text.strip url) = true)

include matched

theorem validateImportUrl_matched : validateImportUrl net url = (do
    let host ← hostFromUrl net (Text.strip url)
    if host = "" then refuse .invalidUrl [] else .ok (Text.strip url)) := by
  have given : Text.strip url ≠ "" := by
    intro empty
    rw [empty] at matched
    exact absurd matched (by decide)
  rw [validateImportUrl]
  exact if_neg (by simp [given, matched])

theorem validateImportUrl_unparsed (unparsed : net.urlparse (Text.strip url) = none) :
    validateImportUrl net url = .error .exception := by
  have raises : Capture.urlparse net.language (Text.strip url) = .error .exception := by
    rw [Capture.urlparse, Net.language_urlparse, unparsed, Option.map_none]
  rw [validateImportUrl_matched matched, hostFromUrl, Capture.hostFromUrl, strip_strip, raises]
  rfl

variable (parses : net.urlparse (Text.strip url) = some parsed)

include parses

theorem validateImportUrl_hostless (hostless : hostOf net parsed = "") : validateImportUrl net url = refuse .invalidUrl [] := by
  rw [validateImportUrl_matched matched, hostFromUrl_eq parses, hostless]
  rfl

variable (hosted : hostOf net parsed ≠ "")

include hosted

theorem validateImportUrl_eq : validateImportUrl net url = .ok (Text.strip url) := by
  rw [validateImportUrl_matched matched, hostFromUrl_eq parses]
  exact if_neg hosted

theorem rejectLiteralBlockedImportUrl_eq : rejectLiteralBlockedImportUrl net url =
    if literalBlocked net (hostOf net parsed) then
      refuse .unsupportedHost [("host", hostOf net parsed), ("reason", "blocked_address")]
    else .ok (Text.strip url) := by
  rw [rejectLiteralBlockedImportUrl, validateImportUrl_eq matched parses hosted]
  simp only [bind, Except.bind, hostFromUrl_eq parses, rejectLiteralBlockedHost_eq, bne_iff_ne.mpr hosted, if_true]
  cases literalBlocked net (hostOf net parsed) with
  | false => rfl
  | true => rfl

theorem accepts_cleaned : Sound.Accepts net url (Text.strip url) := by
  have named : (net.view parsed).hostname ≠ none := by
    intro nameless
    refine hosted ?_
    unfold hostOf
    rw [nameless, Option.getD_none, net.lower_empty]
    decide
  have located : parsed.netloc ≠ [] := by
    intro empty
    refine named ?_
    unfold Net.view
    rw [empty]
    rfl
  exact ⟨rfl, parsed, parses, Option.isSome_iff_ne_none.mpr named, scheme_of_urlRe net matched parses located⟩

variable (allowed : literalBlocked net (hostOf net parsed) = false)

include allowed

theorem rejectBlockedImportUrl_eq : rejectBlockedImportUrl net url = (do
    let port ← portFromUrl net (Text.strip url)
    rejectBlockedResolvedIps net (hostOf net parsed) port
    .ok (Text.strip url)) := by
  rw [rejectBlockedImportUrl, validateImportUrl_eq matched parses hosted]
  simp only [bind, Except.bind, hostFromUrl_eq parses, rejectLiteralBlockedHost_eq, bne_iff_ne.mpr hosted, if_true, allowed,
    Bool.false_eq_true, if_false]

theorem answers_assert {port : Nat} (read : portFromUrl net (Text.strip url) = .ok port) (settingsAllowed : List String) :
    Answers (Text.strip url) (assertImportFetchAllowed net url settingsAllowed) := by
  rw [assertImportFetchAllowed, validateImportUrl_eq matched parses hosted]
  simp only [bind, Except.bind, hostFromUrl_eq parses, rejectLiteralBlockedHost_eq, allowed, Bool.false_eq_true, if_false]
  cases catalogPlatformForHost (hostOf net parsed) with
  | none => exact .refuses _
  | some platform =>
    dsimp only
    split
    · exact .refuses _
    · rw [read]
      dsimp only
      have resolved := @answers_resolved net (hostOf net parsed) port
      generalize rejectBlockedResolvedIps net (hostOf net parsed) port = answer at resolved
      cases resolved with
      | accepts => exact .accepts
      | refuses error => exact .refuses error

theorem answers_reject {port : Nat} (read : portFromUrl net (Text.strip url) = .ok port) :
    Answers (Text.strip url) (rejectBlockedImportUrl net url) := by
  rw [rejectBlockedImportUrl_eq matched parses hosted allowed, read]
  change Answers _ (do
    rejectBlockedResolvedIps net (hostOf net parsed) port
    .ok (Text.strip url))
  have resolved := @answers_resolved net (hostOf net parsed) port
  generalize rejectBlockedResolvedIps net (hostOf net parsed) port = answer at resolved
  cases resolved with
  | accepts => exact .accepts
  | refuses error => exact .refuses error

end Matched

theorem portFromUrl_eq_error (parses : net.urlparse (Text.strip url) = some parsed)
    (unread : (Urls.port parsed.netloc).isSome = false) :
    portFromUrl net (Text.strip url) = .error .exception := by
  unfold portFromUrl
  rw [strip_strip, parses]
  simp only [Option.isSome_eq_false_iff, Option.isNone_iff_eq_none] at unread
  simp only [unread]

theorem portFromUrl_eq_ok (parses : net.urlparse (Text.strip url) = some parsed)
    (reads : (Urls.port parsed.netloc).isSome = true) :
    ∃ port, portFromUrl net (Text.strip url) = .ok port := by
  unfold portFromUrl
  rw [strip_strip, parses]
  obtain ⟨port, read⟩ := Option.isSome_iff_exists.mp reads
  simp only [read]
  cases port with
  | none => exact ⟨_, rfl⟩
  | some port => exact ⟨port, rfl⟩

theorem sound_checked_iff (site : Site) (matched : urlRe (Text.strip url) = true)
    (parses : net.urlparse (Text.strip url) = some parsed) (hosted : hostOf net parsed ≠ "")
    (allowed : literalBlocked net (hostOf net parsed) = false) :
    Sound net url (do
      let _ ← rejectBlockedImportUrl net url
      let url ← assertImportFetchAllowed net url (allowedExtractors site)
      .ok (.importing url)) ↔ (Urls.port parsed.netloc).isSome = true := by
  cases reads : (Urls.port parsed.netloc).isSome with
  | false =>
    rw [rejectBlockedImportUrl_eq matched parses hosted allowed, portFromUrl_eq_error parses reads]
    exact iff_of_false id Bool.false_ne_true
  | true =>
    obtain ⟨port, read⟩ := portFromUrl_eq_ok parses reads
    refine iff_of_true ?_ rfl
    have rejecting := answers_reject matched parses hosted allowed read
    have asserting := answers_assert matched parses hosted allowed read (allowedExtractors site)
    generalize rejectBlockedImportUrl net url = rejected at rejecting
    generalize assertImportFetchAllowed net url (allowedExtractors site) = asserted at asserting
    cases rejecting with
    | refuses error => exact trivial
    | accepts =>
      cases asserting with
      | refuses error => exact trivial
      | accepts => exact accepts_cleaned matched parses hosted

/-- The checks of an import URL end with an accepted URL or with an API error, exactly for the readable URLs. -/
theorem import_url_checked_iff (site : Site) (url : String) :
    Sound net url (importRoute net site url) ↔ Readable net site url := by
  rw [Readable]
  cases matched : urlRe (Text.strip url) with
  | false =>
    rw [importRoute, rejectLiteralBlockedImportUrl, validateImportUrl_unmatched matched]
    exact iff_of_true trivial fun absent => Bool.noConfusion absent
  | true =>
    rw [forall_prop_of_true rfl]
    cases parses : net.urlparse (Text.strip url) with
    | none =>
      rw [importRoute, rejectLiteralBlockedImportUrl, validateImportUrl_unparsed matched parses]
      exact iff_of_false id (by simp)
    | some parsed =>
      have only (P : Urls.Parsed → Prop) : (∃ other, some parsed = some other ∧ P other) ↔ P parsed := by simp
      rw [only, Settled]
      by_cases hosted : hostOf net parsed = ""
      · rw [importRoute, rejectLiteralBlockedImportUrl, validateImportUrl_hostless matched parses hosted]
        exact iff_of_true trivial (.inl (.inl hosted))
      rw [importRoute, rejectLiteralBlockedImportUrl_eq matched parses hosted, importUrlLooksLikeMeeting_eq parses]
      obtain ⟨routes, routed, names⟩ := importUrlRoutesToCapture_eq parses site.settings
      rw [routed]
      -- the cases follow the order of the checks
      cases allowed : literalBlocked net (hostOf net parsed) with
      | true => exact iff_of_true trivial (.inl (.inr (.inl rfl)))
      | false =>
        cases site.settings.importEnabled with
        | false => exact iff_of_true trivial (.inl (.inr (.inr (.inl rfl))))
        | true =>
          cases site.downloadProxyReady with
          | false => exact iff_of_true trivial (.inl (.inr (.inr (.inr (.inl rfl)))))
          | true =>
            cases routes with
            | true =>
              exact iff_of_true (accepts_cleaned matched parses hosted) (.inl (.inr (.inr (.inr (.inr (names rfl))))))
            | false =>
              cases namesMeeting net (Text.strip url) parsed with
              | true => exact iff_of_true trivial (.inl (.inr (.inr (.inr (.inr rfl)))))
              | false =>
                have last : Sound net url _ ↔ _ := sound_checked_iff site matched parses hosted allowed
                simp only [bind, Except.bind, escaping, Bool.not_true, Bool.false_eq_true, if_false] at last ⊢
                rw [last]
                simp [hosted]

end Totality

def asciiNet : Net where
  python :=
    { float := fun _ => none, str := fun _ => "?", jsonBytes := fun _ => none, int := fun _ => .invalid
      lower := fun text => .ofList (text.toList.map Char.toLower), urlparse := fun _ => none,
      str_truthy := fun _ _ => Python.question_ne_empty }
  unicode := { ipv6 := fun text => text.contains ':', expands := fun _ => false, decimal := Char.isDigit }
  ipAddress _ := none
  getaddrinfo _ _ := .gaierror "Name or service not known"
  lowered text c ends member := by
    rw [String.toList_ofList, String.toList_ofList] at member
    obtain ⟨letter, inside, same⟩ := List.mem_map.mp member
    have other : c.isLower = false := by
      simp only [Urls.netlocEnd, Bool.or_eq_true, beq_iff_eq] at ends
      rcases ends with (rfl | rfl) | rfl <;> decide
    rwa [toLower_eq same other] at inside
  lower_empty := by decide

def openSite : Site where
  settings := { importEnabled := true, captureEnabled := true, captureAllowedConnectors := none }
  importAllowedExtractors := none
  downloadProxyReady := true

/-- A bracket that is not closed escapes from the first check, and a port out of range from a later one. -/
theorem malformed_urls_escape : ¬ Sound asciiNet "http://[" (importRoute asciiNet openSite "http://[") ∧
    ¬ Sound asciiNet "http://youtube.com:99999/" (importRoute asciiNet openSite "http://youtube.com:99999/") := by
  have bracket : importRoute asciiNet openSite "http://[" = .error .exception := by decide +kernel
  have port : importRoute asciiNet openSite "http://youtube.com:99999/" = .error .exception := by decide +kernel
  rw [bracket, port]
  exact ⟨id, id⟩

end IdigestHub.Ingest
