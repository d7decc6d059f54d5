import IdigestHub.Capture.Nodes
import IdigestHub.Hub.World

/-! From a meeting URL to the worker that records it: connector, host, room, and the token
of an organization's own host. -/

set_option autoImplicit false

namespace IdigestHub.Capture

open Foundation Dispatcher

inductive MeetingFault where
  | meeting (code : ErrorCode)
  | exception
  deriving DecidableEq

abbrev Meeting (A : Type) : Type := Except MeetingFault A

structure CaptureTarget where
  connector : String
  meetingHost : String
  meetingRoom : String
  pin : String
  worker : Node
  jwt : Option String

def telemostHosts : List String := ["telemost.yandex.ru", "telemost.yandex.com"]

def defaultCaptureBotDisplayName : String := "Transcription Bot"

def captureBotNameMaxLen : Nat := 128

def normalizeCaptureBotDisplayName (raw : Option String) : Option String :=
  match Text.strip (raw.getD "") with
  | "" => none
  | name => some (.ofList (name.toList.take captureBotNameMaxLen))

def resolveCaptureBotDisplayName (user : Option User) (org : Organization) : String :=
  ((user.bind fun user => normalizeCaptureBotDisplayName user.captureBotDisplayName).or
    (normalizeCaptureBotDisplayName org.captureBotDisplayName)).getD defaultCaptureBotDisplayName

variable (python : Python)

def urlparse (text : String) : Meeting Url :=
  match python.urlparse text with
  | none => .error .exception
  | some url => .ok url

def dropWww (host : String) : String :=
  if host.toList.take 4 = "www.".toList then .ofList (host.toList.drop 4) else host

/-- `"://" in text`. -/
def hasScheme (text : String) : Bool := text.toList.tails.any fun rest => "://".toList.isPrefixOf rest

def normalizeHost (host : String) : Meeting String := do
  let value := Text.strip host
  if value = "" then .ok ""
  else if hasScheme value || "//".toList.isPrefixOf value.toList then do
    let parsed ← urlparse python (if hasScheme value then value else "https:" ++ value)
    .ok (dropWww (python.lower (Text.strip (parsed.hostname.getD ""))))
  else
    let untilPath := (Text.split '/' value).headD ""
    let untilQuery := (Text.split '?' untilPath).headD ""
    .ok (dropWww (python.lower (Text.strip untilQuery)))

def hostFromUrl (url : String) : Meeting String := do
  let parsed ← urlparse python (Text.strip url)
  .ok (dropWww (python.lower (parsed.hostname.getD "")))

/-- The URL behind `_MEETING_URL_RE` and the check of the scheme. -/
def parseMeetingUrl (raw : String) : Meeting Url := do
  let head := python.lower (.ofList (raw.toList.take 8))
  if !("http://".toList.isPrefixOf head.toList || "https://".toList.isPrefixOf head.toList) then
    .error (.meeting .invalidUrl)
  else do
    let parsed ← urlparse python raw
    if parsed.scheme = "http" || parsed.scheme = "https" then .ok parsed
    else .error (.meeting .invalidUrl)

def parseTelemostMeeting (meetingUrl : String) : Meeting (String × String) := do
  let parsed ← parseMeetingUrl python (Text.strip meetingUrl)
  let host ← normalizeHost python (parsed.hostname.getD "")
  if !telemostHosts.contains host then .error (.meeting .invalidUrl)
  else
    match (Text.split '/' (Text.stripChar '/' parsed.path)).filter fun part => part != "" with
    | kind :: meeting :: _ =>
      if kind = "j" || kind = "private-join" then .ok (host, meeting)
      else .error (.meeting .invalidUrl)
    | _ => .error (.meeting .invalidUrl)

def isTelemostMeetingUrl (meetingUrl : String) : Meeting Bool :=
  match parseTelemostMeeting python meetingUrl with
  | .ok _ => .ok true
  | .error (.meeting _) => .ok false
  | .error .exception => .error .exception

def parseMeetingRoom (url : String) : Meeting (String × String) := do
  let raw := Text.strip url
  let parsed ← parseMeetingUrl python raw
  let host ← hostFromUrl python raw
  let path := Text.stripChar '/' parsed.path
  let room := (Text.split '/' path).getLastD ""
  if host = "" || path = "" || room = "" then .error (.meeting .invalidUrl)
  else .ok (host, room)

/-- The domains of the import platforms; no meeting is captured from these. -/
def platformDomains : List String :=
  ["youtube.com", "youtu.be", "m.youtube.com", "music.youtube.com", "rutube.ru", "tiktok.com"]

/-- `catalog_platform_for_host(host) is not None`. -/
def onPlatform (host : String) : Bool :=
  host != "" && platformDomains.any fun domain =>
    host == domain || ('.' :: domain.toList).isSuffixOf host.toList

def detectCaptureConnector (meetingUrl : String) (settingsAllowed : List String) :
    Meeting (Option String) := do
  let raw := Text.strip meetingUrl
  if ← isTelemostMeetingUrl python raw then
    .ok (if settingsAllowed.contains "telemost" then some "telemost" else none)
  else if !settingsAllowed.contains "jitsi" then .ok none
  else do
    let host ← normalizeHost python (← hostFromUrl python raw)
    if host = "" || onPlatform host then .ok none
    else
      match parseMeetingRoom python raw with
      | .ok _ => .ok (some "jitsi")
      | .error (.meeting _) => .ok none
      | .error .exception => .error .exception

def firstHost (target : String) : List OrgCaptureJitsiHost → Meeting (Option OrgCaptureJitsiHost)
  | [] => .ok none
  | row :: rest => do
    if (← normalizeHost python row.host) = target then .ok (some row) else firstHost target rest

def findOrgJitsiHost (stored : Hub) (orgId : Nat) (meetingHost : String) :
    Meeting (Option OrgCaptureJitsiHost) := do
  let target ← normalizeHost python meetingHost
  if target = "" then .ok none
  else firstHost python target ((stored.jitsiHosts.entries.map Sigma.snd).filter fun row => row.orgId == orgId)

def defaultJwtAppId : String := "chat"

def jwtAppId (row : OrgCaptureJitsiHost) : String :=
  match Text.strip ((nonEmpty row.jwtAppId).getD defaultJwtAppId) with
  | "" => defaultJwtAppId
  | appId => appId

variable (world : World)

/-- The token for an organization's own host; the public one is joined as a guest. -/
def jitsiJwt (row : OrgCaptureJitsiHost) (host room displayName : String) : Meeting (Option String) := do
  match nonEmpty row.jwtSecretEncrypted with
  | none => .ok none
  | some secret =>
    if (← normalizeHost world.python host) = "meet.jit.si" then .ok none
    else
      match world.jitsiToken secret (jwtAppId row) room displayName with
      | none => .error .exception
      | some token => .ok (some token)

/-- Any exception of a parser counts as a bad URL. -/
def orInvalidUrl {A : Type} : Meeting A → Meeting A
  | .error .exception => .error (.meeting .invalidUrl)
  | result => result

def pickOrFail (stored : Hub) (connectorId : String) : Meeting Node :=
  match pickCaptureWorker world.python stored connectorId with
  | none => .error (.meeting .captureNoWorker)
  | some worker => .ok worker

def resolveCaptureTarget (stored : Hub) (orgId : Nat) (meetingUrl pin : String)
    (settingsAllowed : List String) (displayName : String) : Meeting CaptureTarget := do
  let rawUrl := Text.strip meetingUrl
  match ← detectCaptureConnector world.python meetingUrl settingsAllowed with
  | none => .error (.meeting .captureDisabled)
  | some connector =>
    if connector = "telemost" then do
      let (host, meetingId) ← orInvalidUrl (parseTelemostMeeting world.python rawUrl)
      let worker ← pickOrFail world stored "telemost"
      .ok { connector, meetingHost := host, meetingRoom := meetingId, pin := "", worker, jwt := none }
    else do
      let (host, room) ← orInvalidUrl (parseMeetingRoom world.python rawUrl)
      match ← findOrgJitsiHost world.python stored orgId host with
      | none => .error (.meeting .meetingHostNotConfigured)
      | some row => do
        let worker ← pickOrFail world stored "jitsi"
        let jwt ← jitsiJwt world row host room displayName
        .ok { connector, meetingHost := host, meetingRoom := room, pin, worker, jwt }

end IdigestHub.Capture
