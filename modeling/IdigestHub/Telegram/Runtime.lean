import IdigestHub.Foundation.Runs
import IdigestHub.Telegram.Api
import Mathlib.Logic.Function.Basic

/-! The lifecycle of the Telegram bot: the runtime registers a webhook or polls for updates, and a change of
settings reconfigures the transport in a task of its own. Both run between the awaits of the event loop. -/

set_option autoImplicit false

namespace IdigestHub.Telegram

open Foundation

structure Settings where
  telegramEnabled : Bool
  telegramBotToken : Option String
  telegramUseWebhook : Bool
  publicBaseUrl : Option String
  telegramWebhookSecret : Option String

inductive Mode where
  | webhook | poll | off
  deriving DecidableEq

namespace Settings

variable (settings : Settings)

def filled (value : Option String) : Bool := (Text.strip (value.getD "")).isEmpty == false

/-- `bot_token` gives a token. -/
def hasToken : Bool := settings.telegramEnabled && filled settings.telegramBotToken

def wantsWebhook : Bool :=
  settings.telegramUseWebhook && filled settings.publicBaseUrl && filled settings.telegramWebhookSecret

end Settings

/-- The request that `configure_telegram_transport` waits for; the identity is written after `setMyCommands`. -/
inductive Configuring where
  | getMe (wantsWebhook : Bool)
  | setMyCommands (wantsWebhook : Bool) (identity : Option Identity)
  | setWebhook
  | getWebhookInfo
  | deleteWebhook
  deriving DecidableEq

inductive Configured where
  | waits (on : Configuring)
  | returned (mode : Mode)
  | raised
  deriving DecidableEq

/-- `configure_telegram_transport` up to its first await; the settings are read here only. -/
def configure (settings : Settings) : Configured :=
  if settings.hasToken then .waits (.getMe settings.wantsWebhook) else .returned .off

def Configuring.resume (host : Host) : Configuring → Reply → Configured
  | getMe wantsWebhook, reply =>
    match request host reply with
    | .error _ => .waits (.setMyCommands wantsWebhook none)
    | .ok me =>
      match applyTelegramBotMe me with
      | none => .raised
      | some identity => .waits (.setMyCommands wantsWebhook (some identity))
  | setMyCommands wantsWebhook identity, reply =>
    if request host reply matches .error .other then .raised
    else if identity.all (·.fits host.database) then .waits (if wantsWebhook then .setWebhook else .deleteWebhook)
    else .raised
  | setWebhook, reply =>
    match request host reply with
    | .ok _ => .waits .getWebhookInfo
    | .error .api => .waits .deleteWebhook
    | .error .other => .raised
  | getWebhookInfo, reply =>
    match request host reply with
    | .ok info => if strips (info.get "last_error_message") then .returned .webhook else .raised
    | .error .api => .returned .webhook
    | .error .other => .raised
  | deleteWebhook, reply => if request host reply matches .error .other then .raised else .returned .poll

/-- Where the runtime has called `configure_telegram_transport`. -/
inductive Caller where
  | start | idle | webhookWait
  deriving DecidableEq

inductive Place where
  | configuring (caller : Caller) (on : Configuring)
  -- the minute between two looks at the settings while the bot is off
  | idle
  | webhookWait
  -- the half minute of the polling loop without a token
  | tokenless
  | getUpdates
  -- the three seconds after a failed request for updates
  | pausing
  -- an update is handled, and as many are left
  | handling (left : Nat)
  | returned
  | raised
  deriving DecidableEq

def Place.ended : Place → Bool
  | returned | raised => true
  | _ => false

/-- `telegram_poll_loop` is running. -/
def Place.polling : Place → Bool
  | tokenless | getUpdates | pausing | handling _ => true
  | _ => false

/-- A task of `schedule_telegram_reconfigure`. -/
inductive Job where
  | scheduled
  | configuring (on : Configuring)
  deriving DecidableEq

/-- The two events, the runtime and the jobs, with what has happened so far. `fresh` says that a job has set the recheck flag
since it last woke the webhook loop. -/
structure Loop where
  host : Host
  settings : Settings
  stop : Bool
  recheck : Bool
  fresh : Bool
  runtime : Place
  jobs : Nat → Option Job
  lastMode : Option Mode
  requests : Nat
  expiredTimers : Nat
  flagWakes : Nat
  reconfigurations : Nat
  polledInWebhook : Bool

inductive Event where
  | change (settings : Settings)
  | schedule (job : Nat)
  | runJob (job : Nat)
  | replyJob (job : Nat) (reply : Reply)
  | setStop
  -- the hub shuts down, after it has set `stop_event`
  | cancel
  -- what the runtime waits for: a reply, updates, the end of a handler, an event that is set, or its timer
  | reply (reply : Reply)
  | updates (count : Option Nat)
  | handled
  | woken
  | elapsed

namespace Loop

variable (loop : Loop)

/-- The top of `telegram_poll_loop`. -/
def poll : Loop :=
  if loop.stop then { loop with runtime := .returned }
  else if loop.settings.hasToken then
    { loop with
      runtime := .getUpdates
      polledInWebhook := loop.polledInWebhook || loop.lastMode == some .webhook }
  else { loop with runtime := .tokenless }

/-- The rest of the updates; without a token they are dropped. -/
def handle : Nat → Loop
  | 0 => loop.poll
  | left + 1 => if loop.settings.hasToken then { loop with runtime := .handling left } else loop.poll

/-- The top of the loop of `_telegram_webhook_wait`. -/
def awaitWebhook : Loop :=
  { loop with runtime := if loop.stop then .returned else .webhookWait }

/-- The top of the loop of `telegram_runtime` while the bot is off. -/
def awaitToken : Loop :=
  { loop with runtime := if loop.stop then .returned else .idle }

def entered (caller : Caller) (mode : Mode) : Loop :=
  let loop := { loop with lastMode := some mode }
  match mode, caller with
  | .webhook, _ => loop.awaitWebhook
  | .poll, _ => loop.poll
  | .off, .webhookWait => { loop with runtime := .returned }
  | .off, .start | .off, .idle => loop.awaitToken

def configured (caller : Caller) : Configured → Loop
  | .waits on => { loop with runtime := .configuring caller on }
  | .returned mode => loop.entered caller mode
  | .raised => { loop with runtime := .raised }

/-- `telegram_runtime` up to its first await. -/
def started (host : Host) (settings : Settings) : Loop :=
  configured ⟨host, settings, false, false, false, .idle, fun _ => none, none, 0, 0, 0, 0, false⟩ .start (configure settings)

/-- The webhook loop has been woken, and configures again unless the hub stops. -/
def reconfigured : Loop :=
  if loop.stop then { loop with runtime := .returned }
  else configured { loop with reconfigurations := loop.reconfigurations + 1 } .webhookWait (configure loop.settings)

def jobConfigured (job : Nat) : Configured → Loop
  | .waits on => { loop with jobs := Function.update loop.jobs job (some (.configuring on)) }
  | .returned mode => { loop with jobs := Function.update loop.jobs job none, lastMode := some mode }
  | .raised => { loop with jobs := Function.update loop.jobs job none }

/-- The event that is set ends the wait. A set flag stays set. -/
def woken : Loop :=
  match loop.runtime with
  | .idle => if loop.stop then loop.awaitToken else loop
  | .tokenless => if loop.stop then loop.poll else loop
  | .webhookWait =>
    if loop.stop then loop.reconfigured
    else if loop.recheck then reconfigured { loop with flagWakes := loop.flagWakes + 1, fresh := false }
    else loop
  | _ => loop

/-- A timer of `wait_for` runs out only while `stop_event` is not set. -/
def elapsed : Loop :=
  match loop.runtime with
  | .idle =>
    if loop.stop then loop
    else if loop.settings.hasToken then loop.configured .idle (configure loop.settings)
    else loop.awaitToken
  | .webhookWait => reconfigured { loop with expiredTimers := loop.expiredTimers + 1 }
  -- `wait_for` raises, and nothing catches it
  | .tokenless => if loop.stop then loop else { loop with runtime := .raised }
  | .pausing => loop.poll
  | _ => loop

def step : Event → Loop
  | .change settings => { loop with settings }
  | .schedule job =>
    if (loop.jobs job).isSome then loop
    else { loop with jobs := Function.update loop.jobs job (some .scheduled), requests := loop.requests + 1 }
  | .runJob job =>
    match loop.jobs job with
    | some .scheduled => jobConfigured { loop with recheck := true, fresh := true } job (configure loop.settings)
    | _ => loop
  | .replyJob job reply =>
    match loop.jobs job with
    | some (.configuring on) => loop.jobConfigured job (on.resume loop.host reply)
    | _ => loop
  | .setStop => { loop with stop := true }
  | .cancel => if loop.stop && !loop.runtime.ended then { loop with runtime := .raised } else loop
  | .reply reply =>
    match loop.runtime with
    | .configuring caller on => loop.configured caller (on.resume loop.host reply)
    | _ => loop
  | .updates count =>
    match loop.runtime, count with
    | .getUpdates, some count => loop.handle count
    | .getUpdates, none => { loop with runtime := .pausing }
    | _, _ => loop
  | .handled =>
    match loop.runtime with
    | .handling left => loop.handle left
    | _ => loop
  | .woken => loop.woken
  | .elapsed => loop.elapsed

end Loop

end IdigestHub.Telegram
