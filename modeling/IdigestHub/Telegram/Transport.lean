import IdigestHub.Telegram.Runtime
import Mathlib.Data.Finset.Card

/-! Whether the Telegram runtime lives as long as the hub, on one transport, and waits between its looks at
the settings. -/

set_option autoImplicit false

namespace IdigestHub.Telegram

open Foundation Foundation.Runs

/-- The runtime ends only after `stop_event` is set, it has never asked for updates when the last
configuration had given a webhook, and it has reconfigured only on a request or on an expired timer. -/
structure Loop.Safe (loop : Loop) : Prop where
  lives : loop.runtime.ended = true → loop.stop = true
  oneTransport : loop.polledInWebhook = false
  paced : loop.reconfigurations ≤ loop.requests + loop.expiredTimers

/-- The answer makes the configuration raise: the request ends with anything but an API error, the id of the bot cannot be read,
its identity cannot be written, or the last error of the webhook is no text. -/
def Configuring.Breaks (host : Host) (reply : Reply) : Configuring → Prop
  | getMe _ => ∃ me, request host reply = .ok me ∧ Unreadable me
  | setMyCommands _ identity => request host reply = .error .other ∨ ∃ its ∈ identity, its.fits host.database = false
  | setWebhook | deleteWebhook => request host reply = .error .other
  | getWebhookInfo => request host reply = .error .other ∨
      ∃ info, request host reply = .ok info ∧ strips (info.get "last_error_message") = false

/-- The condition on an event: no answer breaks the configuration of the runtime; the webhook loop, when it configures again, and
the polling loop find a token; no job registers a webhook while the runtime polls; and the flag that wakes the webhook loop has
been set since it last did. -/
def Loop.Calm (loop : Loop) : Event → Prop
  | .reply reply => loop.stop = false → ∀ caller on, loop.runtime = .configuring caller on → ¬on.Breaks loop.host reply
  | .woken => loop.runtime = .webhookWait → loop.stop = false → loop.recheck = true →
      loop.settings.hasToken = true ∧ loop.fresh = true
  | .elapsed => loop.stop = false → (loop.runtime = .webhookWait → loop.settings.hasToken = true) ∧ loop.runtime ≠ .tokenless
  | .replyJob job reply => loop.jobs job = some (.configuring .getWebhookInfo) →
      ¬Configuring.getWebhookInfo.Breaks loop.host reply → loop.runtime.polling = false
  | _ => True

def Loop.Accounted (loop : Loop) (used : Nat) : Prop :=
  ∃ scheduled : Finset Nat, (∀ job, loop.jobs job = some .scheduled ↔ job ∈ scheduled) ∧ used + scheduled.card ≤ loop.requests

/-- What holds wherever the runtime waits: every reconfiguration has its own request or timer. -/
structure Loop.Kept (loop : Loop) : Prop where
  oneTransport : loop.polledInWebhook = false
  counted : loop.reconfigurations ≤ loop.flagWakes + loop.expiredTimers
  woken : loop.Accounted (loop.flagWakes + loop.fresh.toNat)

/-- The runtime has not ended early, and while it polls the last configuration gave no webhook. -/
structure Loop.Sound (loop : Loop) : Prop extends Loop.Kept loop where
  lives : loop.runtime.ended = true → loop.stop = true
  polls : loop.runtime.polling = true → loop.lastMode ≠ some .webhook

namespace Loop

variable {loop : Loop}

theorem Sound.safe (sound : loop.Sound) : loop.Safe where
  lives := sound.lives
  oneTransport := sound.oneTransport
  paced := by
    obtain ⟨scheduled, _, enough⟩ := sound.woken
    have counted := sound.counted
    omega

section Jobs

variable {used : Nat}

theorem Accounted.schedule (accounted : loop.Accounted used) {job : Nat} (free : loop.jobs job = none) :
    Accounted { loop with jobs := Function.update loop.jobs job (some .scheduled), requests := loop.requests + 1 } used := by
  obtain ⟨scheduled, listed, enough⟩ := accounted
  have unlisted : job ∉ scheduled := by
    rw [← listed, free]
    nofun
  refine ⟨insert job scheduled, fun other => ?_, ?_⟩
  · by_cases same : other = job
    · simp [same]
    · simp [same, listed]
  · rw [Finset.card_insert_of_notMem unlisted]
    dsimp only
    omega

/-- A job that goes on or ends is not scheduled any more; one that starts uses its request up. -/
theorem Accounted.goes (accounted : loop.Accounted used) (job : Nat) {next : Option Job} (begun : next ≠ some .scheduled) :
    Accounted { loop with jobs := Function.update loop.jobs job next }
      (used + if loop.jobs job = some .scheduled then 1 else 0) := by
  obtain ⟨scheduled, listed, enough⟩ := accounted
  refine ⟨scheduled.erase job, fun other => ?_, ?_⟩
  · by_cases same : other = job
    · simp [same, begun]
    · simp [same, listed]
  · split
    · rename_i its
      have one := Finset.card_erase_add_one ((listed job).mp its)
      dsimp only
      omega
    · exact Nat.le_trans (Nat.add_le_add_left Finset.card_erase_le _) enough

theorem Kept.schedule (kept : loop.Kept) {job : Nat} (free : loop.jobs job = none) :
    Kept { loop with jobs := Function.update loop.jobs job (some .scheduled), requests := loop.requests + 1 } :=
  { kept with woken := kept.woken.schedule free }

theorem Kept.goes (kept : loop.Kept) {job : Nat} {on : Configuring} (configuring : loop.jobs job = some (.configuring on))
    {next : Option Job} (begun : next ≠ some .scheduled) : Kept { loop with jobs := Function.update loop.jobs job next } := by
  refine { kept with woken := ?_ }
  have goes := kept.woken.goes job begun
  rw [configuring, if_neg (by nofun)] at goes
  exact goes

theorem Kept.starts (kept : loop.Kept) {job : Nat} (its : loop.jobs job = some .scheduled) {next : Option Job}
    (begun : next ≠ some .scheduled) :
    Kept { loop with recheck := true, fresh := true, jobs := Function.update loop.jobs job next } := by
  refine { kept with woken := ?_ }
  obtain ⟨scheduled, listed, enough⟩ := kept.woken.goes job begun
  rw [if_pos its] at enough
  refine ⟨scheduled, listed, ?_⟩
  simp only [Bool.toNat_true] at enough ⊢
  omega

theorem Kept.wakes (kept : loop.Kept) (fresh : loop.fresh = true) :
    Kept { loop with flagWakes := loop.flagWakes + 1, fresh := false } := by
  refine { kept with counted := ?_, woken := ?_ }
  · have counted := kept.counted
    dsimp only
    omega
  · have woken := kept.woken
    rwa [fresh] at woken

end Jobs

section Places

theorem sound_poll (kept : loop.Kept) (no_webhook : loop.lastMode ≠ some .webhook) : loop.poll.Sound := by
  unfold poll
  split
  · rename_i stopped
    exact { kept with lives := fun _ => stopped, polls := nofun }
  · split
    · refine { kept with oneTransport := ?_, lives := nofun, polls := fun _ => no_webhook }
      rw [kept.oneTransport, Bool.false_or]
      exact beq_eq_false_iff_ne.mpr no_webhook
    · exact { kept with lives := nofun, polls := fun _ => no_webhook }

theorem sound_handle (kept : loop.Kept) (no_webhook : loop.lastMode ≠ some .webhook) (left : Nat) : (loop.handle left).Sound := by
  cases left with
  | zero => exact sound_poll kept no_webhook
  | succ left =>
    rw [handle]
    split
    · exact { kept with lives := nofun, polls := fun _ => no_webhook }
    · exact sound_poll kept no_webhook

theorem sound_awaitWebhook (kept : loop.Kept) : loop.awaitWebhook.Sound := by
  unfold awaitWebhook
  split
  · rename_i stopped
    exact { kept with lives := fun _ => stopped, polls := nofun }
  · exact { kept with lives := nofun, polls := nofun }

theorem sound_awaitToken (kept : loop.Kept) : loop.awaitToken.Sound := by
  unfold awaitToken
  split
  · rename_i stopped
    exact { kept with lives := fun _ => stopped, polls := nofun }
  · exact { kept with lives := nofun, polls := nofun }

theorem sound_entered (kept : loop.Kept) {caller : Caller} {mode : Mode}
    (alive : mode = .off → caller = .webhookWait → loop.stop = true) : (loop.entered caller mode).Sound := by
  have kept_mode : Kept { loop with lastMode := some mode } := { kept with }
  cases mode with
  | webhook => exact sound_awaitWebhook kept_mode
  | poll => exact sound_poll kept_mode (by simp)
  | off =>
    cases caller with
    | webhookWait => exact { kept with lives := fun _ => alive rfl rfl, polls := nofun }
    | start => exact sound_awaitToken kept_mode
    | idle => exact sound_awaitToken kept_mode

theorem sound_configured (kept : loop.Kept) {caller : Caller} {configured : Configured}
    (alive : configured = .returned .off → caller = .webhookWait → loop.stop = true)
    (answered : configured = .raised → loop.stop = true) : (loop.configured caller configured).Sound := by
  cases configured with
  | waits on => exact { kept with lives := nofun, polls := nofun }
  | returned mode => exact sound_entered kept fun off => alive (by rw [off])
  | raised => exact { kept with lives := fun _ => answered rfl, polls := nofun }

theorem resume_raised {host : Host} {on : Configuring} {reply : Reply} :
    on.resume host reply = .raised ↔ on.Breaks host reply := by
  cases on with
  | getMe wantsWebhook =>
    simp only [Configuring.resume, Configuring.Breaks]
    cases request host reply with
    | error fault => simp
    | ok me =>
      simp only [Except.ok.injEq, exists_eq_left', ← applyTelegramBotMe_none]
      cases applyTelegramBotMe me <;> simp
  | setMyCommands wantsWebhook identity =>
    simp only [Configuring.resume, Configuring.Breaks]
    cases identity <;> split <;> simp_all
  | setWebhook | deleteWebhook =>
    simp only [Configuring.resume, Configuring.Breaks]
    split <;> simp_all
  | getWebhookInfo =>
    simp only [Configuring.resume, Configuring.Breaks]
    split <;> simp_all

theorem resume_webhook {host : Host} {on : Configuring} {reply : Reply} (webhook : on.resume host reply = .returned .webhook) :
    on = .getWebhookInfo ∧ ¬Configuring.getWebhookInfo.Breaks host reply := by
  have last : on = .getWebhookInfo := by
    cases on <;> simp only [Configuring.resume] at webhook <;> (repeat' split at webhook) <;> first | rfl | nomatch webhook
  rw [last] at webhook
  refine ⟨last, fun breaks => ?_⟩
  rw [resume_raised.mpr breaks] at webhook
  contradiction

theorem configure_of_token {settings : Settings} (token : settings.hasToken = true) :
    configure settings = .waits (.getMe settings.wantsWebhook) := by
  rw [configure, if_pos token]

theorem configure_ne_raised (settings : Settings) : configure settings ≠ .raised := by
  unfold configure
  split <;> nofun

theorem resume_ne_off (host : Host) (on : Configuring) (reply : Reply) : on.resume host reply ≠ .returned .off := by
  intro off
  cases on <;> simp only [Configuring.resume] at off <;> (repeat' split at off) <;> nomatch off

theorem sound_reconfigured (kept : loop.Kept) (next : loop.reconfigurations + 1 ≤ loop.flagWakes + loop.expiredTimers)
    (token : loop.stop = false → loop.settings.hasToken = true) : loop.reconfigured.Sound := by
  unfold reconfigured
  split
  · rename_i stopped
    exact { kept with lives := fun _ => stopped, polls := nofun }
  · rename_i running
    rw [configure_of_token (token (by simpa using running))]
    exact { kept with counted := next, lives := nofun, polls := nofun }

/-- Beside its own state, a job changes only the last mode. -/
theorem sound_jobConfigured {job : Nat} {configured : Configured}
    (kept : ∀ next, next ≠ some .scheduled → Kept { loop with jobs := Function.update loop.jobs job next })
    (lives : loop.runtime.ended = true → loop.stop = true)
    (polls : loop.runtime.polling = true → loop.lastMode ≠ some .webhook)
    (no_webhook : configured = .returned .webhook → loop.runtime.polling = false) :
    (loop.jobConfigured job configured).Sound := by
  cases configured with
  | waits on => exact { kept (some (.configuring on)) nofun with lives, polls }
  | raised => exact { kept none nofun with lives, polls }
  | returned mode =>
    refine { kept none nofun with lives, polls := ?_ }
    intro polling same
    obtain rfl : mode = .webhook := Option.some.inj same
    rw [jobConfigured] at polling
    rw [no_webhook rfl] at polling
    contradiction

end Places

section Steps

theorem sound_woken (sound : loop.Sound) (calm : loop.Calm .woken) : loop.woken.Sound := by
  unfold woken
  split
  · split
    · exact sound_awaitToken sound.toKept
    · exact sound
  · rename_i tokenless
    split
    · exact sound_poll sound.toKept (sound.polls (by rw [tokenless]; rfl))
    · exact sound
  · rename_i waiting
    split
    · rename_i stopped
      rw [reconfigured, if_pos stopped]
      exact { sound.toKept with lives := fun _ => stopped, polls := nofun }
    · rename_i running
      split
      · -- the flag wakes the loop for a request that has not woken it before
        rename_i flagged
        obtain ⟨token, fresh⟩ := calm waiting (by simpa using running) flagged
        apply sound_reconfigured (sound.toKept.wakes fresh)
        · have counted := sound.counted
          dsimp only
          omega
        · exact fun _ => token
      · exact sound
  · exact sound

theorem sound_elapsed (sound : loop.Sound) (calm : loop.Calm .elapsed) : loop.elapsed.Sound := by
  unfold elapsed
  split
  · split
    · exact sound
    · split
      · rename_i token
        rw [configure_of_token token]
        exact { sound.toKept with lives := nofun, polls := nofun }
      · exact sound_awaitToken sound.toKept
  · rename_i waiting
    have counted := sound.counted
    have kept : Kept { loop with expiredTimers := loop.expiredTimers + 1 } :=
      { sound.toKept with counted := Nat.le_trans counted (Nat.le_succ _) }
    apply sound_reconfigured kept
    · dsimp only
      omega
    · exact fun running => (calm running).1 waiting
  · rename_i tokenless
    split
    · exact sound
    · rename_i running
      exact absurd tokenless (calm (by simpa using running)).2
  · rename_i pausing
    exact sound_poll sound.toKept (sound.polls (by rw [pausing]; rfl))
  · exact sound

theorem sound_step (loop : Loop) (event : Event) (sound : loop.Sound) (calm : loop.Calm event) : (loop.step event).Sound := by
  cases event with
  | change settings => exact { sound with }
  | schedule job =>
    simp only [step]
    split
    · exact sound
    · rename_i free
      exact { sound.toKept.schedule (by simpa using free) with lives := sound.lives, polls := sound.polls }
  | runJob job =>
    simp only [step]
    split
    · rename_i scheduled
      refine sound_jobConfigured (fun next begun => sound.toKept.starts scheduled begun) sound.lives sound.polls fun webhook => ?_
      unfold configure at webhook
      split at webhook <;> contradiction
    · exact sound
  | replyJob job reply =>
    simp only [step]
    split
    · rename_i on configuring
      refine sound_jobConfigured (fun next begun => sound.toKept.goes configuring begun) sound.lives sound.polls fun webhook => ?_
      obtain ⟨rfl, answered⟩ := resume_webhook webhook
      exact calm configuring answered
    · exact sound
  -- a loop may end once it is told to
  | setStop => exact { sound with lives := fun _ => rfl }
  -- the task is canceled only after the stop was set
  | cancel =>
    simp only [step]
    split
    · rename_i stopped
      rw [Bool.and_eq_true] at stopped
      exact { sound.toKept with lives := fun _ => stopped.1, polls := nofun }
    · exact sound
  | reply reply =>
    simp only [step]
    split
    · rename_i caller on configuring
      apply sound_configured sound.toKept
      · exact fun off => absurd off (resume_ne_off loop.host on reply)
      · intro raised
        by_contra running
        exact calm (by simpa using running) caller on configuring (resume_raised.mp raised)
    · exact sound
  | updates count =>
    simp only [step]
    split
    · rename_i asking
      exact sound_handle sound.toKept (sound.polls (by rw [asking]; rfl)) _
    · rename_i asking
      exact { sound.toKept with lives := nofun, polls := fun _ => sound.polls (by rw [asking]; rfl) }
    · exact sound
  | handled =>
    simp only [step]
    split
    · rename_i left handling
      exact sound_handle sound.toKept (sound.polls (by rw [handling]; rfl)) left
    · exact sound
  | woken => exact sound_woken sound calm
  | elapsed => exact sound_elapsed sound calm

theorem sound_started (host : Host) (settings : Settings) : (started host settings).Sound := by
  have kept : Kept ⟨host, settings, false, false, false, .idle, fun _ => none, none, 0, 0, 0, 0, false⟩ :=
    ⟨rfl, Nat.le_refl _, ∅, by simp, Nat.le_refl _⟩
  apply sound_configured kept
  · nofun
  · exact fun raised => absurd raised (configure_ne_raised settings)

/-- On a run of calm events the runtime is safe in every state. -/
theorem runtime_safe_of_calm (host : Host) (settings : Settings) (events : List Event)
    (calm : Along step Calm (started host settings) events) : Always step Safe (started host settings) events := by
  intro done rest same
  exact (always_of_along sound_step (sound_started host settings) calm done rest same).safe

end Steps

section Runs

def sampleHost : Host := ⟨fun value => if value matches .num (.infinity _) then .overflow else .invalid, .sqlite⟩

def webhookSettings : Settings := ⟨true, some "token", true, some "https://hub", some "secret"⟩

def pollSettings : Settings := { webhookSettings with telegramUseWebhook := false }

def offSettings : Settings := { webhookSettings with telegramEnabled := false }

def done : Reply := .answer (.obj [("ok", .bool true), ("result", .bool true)])

def aboutBot (botId : Int) : Reply := .answer (.obj [("ok", .bool true), ("result", .obj [("id", .num (.finite botId 0))])])

/-- The answers on which a configuration gives a webhook. -/
def registers : List Event := [.reply (aboutBot 7), .reply done, .reply done, .reply done]

/-- A webhook that is registered, and one change of settings. -/
theorem runtime_safe_of_registration : Always step Safe (started sampleHost webhookSettings)
    [.reply (aboutBot 7), .reply done, .reply done, .reply done, .schedule 0, .runJob 0, .woken, .setStop] := by
  apply runtime_safe_of_calm
  refine ⟨?_, ?_, ?_, ?_, trivial, trivial, fun _ _ _ => ⟨by decide +kernel, by decide +kernel⟩, trivial, trivial⟩
  all_goals
    rintro - caller on place
    obtain ⟨rfl, rfl⟩ := Place.configuring.inj (place.symm.trans (by rfl))
    rw [← resume_raised]
    decide +kernel

/-- The webhook loop spins on the flag that nothing clears; it ends the runtime when the bot is turned off, and so does the
polling loop, which also goes on when a job has registered a webhook. A bot whose id is too large for its column ends the runtime
at once. -/
theorem runtime_unsafe :
    ¬Always step Safe (started sampleHost webhookSettings)
      (registers ++ [.schedule 0, .runJob 0, .woken] ++ registers ++ [.woken]) ∧
      ¬Always step Safe (started sampleHost webhookSettings) (registers ++ [.change offSettings, .elapsed]) ∧
      ¬Always step Safe (started sampleHost pollSettings)
        [.reply (aboutBot 7), .reply done, .reply done, .change offSettings, .updates (some 0), .elapsed] ∧
      ¬Always step Safe (started sampleHost pollSettings) [.reply (aboutBot 7), .reply done, .reply done, .change webhookSettings,
        .schedule 0, .runJob 0, .replyJob 0 (aboutBot 7), .replyJob 0 done, .replyJob 0 done, .replyJob 0 done,
          .updates (some 0)] ∧
      ¬Always step Safe (started sampleHost webhookSettings) [.reply (aboutBot (2 ^ 63)), .reply done] := by
  refine ⟨?_, ?_, ?_, ?_, ?_⟩ <;> intro always
  · have last := (always _ [] (List.append_nil _).symm).paced
    revert last
    decide +kernel
  · have last := (always _ [] (List.append_nil _).symm).lives
    revert last
    decide +kernel
  · have last := (always _ [] (List.append_nil _).symm).lives
    revert last
    decide +kernel
  · have last := (always _ [] (List.append_nil _).symm).oneTransport
    revert last
    decide +kernel
  · have last := (always _ [] (List.append_nil _).symm).lives
    revert last
    decide +kernel

end Runs

end Loop

end IdigestHub.Telegram
