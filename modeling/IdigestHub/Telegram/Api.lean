import IdigestHub.Foundation.Json
import IdigestHub.Foundation.Numerals
import IdigestHub.Hub.Database

/-! The answers of the Telegram API, and the identity of the bot that is taken from one of them. -/

set_option autoImplicit false

namespace IdigestHub.Telegram

open Foundation

/-- How a request to the Telegram API ends: with an answer that is JSON or is not, or with another exception, of the connection or
of the commit that follows the request. -/
inductive Reply where
  | lost
  | garbled
  | answer (body : Json)

/-- What a request raises: a `TelegramApiError`, or anything else. -/
inductive RequestFault where
  | api | other
  deriving DecidableEq

/-- `int` of a JSON value, and the database that keeps the settings. -/
structure Host where
  int : Json → IntResult
  database : Database

/-- The error of an answer that is not `ok`. Only `retry_after` can raise anything else. -/
def refusal (host : Host) (payload : Dict) : RequestFault :=
  match payload.get "parameters" with
  | .obj parameters =>
    match Dict.get parameters "retry_after" with
    | .null => .api
    | retry =>
      match host.int retry with
      | .overflow => .other
      | .value _ | .invalid => .api
  | _ => .api

def request (host : Host) : Reply → Except RequestFault Dict
  | .lost => .error .other
  | .garbled => .error .api
  | .answer (.obj payload) =>
    if (Dict.get payload "ok").truthy then
      match Dict.get payload "result" with
      | .obj result => .ok result
      | result => .ok [("result", result)]
    else .error (refusal host payload)
  -- only an object has a `get`
  | .answer _ => .error .other

/-- A bot's id: a truth value is an `int` too. -/
inductive BotId where
  | number (n : Int)
  | truth (value : Bool)
  deriving DecidableEq

structure Identity where
  botId : Option BotId
  username : Option String
  deriving DecidableEq

/-- `raw.strip().isdigit()`, with the digits. -/
def digits? (raw : String) : Option (List Char) :=
  let text := (Text.strip raw).toList
  if !text.isEmpty && text.all Numerals.isDigit then some text else none

def telegramBotIdFromMe (me : Dict) : Option (Option BotId) :=
  match me.get "id" with
  | .num (.finite n 0) => some (some (.number n))
  | .bool value => some (some (.truth value))
  | .str raw =>
    match digits? raw with
    | some digits => (Numerals.int digits).map fun n => some (.number n)
    | none => some none
  | _ => some none

/-- `username.strip().lstrip("@")`, of a text that is not blank. -/
def usernameFromMe (me : Dict) : Option String :=
  match me.get "username" with
  | .str raw =>
    let name := (Text.strip raw).toList
    if name.isEmpty then none else some (.ofList (name.dropWhile (· == '@')))
  | _ => none

/-- `apply_telegram_bot_me`, as far as it can raise: what the row of the settings gets. -/
def applyTelegramBotMe (me : Dict) : Option Identity :=
  (telegramBotIdFromMe me).map fun botId => ⟨botId, usernameFromMe me⟩

def Identity.fits (database : Database) (identity : Identity) : Bool :=
  (match identity.botId with
    | some (.number n) => Database.bigInteger n
    | some (.truth _) => database.truth
    | none => true) &&
    identity.username.all (database.text 64)

/-- `(value or "").strip()` goes. -/
def strips (value : Json) : Bool := !value.truthy || value.text?.isSome

/-- The id is a text of digits that is no number, such as a superscript, or a number of more than 4300 digits. -/
def Unreadable (me : Dict) : Prop :=
  ∃ raw digits, me.get "id" = .str raw ∧ digits? raw = some digits ∧ Numerals.int digits = none

theorem applyTelegramBotMe_none {me : Dict} : applyTelegramBotMe me = none ↔ Unreadable me := by
  rw [applyTelegramBotMe, Option.map_eq_none_iff]
  unfold telegramBotIdFromMe
  constructor
  · intro raises
    split at raises
    · contradiction
    · contradiction
    · rename_i raw its
      split at raises
      · rename_i digits read
        exact ⟨raw, digits, its, read, Option.map_eq_none_iff.mp raises⟩
      · contradiction
    · contradiction
  · rintro ⟨raw, digits, its, read, raises⟩
    simp only [its, read, raises, Option.map_none]

example : applyTelegramBotMe [("id", .str "²")] = none := by decide +kernel

end IdigestHub.Telegram
