import Mathlib.Data.List.TakeWhile

/-! Versioned tokens: `v1:<dek id>:<fernet token>`, with bare Fernet tokens of the
hub secret as the legacy form. The cipher itself is a parameter. -/

set_option autoImplicit false

namespace IdigestHub.Crypto

abbrev Text : Type := List Char

def v1Prefix : Text := "v1:".toList

def isDekIdChar (c : Char) : Bool := ('0' ≤ c && c ≤ '9') || ('a' ≤ c && c ≤ 'f') || c == '-'

def isDekId (text : Text) : Bool := text.length == 36 && text.all isDekIdChar

/-- `^[0-9a-f-]{36}$` under `re.match`, where `$` also matches before a final newline. -/
def dekIdRe (text : Text) : Bool :=
  isDekId text || (text.getLast? == some '\n' && isDekId text.dropLast)

/-- The primary key of a stored data key, a lower-case UUID. -/
structure DekId where
  text : Text
  valid : isDekId text = true
  deriving DecidableEq

/-- `str.partition`: the part before the first separator, whether there is one, the part after. -/
def partition (separator : Char) (text : Text) : Text × Bool × Text :=
  (text.takeWhile (· != separator), text.contains separator, (text.dropWhile (· != separator)).drop 1)

def parseToken (token : Text) : Option Text × Text :=
  if v1Prefix.isPrefixOf token then
    match partition ':' (token.drop v1Prefix.length) with
    | (dekId, sep, inner) => if sep && dekIdRe dekId then (some dekId, inner) else (none, token)
  else (none, token)

/-- A missing or empty value names no key. -/
def tokenDekId : Option Text → Option Text
  | none | some [] => none
  | some token => (parseToken token).1

def dekPrefix (id : DekId) : Text := v1Prefix ++ id.text ++ [':']

inductive CryptoError where
  | hubSecretEmpty
  | invalidToken
  | dekNotFound (dekId : Text)
  | noActiveDek
  | activeDekMissing
  | cipher (message : Text)
  deriving DecidableEq

def CryptoError.message : CryptoError → Text
  | .hubSecretEmpty => "HUB_SECRET is empty".toList
  | .invalidToken => []
  | .dekNotFound dekId => "DEK not found: ".toList ++ dekId
  | .noActiveDek => "no active DEK".toList
  | .activeDekMissing => "active DEK missing".toList
  | .cipher message => message

/-- The `cryptography` package's Fernet. `nonce` stands for the time and the
initialisation vector of one encryption; a malformed key or plaintext is an error. -/
structure Fernet (Nonce : Type) where
  encrypt : (key : Text) → Nonce → (plain : Text) → Except CryptoError Text
  decrypt : (key token : Text) → Except CryptoError Text
  decrypt_encrypt : ∀ key nonce plain token,
    encrypt key nonce plain = .ok token → decrypt key token = .ok plain

structure Secrets where
  hubSecret : Text
  hubSecretPrev : Text
  /-- SHA-256 and base64 of a non-empty secret. -/
  digest : Text → Text

variable {Nonce : Type} (fernet : Fernet Nonce) (secrets : Secrets)

def kekFernet (secret : Text) : Except CryptoError Text :=
  if secret = [] then .error .hubSecretEmpty else .ok (secrets.digest secret)

def tryUnwrapWithCurrent (wrapped : Text) : Except CryptoError (Option Text) := do
  let key ← kekFernet secrets secrets.hubSecret
  match fernet.decrypt key wrapped with
  | .ok raw => .ok (some raw)
  | .error .invalidToken => .ok none
  | .error failure => .error failure

def unwrapDek (wrapped : Text) : Except CryptoError Text := do
  match ← tryUnwrapWithCurrent fernet secrets wrapped with
  | some raw => .ok raw
  | none =>
    if secrets.hubSecretPrev = [] then .error .invalidToken
    else fernet.decrypt (← kekFernet secrets secrets.hubSecretPrev) wrapped

def encryptWithDek (nonce : Nonce) (plain : Text) (dekId : DekId) (rawDek : Text) :
    Except CryptoError Text := do
  let token ← fernet.encrypt rawDek nonce plain
  .ok (dekPrefix dekId ++ token)

section Parsing

theorem colon_not_dekIdChar : isDekIdChar ':' = false := by decide

theorem takeWhile_prefix {separator : Char} {before : Text}
    (clean : ∀ c ∈ before, (c != separator) = true) (after : Text) :
    (before ++ separator :: after).takeWhile (· != separator) = before ∧
    (before ++ separator :: after).dropWhile (· != separator) = separator :: after := by
  constructor
  · rw [List.takeWhile_append_of_pos (by simpa using clean)]; simp
  · rw [List.dropWhile_append_of_pos (by simpa using clean)]; simp

theorem dekId_clean (id : DekId) : ∀ c ∈ id.text, (c != ':') = true := by
  intro c member
  have valid := id.valid
  simp only [isDekId, Bool.and_eq_true, List.all_eq_true] at valid
  have allowed := valid.2 c member
  by_contra same
  have colon : c = ':' := by simpa using same
  rw [colon, colon_not_dekIdChar] at allowed
  exact absurd allowed (by decide)

/-- A token written under a key names that key. -/
theorem parseToken_dekPrefix (id : DekId) (inner : Text) :
    parseToken (dekPrefix id ++ inner) = (some id.text, inner) := by
  obtain ⟨before, after⟩ := takeWhile_prefix (dekId_clean id) inner
  have shape : dekPrefix id ++ inner = v1Prefix ++ (id.text ++ ':' :: inner) := by
    simp [dekPrefix]
  have matched : dekIdRe id.text = true := by simp [dekIdRe, id.valid]
  simp [parseToken, shape, partition, before, after, matched]

theorem tokenDekId_dekPrefix (id : DekId) (inner : Text) :
    tokenDekId (some (dekPrefix id ++ inner)) = some id.text := by
  have parsed := parseToken_dekPrefix id inner
  cases shape : dekPrefix id ++ inner with
  | nil => simp [dekPrefix, v1Prefix] at shape
  | cons c rest => rw [shape] at parsed; simp [tokenDekId, parsed]

theorem tokenDekId_eq_parseToken {token : Text} {dekId : Text}
    (named : tokenDekId (some token) = some dekId) : (parseToken token).1 = some dekId := by
  cases token with
  | nil => simp [tokenDekId] at named
  | cons c rest => exact named

theorem eq_partition {separator : Char} {text : Text} (found : text.contains separator = true) :
    text = (partition separator text).1 ++ separator :: (partition separator text).2.2 := by
  have whole := List.takeWhile_append_dropWhile (p := (· != separator)) (l := text)
  simp only [partition]
  cases rest : text.dropWhile (· != separator) with
  | nil =>
    have clean : ∀ c ∈ text, (c != separator) = true := List.dropWhile_eq_nil_iff.mp rest
    have : separator ∈ text := by simpa using found
    simpa using clean separator this
  | cons c tail =>
    have stopped := List.head?_dropWhile_not (· != separator) text
    rw [rest] at stopped whole
    have same : c = separator := by simpa using stopped
    rw [same] at whole
    simpa using whole.symm

/-- A token that names a key starts with that key's prefix. -/
theorem dekPrefix_of_tokenDekId {token : Text} {id : DekId}
    (named : tokenDekId (some token) = some id.text) : ∃ inner, token = dekPrefix id ++ inner := by
  have parsed := tokenDekId_eq_parseToken named
  unfold parseToken at parsed
  split at parsed
  · rename_i versioned
    obtain ⟨rest, rfl⟩ := List.isPrefixOf_iff_prefix.mp versioned
    rw [List.drop_left] at parsed
    split at parsed
    rename_i dekId sep inner parts
    split at parsed
    · rename_i matched
      have found : rest.contains ':' = true := by
        have : sep = true := (Bool.and_eq_true_iff.mp matched).1
        rw [← this]
        exact congrArg (fun part => part.2.1) parts
      have same : dekId = id.text := by simpa using parsed
      have whole := eq_partition found
      rw [parts, same] at whole
      exact ⟨inner, by rw [whole]; simp [dekPrefix]⟩
    · simp at parsed
  · simp at parsed

end Parsing

end IdigestHub.Crypto
