import IdigestHub.Foundation.Words
import Mathlib.Algebra.Group.Nat.Defs

/-! The address of a client behind trusted proxies, by which rates are limited. -/

set_option autoImplicit false

namespace IdigestHub.RateLimiting.ClientAddress

open Foundation

abbrev Text := List Char

inductive Address where
  | v4 (value : Fin (2 ^ 32))
  | v6 (value : Fin (2 ^ 128)) (scopeId : Option Text)
  deriving DecidableEq

/-- An entry of `TRUSTED_PROXIES`: an address, or a network with the length of its prefix. -/
inductive TrustedEntry where
  | address (address : Address)
  | network4 (network : Fin (2 ^ 32)) (prefixlen : Fin 33)
  | network6 (network : Fin (2 ^ 128)) (prefixlen : Fin 129)
  deriving DecidableEq

/-- `addr in entry` for a network, which has no address of the other version; `addr == entry` for an address. -/
def TrustedEntry.covers : TrustedEntry → Address → Bool
  | .address entry, addr => addr == entry
  | .network4 network prefixlen, .v4 value => value.val >>> (32 - prefixlen.val) == network.val >>> (32 - prefixlen.val)
  | .network6 network prefixlen, .v6 value _ => value.val >>> (128 - prefixlen.val) == network.val >>> (128 - prefixlen.val)
  | _, _ => false

/-- The texts of `ipaddress`: what it reads, no value for a `ValueError`, and what it writes. -/
structure Ipaddress where
  address : Text → Option Address
  network : Text → Option TrustedEntry
  str : Address → Text
  address_empty : address [] = none
  address_unknown : address ['u', 'n', 'k', 'n', 'o', 'w', 'n'] = none
  str_nonempty : ∀ addr, str addr ≠ []

/-- A connection as the server hands it on: the host and the port of the peer where they are known, and the headers. -/
structure Scope where
  client : Option (Text × Nat)
  headers : List (Text × Text)

def strip (text : Text) : Text := Text.trimBoth Text.isSpace text

def unknown : Text := ['u', 'n', 'k', 'n', 'o', 'w', 'n']

section Resolve

variable (ip : Ipaddress)

def trustedProxyEntries (raw : Text) : List TrustedEntry :=
  (raw.splitOn ',').filterMap fun part =>
    let item := strip part
    if item.isEmpty then none
    else if item.contains '/' then ip.network item
    else (ip.address item).map .address

def isTrustedProxy (ipStr : Text) (trusted : List TrustedEntry) : Bool :=
  match ip.address ipStr with
  | none => false
  | some addr => trusted.any (·.covers addr)

def validIp (ipStr : Text) : Option Text := (ip.address (strip ipStr)).map ip.str

def peerHost (scope : Scope) : Text :=
  match scope.client with
  | some (host, _) => if host.isEmpty then unknown else host
  | none => unknown

def clientFromForwardedFor (forwardedFor : Text) (trusted : List TrustedEntry) : Option Text :=
  let ips := ((forwardedFor.splitOn ',').map strip).filter fun part => !part.isEmpty
  match ips with
  | [] => none
  | first :: _ =>
    match ips.reverse.find? fun ipStr => !isTrustedProxy ip ipStr trusted with
    | some ipStr => validIp ip ipStr
    | none => validIp ip first

/-- `headers.get(name, "")` of the dictionary with lower-case keys, where the last of equal keys stays. No character of Latin-1
beyond ASCII is an ASCII letter in lower case. -/
def get (headers : List (Text × Text)) (name : String) : Text :=
  ((headers.reverse.find? fun header => header.1.map Char.toLower == name.toList).map (·.2)).getD []

def resolveClientIpFromHeaders (peer : Text) (headers : List (Text × Text)) (trusted : List TrustedEntry) : Text :=
  if trusted.isEmpty || !isTrustedProxy ip peer trusted then peer
  else
    let forwardedFor := get headers "x-forwarded-for"
    let forwarded := if forwardedFor.isEmpty then none else clientFromForwardedFor ip forwardedFor trusted
    match forwarded with
    | some client => client
    | none =>
      let realIp := get headers "x-real-ip"
      let real := if realIp.isEmpty then none else validIp ip realIp
      real.getD peer

def resolveClientIp (request : Scope) (trusted : List TrustedEntry) : Text :=
  resolveClientIpFromHeaders ip (peerHost request) request.headers trusted

/-- `client_ip` of the rate limits, with the setting `TRUSTED_PROXIES`. -/
def clientIp (trustedProxies : Text) (request : Scope) : Text :=
  resolveClientIp ip request (trustedProxyEntries ip trustedProxies)

def clientIpFromAsgiScope (trustedProxies : Text) (scope : Scope) : Text :=
  let trusted := trustedProxyEntries ip trustedProxies
  let peer := match scope.client with
    | some (host, _) => host
    | none => unknown
  resolveClientIpFromHeaders ip peer scope.headers trusted

end Resolve

section Forwarding

variable {ip : Ipaddress} {trusted : List TrustedEntry}

theorem strip_strip (text : Text) : strip (strip text) = strip text := Text.trimBoth_trimBoth text

theorem validIp_strip (text : Text) : validIp ip (strip text) = validIp ip text := by
  rw [validIp, validIp, strip_strip]

theorem clientFromForwardedFor_eq {forwardedFor h : Text} {left right : List Text}
    (form : forwardedFor.splitOn ',' = left ++ h :: right)
    (nonempty : strip h ≠ []) (apart : isTrustedProxy ip (strip h) trusted = false)
    (hops : ∀ entry ∈ right, strip entry ≠ [] → isTrustedProxy ip (strip entry) trusted = true) :
    clientFromForwardedFor ip forwardedFor trusted = validIp ip h := by
  have kept : (!(strip h).isEmpty) = true := by simpa using nonempty
  have ips : ((forwardedFor.splitOn ',').map strip).filter (fun part => !part.isEmpty) =
      (left.map strip).filter (fun part => !part.isEmpty) ++ strip h :: (right.map strip).filter fun part => !part.isEmpty := by
    rw [form, List.map_append, List.map_cons, List.filter_append,
      @List.filter_cons_of_pos _ (fun part : Text => !part.isEmpty) _ _ kept]
  have passed : ∀ ipStr ∈ ((right.map strip).filter fun part => !part.isEmpty).reverse,
    ¬ (!isTrustedProxy ip ipStr trusted) = true := by
    intro ipStr member
    obtain ⟨member, its⟩ := List.mem_filter.mp (List.mem_reverse.mp member)
    obtain ⟨entry, among, rfl⟩ := List.mem_map.mp member
    rw [hops entry among (by simpa using its)]
    decide
  have found : (((forwardedFor.splitOn ',').map strip).filter fun part => !part.isEmpty).reverse.find?
      (fun ipStr => !isTrustedProxy ip ipStr trusted) = some (strip h) := by
    rw [ips, List.reverse_append, List.reverse_cons, List.append_assoc, List.find?_append, List.find?_eq_none.mpr passed,
      Option.none_or, List.singleton_append, List.find?_cons_of_pos (by rw [apart]; rfl)]
  rw [clientFromForwardedFor, found]
  split
  · rename_i none_
    rw [ips] at none_
    simp at none_
  · exact validIp_strip h

/-- A request of a trusted peer with `left, h, right` forwarded: `h` is an address that is not trusted, and every entry of `right`
that is not empty is trusted. -/
structure Forwards (ip : Ipaddress) (trusted : List TrustedEntry) (request : Scope) (left : List Text) (h : Text)
    (right : List Text)
    (addr : Address) : Prop where
  peer : isTrustedProxy ip (peerHost request) trusted = true
  form : (get request.headers "x-forwarded-for").splitOn ',' = left ++ h :: right
  reads : ip.address (strip h) = some addr
  apart : (trusted.any fun entry => entry.covers addr) = false
  hops : ∀ entry ∈ right, strip entry ≠ [] → isTrustedProxy ip (strip entry) trusted = true

theorem resolve_of_forwards {request : Scope} {left right : List Text} {h : Text} {addr : Address}
    (forwards : Forwards ip trusted request left h right addr) : resolveClientIp ip request trusted = ip.str addr := by
  have nonempty : strip h ≠ [] := by
    intro empty
    have reads := forwards.reads
    rw [empty, ip.address_empty] at reads
    contradiction
  have apart : isTrustedProxy ip (strip h) trusted = false := by
    rw [isTrustedProxy, forwards.reads]
    exact forwards.apart
  have valid : validIp ip h = some (ip.str addr) := by rw [validIp, forwards.reads, Option.map_some]
  have some_proxy : trusted.isEmpty = false := by
    cases listed : trusted with
    | nil =>
      have peer := forwards.peer
      rw [listed, isTrustedProxy] at peer
      split at peer <;> contradiction
    | cons => rfl
  have sent : (get request.headers "x-forwarded-for").isEmpty = false := by
    cases header : get request.headers "x-forwarded-for" with
    | nil =>
      -- the one entry of an empty header is empty
      have form := forwards.form
      rw [header, List.splitOn_nil] at form
      have blank : h = [] := by
        have member : h ∈ [([] : Text)] := by
          rw [form]
          simp
        exact List.mem_singleton.mp member
      rw [blank] at nonempty
      exact absurd rfl nonempty
    | cons => rfl
  rw [resolveClientIp, resolveClientIpFromHeaders, some_proxy, forwards.peer]
  dsimp only
  rw [sent, clientFromForwardedFor_eq forwards.form nonempty apart forwards.hops, valid]
  rfl

theorem resolve_of_untrusted {peer : Text} (outside : isTrustedProxy ip peer trusted = false) (headers : List (Text × Text)) :
    resolveClientIpFromHeaders ip peer headers trusted = peer := by
  rw [resolveClientIpFromHeaders, outside, Bool.not_false, Bool.or_true, if_pos rfl]

theorem isTrustedProxy_of_unread {peer : Text} (unread : ip.address peer = none) : isTrustedProxy ip peer trusted = false := by
  rw [isTrustedProxy, unread]

end Forwarding

section Spoofing

/-- The address of a client cannot be spoofed, for one list of trusted proxies and one connection with its headers. -/
structure Unspoofed (ip : Ipaddress) (trusted : List TrustedEntry) (trustedProxies : Text) (scope : Scope) : Prop where
  untrusted : isTrustedProxy ip (peerHost scope) trusted = false → resolveClientIp ip scope trusted = peerHost scope
  forwarded : ∀ left h right addr, Forwards ip trusted scope left h right addr → resolveClientIp ip scope trusted = ip.str addr
  two_runs : ∀ other left before h right addr, Forwards ip trusted scope left h right addr →
    Forwards ip trusted other before h right addr →
    resolveClientIp ip scope trusted = resolveClientIp ip other trusted
  same : clientIp ip trustedProxies scope = clientIpFromAsgiScope ip trustedProxies scope

/-- An empty host is an unknown peer for one of the two functions, and an empty address for the other. -/
theorem same_iff (ip : Ipaddress) (trustedProxies : Text) (scope : Scope) :
    clientIp ip trustedProxies scope = clientIpFromAsgiScope ip trustedProxies scope ↔
      ∀ port, scope.client ≠ some ([], port) := by
  obtain ⟨client, headers⟩ := scope
  cases client with
  | none => exact ⟨fun _ _ => nofun, fun _ => rfl⟩
  | some client =>
    obtain ⟨host, port⟩ := client
    cases host with
    | nil =>
      constructor
      · intro same
        have first : clientIp ip trustedProxies ⟨some ([], port), headers⟩ = unknown :=
          resolve_of_untrusted (isTrustedProxy_of_unread ip.address_unknown) headers
        have second : clientIpFromAsgiScope ip trustedProxies ⟨some ([], port), headers⟩ = [] :=
          resolve_of_untrusted (isTrustedProxy_of_unread ip.address_empty) headers
        rw [first, second] at same
        contradiction
      · intro other
        exact absurd rfl (other port)
    | cons c rest => exact ⟨fun _ port same => by simp at same, fun _ => rfl⟩

/-- What a server promises of a client: there is none, or its host is not the empty text. The host is the address of the peer, or
what a local proxy has forwarded for it. -/
def Served (scope : Scope) : Prop := ∀ host port, scope.client = some (host, port) → host ≠ []

theorem unspoofed (ip : Ipaddress) (trusted : List TrustedEntry) (trustedProxies : Text) {scope : Scope} (served : Served scope) :
    Unspoofed ip trusted trustedProxies scope := by
  refine ⟨fun outside => resolve_of_untrusted outside _, fun _ _ _ _ => resolve_of_forwards, ?_, ?_⟩
  · intro other left before h right addr first second
    rw [resolve_of_forwards first, resolve_of_forwards second]
  · refine (same_iff ip trustedProxies scope).mpr fun port client => ?_
    exact served [] port client rfl

/-- A number below 256, without leading zeros. -/
def octet (part : Text) : Option Nat :=
  let value := part.foldl (fun value digit => 10 * value + (digit.toNat - 48)) 0
  if part.all Char.isDigit && Nat.toDigits 10 value == part && value < 256 then some value else none

def dottedAddress (text : Text) : Option Address :=
  match (text.splitOn '.').mapM octet with
  | some [a, b, c, d] =>
    let value := ((a * 256 + b) * 256 + c) * 256 + d
    if small : value < 2 ^ 32 then some (.v4 ⟨value, small⟩) else none
  | _ => none

def dottedText : Address → Text
  | .v4 value => ['.'].intercalate ([24, 16, 8, 0].map fun shift => Nat.toDigits 10 (value.val >>> shift % 256))
  | .v6 _ _ => [':', ':']

theorem dottedAddress_empty : dottedAddress [] = none := by decide +kernel

theorem dottedAddress_unknown : dottedAddress unknown = none := by decide +kernel

theorem dottedText_nonempty (addr : Address) : dottedText addr ≠ [] := by
  cases addr with
  | v4 value => simp [dottedText, List.intercalate]
  | v6 value scopeId => simp [dottedText]

/-- `ipaddress` for addresses of version 4; it reads no others. -/
def dotted : Ipaddress where
  address := dottedAddress
  network _ := none
  str := dottedText
  address_empty := dottedAddress_empty
  address_unknown := dottedAddress_unknown
  str_nonempty := dottedText_nonempty

/-- A client forwards an address of its own making, which a trusted proxy passes on after the one it saw. -/
def forwardedScope : Scope where
  client := some ("10.0.0.1".toList, 40000)
  headers := [("X-Forwarded-For".toList, "6.6.6.6, 203.0.113.7".toList)]

theorem unspoofed_forwarded :
    Unspoofed dotted [.address (.v4 167772161)] "10.0.0.1".toList forwardedScope ∧
      clientIp dotted "10.0.0.1".toList forwardedScope = "203.0.113.7".toList := by
  refine ⟨unspoofed dotted _ _ ?_, by decide +kernel⟩
  rintro host port client rfl
  simp [forwardedScope] at client

end Spoofing

end IdigestHub.RateLimiting.ClientAddress
