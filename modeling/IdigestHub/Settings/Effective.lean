import IdigestHub.Settings.Patch

/-! The proxy that is in effect: the stored URL is normalized once more, and a URL that fails to be is taken for no proxy. -/

set_option autoImplicit false

namespace IdigestHub.Settings

open Foundation Foundation.Urls

section Resolve

variable {Other : Type} (unicode : Unicode) (decrypt : String → Option (List Char)) (quote : List Char → List Char)

/-- An exception, or a URL, or `None`. -/
abbrev Resolved : Type := Except Unit (Option (List Char))

/-- The password in front of the host, where there is a user without one. -/
def withPassword (password netloc : List Char) : Option (List Char) :=
  let (userinfo, hostport) := rpartition '@' netloc
  if netloc.contains '@' && !userinfo.contains ':' then some (quote userinfo ++ ':' :: quote password ++ '@' :: hostport)
  else none

def resolveDownloadProxyUrl (s : InstanceSettings Other) : Resolved :=
  let url := strip (s.downloadProxyUrl.getD "").toList
  if url.isEmpty then .ok none
  else
    match normalizeDownloadProxyUrl unicode url with
    -- the `ValueError` is caught
    | none => .ok none
    | some url =>
      match s.downloadProxyPasswordEncrypted.getD "" with
      | "" => .ok (some url)
      | encrypted =>
        if url.contains '@' then
          match decrypt encrypted with
          | none => .error ()
          | some [] => .ok (some url)
          | some password =>
            match urlparse unicode url with
            | none => .error ()
            | some parsed =>
              match withPassword quote password parsed.netloc with
              | none => .ok (some url)
              | some netloc => .ok (some (urlunparse { parsed with netloc }))
        else .ok (some url)

def effectiveDownloadProxy (s : InstanceSettings Other) : Resolved :=
  if !s.outboundProxyEnabled || !s.downloadProxyEnabled then .ok none else resolveDownloadProxyUrl unicode decrypt quote s

def effectiveTelegramProxy (s : InstanceSettings Other) : Resolved :=
  if !s.outboundProxyEnabled || !s.telegramUseProxy then .ok none else resolveDownloadProxyUrl unicode decrypt quote s

end Resolve

section FixedPoints

structure Settled (unicode : Unicode) (parsed : Parsed) : Prop where
  /-- What stands behind the host does not end in a blank, once an empty query and an empty fragment have been left out. -/
  tail : ∀ c ∈ parsed.tail.getLast?, Text.isSpace c = false
  /-- Before a blank port stands a host that is tidy itself. -/
  port : hasPort (hostportIn parsed.netloc) = true → portOf (hostportIn parsed.netloc) = [] →
    Tidy unicode (hostOf (hostportIn parsed.netloc)) ∧ ('@' ∈ parsed.netloc ∨ hostOf (hostportIn parsed.netloc) ≠ [])
  /-- Where there are brackets, the host is a bracketed one without the blanks around it. -/
  brackets : '[' ∈ parsed.netloc → checkHostinfo unicode (bareHost (hostportIn parsed.netloc)) = true

variable {unicode : Unicode}

theorem strip_normalized_iff {parsed : Parsed} {netloc : List Char} (read : Read unicode parsed)
    (done : normalizeNetloc unicode parsed.netloc = some netloc) (settled : normalizeNetloc unicode netloc = some netloc) :
    strip (urlunparse { parsed with netloc }) = urlunparse { parsed with netloc } ↔
      ∀ c ∈ parsed.tail.getLast?, Text.isSpace c = false := by
  have hosted := given_of_normalized settled
  have stripped : strip netloc = netloc := Text.trimBoth_of_length (length_normalizeNetloc settled)
  have shape : urlunparse { parsed with netloc } = parsed.scheme ++ ':' :: ("//".toList ++ (netloc ++ parsed.tail)) :=
    urlunparse_eq (formed_normalized read done) hosted read.label.nonempty
  have first : ∀ c ∈ parsed.scheme.head?, Text.isSpace c = false := by
    intro c begins
    have label := read.label.begins
    rw [Option.mem_def.mp begins] at label
    exact isSpace_of_isAlpha label
  have begins : ∀ c ∈ (parsed.scheme ++ ':' :: ("//".toList ++ (netloc ++ parsed.tail))).head?, Text.isSpace c = false := by
    rw [List.head?_append_of_ne_nil _ read.label.nonempty]
    exact first
  have behind : netloc ++ parsed.tail ≠ [] := by simp [hosted]
  rw [shape, strip_eq_self_iff, and_iff_right begins, List.getLast?_append_of_ne_nil _ (List.cons_ne_nil _ _),
    ← List.singleton_append, List.getLast?_append_of_ne_nil _ (by simp), List.getLast?_append_of_ne_nil _ behind]
  cases its : parsed.tail with
  | nil =>
    rw [List.append_nil]
    exact iff_of_true (ends_of_strip stripped).2 (by simp)
  | cons x tail => rw [List.getLast?_append_of_ne_nil _ (List.cons_ne_nil _ _)]

theorem named_of_normalized {netloc normalized : List Char} (done : normalizeNetloc unicode netloc = some normalized) :
    (strip netloc).contains '@' = true ∨ hostportIn netloc ≠ [] := by
  rw [normalizeNetloc] at done
  split at done
  · contradiction
  · rename_i given
    cases marked : (strip netloc).contains '@' with
    | true => exact .inl rfl
    | false =>
      right
      rw [hostportIn, hostportOf, marked, if_neg Bool.false_ne_true, strip_strip]
      exact fun none => given (List.isEmpty_iff.mpr none)

theorem fixed_iff_settled {url normalized : List Char} (accepted : normalizeDownloadProxyUrl unicode url = some normalized)
    (given : strip url ≠ []) : normalizeDownloadProxyUrl unicode normalized = some normalized ↔
      ∃ parsed, parseProxyUrl unicode (strip url) = some parsed ∧ Settled unicode parsed := by
  obtain ⟨parsed, netloc, parsing, done, rfl⟩ := normalize_eq_some accepted given
  have read := read_of_parse parsing
  obtain ⟨hostport, normal, outside, whole⟩ := normalizeNetloc_eq_some done
  have marked : (strip parsed.netloc).contains '@' = true ↔ '@' ∈ parsed.netloc := by
    rw [List.contains_iff_mem]
    exact ⟨mem_of_strip, fun member => mem_strip member rfl⟩
  have settles := @normalizeNetloc_settled_iff unicode _ _ _ outside whole
  have hosts := normal_settled_iff (strip_hostportIn parsed.netloc) normal
  rw [normalize_again_iff read done, checkNetloc_normalized read.checked done]
  constructor
  · rintro ⟨stripped, brackets, settled⟩
    refine ⟨parsed, parsing, (strip_normalized_iff read done settled).mp stripped, fun has blank => ?_, brackets⟩
    obtain ⟨named, inner⟩ := settles.mp settled
    refine ⟨normalizeHostport_fixed_iff.mp (hosts.mp inner has blank), named.imp marked.mp fun nonempty => ?_⟩
    cases normal with
    | bare _ => rwa [bareHost, if_pos has] at nonempty
    | ported _ given _ => exact absurd blank given
  · rintro ⟨again, same, tail, port, brackets⟩
    obtain rfl := Option.some.inj (parsing.symm.trans same)
    have inner : normalizeHostport unicode hostport = some hostport := hosts.mpr fun has blank =>
      normalizeHostport_fixed_iff.mpr (port has blank).1
    have named : (strip parsed.netloc).contains '@' = true ∨ hostport ≠ [] := by
      cases normal with
      | ported _ _ _ => exact .inr (by simp)
      | bare blank =>
        cases has : hasPort (hostportIn parsed.netloc) with
        | true =>
          rw [bareHost, if_pos has]
          exact (port has (blank has)).2.imp marked.mpr id
        | false =>
          rw [bareHost, has, if_neg Bool.false_ne_true]
          exact named_of_normalized done
    have settled := settles.mpr ⟨named, inner⟩
    exact ⟨(strip_normalized_iff read done settled).mpr tail, brackets, settled⟩

/-- With the switches on, a URL is returned wherever anything is. -/
def NeverDirect (unicode : Unicode) (url : List Char) : Prop :=
  ∀ (Other : Type) (decrypt : String → Option (List Char)) (quote : List Char → List Char) (s : InstanceSettings Other),
    s.downloadProxyUrl = some (.ofList url) → s.outboundProxyEnabled = true →
      (s.downloadProxyEnabled = true → effectiveDownloadProxy unicode decrypt quote s ≠ .ok none) ∧
        (s.telegramUseProxy = true → effectiveTelegramProxy unicode decrypt quote s ≠ .ok none)

theorem resolve_ne_direct {Other : Type} {decrypt : String → Option (List Char)} {quote : List Char → List Char}
    {s : InstanceSettings Other} {url : List Char} (stored : s.downloadProxyUrl = some (.ofList url)) (given : strip url ≠ [])
    (fixed : normalizeDownloadProxyUrl unicode url = some url) :
    resolveDownloadProxyUrl unicode decrypt quote s ≠ .ok none := by
  have again : normalizeDownloadProxyUrl unicode (strip url) = some url := by
    rw [normalizeDownloadProxyUrl] at fixed ⊢
    rwa [strip_strip]
  rw [resolveDownloadProxyUrl, stored, Option.getD_some, String.toList_ofList, if_neg (by simpa using given), again]
  dsimp only
  split
  · simp
  · split
    · split
      · simp
      · simp
      · split
        · simp
        · split <;> simp
    · simp

/-- A stored URL is a fixed point, and no proxy that is on is passed over, exactly where the URL that was given is settled. -/
theorem stored_proxy_fixed_iff {url normalized : List Char} (accepted : normalizeDownloadProxyUrl unicode url = some normalized)
    (nonempty : normalized ≠ []) :
    (normalizeDownloadProxyUrl unicode normalized = some normalized ∧ NeverDirect unicode normalized) ↔
      ∃ parsed, parseProxyUrl unicode (strip url) = some parsed ∧ Settled unicode parsed := by
  have given : strip url ≠ [] := by
    intro blank
    rw [normalizeDownloadProxyUrl, blank, List.isEmpty_nil, if_pos rfl] at accepted
    exact nonempty (Option.some.inj accepted).symm
  rw [← fixed_iff_settled accepted given]
  refine and_iff_left_of_imp fun fixed Other decrypt quote s stored on => ?_
  have begins := normalize_nonblank accepted given
  have filled : strip normalized ≠ [] := by
    obtain ⟨first, rest, rfl⟩ := List.exists_cons_of_ne_nil nonempty
    intro blank
    have space := (Text.trimBoth_eq_nil_iff _).mp blank first List.mem_cons_self
    rw [isSpace_of_isAlpha begins] at space
    contradiction
  constructor
  · intro download
    rw [effectiveDownloadProxy, on, download, if_neg (by decide)]
    exact resolve_ne_direct stored filled fixed
  · intro telegram
    rw [effectiveTelegramProxy, on, telegram, if_neg (by decide)]
    exact resolve_ne_direct stored filled fixed

end FixedPoints

theorem stored_proxy_fixed_socks :
    (normalizeDownloadProxyUrl asciiUnicode "socks5://user@proxy:1080".toList = some "socks5://user@proxy:1080".toList ∧
      NeverDirect asciiUnicode "socks5://user@proxy:1080".toList) ↔
      ∃ parsed, parseProxyUrl asciiUnicode (strip "user@proxy : 1080".toList) = some parsed ∧ Settled asciiUnicode parsed :=
  stored_proxy_fixed_iff (by decide +kernel) (by decide +kernel)

/-- An address without its brackets, and a colon behind it. -/
def misreadProxy : InstanceSettings Unit :=
  { defaults () with
    downloadProxyUrl := some "http://2001:db8::a"
    outboundProxyEnabled := true
    downloadProxyEnabled := true }

/-- The stored URL fails to be normalized again, and the proxy is passed over. -/
theorem proxy_is_passed_over :
    normalizeDownloadProxyUrl asciiUnicode "http://2001:db8::a:".toList = some "http://2001:db8::a".toList ∧
      normalizeDownloadProxyUrl asciiUnicode "http://2001:db8::a".toList = none ∧
        effectiveDownloadProxy asciiUnicode (fun _ => none) id misreadProxy = .ok none := by
  refine ⟨by decide +kernel, by decide +kernel, by decide +kernel⟩

end IdigestHub.Settings
