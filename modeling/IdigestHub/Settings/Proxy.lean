import IdigestHub.Foundation.Urls
import IdigestHub.Foundation.Words

/-! The URL of the outbound proxy: normalized when it is stored, and again when it is used. -/

set_option autoImplicit false

namespace IdigestHub.Settings

open Foundation Foundation.Urls

def proxySchemes : List String := ["socks5", "socks5h", "socks4", "http", "https"]

def strip (text : List Char) : List Char := Text.trimBoth Text.isSpace text

section Normalize

variable (unicode : Unicode)

/-- `f"{host}:{port}" if port else host`; `none` is a `ValueError`. -/
def withPort (host port : List Char) : Option (List Char) :=
  if port.isEmpty then some host
  else if readsInt unicode port then some (host ++ ':' :: port)
  else none

/-- A colon that separates a port: behind the brackets, where the host starts with one. -/
def hasPort (hostport : List Char) : Bool :=
  if hostport.head? = some '[' then (hostport.dropWhile (· != ']')).contains ':' else hostport.contains ':'

/-- The host before the port; a host in brackets is not stripped. -/
def hostOf (hostport : List Char) : List Char :=
  if hostport.head? = some '[' then (rpartition ':' hostport).1 else strip (rpartition ':' hostport).1

def portOf (hostport : List Char) : List Char := strip (rpartition ':' hostport).2

def normalizeHostport (hostport : List Char) : Option (List Char) :=
  let hostport := strip hostport
  if hasPort hostport then withPort unicode (hostOf hostport) (portOf hostport) else some hostport

def hostportOf (netloc : List Char) : List Char := if netloc.contains '@' then (rpartition '@' netloc).2 else netloc

def withUserinfo (netloc hostport : List Char) : List Char :=
  if netloc.contains '@' then strip (rpartition '@' netloc).1 ++ '@' :: hostport else hostport

def normalizeNetloc (netloc : List Char) : Option (List Char) :=
  let netloc := strip netloc
  if netloc.isEmpty then none else (normalizeHostport unicode (hostportOf netloc)).map (withUserinfo netloc)

def parseProxyUrl (cleaned : List Char) : Option Parsed := do
  let parsed ← urlparse unicode cleaned
  if proxySchemes.contains (String.ofList parsed.scheme) then some parsed
  else urlparse unicode ("socks5://".toList ++ cleaned.dropWhile (· == '/'))

def normalizeDownloadProxyUrl (url : List Char) : Option (List Char) :=
  let cleaned := strip url
  if cleaned.isEmpty then some []
  else do
    let parsed ← parseProxyUrl unicode cleaned
    let netloc ← normalizeNetloc unicode parsed.netloc
    some (urlunparse { parsed with netloc })

section Nonblank

variable {unicode : Unicode}

theorem isSpace_of_isAlpha {c : Char} (alpha : c.isAlpha = true) : Text.isSpace c = false := by
  have range := Text.isAlpha_iff.mp alpha
  rw [Text.isUpper_iff, Text.isLower_iff] at range
  simp [Text.isSpace]
  omega

theorem isScheme_of_mem {scheme : String} (member : scheme ∈ proxySchemes) : IsScheme scheme.toList := by
  simp only [proxySchemes, List.mem_cons, List.not_mem_nil, or_false] at member
  rcases member with rfl | rfl | rfl | rfl | rfl <;> exact ⟨by decide +kernel, by decide +kernel⟩

theorem scheme_of_parse {cleaned : List Char} {parsed : Parsed} (read : parseProxyUrl unicode cleaned = some parsed) :
    String.ofList parsed.scheme ∈ proxySchemes := by
  rw [parseProxyUrl, Option.bind_eq_bind, Option.bind_eq_some_iff] at read
  obtain ⟨first, _, read⟩ := read
  split at read
  · rename_i known
    cases read
    exact List.contains_iff_mem.mp known
  · have valid : IsScheme "socks5".toList := isScheme_of_mem (by simp [proxySchemes])
    rw [scheme_of_urlparse valid _ read]
    decide +kernel

theorem normalize_nonblank {url normalized : List Char} (accepted : normalizeDownloadProxyUrl unicode url = some normalized)
    (given : strip url ≠ []) : normalized.head?.any Char.isAlpha = true := by
  rw [normalizeDownloadProxyUrl, if_neg (by simpa using given)] at accepted
  obtain ⟨parsed, read, accepted⟩ := Option.bind_eq_some_iff.mp accepted
  obtain ⟨netloc, _, accepted⟩ := Option.bind_eq_some_iff.mp accepted
  cases accepted
  have begins := (isScheme_of_mem (scheme_of_parse read)).begins
  rw [String.toList_ofList] at begins
  have labels : parsed.scheme ≠ [] := by
    intro unlabelled
    rw [unlabelled] at begins
    contradiction
  obtain ⟨rest, whole⟩ := urlunparse_labelled { parsed with netloc } labels
  rw [whole, List.head?_append_of_ne_nil _ labels]
  exact begins

end Nonblank

section Hosts

variable {unicode : Unicode} {hostport host port : List Char}

theorem strip_strip (text : List Char) : strip (strip text) = strip text := Text.trimBoth_trimBoth text

theorem strip_eq_self_iff (text : List Char) : strip text = text ↔
    (∀ c ∈ text.head?, Text.isSpace c = false) ∧ ∀ c ∈ text.getLast?, Text.isSpace c = false :=
  Text.trimBoth_eq_self_iff text

theorem ends_of_strip {text : List Char} (same : strip text = text) :
    (∀ c ∈ text.head?, Text.isSpace c = false) ∧ ∀ c ∈ text.getLast?, Text.isSpace c = false :=
  (strip_eq_self_iff text).mp same

theorem strip_joined {front back : List Char} {mark : Char} (plain : Text.isSpace mark = false)
    (first : ∀ c ∈ front.head?, Text.isSpace c = false) (last : ∀ c ∈ back.getLast?, Text.isSpace c = false) :
    strip (front ++ mark :: back) = front ++ mark :: back := by
  refine (strip_eq_self_iff _).mpr ⟨fun c begins => ?_, fun c ends => ?_⟩
  · cases front with
    | nil => rwa [← Option.some.inj begins]
    | cons x front => exact first c begins
  · rw [List.getLast?_append_of_ne_nil _ (List.cons_ne_nil _ _)] at ends
    cases back with
    | nil => rwa [← Option.some.inj ends]
    | cons x back => exact last c (by rwa [List.getLast?_cons_cons] at ends)

theorem head_strip {text : List Char} (first : ∀ c ∈ text.head?, Text.isSpace c = false) : (strip text).head? = text.head? := by
  cases text with
  | nil => rfl
  | cons x text =>
    have plain := first x rfl
    have before : (x :: text).dropWhile Text.isSpace = x :: text := List.dropWhile_cons_of_neg (by simp [plain])
    have nonempty : strip (x :: text) ≠ [] := by
      intro blank
      have space := (Text.trimBoth_eq_nil_iff _).mp blank x List.mem_cons_self
      rw [plain] at space
      contradiction
    have front : strip (x :: text) <+: x :: text := by
      rw [strip, Text.trimBoth_eq, before]
      exact List.rdropWhile_prefix _ _
    obtain ⟨back, whole⟩ := front
    have same := congrArg List.head? whole
    rwa [List.head?_append_of_ne_nil _ nonempty] at same

theorem withPort_eq_some {normalized : List Char} (done : withPort unicode host port = some normalized) :
    port = [] ∧ normalized = host ∨ port ≠ [] ∧ readsInt unicode port = true ∧ normalized = host ++ ':' :: port := by
  rw [withPort] at done
  split at done
  · cases done
    exact .inl ⟨List.isEmpty_iff.mp ‹_›, rfl⟩
  · split at done
    · cases done
      exact .inr ⟨fun none => by simp_all, ‹_›, rfl⟩
    · contradiction

theorem colon_of_hasPort (has : hasPort hostport = true) : ':' ∈ hostport := by
  rw [hasPort] at has
  split at has
  · exact (List.dropWhile_suffix _).subset (List.contains_iff_mem.mp has)
  · exact List.contains_iff_mem.mp has

theorem closes_iff {before after : List Char} (last : ':' ∉ after) :
    ((before ++ ':' :: after).dropWhile (· != ']')).contains ':' = true ↔ ']' ∈ before := by
  rw [List.contains_iff_mem]
  constructor
  · intro colon
    by_contra outside
    have passes : ∀ c ∈ before, (c != ']') = true := fun c member => bne_iff_ne.mpr fun same => outside (same ▸ member)
    rw [List.dropWhile_append_of_pos passes, List.dropWhile_cons_of_pos (by decide)] at colon
    exact last ((List.dropWhile_suffix _).subset colon)
  · intro closed
    obtain ⟨front, back, whole, outside⟩ := List.eq_append_cons_of_mem closed
    have passes : ∀ c ∈ front, (c != ']') = true := fun c member => bne_iff_ne.mpr fun same => outside (same ▸ member)
    rw [whole, List.append_assoc, List.dropWhile_append_of_pos passes, List.cons_append, List.dropWhile_cons_of_neg (by simp)]
    simp

/-- A stripped host and port, taken apart at the last colon. -/
structure Ported (hostport before after : List Char) : Prop where
  whole : hostport = before ++ ':' :: after
  last : ':' ∉ after
  stripped : strip hostport = hostport
  closed : hostport.head? = some '[' → ']' ∈ before

theorem exists_ported (stripped : strip hostport = hostport) (has : hasPort hostport = true) :
    ∃ before after, Ported hostport before after := by
  obtain ⟨before, after, whole, last⟩ := exists_rpartition (colon_of_hasPort has)
  refine ⟨before, after, whole, last, stripped, fun bracket => ?_⟩
  rw [hasPort, if_pos bracket, whole] at has
  exact (closes_iff last).mp has

namespace Ported

variable {before after : List Char} (ported : Ported hostport before after)

include ported

theorem hostOf_eq : hostOf hostport = if hostport.head? = some '[' then before else strip before := by
  rw [hostOf]
  conv => lhs; rw [ported.whole, rpartition_append before ported.last, ← ported.whole]

theorem portOf_eq : portOf hostport = strip after := by
  rw [portOf, ported.whole, rpartition_append before ported.last]

theorem head_before (nonempty : before ≠ []) : hostport.head? = before.head? := by
  rw [ported.whole, List.head?_append_of_ne_nil _ nonempty]

theorem first : ∀ c ∈ before.head?, Text.isSpace c = false := by
  intro c begins
  have nonempty : before ≠ [] := by
    rintro rfl
    contradiction
  exact (ends_of_strip ported.stripped).1 c (by rwa [ported.head_before nonempty])

theorem head_hostOf : (hostOf hostport).head? = before.head? := by
  rw [ported.hostOf_eq]
  split
  · rfl
  · exact head_strip ported.first

theorem bracket_iff : hostport.head? = some '[' ↔ before.head? = some '[' := by
  rw [ported.whole]
  cases before with
  | nil => simp
  | cons x before => simp

theorem hostOf_of_bracket (bracket : hostport.head? = some '[') : hostOf hostport = before := by
  rw [ported.hostOf_eq, if_pos bracket]

theorem strip_hostOf (plain : hostport.head? ≠ some '[') : strip (hostOf hostport) = hostOf hostport := by
  rw [ported.hostOf_eq, if_neg plain, strip_strip]

theorem not_mem_portOf : ':' ∉ portOf hostport := by
  rw [ported.portOf_eq]
  exact fun member => ported.last ((Text.trimBoth_sublist after).subset member)

theorem strip_portOf : strip (portOf hostport) = portOf hostport := by rw [ported.portOf_eq, strip_strip]

theorem settled (given : portOf hostport ≠ []) (reads : readsInt unicode (portOf hostport) = true) :
    normalizeHostport unicode (hostOf hostport ++ ':' :: portOf hostport) = some (hostOf hostport ++ ':' :: portOf hostport) := by
  have first : ∀ c ∈ (hostOf hostport).head?, Text.isSpace c = false := by
    rw [ported.head_hostOf]
    exact ported.first
  have stripped : strip (hostOf hostport ++ ':' :: portOf hostport) = hostOf hostport ++ ':' :: portOf hostport :=
    strip_joined rfl first (ends_of_strip ported.strip_portOf).2
  have bracket_iff : (hostOf hostport ++ ':' :: portOf hostport).head? = some '[' ↔ hostport.head? = some '[' := by
    rw [ported.bracket_iff, ← ported.head_hostOf]
    cases hostOf hostport with
    | nil => simp
    | cons x host => simp
  have joined : Ported (hostOf hostport ++ ':' :: portOf hostport) (hostOf hostport) (portOf hostport) :=
    ⟨rfl, ported.not_mem_portOf, stripped, fun bracket => by
      rw [ported.hostOf_of_bracket (bracket_iff.mp bracket)]
      exact ported.closed (bracket_iff.mp bracket)⟩
  have has : hasPort (hostOf hostport ++ ':' :: portOf hostport) = true := by
    rw [hasPort]
    split
    · exact (closes_iff ported.not_mem_portOf).mpr (joined.closed ‹_›)
    · simp
  have host : hostOf (hostOf hostport ++ ':' :: portOf hostport) = hostOf hostport := by
    rw [joined.hostOf_eq]
    split
    · rfl
    · rename_i plain
      exact ported.strip_hostOf fun bracket => plain (bracket_iff.mpr bracket)
  rw [normalizeHostport, stripped, if_pos has, host, joined.portOf_eq, ported.strip_portOf, withPort,
    if_neg (by simpa using given), if_pos reads]

end Ported

theorem normalizeHostport_strip (hostport : List Char) :
    normalizeHostport unicode (strip hostport) = normalizeHostport unicode hostport := by
  rw [normalizeHostport, strip_strip, normalizeHostport]

def bareHost (hostport : List Char) : List Char := if hasPort hostport then hostOf hostport else hostport

inductive Normal (unicode : Unicode) (hostport : List Char) : List Char → Prop where
  | bare (blank : hasPort hostport = true → portOf hostport = []) : Normal unicode hostport (bareHost hostport)
  | ported (has : hasPort hostport = true) (given : portOf hostport ≠ []) (reads : readsInt unicode (portOf hostport) = true) :
    Normal unicode hostport (bareHost hostport ++ ':' :: portOf hostport)

theorem normal_of_some {normalized : List Char} (stripped : strip hostport = hostport)
    (done : normalizeHostport unicode hostport = some normalized) : Normal unicode hostport normalized := by
  rw [normalizeHostport, stripped] at done
  split at done
  · rename_i has
    have bare : bareHost hostport = hostOf hostport := if_pos has
    rcases withPort_eq_some done with ⟨blank, rfl⟩ | ⟨given, reads, rfl⟩
    · rw [← bare]
      exact .bare fun _ => blank
    · rw [← bare]
      exact .ported has given reads
  · rename_i plain
    cases done
    have bare : bareHost hostport = hostport := if_neg plain
    conv => arg 3; rw [← bare]
    exact .bare fun has => absurd has plain

theorem normal_settled_iff {normalized : List Char} (stripped : strip hostport = hostport)
    (normal : Normal unicode hostport normalized) :
    normalizeHostport unicode normalized = some normalized ↔
      (hasPort hostport = true → portOf hostport = [] →
        normalizeHostport unicode (hostOf hostport) = some (hostOf hostport)) := by
  cases normal with
  | ported has given reads =>
    obtain ⟨before, after, ported⟩ := exists_ported stripped has
    rw [bareHost, if_pos has]
    exact iff_of_true (ported.settled given reads) fun _ blank => absurd blank given
  | bare blank =>
    rw [bareHost]
    split
    · rename_i has
      exact ⟨fun settled _ _ => settled, fun settled => settled has (blank has)⟩
    · rename_i plain
      refine iff_of_true ?_ fun has => absurd has plain
      rw [normalizeHostport, stripped, if_neg plain]

theorem length_strip_le (text : List Char) : (strip text).length ≤ text.length := (Text.trimBoth_sublist text).length_le

theorem mem_of_strip {text : List Char} {c : Char} (member : c ∈ strip text) : c ∈ text :=
  (Text.trimBoth_sublist text).subset member

theorem mem_strip {text : List Char} {c : Char} (member : c ∈ text) (plain : Text.isSpace c = false) : c ∈ strip text := by
  rw [strip, Text.trimBoth_eq]
  have inside : c ∈ text.dropWhile Text.isSpace := by
    rw [← List.takeWhile_append_dropWhile (p := Text.isSpace) (l := text)] at member
    rcases List.mem_append.mp member with before | after
    · rw [List.mem_takeWhile_imp before] at plain
      contradiction
    · exact after
  rw [List.rdropWhile, List.mem_reverse]
  rw [← List.mem_reverse,
    ← List.takeWhile_append_dropWhile (p := Text.isSpace) (l := (text.dropWhile Text.isSpace).reverse)] at inside
  rcases List.mem_append.mp inside with before | after
  · rw [List.mem_takeWhile_imp before] at plain
    contradiction
  · exact after

theorem Ported.length_bareHost {before after : List Char} (ported : Ported hostport before after) :
    (hostOf hostport).length ≤ before.length := by
  rw [ported.hostOf_eq]
  split
  · exact le_rfl
  · exact length_strip_le before

namespace Normal

variable {normalized : List Char} (stripped : strip hostport = hostport) (normal : Normal unicode hostport normalized)

include stripped normal

theorem length_le : normalized.length ≤ hostport.length := by
  cases normal with
  | bare blank =>
    rw [bareHost]
    split
    · rename_i has
      obtain ⟨before, after, ported⟩ := exists_ported stripped has
      have shorter := ported.length_bareHost
      conv => rhs; rw [ported.whole, List.length_append]
      omega
    · exact le_rfl
  | ported has given reads =>
    obtain ⟨before, after, ported⟩ := exists_ported stripped has
    have host := ported.length_bareHost
    have port := length_strip_le after
    rw [bareHost, if_pos has, List.length_append, List.length_cons, ported.portOf_eq]
    conv => rhs; rw [ported.whole, List.length_append, List.length_cons]
    omega

theorem subset {c : Char} (member : c ∈ normalized) : c ∈ hostport := by
  have host : c ∈ bareHost hostport → c ∈ hostport := by
    intro member
    rw [bareHost] at member
    split at member
    · rename_i has
      obtain ⟨before, after, ported⟩ := exists_ported stripped has
      rw [ported.whole]
      rw [ported.hostOf_eq] at member
      split at member
      · exact List.mem_append_left _ member
      · exact List.mem_append_left _ (mem_of_strip member)
    · exact member
  cases normal with
  | bare blank => exact host member
  | ported has given reads =>
    obtain ⟨before, after, ported⟩ := exists_ported stripped has
    rcases List.mem_append.mp member with inside | inside
    · exact host inside
    · rw [ported.whole]
      rcases List.mem_cons.mp inside with rfl | inside
      · exact List.mem_append_right _ List.mem_cons_self
      · rw [ported.portOf_eq] at inside
        exact List.mem_append_right _ (List.mem_cons_of_mem _ (mem_of_strip inside))

theorem keeps {c : Char} (member : c ∈ hostport) (plain : Text.isSpace c = false) (mark : c ≠ ':') : c ∈ normalized := by
  cases has : hasPort hostport with
  | false =>
    cases normal with
    | bare blank => rwa [bareHost, has, if_neg Bool.false_ne_true]
    | ported has' => simp [has] at has'
  | true =>
    obtain ⟨before, after, ported⟩ := exists_ported stripped has
    have host (inside : c ∈ before) : c ∈ bareHost hostport := by
      rw [bareHost, if_pos has, ported.hostOf_eq]
      split
      · exact inside
      · exact mem_strip inside plain
    rw [ported.whole] at member
    rcases List.mem_append.mp member with inside | inside
    · cases normal with
      | bare blank => exact host inside
      | ported _ given reads => exact List.mem_append_left _ (host inside)
    · have port : c ∈ portOf hostport := by
        rw [ported.portOf_eq]
        rcases List.mem_cons.mp inside with same | inside
        · exact absurd same mark
        · exact mem_strip inside plain
      cases normal with
      | bare blank =>
        rw [blank has] at port
        contradiction
      | ported _ given reads => exact List.mem_append_right _ (List.mem_cons_of_mem _ port)

end Normal

/-- A host without blanks around it, where no colon separates a port; else the number of a port stands behind the last colon, with
no blank before it and, unless the host starts with a bracket, none behind the host. -/
structure Tidy (unicode : Unicode) (hostport : List Char) : Prop where
  stripped : strip hostport = hostport
  port : hasPort hostport = true → ∃ host port, hostport = host ++ ':' :: port ∧ ':' ∉ port ∧ strip port = port ∧
    readsInt unicode port = true ∧ (hostport.head? ≠ some '[' → strip host = host)

/-- `_normalize_hostport` leaves the tidy texts alone, and no others. -/
theorem normalizeHostport_fixed_iff : normalizeHostport unicode hostport = some hostport ↔ Tidy unicode hostport := by
  constructor
  · intro fixed
    have stripped : strip hostport = hostport := by
      rw [← normalizeHostport_strip] at fixed
      exact Text.trimBoth_of_length ((normal_of_some (strip_strip _) fixed).length_le (strip_strip _))
    refine ⟨stripped, fun has => ?_⟩
    obtain ⟨before, after, ported⟩ := exists_ported stripped has
    rw [normalizeHostport, stripped, if_pos has] at fixed
    rcases withPort_eq_some fixed with ⟨_, same⟩ | ⟨_, reads, same⟩
    · -- the host alone is shorter than the text
      have shorter := ported.length_bareHost
      rw [← same] at shorter
      conv at shorter => lhs; rw [ported.whole, List.length_append, List.length_cons]
      omega
    · exact ⟨hostOf hostport, portOf hostport, same, ported.not_mem_portOf, ported.strip_portOf, reads, ported.strip_hostOf⟩
  · rintro ⟨stripped, separated⟩
    rw [normalizeHostport, stripped]
    by_cases has : hasPort hostport = true
    · obtain ⟨host, port, whole, last, same, reads, blanks⟩ := separated has
      have ported : Ported hostport host port :=
        ⟨whole, last, stripped, fun bracket => (closes_iff last).mp (by rwa [hasPort, if_pos bracket, whole] at has)⟩
      have given : port ≠ [] := by
        rintro rfl
        have unread : readsInt unicode [] = false := by simp [readsInt, Text.trimBoth, List.splitOn]
        exact Bool.noConfusion (reads.symm.trans unread)
      have kept : hostOf hostport = host := by
        rw [ported.hostOf_eq]
        split
        · rfl
        · exact blanks ‹_›
      rw [if_pos has, kept, ported.portOf_eq, same, withPort, if_neg (by simpa using given), if_pos reads, whole]
    · rw [if_neg has]

end Hosts

section Netlocs

variable {unicode : Unicode} {netloc hostport : List Char}

theorem not_mem_hostportOf (netloc : List Char) : '@' ∉ hostportOf netloc := by
  rw [hostportOf]
  split
  · rename_i marked
    obtain ⟨front, last, rfl, outside⟩ := exists_rpartition (List.contains_iff_mem.mp marked)
    rwa [rpartition_append front outside]
  · rename_i plain
    exact fun member => plain (List.contains_iff_mem.mpr member)

theorem contains_withUserinfo (outside : '@' ∉ hostport) :
    (withUserinfo netloc hostport).contains '@' = netloc.contains '@' := by
  rw [withUserinfo]
  split
  · rename_i marked
    rw [marked]
    simp
  · rename_i plain
    rw [Bool.not_eq_true] at plain
    rw [plain]
    simpa using outside

theorem hostportOf_withUserinfo (outside : '@' ∉ hostport) : hostportOf (withUserinfo netloc hostport) = hostport := by
  rw [hostportOf, contains_withUserinfo outside, withUserinfo]
  split
  · rw [rpartition_append _ outside]
  · rfl

theorem withUserinfo_again (outside : '@' ∉ hostport) (other : List Char) :
    withUserinfo (withUserinfo netloc hostport) other = withUserinfo netloc other := by
  rw [withUserinfo, contains_withUserinfo outside, withUserinfo, withUserinfo]
  split
  · rw [rpartition_append _ outside, strip_strip]
  · rfl

theorem withUserinfo_injective {other : List Char} (same : withUserinfo netloc hostport = withUserinfo netloc other) :
    hostport = other := by
  rw [withUserinfo, withUserinfo] at same
  split at same
  · exact (List.cons.inj (List.append_cancel_left same)).2
  · exact same

theorem hostinfo_withUserinfo (outside : '@' ∉ hostport) : hostinfo (withUserinfo netloc hostport) = hostport := by
  rw [hostinfo, withUserinfo]
  split
  · rw [rpartition_append _ outside]
  · rw [rpartition_absent outside]

theorem length_withUserinfo_le (shorter : hostport.length ≤ (hostportOf netloc).length) :
    (withUserinfo netloc hostport).length ≤ netloc.length := by
  rw [hostportOf] at shorter
  rw [withUserinfo]
  split at shorter
  · rename_i marked
    obtain ⟨front, last, rfl, outside⟩ := exists_rpartition (List.contains_iff_mem.mp marked)
    have user := length_strip_le front
    rw [rpartition_append front outside] at shorter
    rw [if_pos marked, rpartition_append front outside, List.length_append, List.length_cons, List.length_append,
      List.length_cons]
    dsimp only at shorter ⊢
    omega
  · rename_i plain
    rwa [if_neg plain]

theorem strip_withUserinfo (stripped : strip hostport = hostport) :
    strip (withUserinfo netloc hostport) = withUserinfo netloc hostport := by
  rw [withUserinfo]
  split
  · exact strip_joined rfl (ends_of_strip (strip_strip _)).1 (ends_of_strip stripped).2
  · exact stripped

/-- The host and the port that are normalized, without blanks around them. -/
def hostportIn (netloc : List Char) : List Char := strip (hostportOf (strip netloc))

theorem strip_hostportIn (netloc : List Char) : strip (hostportIn netloc) = hostportIn netloc := strip_strip _

theorem normalizeNetloc_eq_some {normalized : List Char} (done : normalizeNetloc unicode netloc = some normalized) :
    ∃ hostport, Normal unicode (hostportIn netloc) hostport ∧ '@' ∉ hostport ∧
      normalized = withUserinfo (strip netloc) hostport := by
  rw [normalizeNetloc] at done
  split at done
  · contradiction
  · obtain ⟨hostport, inner, rfl⟩ := Option.map_eq_some_iff.mp done
    rw [← normalizeHostport_strip] at inner
    have normal := normal_of_some (strip_strip _) inner
    refine ⟨hostport, normal, fun member => ?_, rfl⟩
    exact not_mem_hostportOf _ (mem_of_strip (normal.subset (strip_strip _) member))

theorem length_normalizeNetloc {normalized : List Char} (done : normalizeNetloc unicode netloc = some normalized) :
    normalized.length ≤ (strip netloc).length := by
  obtain ⟨hostport, normal, _, rfl⟩ := normalizeNetloc_eq_some done
  exact length_withUserinfo_le ((normal.length_le (strip_hostportIn netloc)).trans (length_strip_le _))

/-- A normalized `netloc` is left alone from then on, exactly where its host and port are. -/
theorem normalizeNetloc_settled_iff {normal : List Char} (outside : '@' ∉ hostport)
    (whole : normal = withUserinfo netloc hostport) :
    normalizeNetloc unicode normal = some normal ↔
      (netloc.contains '@' = true ∨ hostport ≠ []) ∧ normalizeHostport unicode hostport = some hostport := by
  subst whole
  have given : (withUserinfo netloc hostport).isEmpty = false ↔ netloc.contains '@' = true ∨ hostport ≠ [] := by
    rw [withUserinfo]
    split
    · rename_i marked
      simp [List.contains_iff_mem.mp marked]
    · rename_i plain
      simp [show '@' ∉ netloc by simpa using plain]
  have again (stripped : strip (withUserinfo netloc hostport) = withUserinfo netloc hostport) :
      normalizeNetloc unicode (withUserinfo netloc hostport) = if (withUserinfo netloc hostport).isEmpty then none else
        (normalizeHostport unicode hostport).map (withUserinfo netloc) := by
    rw [normalizeNetloc, stripped, hostportOf_withUserinfo outside]
    congr 1
    exact congrArg (fun f => (normalizeHostport unicode hostport).map f) (funext (withUserinfo_again outside))
  constructor
  · intro settled
    have stripped : strip (withUserinfo netloc hostport) = withUserinfo netloc hostport :=
      Text.trimBoth_of_length (length_normalizeNetloc settled)
    rw [again stripped] at settled
    split at settled
    · contradiction
    · rename_i nonempty
      obtain ⟨other, inner, same⟩ := Option.map_eq_some_iff.mp settled
      rw [withUserinfo_injective same] at inner
      exact ⟨given.mp (Bool.not_eq_true _ |>.mp nonempty), inner⟩
  · rintro ⟨nonempty, inner⟩
    have stripped : strip hostport = hostport := by
      rw [← normalizeHostport_strip] at inner
      exact Text.trimBoth_of_length ((normal_of_some (strip_strip _) inner).length_le (strip_strip _))
    rw [again (strip_withUserinfo stripped), given.mpr nonempty, if_neg Bool.false_ne_true, inner]
    rfl

theorem subset_netloc {normalized : List Char} (done : normalizeNetloc unicode netloc = some normalized) {c : Char}
    (member : c ∈ normalized) : c ∈ netloc := by
  obtain ⟨hostport, normal, _, rfl⟩ := normalizeNetloc_eq_some done
  have inner {c : Char} (member : c ∈ hostport) : c ∈ hostportOf (strip netloc) :=
    mem_of_strip (normal.subset (strip_hostportIn netloc) member)
  refine mem_of_strip ?_
  rw [hostportOf] at inner
  rw [withUserinfo] at member
  split at member
  · rename_i marked
    rw [if_pos marked] at inner
    obtain ⟨front, last, whole, outside⟩ := exists_rpartition (List.contains_iff_mem.mp marked)
    rw [whole, rpartition_append front outside] at member inner
    rw [whole]
    rcases List.mem_append.mp member with user | host
    · exact List.mem_append_left _ (mem_of_strip user)
    · rcases List.mem_cons.mp host with rfl | host
      · exact List.mem_append_right _ List.mem_cons_self
      · exact List.mem_append_right _ (List.mem_cons_of_mem _ (inner host))
  · rename_i plain
    rw [if_neg plain] at inner
    exact inner member

theorem keeps_netloc {normalized : List Char} (done : normalizeNetloc unicode netloc = some normalized) {c : Char}
    (member : c ∈ netloc) (plain : Text.isSpace c = false) (mark : c ≠ ':') : c ∈ normalized := by
  obtain ⟨hostport, normal, _, rfl⟩ := normalizeNetloc_eq_some done
  have inner (member : c ∈ hostportOf (strip netloc)) : c ∈ hostport :=
    normal.keeps (strip_hostportIn netloc) (mem_strip member plain) plain mark
  have member := mem_strip member plain
  rw [hostportOf] at inner
  rw [withUserinfo]
  split
  · rename_i marked
    rw [if_pos marked] at inner
    obtain ⟨front, last, whole, outside⟩ := exists_rpartition (List.contains_iff_mem.mp marked)
    rw [whole, rpartition_append front outside] at inner ⊢
    rw [whole] at member
    rcases List.mem_append.mp member with user | host
    · exact List.mem_append_left _ (mem_strip user plain)
    · rcases List.mem_cons.mp host with rfl | host
      · exact List.mem_append_right _ List.mem_cons_self
      · exact List.mem_append_right _ (List.mem_cons_of_mem _ (inner host))
  · rename_i single
    rw [if_neg single] at inner
    exact inner member

theorem bracket_first (checked : checkBracketedNetloc unicode netloc = true) (bracket : '[' ∈ hostportIn netloc) :
    (hostportIn netloc).head? = some '[' := by
  have first {info : List Char} (checked : checkHostinfo unicode info = true) (inside : '[' ∈ info) : info.head? = some '[' := by
    rw [checkHostinfo, if_pos (List.contains_iff_mem.mpr inside)] at checked
    obtain ⟨front, back, rfl, outside⟩ := List.eq_append_cons_of_mem inside
    rw [cut_append outside] at checked
    simp only [Bool.and_eq_true, List.isEmpty_iff] at checked
    rw [checked.1.1]
    rfl
  rw [checkBracketedNetloc, hostinfo] at checked
  rw [hostportIn, hostportOf] at bracket ⊢
  by_cases marked : '@' ∈ netloc
  · obtain ⟨front, last, rfl, outside⟩ := exists_rpartition marked
    have inside : '@' ∉ last.rdropWhile Text.isSpace := fun member => outside ((List.rdropWhile_prefix _ _).subset member)
    have around : strip (front ++ '@' :: last) = front.dropWhile Text.isSpace ++ '@' :: last.rdropWhile Text.isSpace :=
      Text.trimBoth_around rfl
    rw [rpartition_append front outside] at checked
    rw [around, if_pos (by simp), rpartition_append _ inside] at bracket ⊢
    have begins := first checked ((List.rdropWhile_prefix _ _).subset (mem_of_strip bracket))
    obtain ⟨rest, rfl⟩ := List.head?_eq_some_iff.mp begins
    have trimmed : ('[' :: rest).rdropWhile Text.isSpace = '[' :: rest.rdropWhile Text.isSpace := by
      have kept : Text.trimBoth Text.isSpace ([] ++ '[' :: rest) = _ := Text.trimBoth_around rfl
      rw [Text.trimBoth_eq, List.nil_append, List.dropWhile_cons_of_neg (by decide)] at kept
      exact kept
    dsimp only at bracket ⊢
    rw [trimmed] at bracket ⊢
    rw [head_strip (by simp [Text.isSpace])]
    rfl
  · have plain : ¬ (strip netloc).contains '@' = true := fun inside => marked (mem_of_strip (List.contains_iff_mem.mp inside))
    rw [if_neg plain, strip_strip] at bracket ⊢
    rw [rpartition_absent marked] at checked
    have begins := first checked (mem_of_strip bracket)
    rw [head_strip, begins]
    intro c its
    rw [begins] at its
    rw [← Option.some.inj its]
    rfl

theorem checkNetloc_normalized {normalized : List Char} (checked : checkNetloc unicode netloc = true)
    (done : normalizeNetloc unicode netloc = some normalized) :
    checkNetloc unicode normalized = true ↔ ('[' ∈ netloc → checkHostinfo unicode (bareHost (hostportIn netloc)) = true) := by
  simp only [checkNetloc, Bool.and_eq_true, beq_iff_eq, Bool.or_eq_true, Bool.not_eq_true'] at checked ⊢
  obtain ⟨⟨matching, brackets⟩, safe⟩ := checked
  have opens : normalized.contains '[' = netloc.contains '[' := by
    rw [Bool.eq_iff_iff, List.contains_iff_mem, List.contains_iff_mem]
    exact ⟨subset_netloc done, fun member => keeps_netloc done member rfl (by decide)⟩
  have closes : normalized.contains ']' = netloc.contains ']' := by
    rw [Bool.eq_iff_iff, List.contains_iff_mem, List.contains_iff_mem]
    exact ⟨subset_netloc done, fun member => keeps_netloc done member rfl (by decide)⟩
  have expands : (normalized.all fun c => !unicode.expands c) = true :=
    List.all_eq_true.mpr fun c member => List.all_eq_true.mp safe c (subset_netloc done member)
  -- Brackets and expanding characters are as before; what may differ is the host between the brackets.
  rw [opens, closes, and_iff_left expands, and_iff_right matching]
  cases bracket : netloc.contains '[' with
  | false =>
    have outside : '[' ∉ netloc := by simpa using bracket
    exact iff_of_true (.inl rfl) fun member => absurd member outside
  | true =>
    have inside := List.contains_iff_mem.mp bracket
    have bracketed : checkBracketedNetloc unicode netloc = true := by
      rw [bracket] at brackets
      exact brackets.resolve_left Bool.true_eq_false.mp
    obtain ⟨hostport, normal, outside, rfl⟩ := normalizeNetloc_eq_some done
    rw [checkBracketedNetloc, hostinfo_withUserinfo outside]
    simp only [Bool.true_eq_false, false_or, inside, forall_const]
    cases normal with
    | bare blank => exact Iff.rfl
    | ported has given reads =>
      obtain ⟨before, after, ported⟩ := exists_ported (strip_hostportIn netloc) has
      rw [bareHost, if_pos has, checkHostinfo_append]
      · intro opened
        have first : (hostportIn netloc).head? = some '[' := by
          refine bracket_first bracketed ?_
          have normal : Normal unicode (hostportIn netloc) (bareHost (hostportIn netloc) ++ ':' :: portOf (hostportIn netloc)) :=
            .ported has given reads
          refine normal.subset (strip_hostportIn netloc) (List.mem_append_left _ ?_)
          rwa [bareHost, if_pos has]
        rw [ported.hostOf_of_bracket first]
        exact ported.closed first
      · intro plain member
        have inner : '[' ∈ hostportIn netloc := by
          rw [ported.whole]
          rw [ported.portOf_eq] at member
          exact List.mem_append_right _ (List.mem_cons_of_mem _ (mem_of_strip member))
        have first := bracket_first bracketed inner
        have begins := ported.head_hostOf.trans (ported.bracket_iff.mp first)
        exact plain (List.mem_of_mem_head? begins)

end Netlocs

section FixedPoints

variable {unicode : Unicode}

structure Read (unicode : Unicode) (parsed : Parsed) : Prop where
  scheme : String.ofList parsed.scheme ∈ proxySchemes
  formed : WellFormed parsed
  checked : checkNetloc unicode parsed.netloc = true

theorem read_of_parse {cleaned : List Char} {parsed : Parsed} (done : parseProxyUrl unicode cleaned = some parsed) :
    Read unicode parsed := by
  have scheme := scheme_of_parse done
  have read {text : List Char} (read : urlparse unicode text = some parsed) : Read unicode parsed := by
    obtain ⟨rfl, checked⟩ := parts_of_urlparse read
    exact ⟨scheme, wellFormed_parts text, checked⟩
  rw [parseProxyUrl, Option.bind_eq_bind, Option.bind_eq_some_iff] at done
  obtain ⟨first, parsing, done⟩ := done
  split at done
  · cases done
    exact read parsing
  · exact read done

theorem Read.label {parsed : Parsed} (read : Read unicode parsed) : IsScheme parsed.scheme := by
  have label := isScheme_of_mem read.scheme
  rwa [String.toList_ofList] at label

theorem Read.lower {parsed : Parsed} (read : Read unicode parsed) : parsed.scheme.map Char.toLower = parsed.scheme := by
  have member := read.scheme
  have all : ∀ scheme ∈ proxySchemes, scheme.toList.map Char.toLower = scheme.toList := by decide +kernel
  have same := all _ member
  rwa [String.toList_ofList] at same

theorem normalize_eq_some {url normalized : List Char} (accepted : normalizeDownloadProxyUrl unicode url = some normalized)
    (given : strip url ≠ []) : ∃ parsed netloc, parseProxyUrl unicode (strip url) = some parsed ∧
      normalizeNetloc unicode parsed.netloc = some netloc ∧ normalized = urlunparse { parsed with netloc } := by
  rw [normalizeDownloadProxyUrl, if_neg (by simpa using given)] at accepted
  obtain ⟨parsed, read, accepted⟩ := Option.bind_eq_some_iff.mp accepted
  obtain ⟨netloc, done, accepted⟩ := Option.bind_eq_some_iff.mp accepted
  exact ⟨parsed, netloc, read, done, (Option.some.inj accepted).symm⟩

theorem given_of_normalized {netloc normalized : List Char} (done : normalizeNetloc unicode netloc = some normalized) :
    netloc ≠ [] := by
  rintro rfl
  contradiction

variable {parsed : Parsed} (read : Read unicode parsed) {netloc : List Char}
  (done : normalizeNetloc unicode parsed.netloc = some netloc)

include read done

theorem formed_normalized : WellFormed { parsed with netloc } where
  safe := by
    have safe := read.formed.safe
    simp only [List.forall_mem_cons] at safe ⊢
    exact ⟨fun c member => safe.1 c (subset_netloc done member), safe.2⟩
  netloc c member := read.formed.netloc c (subset_netloc done member)
  rooted _ := read.formed.rooted (given_of_normalized done)
  resource := read.formed.resource
  query := read.formed.query
  params := read.formed.params

omit done in
theorem parts_of_parse {rest : List Char} {again : Parsed}
    (parsing : parseProxyUrl unicode (parsed.scheme ++ ':' :: rest) = some again) :
    again = parts (parsed.scheme ++ ':' :: rest) ∧ checkNetloc unicode again.netloc = true := by
  have scheme : (parts (parsed.scheme ++ ':' :: rest)).scheme = parsed.scheme := by
    rw [scheme_parts read.label, read.lower]
  rw [parseProxyUrl, Option.bind_eq_bind, Option.bind_eq_some_iff] at parsing
  obtain ⟨first, parsing, known⟩ := parsing
  obtain ⟨rfl, checked⟩ := parts_of_urlparse parsing
  rw [scheme, if_pos (List.contains_iff_mem.mpr read.scheme)] at known
  cases known
  exact ⟨rfl, checked⟩

omit done in
theorem strip_labelled (rest : List Char) :
    strip (parsed.scheme ++ ':' :: rest) = parsed.scheme ++ ':' :: rest.rdropWhile Text.isSpace := by
  have plain : parsed.scheme.dropWhile Text.isSpace = parsed.scheme := by
    cases its : parsed.scheme with
    | nil => rfl
    | cons first scheme =>
      have begins := read.label.begins
      rw [its] at begins
      exact List.dropWhile_cons_of_neg (by simp [isSpace_of_isAlpha begins])
  rw [strip, Text.trimBoth_around rfl, plain]

omit done in
theorem length_normalize_le {url normalized rest : List Char} (labelled : strip url = parsed.scheme ++ ':' :: rest)
    (accepted : normalizeDownloadProxyUrl unicode url = some normalized) : normalized.length ≤ (strip url).length := by
  have given : strip url ≠ [] := by
    rw [labelled]
    simp
  obtain ⟨again, netloc, parsing, shorter, rfl⟩ := normalize_eq_some accepted given
  rw [labelled] at parsing
  obtain ⟨rfl, _⟩ := parts_of_parse read parsing
  have hosted := given_of_normalized shorter
  have labels : (parts (parsed.scheme ++ ':' :: rest)).scheme ≠ [] := by
    rw [scheme_parts read.label, read.lower]
    exact read.label.nonempty
  have whole := size_parts_le labels hosted
  have host := (length_normalizeNetloc shorter).trans (length_strip_le _)
  have rooted := (wellFormed_parts (parsed.scheme ++ ':' :: rest)).rooted hosted
  have size : (urlunparse { parts (parsed.scheme ++ ':' :: rest) with netloc }).length ≤
      { parts (parsed.scheme ++ ':' :: rest) with netloc : Parsed }.size := length_urlunparse_le rooted
  rw [labelled]
  refine size.trans (le_trans ?_ whole)
  simp only [Parsed.size, Parsed.resource]
  omega

/-- What is normalized once more comes out the same, exactly where it has no blank at its end and its host is read and left
alone. -/
theorem normalize_again_iff :
    normalizeDownloadProxyUrl unicode (urlunparse { parsed with netloc }) = some (urlunparse { parsed with netloc }) ↔
      strip (urlunparse { parsed with netloc }) = urlunparse { parsed with netloc } ∧ checkNetloc unicode netloc = true ∧
        normalizeNetloc unicode netloc = some netloc := by
  have formed := formed_normalized read done
  obtain ⟨rest, shape⟩ := urlunparse_labelled { parsed with netloc } read.label.nonempty
  have label : parsed.scheme ++ ':' :: rest ≠ [] := by simp
  constructor
  · intro settled
    -- the second pass does not shorten the text, so it strips nothing
    have stripped : strip (urlunparse { parsed with netloc }) = urlunparse { parsed with netloc } := by
      have labelled : strip (urlunparse { parsed with netloc }) = parsed.scheme ++ ':' :: rest.rdropWhile Text.isSpace := by
        rw [shape, strip_labelled read]
      exact Text.trimBoth_of_length (length_normalize_le read labelled settled)
    have given : strip (urlunparse { parsed with netloc }) ≠ [] := by
      rw [stripped, shape]
      exact label
    obtain ⟨again, other, parsing, shorter, same⟩ := normalize_eq_some settled given
    rw [stripped, shape] at parsing
    obtain ⟨rfl, checked⟩ := parts_of_parse read parsing
    rw [← shape] at checked shorter same
    -- without a host the text would read back without one, and be refused
    have hosted : netloc ≠ [] := by
      intro none
      have safe := formed.safe
      rw [List.forall_mem_cons] at safe
      have empty : (parts (urlunparse { parsed with netloc })).netloc = [] :=
        netloc_urlunparse_empty read.label none safe.2 (read.formed.rooted (given_of_normalized done))
      exact given_of_normalized shorter empty
    have back := parts_urlunparse formed hosted read.label read.lower
    rw [back] at checked shorter same
    have read_again : Read unicode { parsed with netloc } := ⟨read.scheme, formed, checked⟩
    have formed_again := formed_normalized read_again shorter
    have back_again : (parts (urlunparse { parsed with netloc := other })).netloc = netloc := by rw [← same, back]
    have kept : other ≠ [] := by
      intro none
      have safe := formed_again.safe
      rw [List.forall_mem_cons] at safe
      have empty : (parts (urlunparse { parsed with netloc := other })).netloc = [] :=
        netloc_urlunparse_empty read.label none safe.2 (formed.rooted hosted)
      exact hosted (back_again.symm.trans empty)
    -- two texts that are equal have equal parts
    have unchanged : other = netloc := by
      have back_other : parts (urlunparse { parsed with netloc := other }) = { parsed with netloc := other } :=
        parts_urlunparse formed_again kept read.label read.lower
      rwa [back_other] at back_again
    rw [unchanged] at shorter
    exact ⟨stripped, checked, shorter⟩
  · rintro ⟨stripped, checked, settled⟩
    have hosted := given_of_normalized settled
    have back : parts (urlunparse { parsed with netloc }) = { parsed with netloc } :=
      parts_urlunparse formed hosted read.label read.lower
    have parsing : parseProxyUrl unicode (urlunparse { parsed with netloc }) = some { parsed with netloc } := by
      rw [parseProxyUrl, urlparse, back, if_pos checked, Option.bind_eq_bind, Option.bind_some,
        if_pos (List.contains_iff_mem.mpr read.scheme)]
    rw [normalizeDownloadProxyUrl, stripped, if_neg (by rw [shape]; simp), parsing, Option.bind_eq_bind,
      Option.bind_some, settled]
    rfl

end FixedPoints

end Normalize

def asciiUnicode : Unicode where
  ipv6 text := text.all fun c => isHexDigit c || c == ':' || c == '.'
  expands _ := false
  decimal c := c.isDigit

end IdigestHub.Settings
