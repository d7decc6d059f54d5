import IdigestHub.Foundation.Ascii
import IdigestHub.Foundation.Text
import Mathlib.Data.List.TakeWhile

/-! `urllib.parse`: a URL is taken apart by the first of the delimiters in its text, and put together again. Texts are lists of
characters here. -/

set_option autoImplicit false

namespace Foundation.Urls

open Text

/-- What is taken from other modules of the language: the IPv6 addresses of `ipaddress`, the characters beyond ASCII whose NFKC
form holds one of `/?#@:`, and the decimal digits. None of the five takes part in a composition, so that the NFKC form of a text
holds one of them exactly where that of a character does. -/
structure Unicode where
  ipv6 : List Char → Bool
  expands : Char → Bool
  decimal : Char → Bool

structure Parsed where
  scheme : List Char
  netloc : List Char
  path : List Char
  params : List Char
  query : List Char
  fragment : List Char
  deriving DecidableEq

def c0OrSpace (c : Char) : Bool := c.toNat ≤ 32

def unsafeChar (c : Char) : Bool := c == '\t' || c == '\r' || c == '\n'

def schemeChar (c : Char) : Bool := c.isAlphanum || c == '+' || c == '-' || c == '.'

def netlocEnd (c : Char) : Bool := c == '/' || c == '?' || c == '#'

def usesParams : List String :=
  ["", "ftp", "hdl", "prospero", "http", "imap", "https", "shttp", "rtsp", "rtsps", "rtspu", "sip", "sips", "mms", "sftp", "tel"]

def usesNetloc : List String :=
  ["", "ftp", "http", "gopher", "nntp", "telnet", "imap", "wais", "file", "mms", "https", "shttp", "snews", "prospero", "rtsp",
    "rtsps", "rtspu", "rsync", "svn", "svn+ssh", "sftp", "nfs", "git", "git+ssh", "ws", "wss", "itms-services"]

def sanitize (text : List Char) : List Char := (text.dropWhile c0OrSpace).filter fun c => !unsafeChar c

def cut (c : Char) (text : List Char) : List Char × List Char :=
  (text.takeWhile (· != c), (text.dropWhile (· != c)).tail)

def cutLast (c : Char) (text : List Char) : List Char × List Char :=
  ((text.reverse.dropWhile (· != c)).reverse, (text.reverse.takeWhile (· != c)).reverse)

/-- `text.rpartition(c)` without the separator: nothing comes before it where there is none. -/
def rpartition (c : Char) (text : List Char) : List Char × List Char :=
  ((text.reverse.dropWhile (· != c)).tail.reverse, (text.reverse.takeWhile (· != c)).reverse)

def splitScheme (url : List Char) : List Char × List Char :=
  let (before, rest) := cut ':' url
  if url.contains ':' && before.head?.any Char.isAlpha && before.all schemeChar then
    (before.map Char.toLower, rest) else ([], url)

def splitNetloc (url : List Char) : List Char × List Char :=
  if "//".toList.isPrefixOf url then
    ((url.drop 2).takeWhile fun c => !netlocEnd c, (url.drop 2).dropWhile fun c => !netlocEnd c)
  else ([], url)

def splitParams (url : List Char) : List Char × List Char :=
  let (front, last) := cutLast '/' url
  (front ++ (cut ';' last).1, (cut ';' last).2)

def splitResource (scheme url : List Char) : List Char × List Char :=
  if usesParams.contains (String.ofList scheme) then splitParams url else (url, [])

section Parse

variable (unicode : Unicode)

def isHexDigit (c : Char) : Bool := c.isDigit || ('a' ≤ c && c ≤ 'f') || ('A' ≤ c && c ≤ 'F')

/-- An IPvFuture address, or an IPv6 address, which has colons. -/
def checkBracketedHost : List Char → Bool
  | 'v' :: version =>
    match version.dropWhile isHexDigit with
    | '.' :: _ :: _ => version.head?.any isHexDigit
    | _ => false
  | hostname => hostname.contains ':' && unicode.ipv6 hostname

/-- The host and the port, behind the last `@`. -/
def hostinfo (netloc : List Char) : List Char := (rpartition '@' netloc).2

def checkHostinfo (hostinfo : List Char) : Bool :=
  if hostinfo.contains '[' then
    let (before, bracketed) := cut '[' hostinfo
    let (hostname, port) := cut ']' bracketed
    before.isEmpty && (port.isEmpty || port.head? == some ':') && checkBracketedHost unicode hostname
  else checkBracketedHost unicode (cut ':' hostinfo).1

def checkBracketedNetloc (netloc : List Char) : Bool := checkHostinfo unicode (hostinfo netloc)

def checkNetloc (netloc : List Char) : Bool :=
  netloc.contains '[' == netloc.contains ']' && (!netloc.contains '[' || checkBracketedNetloc unicode netloc) &&
    netloc.all fun c => !unicode.expands c

def afterNetloc (text : List Char) : List Char := (splitNetloc (splitScheme (sanitize text)).2).2

def resourceOf (text : List Char) : List Char := (cut '?' (cut '#' (afterNetloc text)).1).1

/-- The parts of a text, whatever stands for its `netloc`. -/
def parts (text : List Char) : Parsed where
  scheme := (splitScheme (sanitize text)).1
  netloc := (splitNetloc (splitScheme (sanitize text)).2).1
  path := (splitResource (splitScheme (sanitize text)).1 (resourceOf text)).1
  params := (splitResource (splitScheme (sanitize text)).1 (resourceOf text)).2
  query := (cut '?' (cut '#' (afterNetloc text)).1).2
  fragment := (cut '#' (afterNetloc text)).2

/-- `none` is a `ValueError`. -/
def urlparse (text : List Char) : Option Parsed :=
  if checkNetloc unicode (parts text).netloc then some (parts text) else none

end Parse

def opened (netloc url : List Char) (scheme : List Char) : List Char :=
  if !netloc.isEmpty then "//".toList ++ netloc ++ (if url.isEmpty || url.head? == some '/' then url else '/' :: url)
  else if "//".toList.isPrefixOf url then "//".toList ++ url
  else if !scheme.isEmpty && usesNetloc.contains (String.ofList scheme) && (url.isEmpty || url.head? == some '/') then
    "//".toList ++ url
  else url

def labelled (scheme url : List Char) : List Char := if scheme.isEmpty then url else scheme ++ ':' :: url

def delimited (c : Char) (part : List Char) : List Char := if part.isEmpty then [] else c :: part

def urlunparse (parsed : Parsed) : List Char :=
  labelled parsed.scheme (opened parsed.netloc (parsed.path ++ delimited ';' parsed.params) parsed.scheme) ++
    delimited '?' parsed.query ++ delimited '#' parsed.fragment

/-- `int(text)` does not raise. -/
def readsInt (unicode : Unicode) (text : List Char) : Bool :=
  let digits := match trimBoth isSpace text with
    | '+' :: rest => rest
    | '-' :: rest => rest
    | rest => rest
  (digits.splitOn '_').all (fun group => !group.isEmpty && group.all unicode.decimal) &&
    (digits.filter (· != '_')).length ≤ 4300

theorem cut_append {c : Char} {before : List Char} (outside : c ∉ before) (after : List Char) :
    cut c (before ++ c :: after) = (before, after) := by
  have passes : ∀ x ∈ before, (x != c) = true := fun x member => bne_iff_ne.mpr fun same => outside (same ▸ member)
  rw [cut, List.takeWhile_append_of_pos passes, List.dropWhile_append_of_pos passes]
  simp

/-- A letter, and letters, digits and `+-.` behind it. -/
structure IsScheme (scheme : List Char) : Prop where
  begins : scheme.head?.any Char.isAlpha = true
  holds : scheme.all schemeChar = true

section Schemes

variable {scheme : List Char} (valid : IsScheme scheme) (rest : List Char)

include valid

/-- A scheme is read back as it stands in lower case. -/
theorem splitScheme_append : splitScheme (scheme ++ ':' :: rest) = (scheme.map Char.toLower, rest) := by
  have outside : ':' ∉ scheme := fun member => absurd (List.all_eq_true.mp valid.holds _ member) (by decide)
  rw [splitScheme, cut_append outside]
  simp [valid.begins, valid.holds]

theorem sanitize_append : sanitize (scheme ++ ':' :: rest) = scheme ++ ':' :: rest.filter fun c => !unsafeChar c := by
  obtain ⟨begins, holds⟩ := valid
  have kept : scheme.filter (fun c => !unsafeChar c) = scheme := by
    refine List.filter_eq_self.mpr fun c member => ?_
    have holds := List.all_eq_true.mp holds c member
    by_contra is_unsafe
    simp only [Bool.not_eq_true', Bool.not_eq_false, unsafeChar, Bool.or_eq_true, beq_iff_eq] at is_unsafe
    rcases is_unsafe with (rfl | rfl) | rfl <;> contradiction
  have first : (scheme ++ ':' :: rest).dropWhile c0OrSpace = scheme ++ ':' :: rest := by
    cases scheme with
    | nil => contradiction
    | cons c scheme =>
      have letter : ¬ c0OrSpace c := by
        intro low
        have alpha : c.isAlpha = true := begins
        have low : c.toNat ≤ 32 := of_decide_eq_true low
        have range := isAlpha_iff.mp alpha
        rw [isUpper_iff, isLower_iff] at range
        omega
      rw [List.cons_append, List.dropWhile_cons_of_neg letter]
  rw [sanitize, first, List.filter_append, kept, List.filter_cons_of_pos (by decide)]

theorem scheme_parts : (parts (scheme ++ ':' :: rest)).scheme = scheme.map Char.toLower := by
  rw [parts, sanitize_append valid, splitScheme_append valid]

omit valid in
theorem parts_of_urlparse {unicode : Unicode} {text : List Char} {parsed : Parsed} (read : urlparse unicode text = some parsed) :
    parsed = parts text ∧ checkNetloc unicode parsed.netloc = true := by
  rw [urlparse] at read
  split at read
  · cases read
    exact ⟨rfl, ‹_›⟩
  · contradiction

theorem scheme_of_urlparse {unicode : Unicode} {parsed : Parsed} (read : urlparse unicode (scheme ++ ':' :: rest) = some parsed) :
    parsed.scheme = scheme.map Char.toLower := by
  rw [(parts_of_urlparse read).1, scheme_parts valid]

end Schemes

theorem urlunparse_labelled (parsed : Parsed) (labels : parsed.scheme ≠ []) :
    ∃ rest, urlunparse parsed = parsed.scheme ++ ':' :: rest := by
  rw [urlunparse, labelled, if_neg (by simpa using labels)]
  exact ⟨_, by rw [List.append_assoc, List.append_assoc, List.cons_append]⟩

theorem span_append {p : Char → Bool} {front back : List Char} (inside : ∀ c ∈ front, p c = true)
    (stops : ∀ c ∈ back.head?, p c = false) :
    (front ++ back).takeWhile p = front ∧ (front ++ back).dropWhile p = back := by
  rw [List.takeWhile_append_of_pos inside, List.dropWhile_append_of_pos inside]
  cases back with
  | nil => exact ⟨List.append_nil _, rfl⟩
  | cons first back =>
    have stop : ¬ p first = true := by simp [stops first rfl]
    rw [List.takeWhile_cons_of_neg stop, List.dropWhile_cons_of_neg stop]
    exact ⟨List.append_nil _, rfl⟩

section Cuts

variable {c : Char} {text : List Char}

theorem cut_delimited (outside : c ∉ text) (part : List Char) : cut c (text ++ delimited c part) = (text, part) := by
  cases part with
  | nil =>
    have passes : ∀ x ∈ text, (x != c) = true := fun x member => bne_iff_ne.mpr fun same => outside (same ▸ member)
    rw [delimited, List.isEmpty_nil, if_pos rfl, List.append_nil, cut, List.takeWhile_eq_self_iff.mpr passes,
      List.dropWhile_eq_nil_iff.mpr passes]
    rfl
  | cons first part => exact cut_append outside (first :: part)

theorem not_mem_cut (text : List Char) : c ∉ (cut c text).1 := by
  intro member
  have passes := List.mem_takeWhile_imp member
  simp at passes

theorem cut_fst_sublist (text : List Char) : (cut c text).1.Sublist text := (List.takeWhile_prefix _).sublist

theorem cut_snd_sublist (text : List Char) : (cut c text).2.Sublist text :=
  (List.tail_sublist _).trans (List.dropWhile_suffix _).sublist

/-- A delimiter that nothing follows is the only character that is lost. -/
theorem cut_delimited_sublist (text : List Char) : ((cut c text).1 ++ delimited c (cut c text).2).Sublist text := by
  conv => rhs; rw [← List.takeWhile_append_dropWhile (p := (· != c)) (l := text)]
  refine (List.Sublist.refl _).append ?_
  rw [delimited, cut]
  cases its : text.dropWhile (· != c) with
  | nil => exact List.Sublist.refl _
  | cons first rest =>
    have stops : first = c := by
      have nonempty : text.dropWhile (· != c) ≠ [] := by rw [its]; exact List.cons_ne_nil _ _
      have here := List.head_dropWhile_not (· != c) nonempty
      simpa [its] using here
    rw [stops]
    split
    · exact List.nil_sublist _
    · exact List.Sublist.refl _

theorem cutLast_whole (text : List Char) : (cutLast c text).1 ++ (cutLast c text).2 = text := by
  rw [cutLast, ← List.reverse_append, List.takeWhile_append_dropWhile, List.reverse_reverse]

theorem not_mem_cutLast (text : List Char) : c ∉ (cutLast c text).2 := by
  intro member
  have passes := List.mem_takeWhile_imp (List.mem_reverse.mp member)
  simp at passes

theorem cutLast_append (text : List Char) {last : List Char} (outside : c ∉ last) :
    cutLast c ((cutLast c text).1 ++ last) = ((cutLast c text).1, last) := by
  have passes : ∀ x ∈ last.reverse, (x != c) = true := fun x member =>
    bne_iff_ne.mpr fun same => outside (same ▸ List.mem_reverse.mp member)
  have kept : (text.reverse.dropWhile (· != c)).takeWhile (· != c) = [] ∧
      (text.reverse.dropWhile (· != c)).dropWhile (· != c) = text.reverse.dropWhile (· != c) := by
    cases its : text.reverse.dropWhile (· != c) with
    | nil => exact ⟨rfl, rfl⟩
    | cons first rest =>
      have stops : ¬ (first != c) = true := by
        have nonempty : text.reverse.dropWhile (· != c) ≠ [] := by rw [its]; exact List.cons_ne_nil _ _
        have here := List.head_dropWhile_not (· != c) nonempty
        simpa [its] using here
      exact ⟨List.takeWhile_cons_of_neg stops, List.dropWhile_cons_of_neg stops⟩
  simp only [cutLast, List.reverse_append, List.reverse_reverse, List.takeWhile_append_of_pos passes,
    List.dropWhile_append_of_pos passes, kept.1, kept.2, List.append_nil]

theorem rpartition_append (text : List Char) {last : List Char} (outside : c ∉ last) :
    rpartition c (text ++ c :: last) = (text, last) := by
  have passes : ∀ x ∈ last.reverse, (x != c) = true := fun x member =>
    bne_iff_ne.mpr fun same => outside (same ▸ List.mem_reverse.mp member)
  have stops : ∀ x ∈ (c :: text.reverse).head?, (x != c) = false := by
    intro x first
    rw [← Option.some.inj first, bne_self_eq_false]
  have span := span_append passes stops
  rw [rpartition, List.reverse_append, List.reverse_cons, List.append_assoc, List.singleton_append, span.1, span.2]
  simp

theorem rpartition_absent (outside : c ∉ text) : rpartition c text = ([], text) := by
  have passes : ∀ x ∈ text.reverse, (x != c) = true := fun x member =>
    bne_iff_ne.mpr fun same => outside (same ▸ List.mem_reverse.mp member)
  rw [rpartition, List.takeWhile_eq_self_iff.mpr passes, List.dropWhile_eq_nil_iff.mpr passes, List.reverse_reverse]
  rfl

theorem cut_absent (outside : c ∉ text) : cut c text = (text, []) := by
  have alone := cut_delimited outside []
  rwa [delimited, List.isEmpty_nil, if_pos rfl, List.append_nil] at alone

theorem cut_append_of_mem (member : c ∈ text) (after : List Char) :
    cut c (text ++ after) = ((cut c text).1, (cut c text).2 ++ after) := by
  obtain ⟨front, back, rfl, outside⟩ := List.eq_append_cons_of_mem member
  rw [List.append_assoc, List.cons_append, cut_append outside, cut_append outside]

theorem exists_rpartition (member : c ∈ text) : ∃ front last, text = front ++ c :: last ∧ c ∉ last := by
  obtain ⟨back, front, whole, outside⟩ := List.eq_append_cons_of_mem (List.mem_reverse.mpr member)
  refine ⟨front.reverse, back.reverse, ?_, fun inside => outside (List.mem_reverse.mp inside)⟩
  rw [← List.reverse_reverse text, whole]
  simp

end Cuts

def Parsed.resource (parsed : Parsed) : List Char := parsed.path ++ delimited ';' parsed.params

def Parsed.tail (parsed : Parsed) : List Char :=
  parsed.resource ++ delimited '?' parsed.query ++ delimited '#' parsed.fragment

theorem splitParams_eq (url : List Char) : splitParams url =
    ((cutLast '/' url).1 ++ (cut ';' (cutLast '/' url).2).1, (cut ';' (cutLast '/' url).2).2) := rfl

/-- Empty parameters are left out, and read back as empty. -/
theorem splitParams_resource (url : List Char) :
    splitParams ((splitParams url).1 ++ delimited ';' (splitParams url).2) = splitParams url := by
  have outside {last : List Char} (part : last.Sublist (cutLast '/' url).2) : '/' ∉ last :=
    fun member => not_mem_cutLast url (part.subset member)
  have last : ((cut ';' (cutLast '/' url).2).1 ++ delimited ';' (cut ';' (cutLast '/' url).2).2).Sublist (cutLast '/' url).2 :=
    cut_delimited_sublist _
  rw [splitParams_eq url]
  dsimp only
  rw [List.append_assoc, splitParams_eq, cutLast_append url (outside last)]
  dsimp only
  rw [cut_delimited (not_mem_cut _)]

/-- What a parser makes of a text, and what `urlunparse` puts together. -/
structure WellFormed (parsed : Parsed) : Prop where
  safe : ∀ part ∈ [parsed.netloc, parsed.resource, parsed.query, parsed.fragment], ∀ c ∈ part, unsafeChar c = false
  netloc : ∀ c ∈ parsed.netloc, netlocEnd c = false
  rooted : parsed.netloc ≠ [] → parsed.resource = [] ∨ parsed.resource.head? = some '/'
  resource : '?' ∉ parsed.resource ∧ '#' ∉ parsed.resource
  query : '#' ∉ parsed.query
  params : splitResource parsed.scheme parsed.resource = (parsed.path, parsed.params)

theorem splitScheme_sublist (url : List Char) : (splitScheme url).2.Sublist url := by
  rw [splitScheme]
  dsimp only
  split
  · exact cut_snd_sublist url
  · exact List.Sublist.refl _

theorem splitNetloc_sublist (url : List Char) : ((splitNetloc url).1 ++ (splitNetloc url).2).Sublist url := by
  rw [splitNetloc]
  split
  · rw [List.takeWhile_append_dropWhile]
    exact List.drop_sublist 2 url
  · exact List.Sublist.refl _

theorem splitNetloc_safe (url : List Char) : ∀ c ∈ (splitNetloc url).1, netlocEnd c = false := by
  intro c member
  rw [splitNetloc] at member
  split at member
  · simpa using List.mem_takeWhile_imp member
  · simp at member

theorem stops_dropWhile (p : Char → Bool) (text : List Char) : ∀ c ∈ (text.dropWhile p).head?, p c = false := by
  intro c first
  have stops := List.head?_dropWhile_not p text
  rwa [Option.mem_def.mp first] at stops

/-- Behind a host stands a path, a query, a fragment, or nothing. -/
theorem splitNetloc_stops (url : List Char) (given : (splitNetloc url).1 ≠ []) :
    ∀ c ∈ (splitNetloc url).2.head?, netlocEnd c = true := by
  intro c first
  rw [splitNetloc] at given first
  split at first
  · simpa using stops_dropWhile _ _ c first
  · rename_i plain
    rw [if_neg plain] at given
    contradiction

theorem splitParams_sublist (url : List Char) :
    ((splitParams url).1 ++ delimited ';' (splitParams url).2).Sublist url := by
  have last : ((cut ';' (cutLast '/' url).2).1 ++ delimited ';' (cut ';' (cutLast '/' url).2).2).Sublist (cutLast '/' url).2 :=
    cut_delimited_sublist _
  conv => rhs; rw [← cutLast_whole (c := '/') url]
  rw [splitParams_eq, List.append_assoc]
  exact (List.Sublist.refl _).append last

theorem splitParams_rooted {url : List Char} (rooted : url.head? = some '/') :
    ((splitParams url).1 ++ delimited ';' (splitParams url).2).head? = some '/' := by
  have front : (cutLast '/' url).1 ≠ [] := by
    intro none
    have whole := cutLast_whole (c := '/') url
    rw [none, List.nil_append] at whole
    have outside := not_mem_cutLast (c := '/') url
    rw [whole] at outside
    exact outside (List.mem_of_mem_head? rooted)
  rw [splitParams_eq, List.append_assoc, List.head?_append_of_ne_nil _ front, ← rooted]
  conv => rhs; rw [← cutLast_whole (c := '/') url, List.head?_append_of_ne_nil _ front]

section Resources

variable (scheme url : List Char)

/-- The path and the parameters, joined again. -/
def rejoined : List Char := (splitResource scheme url).1 ++ delimited ';' (splitResource scheme url).2

theorem rejoined_eq : rejoined scheme url = url ∨
    usesParams.contains (String.ofList scheme) = true ∧
      rejoined scheme url = (splitParams url).1 ++ delimited ';' (splitParams url).2 := by
  rw [rejoined, splitResource]
  split
  · exact .inr ⟨‹_›, rfl⟩
  · exact .inl (List.append_nil _)

theorem rejoined_sublist : (rejoined scheme url).Sublist url := by
  rcases rejoined_eq scheme url with same | ⟨_, same⟩
  · rw [same]
  · rw [same]
    exact splitParams_sublist url

theorem splitResource_rejoined : splitResource scheme (rejoined scheme url) = splitResource scheme url := by
  rcases rejoined_eq scheme url with same | ⟨uses, same⟩
  · rw [same]
  · rw [same, splitResource, splitResource, if_pos uses, if_pos uses, splitParams_resource]

theorem rejoined_rooted (rooted : url = [] ∨ url.head? = some '/') :
    rejoined scheme url = [] ∨ (rejoined scheme url).head? = some '/' := by
  rcases rejoined_eq scheme url with same | ⟨_, same⟩
  · rwa [same]
  · rcases rooted with rfl | rooted
    · exact .inl (same ▸ rfl)
    · exact .inr (same ▸ splitParams_rooted rooted)

end Resources

theorem cut_head {c first : Char} {text : List Char} (begins : (cut c text).1.head? = some first) : text.head? = some first := by
  cases text with
  | nil => contradiction
  | cons x text =>
    rw [cut, List.takeWhile_cons] at begins
    split at begins
    · exact begins
    · contradiction

theorem resourceOf_rooted (text : List Char) (given : (parts text).netloc ≠ []) :
    resourceOf text = [] ∨ (resourceOf text).head? = some '/' := by
  cases its : (resourceOf text).head? with
  | none => exact .inl (List.head?_eq_none_iff.mp its)
  | some first =>
    -- What follows the host starts with one of its three ends, and the other two have been cut off.
    right
    have begins := splitNetloc_stops _ given first (cut_head (cut_head its))
    have member := List.mem_of_mem_head? its
    have query : first ≠ '?' := fun same => not_mem_cut _ (same ▸ member)
    have fragment : first ≠ '#' := fun same => not_mem_cut _ ((cut_fst_sublist _).subset (same ▸ member))
    simp only [netlocEnd, Bool.or_eq_true, beq_iff_eq, query, fragment, or_false] at begins
    rw [begins]

theorem sanitize_safe (text : List Char) : ∀ c ∈ sanitize text, unsafeChar c = false := by
  intro c member
  simpa using (List.mem_filter.mp member).2

section Places

variable (text : List Char)

theorem resource_parts : (parts text).resource = rejoined (parts text).scheme (resourceOf text) := rfl

theorem query_parts : (parts text).query = (cut '?' (cut '#' (afterNetloc text)).1).2 := rfl

theorem fragment_parts : (parts text).fragment = (cut '#' (afterNetloc text)).2 := rfl

theorem netloc_sublist : (parts text).netloc.Sublist (sanitize text) :=
  ((List.sublist_append_left ..).trans (splitNetloc_sublist _)).trans (splitScheme_sublist _)

theorem afterNetloc_sublist : (afterNetloc text).Sublist (sanitize text) :=
  ((List.sublist_append_right ..).trans (splitNetloc_sublist _)).trans (splitScheme_sublist _)

theorem resource_sublist : (parts text).resource.Sublist (cut '#' (afterNetloc text)).1 := by
  rw [resource_parts]
  exact (rejoined_sublist _ _).trans (cut_fst_sublist _)

theorem wellFormed_parts : WellFormed (parts text) where
  safe := by
    have safe {part : List Char} (inside : part.Sublist (sanitize text)) (c : Char) (member : c ∈ part) : unsafeChar c = false :=
      sanitize_safe text c (inside.subset member)
    have before := (cut_fst_sublist (c := '#') (afterNetloc text)).trans (afterNetloc_sublist text)
    simp only [List.forall_mem_cons, List.not_mem_nil, IsEmpty.forall_iff, implies_true, and_true]
    refine ⟨safe (netloc_sublist text), safe ((resource_sublist text).trans before), ?_, ?_⟩
    · rw [query_parts]
      exact safe ((cut_snd_sublist _).trans before)
    · rw [fragment_parts]
      exact safe ((cut_snd_sublist _).trans (afterNetloc_sublist text))
  netloc := splitNetloc_safe _
  rooted given := by
    rw [resource_parts]
    exact rejoined_rooted _ _ (resourceOf_rooted text given)
  resource := by
    constructor
    · intro member
      rw [resource_parts] at member
      exact not_mem_cut _ ((rejoined_sublist _ _).subset member)
    · exact fun member => not_mem_cut _ ((resource_sublist text).subset member)
  query := by
    rw [query_parts]
    exact fun member => not_mem_cut _ ((cut_snd_sublist _).subset member)
  params := by
    rw [resource_parts, splitResource_rejoined]
    rfl

end Places

theorem head_delimited {c first : Char} {part : List Char} (begins : (delimited c part).head? = some first) : first = c := by
  rw [delimited] at begins
  split at begins
  · contradiction
  · exact (Option.some.inj begins).symm

theorem IsScheme.nonempty {scheme : List Char} (label : IsScheme scheme) : scheme ≠ [] := by
  rintro rfl
  exact absurd label.begins (by decide)

theorem tail_stops {parsed : Parsed} (rooted : parsed.resource = [] ∨ parsed.resource.head? = some '/') :
    ∀ c ∈ parsed.tail.head?, netlocEnd c = true := by
  intro c first
  rw [Parsed.tail] at first
  rcases rooted with none | rooted
  · rw [none, List.nil_append, List.head?_append, Option.mem_def, Option.or_eq_some_iff] at first
    rcases first with query | ⟨_, fragment⟩
    · rw [head_delimited query]
      rfl
    · rw [head_delimited fragment]
      rfl
  · rw [List.append_assoc, List.head?_append, rooted] at first
    rw [← Option.some.inj first]
    rfl

theorem safe_delimited {c : Char} {part : List Char} (mark : unsafeChar c = false) (safe : ∀ x ∈ part, unsafeChar x = false) :
    ∀ x ∈ delimited c part, unsafeChar x = false := by
  rw [delimited]
  split
  · simp
  · exact List.forall_mem_cons.mpr ⟨mark, safe⟩

theorem sanitize_of_safe {scheme rest : List Char} (label : IsScheme scheme) (safe : ∀ c ∈ rest, unsafeChar c = false) :
    sanitize (scheme ++ ':' :: rest) = scheme ++ ':' :: rest := by
  rw [sanitize_append label, List.filter_eq_self.mpr]
  intro c member
  rw [safe c member]
  rfl

section RoundTrip

variable {parsed : Parsed} (formed : WellFormed parsed) (given : parsed.netloc ≠ [])

include formed given

/-- What follows the host of a URL that is put together. -/
theorem urlunparse_eq (labels : parsed.scheme ≠ []) :
    urlunparse parsed = parsed.scheme ++ ':' :: ("//".toList ++ (parsed.netloc ++ parsed.tail)) := by
  have rooted : (if parsed.resource.isEmpty || parsed.resource.head? == some '/' then parsed.resource
      else '/' :: parsed.resource) = parsed.resource := by
    rw [if_pos]
    rcases formed.rooted given with none | rooted
    · simp [none]
    · simp [rooted]
  rw [Parsed.resource] at rooted
  rw [urlunparse, labelled, if_neg (by simpa using labels), opened, if_pos (by simpa using given), rooted]
  simp only [Parsed.tail, Parsed.resource, List.append_assoc, List.cons_append]

theorem splitNetloc_joined : splitNetloc ("//".toList ++ (parsed.netloc ++ parsed.tail)) = (parsed.netloc, parsed.tail) := by
  have inside : ∀ c ∈ parsed.netloc, (!netlocEnd c) = true := fun c member => by rw [formed.netloc c member]; rfl
  have stops : ∀ c ∈ parsed.tail.head?, (!netlocEnd c) = false := fun c first => by
    rw [tail_stops (formed.rooted given) c first]
    rfl
  have span := span_append inside stops
  rw [splitNetloc, if_pos (by simp)]
  exact Prod.ext span.1 span.2

theorem sanitize_joined (label : IsScheme parsed.scheme) : sanitize (urlunparse parsed) = urlunparse parsed := by
  obtain ⟨netloc, resource, query, fragment, _⟩ := by simpa only [List.forall_mem_cons] using formed.safe
  rw [urlunparse_eq formed given label.nonempty]
  refine sanitize_of_safe label fun c member => ?_
  simp only [Parsed.tail, List.mem_append] at member
  rcases member with slash | member | (member | member) | member
  · have slashes : c = '/' := by simpa using slash
    rw [slashes]
    rfl
  · exact netloc c member
  · exact resource c member
  · exact safe_delimited rfl query c member
  · exact safe_delimited rfl fragment c member

/-- A URL that is put together from its parts is taken apart into them again. -/
theorem parts_urlunparse (label : IsScheme parsed.scheme) (lower : parsed.scheme.map Char.toLower = parsed.scheme) :
    parts (urlunparse parsed) = parsed := by
  have fragment : '#' ∉ parsed.resource ++ delimited '?' parsed.query := by
    rw [delimited]
    split
    · simpa using formed.resource.2
    · simpa using ⟨formed.resource.2, formed.query⟩
  have scheme : splitScheme (sanitize (urlunparse parsed)) = (parsed.scheme, "//".toList ++ (parsed.netloc ++ parsed.tail)) := by
    rw [sanitize_joined formed given label, urlunparse_eq formed given label.nonempty, splitScheme_append label, lower]
  have after : cut '#' parsed.tail = (parsed.resource ++ delimited '?' parsed.query, parsed.fragment) := cut_delimited fragment _
  simp only [parts, resourceOf, afterNetloc, scheme, splitNetloc_joined formed given, after,
    cut_delimited formed.resource.1, formed.params]

end RoundTrip

theorem tail_not_double {parsed : Parsed} (rooted : parsed.resource = [] ∨ parsed.resource.head? = some '/')
    (single : ¬ "//".toList.isPrefixOf parsed.resource = true) : ¬ "//".toList.isPrefixOf parsed.tail = true := by
  have marks : ∀ c ∈ (delimited '?' parsed.query ++ delimited '#' parsed.fragment).head?, c ≠ '/' := by
    intro c first
    rw [List.head?_append, Option.mem_def, Option.or_eq_some_iff] at first
    rcases first with query | ⟨_, fragment⟩
    · rw [head_delimited query]
      decide
    · rw [head_delimited fragment]
      decide
  rw [List.isPrefixOf_iff_prefix] at single ⊢
  rw [Parsed.tail, List.append_assoc]
  generalize parsed.resource = resource at rooted single
  rintro ⟨rest, whole⟩
  have whole : '/' :: '/' :: rest = resource ++ (delimited '?' parsed.query ++ delimited '#' parsed.fragment) := whole
  match resource with
  | [] =>
    rw [List.nil_append] at whole
    exact marks '/' (by rw [← whole]; rfl) rfl
  | [first] =>
    have behind : '/' :: rest = delimited '?' parsed.query ++ delimited '#' parsed.fragment := (List.cons.inj whole).2
    exact marks '/' (by rw [← behind]; rfl) rfl
  | first :: second :: resource =>
    obtain ⟨rfl, rest⟩ := List.cons.inj whole
    obtain ⟨rfl, _⟩ := List.cons.inj rest
    exact single ⟨resource, rfl⟩

/-- Without a host, no host is read back. -/
theorem netloc_urlunparse_empty {parsed : Parsed} (label : IsScheme parsed.scheme) (none : parsed.netloc = [])
    (safe : ∀ part ∈ [parsed.resource, parsed.query, parsed.fragment], ∀ c ∈ part, unsafeChar c = false)
    (rooted : parsed.resource = [] ∨ parsed.resource.head? = some '/') : (parts (urlunparse parsed)).netloc = [] := by
  obtain ⟨resource, query, fragment, _⟩ := by simpa only [List.forall_mem_cons] using safe
  have tail : ∀ c ∈ parsed.tail, unsafeChar c = false := by
    intro c member
    simp only [Parsed.tail, List.mem_append] at member
    rcases member with (member | member) | member
    · exact resource c member
    · exact safe_delimited rfl query c member
    · exact safe_delimited rfl fragment c member
  have slashed : splitNetloc ("//".toList ++ parsed.tail) = ([], parsed.tail) := by
    have stops : ∀ c ∈ parsed.tail.head?, (!netlocEnd c) = false := fun c first => by
      rw [tail_stops rooted c first]
      rfl
    have span := @span_append _ [] _ (by simp) stops
    rw [splitNetloc, if_pos (by simp)]
    exact Prod.ext span.1 span.2
  -- `urlunparse` writes `//` here for some schemes and for a resource that begins with it, else nothing.
  obtain ⟨body, whole, safe_body, hostless⟩ : ∃ body, urlunparse parsed = parsed.scheme ++ ':' :: body ∧
      (∀ c ∈ body, unsafeChar c = false) ∧ (splitNetloc body).1 = [] := by
    have joined (front : List Char) (its : opened parsed.netloc parsed.resource parsed.scheme = front ++ parsed.resource) :
        urlunparse parsed = parsed.scheme ++ ':' :: (front ++ parsed.tail) := by
      rw [Parsed.resource] at its
      rw [urlunparse, its, labelled, if_neg (by simpa using label.nonempty)]
      simp only [Parsed.tail, Parsed.resource, List.append_assoc, List.cons_append]
    have slashes : (∀ c ∈ "//".toList ++ parsed.tail, unsafeChar c = false) := by
      intro c member
      rcases List.mem_append.mp member with slash | member
      · have slashes : c = '/' := by simpa using slash
        rw [slashes]
        rfl
      · exact tail c member
    by_cases double : "//".toList.isPrefixOf parsed.resource = true
    · refine ⟨_, joined "//".toList ?_, slashes, by rw [slashed]⟩
      rw [opened, none, if_neg (by simp), if_pos double]
    · cases known : !parsed.scheme.isEmpty && usesNetloc.contains (String.ofList parsed.scheme) &&
          (parsed.resource.isEmpty || parsed.resource.head? == some '/') with
      | true =>
        refine ⟨_, joined "//".toList ?_, slashes, by rw [slashed]⟩
        rw [opened, none, if_neg (by simp), if_neg double, if_pos known]
      | false =>
        refine ⟨_, joined [] ?_, tail, ?_⟩
        · rw [opened, none, if_neg (by simp), if_neg double, if_neg (by rw [known]; exact Bool.false_ne_true), List.nil_append]
        · rw [List.nil_append, splitNetloc, if_neg (tail_not_double rooted double)]
  have read : splitScheme (sanitize (urlunparse parsed)) = (parsed.scheme.map Char.toLower, body) := by
    rw [whole, sanitize_of_safe label safe_body, splitScheme_append label]
  rw [parts, read]
  exact hostless

section Lengths

def Parsed.size (parsed : Parsed) : Nat :=
  parsed.scheme.length + 3 + parsed.netloc.length + parsed.resource.length + (delimited '?' parsed.query).length +
    (delimited '#' parsed.fragment).length

theorem length_splitScheme {url : List Char} (labels : (splitScheme url).1 ≠ []) :
    (splitScheme url).1.length + 1 + (splitScheme url).2.length ≤ url.length := by
  rw [splitScheme] at labels ⊢
  dsimp only at labels ⊢
  split at labels
  · rename_i labelled
    have colon : ':' ∈ url := List.contains_iff_mem.mp (Bool.and_eq_true_iff.mp (Bool.and_eq_true_iff.mp labelled).1).1
    have rest : url.dropWhile (· != ':') ≠ [] := by
      intro none
      have passes := List.dropWhile_eq_nil_iff.mp none ':' colon
      simp at passes
    have whole := congrArg List.length (List.takeWhile_append_dropWhile (p := (· != ':')) (l := url))
    rw [List.length_append, ← List.cons_head_tail rest, List.length_cons] at whole
    rw [if_pos labelled]
    change ((url.takeWhile (· != ':')).map Char.toLower).length + 1 + (url.dropWhile (· != ':')).tail.length ≤ url.length
    rw [List.length_map]
    omega
  · contradiction

theorem length_splitNetloc {url : List Char} (given : (splitNetloc url).1 ≠ []) :
    2 + (splitNetloc url).1.length + (splitNetloc url).2.length = url.length := by
  rw [splitNetloc] at given ⊢
  split at given
  · rename_i slashes
    have long := (List.isPrefixOf_iff_prefix.mp slashes).length_le
    rw [if_pos slashes, Nat.add_assoc, ← List.length_append, List.takeWhile_append_dropWhile, List.length_drop]
    have two : "//".toList.length = 2 := rfl
    omega
  · contradiction

theorem size_parts_le {text : List Char} (labels : (parts text).scheme ≠ []) (given : (parts text).netloc ≠ []) :
    (parts text).size ≤ text.length := by
  have sanitized : (sanitize text).length ≤ text.length :=
    (List.length_filter_le _ _).trans (List.dropWhile_suffix _).length_le
  have scheme : (parts text).scheme.length + 1 + (splitScheme (sanitize text)).2.length ≤ (sanitize text).length :=
    length_splitScheme labels
  have netloc : 2 + (parts text).netloc.length + (afterNetloc text).length = (splitScheme (sanitize text)).2.length :=
    length_splitNetloc given
  have fragment := (cut_delimited_sublist (c := '#') (afterNetloc text)).length_le
  have query := (cut_delimited_sublist (c := '?') (cut '#' (afterNetloc text)).1).length_le
  have resource : (parts text).resource.length ≤ (cut '?' (cut '#' (afterNetloc text)).1).1.length := by
    rw [resource_parts]
    exact (rejoined_sublist (parts text).scheme (resourceOf text)).length_le
  rw [List.length_append] at fragment query
  rw [Parsed.size, query_parts, fragment_parts]
  omega

theorem length_urlunparse_le {parsed : Parsed} (rooted : parsed.resource = [] ∨ parsed.resource.head? = some '/') :
    (urlunparse parsed).length ≤ parsed.size := by
  have slash : (parsed.path ++ delimited ';' parsed.params).isEmpty ||
      (parsed.path ++ delimited ';' parsed.params).head? == some '/' := by
    rw [Parsed.resource] at rooted
    rcases rooted with none | first
    · simp [none]
    · simp [first]
  rw [urlunparse, labelled, opened, if_pos slash, Parsed.size, Parsed.resource]
  split <;> split <;> (try split) <;> (try split) <;> simp <;> omega

end Lengths

theorem checkHostinfo_append {unicode : Unicode} {host port : List Char} (closed : '[' ∈ host → ']' ∈ host)
    (plain : '[' ∉ host → '[' ∉ port) :
    checkHostinfo unicode (host ++ ':' :: port) = checkHostinfo unicode host := by
  by_cases bracket : '[' ∈ host
  · have joined : (host ++ ':' :: port).contains '[' = true := List.contains_iff_mem.mpr (List.mem_append_left _ bracket)
    rw [checkHostinfo, checkHostinfo, if_pos joined, if_pos (List.contains_iff_mem.mpr bracket), cut_append_of_mem bracket]
    dsimp only
    cases its : (cut '[' host).1 with
    | cons first before => rfl
    | nil =>
      obtain ⟨front, inside, rfl, outside⟩ := List.eq_append_cons_of_mem bracket
      rw [cut_append outside] at its ⊢
      obtain rfl : front = [] := its
      have closes : ']' ∈ inside := by simpa using closed bracket
      rw [cut_append_of_mem closes]
      cases (cut ']' inside).2 <;> rfl
  · have joined : ¬ (host ++ ':' :: port).contains '[' = true := by
      simpa using ⟨bracket, plain bracket⟩
    rw [checkHostinfo, checkHostinfo, if_neg joined, if_neg (by simpa using bracket)]
    by_cases colon : ':' ∈ host
    · rw [cut_append_of_mem colon]
    · rw [cut_append colon, cut_absent colon]

end Foundation.Urls
