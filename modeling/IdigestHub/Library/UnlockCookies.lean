import IdigestHub.Foundation.CodePoints
import Mathlib.Algebra.Group.Nat.Defs

/-! The value of the cookie that keeps a public link unlocked, with its signature. -/

set_option autoImplicit false

namespace IdigestHub.Library.UnlockCookies

open Foundation Foundation.CodePoints

/-- The hexadecimal digest under the secret of the server. -/
structure Keyed where
  hexdigest : List Char → List Char
  hex : ∀ text, ∀ c ∈ hexdigest text, c.toNat < 128 ∧ c ≠ '.'

/-- A time as whole seconds of its timestamp, which are few digits. -/
structure Expiry where
  seconds : Int
  within : seconds.natAbs < 10 ^ 12

section Codec

variable (keyed : Keyed)

def hashSecret (raw : Text) : Except Escaped Text :=
  match chars raw with
  | none => .error .unicodeEncodeError
  | some plain => .ok (ofChars (keyed.hexdigest plain))

def dot : Point := .char '.'

def signed (linkId : Text) (ts : Int) : Text := ofChars ['p', 'l', 'u', ':'] ++ linkId ++ ofChars (':' :: Numerals.str ts)

def unlockCookieValue (linkId : Text) (expiresAt : Expiry) : Except Escaped Text := do
  let ts := expiresAt.seconds
  let sig ← hashSecret keyed (signed linkId ts)
  return linkId ++ dot :: ofChars (Numerals.str ts) ++ dot :: sig

def parseUnlockCookie (value : Text) : Except Escaped (Option (Text × Int)) :=
  match value.splitOn dot with
  | [linkId, tsRaw, sig] =>
    if linkId.isEmpty || !isDigit tsRaw then .ok none
    else do
      let ts ← int tsRaw
      let expected ← hashSecret keyed (signed linkId ts)
      let same ← compareDigest sig expected
      if !same then return none
      return some (linkId, ts)
  | _ => .ok none

end Codec

section Parts

theorem splitOn_parts {first second third : Text} (one : dot ∉ first) (two : dot ∉ second) (three : dot ∉ third) :
    (first ++ dot :: second ++ dot :: third).splitOn dot = [first, second, third] := by
  have alone {text : Text} (outside : dot ∉ text) : text.splitOn dot = [text] :=
    List.splitOnP_eq_singleton fun point member => beq_false_of_ne fun same => outside (same ▸ member)
  have cut {text : Text} (outside : dot ∉ text) (rest : Text) : (text ++ dot :: rest).splitOn dot = text :: rest.splitOn dot := by
    rw [List.splitOn_append_cons_self, alone outside]
    rfl
  rw [List.append_assoc, List.cons_append, cut one, cut two, alone three]

theorem parts_of_splitOn {value first second third : Text} (parts : value.splitOn dot = [first, second, third]) :
    value = first ++ dot :: second ++ dot :: third := by
  have joined : [dot].intercalate (value.splitOn dot) = value := List.intercalate_splitOn dot
  rw [← joined, parts]
  simp [List.intercalate]

variable {keyed : Keyed}

theorem hashSecret_ok {raw sig : Text} (hashed : hashSecret keyed raw = .ok sig) : isAscii sig = true ∧ dot ∉ sig := by
  rw [hashSecret] at hashed
  split at hashed
  · contradiction
  · rename_i plain known
    obtain rfl := Except.ok.inj hashed
    refine ⟨(isAscii_ofChars _).mpr fun c member => (keyed.hex _ c member).1, fun member => ?_⟩
    obtain ⟨c, member, same⟩ := List.mem_map.mp member
    exact (keyed.hex _ c member).2 (Point.char.inj same)

/-- A signature is there just for link ids without surrogates. -/
theorem hashSecret_signed (linkId : Text) (ts : Int) :
    (∃ sig, hashSecret keyed (signed linkId ts) = .ok sig) ↔ (chars linkId).isSome = true := by
  rw [hashSecret, signed, chars_append, chars_append, chars_ofChars, chars_ofChars]
  cases chars linkId <;> simp

def check (keyed : Keyed) (linkId tsRaw sig : Text) : Except Escaped (Option (Text × Int)) := do
  let ts ← int tsRaw
  let expected ← hashSecret keyed (signed linkId ts)
  let same ← compareDigest sig expected
  if !same then return none
  return some (linkId, ts)

theorem parse_of_parts {value linkId tsRaw sig : Text} (parts : value.splitOn dot = [linkId, tsRaw, sig]) :
    parseUnlockCookie keyed value = if linkId ≠ [] ∧ isDigit tsRaw = true then check keyed linkId tsRaw sig else .ok none := by
  rw [parseUnlockCookie, parts]
  dsimp only
  by_cases empty : linkId = []
  · simp [empty]
  · by_cases digits : isDigit tsRaw = true
    · simp [empty, digits, check]
    · simp [empty, digits]

theorem parse_of_other {value : Text} (other : ∀ linkId tsRaw sig, value.splitOn dot ≠ [linkId, tsRaw, sig]) :
    parseUnlockCookie keyed value = .ok none := by
  rw [parseUnlockCookie]
  split
  · rename_i parts
    exact absurd parts (other _ _ _)
  · rfl

/-- The parts that are compared: digits that are read, a link id that is encoded, an ASCII signature. -/
theorem check_eq {linkId tsRaw sig : Text} {ts : Int} {expected : Text} (number : int tsRaw = .ok ts)
    (hashed : hashSecret keyed (signed linkId ts) = .ok expected) (ascii : isAscii sig = true) :
    check keyed linkId tsRaw sig = .ok (if sig = expected then some (linkId, ts) else none) := by
  have compared : compareDigest sig expected = .ok (sig == expected) := by
    rw [compareDigest, ascii, (hashSecret_ok hashed).1]
    rfl
  rw [check, number]
  change (hashSecret keyed (signed linkId ts)).bind _ = _
  rw [hashed]
  change (compareDigest sig expected).bind _ = _
  rw [compared]
  by_cases same : sig = expected
  · simp [same, Except.bind, pure, Except.pure]
  · simp [same, Except.bind, pure, Except.pure]

theorem check_ok {linkId tsRaw sig : Text} {parsed : Option (Text × Int)} (checked : check keyed linkId tsRaw sig = .ok parsed) :
    ∃ ts expected, int tsRaw = .ok ts ∧ hashSecret keyed (signed linkId ts) = .ok expected ∧ isAscii sig = true := by
  rw [check] at checked
  cases number : int tsRaw with
  | error escaped =>
    rw [number] at checked
    contradiction
  | ok ts =>
    rw [number] at checked
    replace checked : (hashSecret keyed (signed linkId ts)).bind _ = .ok parsed := checked
    cases hashed : hashSecret keyed (signed linkId ts) with
    | error escaped =>
      rw [hashed] at checked
      contradiction
    | ok expected =>
      rw [hashed] at checked
      replace checked : (compareDigest sig expected).bind _ = .ok parsed := checked
      refine ⟨ts, expected, rfl, hashed, ?_⟩
      by_contra other
      rw [compareDigest, Bool.not_eq_true _ |>.mp other] at checked
      contradiction

end Parts

section Numbers

theorem int_ok_iff {tsRaw : Text} (digits : isDigit tsRaw = true) : (∃ ts, int tsRaw = .ok ts) ↔
    ∃ plain, tsRaw = ofChars plain ∧ (∀ c ∈ plain, (Numerals.decimal c).isSome = true) ∧
      plain.length ≤ Numerals.maxStrDigits := by
  obtain ⟨plain, rfl, nonempty, all⟩ := exists_of_isDigit digits
  have number : int (ofChars plain) = (Numerals.int plain).elim (.error .valueError) .ok := by
    rw [int, chars_ofChars, Option.bind_some]
    cases Numerals.int plain with
    | none => rfl
    | some _ => rfl
  rw [number, Numerals.int_of_digits all, Numerals.natural_of_digits all nonempty]
  by_cases both : plain.all (fun c => (Numerals.decimal c).isSome) = true ∧ plain.length ≤ Numerals.maxStrDigits
  · rw [if_pos both]
    exact iff_of_true ⟨_, rfl⟩ ⟨plain, rfl, List.all_eq_true.mp both.1, both.2⟩
  · rw [if_neg both]
    refine iff_of_false ?_ ?_
    · rintro ⟨ts, read⟩
      cases read
    · rintro ⟨other, same, fits⟩
      obtain rfl : plain = other := by simpa using congrArg chars same
      exact both ⟨List.all_eq_true.mpr fits.1, fits.2⟩

theorem Expiry.short (expiresAt : Expiry) : (Nat.toDigits 10 expiresAt.seconds.natAbs).length ≤ Numerals.maxStrDigits := by
  have few := (Nat.length_toDigits_le_iff (b := 10) (k := 12) (by decide) (by decide)).mpr expiresAt.within
  exact Nat.le_trans few (by decide)

theorem isDigit_str (n : Int) : isDigit (ofChars (Numerals.str n)) = true ↔ 0 ≤ n := by
  rw [isDigit_ofChars]
  constructor
  · rintro ⟨_, digits⟩
    by_contra negative
    rw [Numerals.str, if_pos (by omega)] at digits
    exact absurd (digits '-' List.mem_cons_self) (by decide)
  · intro nonneg
    rw [Numerals.str_of_nonneg nonneg]
    exact ⟨(Numerals.plain_toDigits _).some_digit, (Numerals.plain_toDigits _).digits'⟩

theorem int_str {n : Int} (nonneg : 0 ≤ n) (short : (Nat.toDigits 10 n.natAbs).length ≤ Numerals.maxStrDigits) :
    int (ofChars (Numerals.str n)) = .ok n := by
  rw [int, chars_ofChars, Option.bind_some, Numerals.int_str nonneg short]

theorem undotted_str (n : Int) : dot ∉ ofChars (Numerals.str n) := by
  intro member
  obtain ⟨c, its, same⟩ := List.mem_map.mp member
  obtain rfl : c = '.' := Point.char.inj same
  have plain := Numerals.plain_toDigits n.natAbs
  rw [Numerals.str] at its
  split at its
  · rcases List.mem_cons.mp its with dash | digit
    · contradiction
    · exact plain.not_mem (by decide) digit
  · exact plain.not_mem (by decide) its

end Numbers

section Meeting

structure Meets (keyed : Keyed) (linkId : Text) (expiresAt : Expiry) (value : Text) : Prop where
  round_trip : dot ∉ linkId →
    (unlockCookieValue keyed linkId expiresAt).bind (parseUnlockCookie keyed) = .ok (some (linkId, expiresAt.seconds))
  total : ∃ parsed, parseUnlockCookie keyed value = .ok parsed
  sound : ∀ linkId ts, parseUnlockCookie keyed value = .ok (some (linkId, ts)) →
    ∃ tsRaw sig, value = linkId ++ dot :: tsRaw ++ dot :: sig ∧ int tsRaw = .ok ts ∧ hashSecret keyed (signed linkId ts) = .ok sig

/-- Three parts of which the first is not empty and the second is digits: the digits are decimal and not too many, the link id has
no surrogates, and the signature is ASCII. -/
def Handled (value : Text) : Prop :=
  ∀ linkId tsRaw sig, value.splitOn dot = [linkId, tsRaw, sig] → linkId ≠ [] → isDigit tsRaw = true →
    (∃ plain, tsRaw = ofChars plain ∧ (∀ c ∈ plain, (Numerals.decimal c).isSome = true) ∧ plain.length ≤ Numerals.maxStrDigits) ∧
      (chars linkId).isSome = true ∧ isAscii sig = true

variable {keyed : Keyed}

theorem parses_iff (value : Text) : (∃ parsed, parseUnlockCookie keyed value = .ok parsed) ↔ Handled value := by
  constructor
  · rintro ⟨parsed, its⟩ linkId tsRaw sig parts nonempty digits
    rw [parse_of_parts parts, if_pos ⟨nonempty, digits⟩] at its
    obtain ⟨ts, expected, number, hashed, ascii⟩ := check_ok its
    exact ⟨(int_ok_iff digits).mp ⟨ts, number⟩, (hashSecret_signed linkId ts).mp ⟨expected, hashed⟩, ascii⟩
  · intro handled
    by_cases three : ∃ linkId tsRaw sig, value.splitOn dot = [linkId, tsRaw, sig]
    · obtain ⟨linkId, tsRaw, sig, parts⟩ := three
      rw [parse_of_parts parts]
      split
      · rename_i well
        obtain ⟨decimals, encoded, ascii⟩ := handled linkId tsRaw sig parts well.1 well.2
        obtain ⟨ts, number⟩ := (int_ok_iff well.2).mpr decimals
        obtain ⟨expected, hashed⟩ := (hashSecret_signed linkId ts).mpr encoded
        exact ⟨_, check_eq number hashed ascii⟩
      · exact ⟨none, rfl⟩
    · exact ⟨none, parse_of_other fun linkId tsRaw sig parts => three ⟨linkId, tsRaw, sig, parts⟩⟩

theorem parse_sound {value linkId : Text} {ts : Int} (parsed : parseUnlockCookie keyed value = .ok (some (linkId, ts))) :
    ∃ tsRaw sig, value = linkId ++ dot :: tsRaw ++ dot :: sig ∧ int tsRaw = .ok ts ∧
      hashSecret keyed (signed linkId ts) = .ok sig := by
  by_cases three : ∃ linkId tsRaw sig, value.splitOn dot = [linkId, tsRaw, sig]
  · obtain ⟨first, tsRaw, sig, parts⟩ := three
    rw [parse_of_parts parts] at parsed
    split at parsed
    · obtain ⟨number, expected, known, hashed, ascii⟩ := check_ok parsed
      rw [check_eq known hashed ascii] at parsed
      have found := Except.ok.inj parsed
      split at found
      · rename_i same
        obtain ⟨rfl, rfl⟩ := Prod.mk.inj (Option.some.inj found)
        exact ⟨tsRaw, sig, parts_of_splitOn parts, known, same ▸ hashed⟩
      · contradiction
    · exact nomatch Except.ok.inj parsed
  · rw [parse_of_other fun linkId tsRaw sig parts => three ⟨linkId, tsRaw, sig, parts⟩] at parsed
    exact nomatch Except.ok.inj parsed

/-- What has been written for a link id without dots is parsed back unless the id is empty or the time before 1970. -/
theorem round_trip_iff {linkId : Text} (undotted : dot ∉ linkId) (expiresAt : Expiry) :
    (unlockCookieValue keyed linkId expiresAt).bind (parseUnlockCookie keyed) = .ok (some (linkId, expiresAt.seconds)) ↔
      linkId ≠ [] ∧ (chars linkId).isSome = true ∧ 0 ≤ expiresAt.seconds := by
  have value_eq {sig : Text} (hashed : hashSecret keyed (signed linkId expiresAt.seconds) = .ok sig) :
      unlockCookieValue keyed linkId expiresAt =
        .ok (linkId ++ dot :: ofChars (Numerals.str expiresAt.seconds) ++ dot :: sig) := by
    rw [unlockCookieValue, hashed]
    rfl
  constructor
  · intro back
    cases hashed : hashSecret keyed (signed linkId expiresAt.seconds) with
    | error escaped =>
      rw [unlockCookieValue, hashed] at back
      contradiction
    | ok sig =>
      rw [value_eq hashed] at back
      replace back : parseUnlockCookie keyed _ = _ := back
      rw [parse_of_parts (splitOn_parts undotted (undotted_str _) (hashSecret_ok hashed).2)] at back
      split at back
      · rename_i well
        exact ⟨well.1, (hashSecret_signed linkId _).mp ⟨sig, hashed⟩, (isDigit_str _).mp well.2⟩
      · exact nomatch Except.ok.inj back
  · rintro ⟨nonempty, encoded, nonneg⟩
    obtain ⟨sig, hashed⟩ := (@hashSecret_signed keyed linkId expiresAt.seconds).mpr encoded
    rw [value_eq hashed]
    change parseUnlockCookie keyed _ = _
    rw [parse_of_parts (splitOn_parts undotted (undotted_str _) (hashSecret_ok hashed).2),
      if_pos ⟨nonempty, (isDigit_str _).mpr nonneg⟩, check_eq (int_str nonneg expiresAt.short) hashed
        (hashSecret_ok hashed).1, if_pos rfl]

/-- The codec is sound always; it is total, and reads back what it writes, just as the conditions say. -/
theorem codec_meets_iff (keyed : Keyed) (linkId : Text) (expiresAt : Expiry) (value : Text) : Meets keyed linkId expiresAt value ↔
    (dot ∉ linkId → linkId ≠ [] ∧ (chars linkId).isSome = true ∧ 0 ≤ expiresAt.seconds) ∧ Handled value :=
  ⟨fun meets => ⟨fun undotted => (round_trip_iff undotted expiresAt).mp (meets.round_trip undotted),
    (parses_iff value).mp meets.total⟩,
    fun ⟨written, handled⟩ => ⟨fun undotted => (round_trip_iff undotted expiresAt).mpr (written undotted),
      (parses_iff value).mpr handled,
      fun _ _ => parse_sound⟩⟩

/-- A digest in unary, which tells all texts apart. -/
def unary : Keyed where
  hexdigest := fun text => text.flatMap fun c => List.replicate c.toNat '0' ++ ['1']
  hex := by
    intro text c member
    obtain ⟨_, _, member⟩ := List.mem_flatMap.mp member
    rcases List.mem_append.mp member with zeros | one
    · rw [List.eq_of_mem_replicate zeros]
      decide
    · rw [List.mem_singleton.mp one]
      decide

theorem unary_injective : Function.Injective unary.hexdigest := by
  have apart (n m : Nat) (rest other : List Char) (same : List.replicate n '0' ++ '1' :: rest =
    List.replicate m '0' ++ '1' :: other) :
      n = m ∧ rest = other := by
    induction n generalizing m with
    | zero =>
      cases m with
      | zero => exact ⟨rfl, (List.cons.inj same).2⟩
      | succ m => exact absurd (List.cons.inj same).1 (by decide)
    | succ n ih =>
      cases m with
      | zero => exact absurd (List.cons.inj same).1 (by decide)
      | succ m =>
        obtain ⟨rfl, rest_same⟩ := ih m (List.cons.inj same).2
        exact ⟨rfl, rest_same⟩
  intro text other same
  induction text generalizing other with
  | nil =>
    cases other with
    | nil => rfl
    | cons d others =>
      have empty := congrArg List.length same
      simp [unary] at empty
  | cons c rest ih =>
    cases other with
    | nil =>
      have empty := congrArg List.length same
      simp [unary] at empty
    | cons d others =>
      replace same : List.replicate c.toNat '0' ++ ['1'] ++ unary.hexdigest rest =
          List.replicate d.toNat '0' ++ ['1'] ++ unary.hexdigest others := same
      rw [List.append_assoc, List.append_assoc] at same
      obtain ⟨code, later⟩ := apart _ _ _ _ same
      rw [Char.toNat_inj.mp code, ih later]

/-- The superscript two is a digit for `isdigit`, and none for `int`. -/
theorem not_meets_superscript : ¬ ∀ keyed : Keyed, Function.Injective keyed.hexdigest →
    ∀ linkId expiresAt value, Meets keyed linkId expiresAt value := by
  intro all
  obtain ⟨parsed, its⟩ := (all unary unary_injective (ofChars ['a']) ⟨0, by decide⟩ (ofChars ['a', '.', '²', '.'])).total
  have raised : parseUnlockCookie unary (ofChars ['a', '.', '²', '.']) = .error .valueError := by rfl
  rw [raised] at its
  contradiction

end Meeting

end IdigestHub.Library.UnlockCookies
