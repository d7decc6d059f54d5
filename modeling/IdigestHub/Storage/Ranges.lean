import IdigestHub.Foundation.Numerals

/-! The range of bytes that a request for a stored object asks for. -/

set_option autoImplicit false

namespace IdigestHub.Storage

open Foundation Foundation.Text Foundation.Numerals

/-- `spec.lower().startswith("bytes=")`. No character beyond ASCII is one of these six in lower case. -/
def startsWithBytes (spec : List Char) : Bool := (spec.take 6).map Char.toLower == ['b', 'y', 't', 'e', 's', '=']

/-- `text.partition("-")` without the separator. -/
def partition (text : List Char) : List Char × List Char :=
  (text.takeWhile (· != '-'), (text.dropWhile (· != '-')).drop 1)

/-- The two branches of `_parse_byte_range` that compute a start and an end; no bounds where it returns at once. -/
def bounds (spec : List Char) (total : Nat) : Option (Int × Int) :=
  match spec with
  | '-' :: suffix =>
    match int suffix with
    | none => none
    | some suffixLen => if suffixLen ≤ 0 then none else some (max 0 (total - suffixLen), total - 1)
  | _ =>
    let (startStr, endStr) := partition spec
    match if startStr.isEmpty then some 0 else int startStr, if endStr.isEmpty then some ((total : Int) - 1) else int endStr with
    | some start, some end_ => some (start, end_)
    | _, _ => none

def parseByteRange (rangeHeader : List Char) (total : Nat) : Option (Int × Int) :=
  let spec := trimBoth isSpace rangeHeader
  if !startsWithBytes spec then none
  else
    let spec := trimBoth isSpace (spec.drop 6)
    if spec.isEmpty || spec.contains ',' then none
    else
      match bounds spec total with
      | none => none
      | some (start, end_) => if start < 0 ∨ end_ < start ∨ start ≥ total then none else some (start, min end_ (total - 1))

/-- What a range of bytes names: positions from the first on, or the last ones. -/
inductive Spec where
  | span (first : Int) (last : Option Int)
  | suffix (length : Int)
  deriving DecidableEq

/-- The first and the last position of a range in an object of `total` bytes, where it can be satisfied. -/
def positions (total : Nat) : Spec → Option (Int × Int)
  | .span first last =>
    if 0 ≤ first ∧ first ≤ last.getD (total - 1) ∧ first < total then some (first, min (last.getD (total - 1)) (total - 1))
    else none
  | .suffix length => if 0 < length ∧ 0 < total then some (max 0 (total - length), total - 1) else none

theorem positions_within {total : Nat} {spec : Spec} {start last : Int} (satisfied : positions total spec = some (start, last)) :
    0 ≤ start ∧ start ≤ last ∧ last < total := by
  cases spec with
  | span first end_ =>
    rw [positions] at satisfied
    split at satisfied
    · rename_i within
      obtain ⟨rfl, rfl⟩ := Prod.mk.inj (Option.some.inj satisfied)
      omega
    · contradiction
  | suffix length =>
    rw [positions] at satisfied
    split at satisfied
    · rename_i within
      obtain ⟨rfl, rfl⟩ := Prod.mk.inj (Option.some.inj satisfied)
      omega
    · contradiction

section Grammar

def written (digits : List Char) : Int := Nat.ofDigitChars 10 digits 0

/-- What stands behind `bytes=`, with the numbers in it. -/
inductive Written : List Char → Spec → List (List Char) → Prop
  | closed {first last : List Char} : Plain first → Plain last →
      Written (first ++ '-' :: last) (.span (written first) (some (written last))) [first, last]
  | open_ {first : List Char} : Plain first → Written (first ++ ['-']) (.span (written first) none) [first]
  | suffix {length : List Char} : Plain length → Written ('-' :: length) (.suffix (written length)) [length]

/-- A single range of bytes as RFC 9110 has it; the unit is named in either case. -/
inductive Rfc : List Char → Spec → List (List Char) → Prop
  | mk {unit body : List Char} {spec : Spec} {numbers : List (List Char)} : unit.map Char.toLower = ['b', 'y', 't', 'e', 's'] →
      Written body spec numbers → Rfc (unit ++ '=' :: body) spec numbers

/-- What is taken for a range behind `bytes=`: numbers are whatever `int` reads, and one number alone is a start. -/
inductive Readable : List Char → Spec → Prop
  | closed {first last : List Char} {from_ to_ : Int} : '-' ∉ first → int first = some from_ → int last = some to_ →
      Readable (first ++ '-' :: last) (.span from_ (some to_))
  | open_ {first : List Char} {from_ : Int} : '-' ∉ first → int first = some from_ → Readable (first ++ ['-']) (.span from_ none)
  | bare {first : List Char} {from_ : Int} : '-' ∉ first → int first = some from_ → Readable first (.span from_ none)
  | suffix {length : List Char} {n : Int} : int length = some n → Readable ('-' :: length) (.suffix n)

/-- What stands behind `bytes=` in a header. -/
def bodyOf (header : List Char) : List Char := trimBoth isSpace ((trimBoth isSpace header).drop 6)

/-- A header that is taken for a range: whitespace may stand around it and behind the sign of equality. -/
structure Taken (header : List Char) (spec : Spec) : Prop where
  unit : startsWithBytes (trimBoth isSpace header) = true
  single : ',' ∉ bodyOf header
  body : Readable (bodyOf header) spec

end Grammar

section Reading

def readSpan (startStr endStr : List Char) : Option Spec :=
  (int startStr).bind fun first =>
    if endStr.isEmpty then some (.span first none) else (int endStr).map fun last => .span first (some last)

/-- What a text behind `bytes=` is taken for. -/
def read (body : List Char) : Option Spec :=
  match body with
  | '-' :: suffix => (int suffix).map .suffix
  | _ => readSpan (partition body).1 (partition body).2

theorem int_nil : int [] = none := by decide

theorem read_dash (suffix : List Char) : read ('-' :: suffix) = (int suffix).map .suffix := rfl

theorem read_undashed {body : List Char} (undashed : ∀ suffix, body ≠ '-' :: suffix) :
    read body = readSpan (partition body).1 (partition body).2 := by
  rw [read]
  exact fun suffix same => undashed suffix same

theorem partition_append {first : List Char} (outside : '-' ∉ first) (last : List Char) :
    partition (first ++ '-' :: last) = (first, last) := by
  have passes : ∀ c ∈ first, (c != '-') = true := fun c member => by simpa using fun same : c = '-' => outside (same ▸ member)
  rw [partition, List.takeWhile_append_of_pos passes, List.dropWhile_append_of_pos passes]
  simp

theorem partition_absent {first : List Char} (outside : '-' ∉ first) : partition first = (first, []) := by
  have passes : ∀ c ∈ first, (c != '-') = true := fun c member => by simpa using fun same : c = '-' => outside (same ▸ member)
  rw [partition, List.takeWhile_eq_self_iff.mpr passes, List.dropWhile_eq_nil_iff.mpr passes, List.drop_nil]

theorem exists_partition (body : List Char) :
    (∃ first last, body = first ++ '-' :: last ∧ '-' ∉ first) ∨ '-' ∉ body := by
  by_cases member : '-' ∈ body
  · obtain ⟨first, last, same, outside⟩ := List.eq_append_cons_of_mem member
    exact .inl ⟨first, last, same, outside⟩
  · exact .inr member

theorem read_iff {body : List Char} {spec : Spec} : read body = some spec ↔ Readable body spec := by
  constructor
  · intro found
    -- at the first dash, as `partition` cuts
    rcases exists_partition body with ⟨first, last, rfl, outside⟩ | undashed
    · cases first with
      | nil =>
        obtain ⟨n, number, rfl⟩ := Option.map_eq_some_iff.mp found
        exact .suffix number
      | cons c rest =>
        have starts : ∀ suffix, c :: rest ++ '-' :: last ≠ '-' :: suffix := fun suffix same =>
          outside (List.mem_cons.mpr (.inl (List.cons.inj same).1.symm))
        rw [read_undashed starts, partition_append outside] at found
        obtain ⟨from_, start, ended⟩ := Option.bind_eq_some_iff.mp found
        split at ended
        · rename_i empty
          obtain rfl : last = [] := List.isEmpty_iff.mp empty
          obtain rfl := Option.some.inj ended
          exact .open_ outside start
        · obtain ⟨to_, end_, rfl⟩ := Option.map_eq_some_iff.mp ended
          exact .closed outside start end_
    · have starts : ∀ suffix, body ≠ '-' :: suffix := fun suffix same => undashed (same ▸ List.mem_cons_self)
      rw [read_undashed starts, partition_absent undashed] at found
      obtain ⟨from_, start, ended⟩ := Option.bind_eq_some_iff.mp found
      obtain rfl := Option.some.inj ended
      exact .bare undashed start
  · intro readable
    -- a range that begins with its number does not begin with a dash
    have first_of {first : List Char} {from_ : Int} (start : int first = some from_) (outside : '-' ∉ first) (rest : List Char) :
        ∀ suffix, first ++ rest ≠ '-' :: suffix := by
      intro suffix same
      cases first with
      | nil =>
        rw [int_nil] at start
        contradiction
      | cons c more => exact outside (List.mem_cons.mpr (.inl (List.cons.inj same).1.symm))
    cases readable with
    | @closed first last from_ to_ outside start end_ =>
      have some_digit : last.isEmpty = false := by
        cases last with
        | nil =>
          rw [int_nil] at end_
          contradiction
        | cons => rfl
      rw [read_undashed (first_of start outside _), partition_append outside]
      simp [readSpan, start, end_, some_digit]
    | open_ outside start =>
      rw [read_undashed (first_of start outside _), partition_append outside]
      simp [readSpan, start]
    | @bare first from_ outside start =>
      have starts := first_of start outside []
      rw [List.append_nil] at starts
      rw [read_undashed starts, partition_absent outside]
      simp [readSpan, start]
    | suffix number =>
      rw [read_dash, number]
      rfl

theorem taken_iff {header : List Char} {spec : Spec} : Taken header spec ↔
    startsWithBytes (trimBoth isSpace header) = true ∧ ',' ∉ bodyOf header ∧ read (bodyOf header) = some spec :=
  ⟨fun taken => ⟨taken.unit, taken.single, read_iff.mpr taken.body⟩,
    fun ⟨unit, single, body⟩ => ⟨unit, single, read_iff.mp body⟩⟩

/-- Bounds that are cut off at the end of the object. -/
def cut (total : Nat) (bounds : Int × Int) : Option (Int × Int) :=
  if bounds.1 < 0 ∨ bounds.2 < bounds.1 ∨ bounds.1 ≥ total then none else some (bounds.1, min bounds.2 (total - 1))

theorem cut_span (total : Nat) (first : Int) (last : Option Int) :
    cut total (first, last.getD (total - 1)) = positions total (.span first last) := by
  rw [cut, positions]
  split <;> split <;> first | rfl | omega

theorem cut_suffix (total : Nat) (length : Int) :
    (if length ≤ 0 then none else cut total (max 0 (total - length), total - 1)) = positions total (.suffix length) := by
  rw [cut, positions, Int.min_self]
  split <;> split <;> (try split) <;> first | rfl | omega

theorem bounds_undashed {body : List Char} (undashed : ∀ suffix, body ≠ '-' :: suffix) (total : Nat) : bounds body total =
    match if (partition body).1.isEmpty then some 0 else int (partition body).1,
      if (partition body).2.isEmpty then some ((total : Int) - 1) else int (partition body).2 with
    | some start, some end_ => some (start, end_)
    | _, _ => none := by
  rw [bounds]
  exact fun suffix same => undashed suffix same

theorem bounds_cut {body : List Char} (nonempty : body ≠ []) (total : Nat) :
    (bounds body total).bind (cut total) = (read body).bind (positions total) := by
  by_cases dashed : ∃ suffix, body = '-' :: suffix
  · obtain ⟨suffix, rfl⟩ := dashed
    rw [read_dash]
    cases number : int suffix with
    | none => simp [bounds, number]
    | some n =>
      rw [Option.map_some, Option.bind_some, ← cut_suffix, bounds, number]
      dsimp only
      split <;> rfl
  · have undashed : ∀ suffix, body ≠ '-' :: suffix := fun suffix same => dashed ⟨suffix, same⟩
    -- a start is never empty here
    have started : (partition body).1.isEmpty = false := by
      obtain ⟨c, rest, rfl⟩ := List.exists_cons_of_ne_nil nonempty
      have other : (c != '-') = true := bne_iff_ne.mpr fun same => undashed rest (by rw [same])
      rw [partition, @List.takeWhile_cons_of_pos _ (· != '-') c rest other]
      rfl
    rw [bounds_undashed undashed, read_undashed undashed, readSpan, started]
    cases start : int (partition body).1 with
    | none => simp
    | some first =>
      by_cases ended : (partition body).2.isEmpty = true
      · simpa [ended] using cut_span total first none
      · cases end_ : int (partition body).2 with
        | none => simp [ended]
        | some last => simpa [ended] using cut_span total first (some last)

def reading (header : List Char) : Option Spec :=
  if startsWithBytes (trimBoth isSpace header) = true ∧ ',' ∉ bodyOf header then read (bodyOf header) else none

theorem reading_iff {header : List Char} {spec : Spec} : reading header = some spec ↔ Taken header spec := by
  rw [taken_iff, reading]
  split
  · rename_i well
    exact ⟨fun body => ⟨well.1, well.2, body⟩, fun taken => taken.2.2⟩
  · rename_i ill
    exact ⟨(nomatch ·), fun taken => absurd ⟨taken.1, taken.2.1⟩ ill⟩

theorem parseByteRange_eq_bounds (header : List Char) (total : Nat) : parseByteRange header total =
    if startsWithBytes (trimBoth isSpace header) = true ∧ ',' ∉ bodyOf header ∧ bodyOf header ≠ [] then
      (bounds (bodyOf header) total).bind (cut total)
    else none := by
  have bind_cut (bounds : Option (Int × Int)) : (match bounds with
      | none => none
      | some (start, end_) =>
        if start < 0 ∨ end_ < start ∨ start ≥ total then none else some (start, min end_ ((total : Int) - 1))) =
          bounds.bind (cut total) := by
    cases bounds <;> rfl
  rw [parseByteRange]
  dsimp only
  rw [bind_cut, ← bodyOf]
  by_cases unit : startsWithBytes (trimBoth isSpace header) = true
  · by_cases single : ',' ∈ bodyOf header
    · have comma : (bodyOf header).contains ',' = true := List.contains_iff_mem.mpr single
      rw [comma]
      simp [single]
    · have no_comma : (bodyOf header).contains ',' = false := by simpa using single
      rw [no_comma]
      by_cases empty : bodyOf header = []
      · simp [empty]
      · simp [unit, single, empty]
  · simp [unit]

theorem parseByteRange_eq (header : List Char) (total : Nat) :
    parseByteRange header total = (reading header).bind (positions total) := by
  rw [parseByteRange_eq_bounds, reading]
  by_cases well : startsWithBytes (trimBoth isSpace header) = true ∧ ',' ∉ bodyOf header
  · by_cases empty : bodyOf header = []
    · have nothing : read [] = none := by decide
      rw [if_neg (by simp [empty]), if_pos well, empty, nothing]
      rfl
    · rw [if_pos ⟨well.1, well.2, empty⟩, if_pos well, bounds_cut empty]
  · rw [if_neg fun all => well ⟨all.1, all.2.1⟩, if_neg well]
    rfl

section Standard

theorem Written.ends {body : List Char} {spec : Spec} {numbers : List (List Char)} (well : Written body spec numbers) :
    ∀ c ∈ body, c = '-' ∨ c.isDigit = true := by
  intro c member
  cases well with
  | closed first last =>
    rcases List.mem_append.mp member with before | after
    · exact .inr (first.digits c before)
    · rcases List.mem_cons.mp after with dash | after
      · exact .inl dash
      · exact .inr (last.digits c after)
  | open_ first =>
    rcases List.mem_append.mp member with before | dash
    · exact .inr (first.digits c before)
    · exact .inl (List.mem_singleton.mp dash)
  | suffix length =>
    rcases List.mem_cons.mp member with dash | digit
    · exact .inl dash
    · exact .inr (length.digits c digit)

theorem Written.dash {body : List Char} {spec : Spec} {numbers : List (List Char)} (well : Written body spec numbers) :
    '-' ∈ body := by
  cases well <;> simp

/-- What the standard writes is read for what it means where `int` takes its numbers, else not at all. -/
theorem Written.read_eq {body : List Char} {spec : Spec} {numbers : List (List Char)} (well : Written body spec numbers) :
    read body = if ∀ number ∈ numbers, number.length ≤ maxStrDigits then some spec else none := by
  have undashed {first : List Char} (plain : Plain first) (rest : List Char) : ∀ suffix, first ++ rest ≠ '-' :: suffix := by
    intro suffix same
    obtain ⟨c, more, rfl⟩ := List.exists_cons_of_ne_nil plain.some_digit
    exact plain.not_mem (c := '-') (by decide) (List.mem_cons.mpr (.inl (List.cons.inj same).1.symm))
  cases well with
  | @closed first last started ended =>
    have some_digit : last.isEmpty = false := List.isEmpty_eq_false_iff.mpr ended.some_digit
    rw [read_undashed (undashed started _), partition_append (started.not_mem (by decide)), readSpan, started.int_eq]
    dsimp only
    rw [ended.int_eq, some_digit]
    by_cases first_short : first.length ≤ maxStrDigits <;> by_cases last_short : last.length ≤ maxStrDigits <;>
      simp [first_short, last_short, written]
  | @open_ first started =>
    rw [read_undashed (undashed started _), partition_append (started.not_mem (by decide)), readSpan, started.int_eq]
    by_cases short : first.length ≤ maxStrDigits <;> simp [short, written]
  | @suffix length plain =>
    rw [read_dash, plain.int_eq]
    by_cases short : length.length ≤ maxStrDigits <;> simp [short, written]

theorem isSpace_of_digit {c : Char} (its : c = '-' ∨ c.isDigit = true) : isSpace c = false := by
  rcases its with rfl | digit
  · decide
  · exact isSpace_of_ascii digit

theorem toLower_of_isSpace {c : Char} (space : isSpace c = true) : c.toLower = c := by
  have outside : ¬ (c.val ≥ 'A'.val ∧ c.val ≤ 'Z'.val) := by
    intro letter
    have low : 65 ≤ c.toNat := UInt32.le_iff_toNat_le.mp letter.1
    have high : c.toNat ≤ 90 := UInt32.le_iff_toNat_le.mp letter.2
    simp only [isSpace, Bool.or_eq_true, Bool.and_eq_true, decide_eq_true_eq, beq_iff_eq] at space
    omega
  exact dif_neg outside

/-- A header as the standard has it is not trimmed, and its body is what stands behind the sign of equality. -/
theorem Rfc.parts {header : List Char} {spec : Spec} {numbers : List (List Char)} (well : Rfc header spec numbers) :
    startsWithBytes (trimBoth isSpace header) = true ∧ Written (bodyOf header) spec numbers := by
  obtain @⟨unit, body, spec, numbers, named, body_well⟩ := well
  obtain ⟨b, rest, rfl⟩ : ∃ b rest, unit = b :: rest := by
    cases unit with
    | nil => contradiction
    | cons b rest => exact ⟨b, rest, rfl⟩
  have letter : isSpace b = false := by
    by_contra space
    rw [Bool.not_eq_false] at space
    have lower : b.toLower = 'b' := (List.cons.inj named).1
    rw [toLower_of_isSpace space] at lower
    rw [lower] at space
    exact absurd space (by decide)
  have kept_body : trimBoth isSpace body = body :=
    (trimBoth_eq_self_iff body).mpr
      ⟨fun c first => isSpace_of_digit (body_well.ends c (List.mem_of_mem_head? first)),
        fun c last => isSpace_of_digit (body_well.ends c (List.mem_of_mem_getLast? last))⟩
  have kept : trimBoth isSpace (b :: rest ++ '=' :: body) = b :: rest ++ '=' :: body := by
    refine (trimBoth_eq_self_iff _).mpr ⟨fun c first => ?_, fun c last => ?_⟩
    · obtain rfl : b = c := Option.some.inj first
      exact letter
    · rw [List.getLast?_append_of_ne_nil _ (List.cons_ne_nil _ _), List.getLast?_cons] at last
      obtain rfl := Option.some.inj last
      cases none_or : body.getLast? with
      | none => decide
      | some c => exact isSpace_of_digit (body_well.ends c (List.mem_of_getLast? none_or))
  have five : (b :: rest).length = 5 := by
    rw [← List.length_map (f := Char.toLower), named]
    rfl
  have behind : (b :: rest ++ '=' :: body).drop 6 = body := by
    rw [List.drop_append, five, List.drop_eq_nil_of_le (by omega)]
    rfl
  refine ⟨?_, ?_⟩
  · rw [kept, startsWithBytes, List.take_append, five, List.take_of_length_le (by omega), List.map_append, named]
    rfl
  · rw [bodyOf, kept, behind, kept_body]
    exact body_well

theorem Rfc.reading_eq {header : List Char} {spec : Spec} {numbers : List (List Char)} (well : Rfc header spec numbers) :
    reading header = if ∀ number ∈ numbers, number.length ≤ maxStrDigits then some spec else none := by
  obtain ⟨unit, body⟩ := well.parts
  have no_comma : ',' ∉ bodyOf header := fun member => by
    have := body.ends ',' member
    revert this
    decide
  rw [reading, if_pos ⟨unit, no_comma⟩, body.read_eq]

end Standard

/-- `_parse_byte_range` returns just the ranges of the standard that can be satisfied, with their positions. -/
structure Exact (header : List Char) (total : Nat) : Prop where
  within : ∀ start last, parseByteRange header total = some (start, last) → 0 ≤ start ∧ start ≤ last ∧ last < total
  assigned : ∀ range, parseByteRange header total = some range ↔
    ∃ spec numbers, Rfc header spec numbers ∧ positions total spec = some range

/-- Ranges are parsed exactly where no header that is taken for a range that can be satisfied is written in another way, and no
such range of the standard has a number of more digits than are converted. -/
theorem ranges_exact_iff (header : List Char) (total : Nat) : Exact header total ↔
    (∀ spec, Taken header spec → (positions total spec).isSome → ∃ spec numbers, Rfc header spec numbers) ∧
      ∀ spec numbers, Rfc header spec numbers → (positions total spec).isSome →
        ∀ number ∈ numbers, number.length ≤ maxStrDigits := by
  have within (start last : Int) (found : parseByteRange header total = some (start, last)) :
      0 ≤ start ∧ start ≤ last ∧ last < total := by
    rw [parseByteRange_eq] at found
    obtain ⟨spec, _, satisfied⟩ := Option.bind_eq_some_iff.mp found
    exact positions_within satisfied
  constructor
  · intro exact_
    refine ⟨fun spec taken satisfiable => ?_, fun spec numbers well satisfiable number member => ?_⟩
    · obtain ⟨range, satisfied⟩ := Option.isSome_iff_exists.mp satisfiable
      have found : parseByteRange header total = some range := by
        rw [parseByteRange_eq, reading_iff.mpr taken, Option.bind_some, satisfied]
      obtain ⟨other, numbers, well, _⟩ := (exact_.assigned range).mp found
      exact ⟨other, numbers, well⟩
    · obtain ⟨range, satisfied⟩ := Option.isSome_iff_exists.mp satisfiable
      have found := (exact_.assigned range).mpr ⟨spec, numbers, well, satisfied⟩
      rw [parseByteRange_eq, well.reading_eq] at found
      by_contra long
      rw [if_neg fun short => long (short number member)] at found
      contradiction
  · rintro ⟨only, short⟩
    refine ⟨within, fun range => ⟨fun found => ?_, fun ⟨spec, numbers, well, satisfied⟩ => ?_⟩⟩
    · rw [parseByteRange_eq] at found
      obtain ⟨spec, its, satisfied⟩ := Option.bind_eq_some_iff.mp found
      obtain ⟨other, numbers, well⟩ := only spec (reading_iff.mp its) (by rw [satisfied, Option.isSome_some])
      rw [well.reading_eq] at its
      split at its
      · obtain rfl := Option.some.inj its
        exact ⟨other, numbers, well, satisfied⟩
      · contradiction
    · have converted := short spec numbers well (by rw [satisfied, Option.isSome_some])
      rw [parseByteRange_eq, well.reading_eq, if_pos converted, Option.bind_some, satisfied]

/-- A number alone is served as if a dash stood behind it. -/
theorem not_exact_bare : ¬ Exact "bytes=5".toList 10 := by
  intro exact_
  have found : parseByteRange "bytes=5".toList 10 = some (5, 9) := by decide +kernel
  obtain ⟨spec, numbers, well, _⟩ := (exact_.assigned (5, 9)).mp found
  have body : bodyOf "bytes=5".toList = ['5'] := by decide +kernel
  have written := well.parts.2
  rw [body] at written
  have dash : '-' ∈ ['5'] := written.dash
  contradiction

end Reading

end IdigestHub.Storage
