import IdigestHub.Foundation.Padding
import Mathlib.Order.Lattice

/-! Dates of the Gregorian calendar in the years 1 to 9999, moments of a day in microseconds, and the texts of dates. -/

set_option autoImplicit false

namespace Foundation.Calendar

open Numerals

def isLeap (year : Nat) : Bool := year % 4 == 0 && (year % 100 != 0 || year % 400 == 0)

def daysIn (year : Nat) : Nat → Nat
  | 2 => if isLeap year then 29 else 28
  | 4 | 6 | 9 | 11 => 30
  | _ => 31

structure ValidDate (year month day : Nat) : Prop where
  years : 1 ≤ year ∧ year ≤ 9999
  months : 1 ≤ month ∧ month ≤ 12
  days : 1 ≤ day ∧ day ≤ daysIn year month

instance ValidDate.decidable (year month day : Nat) : Decidable (ValidDate year month day) :=
  decidable_of_iff ((1 ≤ year ∧ year ≤ 9999) ∧ (1 ≤ month ∧ month ≤ 12) ∧ 1 ≤ day ∧ day ≤ daysIn year month)
    ⟨fun h => ⟨h.1, h.2.1, h.2.2⟩, fun h => ⟨h.years, h.months, h.days⟩⟩

structure Date where
  year : Nat
  month : Nat
  day : Nat
  valid : ValidDate year month day
  deriving DecidableEq

/-- No value for a `ValueError`. -/
def Date.of (year month day : Nat) : Option Date :=
  if valid : ValidDate year month day then some ⟨year, month, day, valid⟩ else none

def Date.number (date : Date) : Nat := (date.year * 100 + date.month) * 100 + date.day

/-- The date after `timedelta(days=1)`; no value for an `OverflowError`. -/
def Date.next (date : Date) : Option Date :=
  if date.day < daysIn date.year date.month then Date.of date.year date.month (date.day + 1)
  else if date.month < 12 then Date.of date.year (date.month + 1) 1
  else Date.of (date.year + 1) 1 1

theorem daysIn_le (year month : Nat) : daysIn year month ≤ 31 := by
  unfold daysIn
  split
  · split <;> omega
  · omega
  · omega
  · omega
  · omega
  · omega

theorem Date.day_le (date : Date) : date.day ≤ 31 := date.valid.days.2.trans (daysIn_le ..)

theorem Date.number_injective : Function.Injective Date.number := by
  rintro ⟨year, month, day, valid⟩ ⟨year', month', day', valid'⟩ same
  have small := valid.days.2.trans (daysIn_le year month)
  have small' := valid'.days.2.trans (daysIn_le year' month')
  have months := valid.months
  have months' := valid'.months
  simp only [Date.number] at same
  obtain rfl : day = day' := by omega
  obtain rfl : month = month' := by omega
  obtain rfl : year = year' := by omega
  rfl

instance Date.linearOrder : LinearOrder Date := LinearOrder.lift' Date.number Date.number_injective

theorem Date.lt_iff {first second : Date} : first < second ↔ first.number < second.number := Iff.rfl

theorem Date.le_iff {first second : Date} : first ≤ second ↔ first.number ≤ second.number := Iff.rfl

theorem Date.of_eq_some {year month day : Nat} {date : Date} (made : Date.of year month day = some date) :
    date.year = year ∧ date.month = month ∧ date.day = day := by
  unfold Date.of at made
  split at made
  · obtain rfl := Option.some.inj made
    exact ⟨rfl, rfl, rfl⟩
  · contradiction

theorem Date.of_fields (date : Date) : Date.of date.year date.month date.day = some date := dif_pos date.valid

theorem Date.lt_next {date next other : Date} (follows : date.next = some next) : other < next ↔ other ≤ date := by
  have bounds := other.valid
  have day := date.valid.days
  have month := date.valid.months
  have last := date.day_le
  have other_last := other.day_le
  have months := bounds.months
  have days := bounds.days
  rw [Date.lt_iff, Date.le_iff, Date.number, Date.number, Date.number]
  unfold Date.next at follows
  -- a day of the last date of a month is at most its number of days
  have same_month (year : other.year = date.year) (its : other.month = date.month) : other.day ≤ daysIn date.year date.month := by
    rw [← year, ← its]
    exact days.2
  split at follows
  · obtain ⟨year', month', day'⟩ := Date.of_eq_some follows
    omega
  · have full : date.day = daysIn date.year date.month := by omega
    split at follows
    · obtain ⟨year', month', day'⟩ := Date.of_eq_some follows
      rw [year', month', day', full]
      constructor
      · intro before
        by_cases its : other.year = date.year ∧ other.month = date.month
        · have := same_month its.1 its.2
          omega
        · omega
      · intro _
        omega
    · obtain ⟨year', month', day'⟩ := Date.of_eq_some follows
      rw [year', month', day', full]
      constructor
      · intro before
        by_cases its : other.year = date.year ∧ other.month = date.month
        · have := same_month its.1 its.2
          omega
        · omega
      · intro _
        omega

structure Moment where
  date : Date
  time : Fin 86400000000
  deriving DecidableEq

namespace Moment

def number (moment : Moment) : Nat := moment.date.number * 86400000000 + moment.time

theorem number_injective : Function.Injective number := by
  rintro ⟨date, time⟩ ⟨date', time'⟩ same
  have small := time.isLt
  have small' := time'.isLt
  simp only [number] at same
  obtain rfl : date = date' := Date.number_injective (by omega)
  obtain rfl : time = time' := Fin.ext (by omega)
  rfl

instance linearOrder : LinearOrder Moment := LinearOrder.lift' number number_injective

theorem lt_iff {first second : Moment} : first < second ↔ first.number < second.number := Iff.rfl

theorem le_iff {first second : Moment} : first ≤ second ↔ first.number ≤ second.number := Iff.rfl

def startOf (date : Date) : Moment := ⟨date, 0⟩

@[simp] theorem date_startOf (date : Date) : (startOf date).date = date := rfl

theorem startOf_le {date : Date} {moment : Moment} : startOf date ≤ moment ↔ date ≤ moment.date := by
  have small := moment.time.isLt
  rw [le_iff, Date.le_iff, number, number]
  show date.number * 86400000000 + 0 ≤ _ ↔ _
  omega

theorem lt_startOf {date : Date} {moment : Moment} : moment < startOf date ↔ moment.date < date := by
  rw [← not_le, startOf_le, not_le]

theorem within_day {date next : Date} {moment : Moment} (follows : date.next = some next) :
    (startOf date ≤ moment ∧ moment < startOf next) ↔ moment.date = date := by
  rw [startOf_le, lt_startOf, Date.lt_next follows]
  exact ⟨fun within => le_antisymm within.2 within.1, fun same => ⟨same.ge, same.le⟩⟩

end Moment

section Texts

def Date.isoformat (date : Date) : List Char := pad 4 date.year ++ '-' :: (pad 2 date.month ++ '-' :: pad 2 date.day)

theorem Date.length_isoformat (date : Date) : date.isoformat.length = 10 := by
  rw [isoformat, List.length_append, List.length_cons, List.length_append, List.length_cons, length_pad, length_pad, length_pad]

theorem Date.char_of_isoformat {date : Date} {c : Char} (member : c ∈ date.isoformat) :
    c = '-' ∨ ∃ digit < 10, c = Nat.digitChar digit := by
  rw [isoformat, List.mem_append, List.mem_cons, List.mem_append, List.mem_cons] at member
  rcases member with year | hyphen | month | hyphen | day
  · exact .inr (digit_of_mem_pad year)
  · exact .inl hyphen
  · exact .inr (digit_of_mem_pad month)
  · exact .inl hyphen
  · exact .inr (digit_of_mem_pad day)

theorem Date.fits (date : Date) : date.year < 10 ^ 4 ∧ date.month < 10 ^ 2 ∧ date.day < 10 ^ 2 := by
  have years := date.valid.years
  have months := date.valid.months
  have days := date.day_le
  omega

theorem Date.isoformat_lt {first second : Date} : first.isoformat < second.isoformat ↔ first < second := by
  obtain ⟨year, month, day⟩ := first.fits
  obtain ⟨year', month', day'⟩ := second.fits
  have years : pad 4 first.year = pad 4 second.year ↔ first.year = second.year := ⟨pad_injective year year', congrArg (pad 4)⟩
  have months : pad 2 first.month = pad 2 second.month ↔ first.month = second.month :=
    ⟨pad_injective month month', congrArg (pad 2)⟩
  have hyphen (rest rest' : List Char) : '-' :: rest < '-' :: rest' ↔ rest < rest' := by simp
  rw [isoformat, isoformat, append_lt_iff (by rw [length_pad, length_pad]), pad_lt year year', years, hyphen,
    append_lt_iff (by rw [length_pad, length_pad]), pad_lt month month', months, hyphen, pad_lt day day', Date.lt_iff,
    Date.number, Date.number]
  have := first.day_le
  have := second.day_le
  have := first.valid.months
  have := second.valid.months
  omega

theorem Date.isoformat_injective : Function.Injective Date.isoformat := by
  intro first second same
  refine le_antisymm (not_lt.mp fun more => ?_) (not_lt.mp fun less => ?_)
  · exact (Date.isoformat_lt.mpr more).ne same.symm
  · exact (Date.isoformat_lt.mpr less).ne same

def Moment.isoformatUtc (moment : Moment) : List Char :=
  let seconds := (moment.time : Nat) / 1000000
  moment.date.isoformat ++ 'T' :: (pad 2 (seconds / 3600) ++ ':' :: (pad 2 (seconds / 60 % 60) ++ ':' ::
    (pad 2 (seconds % 60) ++ '.' :: (pad 6 ((moment.time : Nat) % 1000000) ++ ['Z']))))

theorem Moment.isoformatUtc_lt {first second : Moment} : first.isoformatUtc < second.isoformatUtc ↔ first < second := by
  have dates : first.date.isoformat = second.date.isoformat ↔ first.date = second.date :=
    ⟨fun same => Date.isoformat_injective same, congrArg _⟩
  have numbers : first.date = second.date ↔ first.date.number = second.date.number :=
    ⟨congrArg _, fun same => Date.number_injective same⟩
  have mark (c : Char) (rest rest' : List Char) : c :: rest < c :: rest' ↔ rest < rest' := by simp
  have part {width n m : Nat} (fits : n < 10 ^ width) (fits' : m < 10 ^ width) (rest rest' : List Char) :
      pad width n ++ rest < pad width m ++ rest' ↔ n < m ∨ n = m ∧ rest < rest' := by
    have same : pad width n = pad width m ↔ n = m := ⟨pad_injective fits fits', congrArg _⟩
    rw [append_lt_iff (by rw [length_pad, length_pad]), pad_lt fits fits', same]
  have small := first.time.isLt
  have small' := second.time.isLt
  rw [isoformatUtc, isoformatUtc, append_lt_iff (by rw [Date.length_isoformat, Date.length_isoformat]),
    Date.isoformat_lt, dates, mark, part (by omega) (by omega), mark, part (by omega) (by omega), mark,
    part (by omega) (by omega), mark, part (by omega) (by omega), mark, Moment.lt_iff, Date.lt_iff, numbers,
    Moment.number, Moment.number]
  simp only [lt_self_iff_false, and_false, or_false]
  omega

def read (text : List Char) : Nat := valueOf (text.filterMap decimal)

def isOneToNine (c : Char) : Bool := '1' ≤ c && c ≤ '9'

/-- `%m`, with the hyphen behind it, and what follows. -/
def monthOf : List Char → Option (Nat × List Char)
  | first :: second :: '-' :: rest =>
    if (first = '1' ∧ '0' ≤ second ∧ second ≤ '2') ∨ (first = '0' ∧ isOneToNine second) then
      some (read [first, second], rest) else none
  | first :: '-' :: rest => if isOneToNine first then some (read [first], rest) else none
  | _ => none

/-- `%d`, to the end of the text. -/
def dayOf : List Char → Option Nat
  | [first, second] =>
    if (first = '3' ∧ (second = '0' ∨ second = '1')) ∨ ((first = '1' ∨ first = '2') ∧ (decimal second).isSome) ∨
        ((first = '0' ∨ first = ' ') ∧ isOneToNine second) then some (read [first, second])
    else none
  | [first] => if isOneToNine first then some (read [first]) else none
  | _ => none

/-- `datetime.strptime` with the format `%Y-%m-%d`; no value for a `ValueError`. -/
def strptime : List Char → Option Date
  | a :: b :: c :: d :: '-' :: rest =>
    if [a, b, c, d].all fun c => (decimal c).isSome then do
      let (month, rest) ← monthOf rest
      let day ← dayOf rest
      Date.of (read [a, b, c, d]) month day
    else none
  | _ => none

theorem decimal_digitChar {n : Nat} (small : n < 10) : decimal (Nat.digitChar n) = some n := by
  have all : ∀ n < 10, decimal (Nat.digitChar n) = some n := by decide
  exact all n small

theorem decimal_digit (n : Nat) : decimal (Nat.digitChar (n % 10)) = some (n % 10) := decimal_digitChar (Nat.mod_lt n (by decide))

theorem pad_two (n : Nat) : pad 2 n = [Nat.digitChar (n / 10 % 10), Nat.digitChar (n % 10)] := rfl

theorem pad_four (n : Nat) : pad 4 n =
    [Nat.digitChar (n / 10 / 10 / 10 % 10), Nat.digitChar (n / 10 / 10 % 10), Nat.digitChar (n / 10 % 10),
      Nat.digitChar (n % 10)] := rfl

theorem read_two {n : Nat} (fits : n < 10 ^ 2) : read (pad 2 n) = n := by
  rw [read, pad_two, List.filterMap_cons_some (decimal_digit _), List.filterMap_cons_some (decimal_digit _)]
  show 10 * (10 * 0 + n / 10 % 10) + n % 10 = n
  omega

theorem read_four {n : Nat} (fits : n < 10 ^ 4) : read (pad 4 n) = n := by
  rw [read, pad_four, List.filterMap_cons_some (decimal_digit _), List.filterMap_cons_some (decimal_digit _),
    List.filterMap_cons_some (decimal_digit _), List.filterMap_cons_some (decimal_digit _)]
  show 10 * (10 * (10 * (10 * 0 + n / 10 / 10 / 10 % 10) + n / 10 / 10 % 10) + n / 10 % 10) + n % 10 = n
  omega

theorem monthOf_pad {month : Nat} (months : 1 ≤ month ∧ month ≤ 12) (rest : List Char) :
    monthOf (pad 2 month ++ '-' :: rest) = some (month, rest) := by
  have all : ∀ month ∈ List.range' 1 12,
      (Nat.digitChar (month / 10 % 10) = '1' ∧ '0' ≤ Nat.digitChar (month % 10) ∧ Nat.digitChar (month % 10) ≤ '2') ∨
        (Nat.digitChar (month / 10 % 10) = '0' ∧ isOneToNine (Nat.digitChar (month % 10))) := by decide
  have its := all month (List.mem_range'_1.mpr (by omega))
  rw [pad_two]
  show (if _ then some (read (pad 2 month), rest) else none) = _
  rw [if_pos its, read_two (by omega)]

theorem dayOf_pad {day : Nat} (days : 1 ≤ day ∧ day ≤ 31) : dayOf (pad 2 day) = some day := by
  have all : ∀ day ∈ List.range' 1 31,
      (Nat.digitChar (day / 10 % 10) = '3' ∧ (Nat.digitChar (day % 10) = '0' ∨ Nat.digitChar (day % 10) = '1')) ∨
        ((Nat.digitChar (day / 10 % 10) = '1' ∨ Nat.digitChar (day / 10 % 10) = '2') ∧
          (decimal (Nat.digitChar (day % 10))).isSome) ∨
          ((Nat.digitChar (day / 10 % 10) = '0' ∨ Nat.digitChar (day / 10 % 10) = ' ') ∧
            isOneToNine (Nat.digitChar (day % 10))) := by
    decide
  have its := all day (List.mem_range'_1.mpr (by omega))
  rw [pad_two]
  show (if _ then some (read (pad 2 day)) else none) = _
  rw [if_pos its, read_two (by omega)]

theorem strptime_isoformat (date : Date) : strptime date.isoformat = some date := by
  obtain ⟨year, _, _⟩ := date.fits
  have digits : (pad 4 date.year).all (fun c => (decimal c).isSome) = true := by
    simp [pad_four, decimal_digit]
  rw [Date.isoformat]
  show (if (pad 4 date.year).all _ then _ else none) = _
  rw [if_pos digits, monthOf_pad date.valid.months]
  show (dayOf (pad 2 date.day)).bind _ = _
  rw [dayOf_pad ⟨date.valid.days.1, date.day_le⟩]
  show Date.of (read (pad 4 date.year)) date.month date.day = some date
  rw [read_four year, Date.of_fields]

end Texts

end Foundation.Calendar
