import IdigestHub.Billing.Money
import IdigestHub.Foundation.Calendar
import IdigestHub.Foundation.FixedText
import IdigestHub.Foundation.Grouping

/-! Usage events as the dashboards show them: the totals of a range, and one row for each of its days. -/

set_option autoImplicit false

namespace IdigestHub.Billing

open Foundation Foundation.Calendar Foundation.Grouping

/-- A row of `usage_events`. Seconds are floating-point numbers, of which only zero and addition matter here. -/
structure UsageRow (Seconds : Type) where
  orgId : Nat
  userId : Option Nat
  taskId : Option Nat
  kind : TaskType
  audioSec : Option Seconds
  summaryChars : Option Nat
  amount : Int
  unlimitedSkip : Bool
  createdAt : Moment

structure Range where
  start : Option Moment
  stop : Option Moment

def Range.covers (range : Range) (moment : Moment) : Bool :=
  range.start.all (fun start => start ≤ moment) && range.stop.all fun stop => moment < stop

structure Query where
  orgId : Option Nat
  range : Range
  userId : Option Nat
  kind : Option String

def kindFilter (kind : Option String) : Option TaskType :=
  kind.bind fun kind => if kind = "transcribe" then some .transcribe else if kind = "summarize" then some .summarize else none

namespace Query

variable {Seconds : Type} (query : Query)

def selects (event : UsageRow Seconds) : Bool :=
  query.orgId.all (· == event.orgId) && query.range.covers event.createdAt &&
    query.userId.all (fun userId => event.userId == some userId) && (kindFilter query.kind).all (· == event.kind)

/-- `ORDER BY created_at`; rows of one moment are in the order of the table. -/
def rows (stored : List (UsageRow Seconds)) : List (UsageRow Seconds) :=
  (stored.filter query.selects).insertionSort fun first second => first.createdAt ≤ second.createdAt

end Query

/-- What the rows of a range or of a day add up to. -/
structure Figures (Seconds Amount : Type) where
  transcribed : Nat
  summarized : Nat
  audioSec : Seconds
  summaryChars : Nat
  amount : Amount
  deriving DecidableEq

/-- A money value as text: `money_str`, and `str` of a delta. -/
def moneyText (value : Money) : List Char := DecimalText.fixedText moneyPlaces value

section Statistics

variable {Seconds : Type} [Zero Seconds] [Add Seconds]

def Figures.empty : Figures Seconds Int := ⟨0, 0, 0, 0, 0⟩

def Figures.add (figures : Figures Seconds Int) (event : UsageRow Seconds) : Figures Seconds Int :=
  let amount := figures.amount + event.amount
  match event.kind with
  | .transcribe => { figures with
    transcribed := figures.transcribed + 1
    audioSec := figures.audioSec + event.audioSec.getD 0
    amount }
  | .summarize => { figures with
    summarized := figures.summarized + 1
    summaryChars := figures.summaryChars + event.summaryChars.getD 0
    amount }
  | _ => { figures with amount }

def figuresOf (rows : List (UsageRow Seconds)) : Figures Seconds Int := rows.foldl .add .empty

structure UsageStats (Seconds Amount : Type) where
  total : Figures Seconds Amount
  days : List (List Char × Figures Seconds Amount)

def dayKey (event : UsageRow Seconds) : List Char := event.createdAt.date.isoformat

/-- The loop of `usage_stats`, with its totals and its dictionary of days. -/
def accumulate (rows : List (UsageRow Seconds)) : Figures Seconds Int × Table (List Char) (Figures Seconds Int) :=
  rows.foldl (fun sofar event => (sofar.1.add event, count dayKey Figures.add .empty sofar.2 event)) (.empty, ∅)

def usageStats (query : Query) (stored : List (UsageRow Seconds)) : UsageStats Seconds Int :=
  let (total, byDay) := accumulate (query.rows stored)
  let sorted := (byDay.select fun _ _ => true).insertionSort (· ≤ ·)
  { total, days := sorted.filterMap fun day => (byDay.find day).map fun figures => (day, figures) }

def Figures.shown (figures : Figures Seconds Int) : Figures Seconds (List Char) :=
  { figures with amount := moneyText (figures.amount : Money) }

/-- What `usage_stats` returns. -/
def UsageStats.shown (stats : UsageStats Seconds Int) : UsageStats Seconds (List Char) :=
  ⟨stats.total.shown, stats.days.map fun row => (row.1, row.2.shown)⟩

end Statistics

/-- A `ValueError`, which the routes answer as a validation error, or an `OverflowError`. -/
inductive RangeFault where
  | invalid | overflow
  deriving DecidableEq

section Requests

-- `fromisoformat` of a text, and `as_utc` of its result
variable (fromisoformat : List Char → Except RangeFault Moment)

def parseDayStart : Option (List Char) → Except RangeFault (Option Moment)
  | none => .ok none
  | some value =>
    let text := Text.trimBoth Text.isSpace value
    if text.isEmpty then .ok none
    else if text.contains 'T' then (fromisoformat text).map some
    else
      match strptime (text.take 10) with
      | some date => .ok (some (.startOf date))
      | none => .error .invalid

/-- A last day without a time is included. -/
def includeDay (toDay : Option (List Char)) (stop : Option Moment) : Except RangeFault (Option Moment) :=
  match stop.filter fun stop => decide ((stop.time : Nat) < 1000000) && !(toDay.getD []).contains 'T' with
  | none => .ok stop
  | some stop =>
    match stop.date.next with
    | some next => .ok (some ⟨next, stop.time⟩)
    | none => .error .overflow

def parseOrgStatsRange (fromDay toDay : Option (List Char)) : Except RangeFault Range := do
  let start ← parseDayStart fromisoformat fromDay
  let stop ← parseDayStart fromisoformat toDay
  .ok ⟨start, ← includeDay toDay stop⟩

end Requests

section Loop

variable {Seconds : Type} [Zero Seconds] [Add Seconds] {query : Query} {stored : List (UsageRow Seconds)}

theorem accumulate_eq (rows : List (UsageRow Seconds)) : accumulate rows =
    (figuresOf rows, group dayKey Figures.add .empty rows) := by
  -- The two results of the loop do not look at each other.
  have both (total : Figures Seconds Int) (byDay : Table (List Char) (Figures Seconds Int)) :
      rows.foldl (fun sofar event => (sofar.1.add event, count dayKey Figures.add .empty sofar.2 event)) (total, byDay) =
        (rows.foldl .add total, rows.foldl (count dayKey Figures.add .empty) byDay) := by
    induction rows generalizing total byDay with
    | nil => rfl
    | cons event rows ih => exact ih _ _
  exact both .empty ∅

def shownDays (query : Query) (stored : List (UsageRow Seconds)) : List (List Char) :=
  ((group dayKey Figures.add .empty (query.rows stored)).select fun _ _ => true).insertionSort (· ≤ ·)

theorem mem_shownDays {day : List Char} : day ∈ shownDays query stored ↔ day ∈ (query.rows stored).map dayKey := by
  rw [shownDays, List.mem_insertionSort, mem_select_group]

theorem shownDays_ascending : (shownDays query stored).Pairwise (· < ·) := by
  have sorted : (shownDays query stored).Pairwise (· ≤ ·) := List.pairwise_insertionSort ..
  have distinct : (shownDays query stored).Nodup := (List.perm_insertionSort ..).nodup_iff.mpr (Table.select_nodup ..)
  exact (sorted.and distinct).imp fun both => lt_of_le_of_ne both.1 both.2

theorem total_eq : (usageStats query stored).total = figuresOf (query.rows stored) := by
  rw [usageStats, accumulate_eq]

theorem days_eq : (usageStats query stored).days =
    (shownDays query stored).map fun day => (day, figuresOf ((query.rows stored).filter fun event => dayKey event = day)) := by
  rw [usageStats, accumulate_eq, ← List.filterMap_eq_map']
  refine List.filterMap_congr fun day member => ?_
  rw [find_group, if_pos (mem_shownDays.mp member)]
  rfl

/-- Counts, characters and money. What the seconds add up to depends on how they are grouped. -/
def measures : List (Figures Seconds Int → Int) :=
  [fun figures => figures.transcribed, fun figures => figures.summarized, fun figures => figures.summaryChars,
    fun figures => figures.amount]

theorem measure_figuresOf {measure : Figures Seconds Int → Int} (listed : measure ∈ measures) (rows : List (UsageRow Seconds)) :
    measure (figuresOf rows) = (rows.map fun event => measure (figuresOf [event])).sum := by
  have start : measure .empty = 0 := by
    simp only [measures, List.mem_cons, List.not_mem_nil, or_false] at listed
    rcases listed with rfl | rfl | rfl | rfl <;> rfl
  -- Every measure is a field that a row of its kind adds to.
  have next (figures : Figures Seconds Int) (event : UsageRow Seconds) :
      measure (figures.add event) = measure figures + measure (figuresOf [event]) := by
    simp only [measures, List.mem_cons, List.not_mem_nil, or_false] at listed
    rw [figuresOf, List.foldl_cons, List.foldl_nil]
    rcases listed with rfl | rfl | rfl | rfl <;> cases kind : event.kind <;> simp [Figures.add, Figures.empty, kind]
  have all (figures : Figures Seconds Int) :
      measure (rows.foldl .add figures) = measure figures + (rows.map fun event => measure (figuresOf [event])).sum := by
    induction rows generalizing figures with
    | nil => simp
    | cons event rows ih => rw [List.foldl_cons, ih, next, List.map_cons, List.sum_cons, add_assoc]
  rw [figuresOf, all, start, zero_add]

theorem sum_days {measure : Figures Seconds Int → Int} (listed : measure ∈ measures) :
    ((usageStats query stored).days.map fun row => measure row.2).sum = measure (usageStats query stored).total := by
  rw [total_eq, measure_figuresOf listed, days_eq, List.map_map]
  simp only [Function.comp_def, measure_figuresOf listed (List.filter _ _)]
  refine sum_by_key _ (shownDays_ascending.imp fun less => less.ne) fun event member => ?_
  exact mem_shownDays.mpr (List.mem_map_of_mem member)

end Loop

section Days

variable {Seconds : Type} {query : Query} {stored : List (UsageRow Seconds)}
  {fromisoformat : List Char → Except RangeFault Moment} {fromDay toDay : Option (List Char)} {range : Range}

def lastDay (fromisoformat : List Char → Except RangeFault Moment) (toDay : Option (List Char)) :
    Except RangeFault (Option Moment) := (parseDayStart fromisoformat toDay).bind (includeDay toDay)

theorem parseOrgStatsRange_ok : parseOrgStatsRange fromisoformat fromDay toDay = .ok range ↔
    parseDayStart fromisoformat fromDay = .ok range.start ∧ lastDay fromisoformat toDay = .ok range.stop := by
  obtain ⟨start, stop⟩ := range
  rw [parseOrgStatsRange, lastDay]
  cases parseDayStart fromisoformat fromDay with
  | error fault => exact iff_of_false (fun its => by cases its) fun its => by cases its.1
  | ok begun =>
    cases parseDayStart fromisoformat toDay with
    | error fault => exact iff_of_false (fun its => by cases its) fun its => by cases its.2
    | ok ended =>
      show (includeDay toDay ended).bind _ = _ ↔ _ ∧ includeDay toDay ended = _
      cases includeDay toDay ended with
      | error fault => exact iff_of_false (fun its => by cases its) fun its => by cases its.2
      | ok last => simp [Except.bind]

def OnDay (bound : Option Moment) : Prop := ∀ moment, bound = some moment → ∃ date, moment = .startOf date

theorem trimmed_of_no_time {value : List Char} (plain : 'T' ∉ value) :
    (Text.trimBoth Text.isSpace value).contains 'T' = false := by
  rw [List.contains_eq_mem, decide_eq_false_iff_not]
  exact fun member => plain ((Text.trimBoth_sublist value).subset member)

theorem parseDayStart_onDay {value : Option (List Char)} (plain : ∀ text, value = some text → 'T' ∉ text) {bound : Option Moment}
    (parsed : parseDayStart fromisoformat value = .ok bound) : OnDay bound := by
  rintro moment rfl
  cases value with
  | none => cases parsed
  | some text =>
    rw [parseDayStart] at parsed
    split at parsed
    · cases parsed
    · rw [trimmed_of_no_time (plain text rfl), if_neg Bool.false_ne_true] at parsed
      cases found : strptime ((Text.trimBoth Text.isSpace text).take 10) with
      | none =>
        rw [found] at parsed
        cases parsed
      | some date =>
        rw [found] at parsed
        cases parsed
        exact ⟨date, rfl⟩

theorem includeDay_of_date {text : List Char} (plain : 'T' ∉ text) (date : Date) :
    includeDay (some text) (some (.startOf date)) = (date.next.elim (.error .overflow) fun next =>
      .ok (some (.startOf next))) := by
  have given : (Option.some (Moment.startOf date)).filter (fun stop => decide ((stop.time : Nat) < 1000000) &&
      !((some text).getD []).contains 'T') = some (.startOf date) := by
    refine Option.filter_eq_some_iff.mpr ⟨rfl, ?_⟩
    simp [Moment.startOf, plain]
  rw [includeDay, given]
  dsimp only
  rw [Moment.date_startOf]
  cases date.next <;> rfl

theorem lastDay_onDay (plain : ∀ text, toDay = some text → 'T' ∉ text) {bound : Option Moment}
    (parsed : lastDay fromisoformat toDay = .ok bound) : OnDay bound := by
  rw [lastDay] at parsed
  cases first : parseDayStart fromisoformat toDay with
  | error fault =>
    rw [first] at parsed
    cases parsed
  | ok ended =>
    rw [first] at parsed
    have on_day := parseDayStart_onDay plain first
    cases ended with
    | none =>
      cases parsed
      exact on_day
    | some moment =>
      -- The end of a day is the start of the next one, where there is one.
      obtain ⟨date, rfl⟩ := on_day moment rfl
      cases toDay with
      | none => cases first
      | some text =>
        change includeDay (some text) (some (.startOf date)) = .ok bound at parsed
        rw [includeDay_of_date (plain text rfl)] at parsed
        rintro moment rfl
        cases follows : date.next with
        | none =>
          rw [follows] at parsed
          cases parsed
        | some next =>
          rw [follows] at parsed
          cases parsed
          exact ⟨next, rfl⟩

theorem covers_of_date (first : OnDay range.start) (last : OnDay range.stop) (moment : Moment) :
    range.covers moment = range.covers (.startOf moment.date) := by
  have start : (range.start.all fun start => decide (start ≤ moment)) = range.start.all fun start =>
    decide (start ≤ .startOf moment.date) := by
    cases given : range.start with
    | none => rw [Option.all_none, Option.all_none]
    | some bound =>
      obtain ⟨date, rfl⟩ := first bound given
      rw [Option.all_some, Option.all_some, decide_eq_decide, Moment.startOf_le, Moment.startOf_le, Moment.date_startOf]
  have stop : (range.stop.all fun stop => decide (moment < stop)) = range.stop.all fun stop =>
    decide (.startOf moment.date < stop) := by
    cases given : range.stop with
    | none => rw [Option.all_none, Option.all_none]
    | some bound =>
      obtain ⟨date, rfl⟩ := last bound given
      rw [Option.all_some, Option.all_some, decide_eq_decide, Moment.lt_startOf, Moment.lt_startOf, Moment.date_startOf]
  rw [Range.covers, Range.covers, start, stop]

theorem plain_isoformat (date : Date) : 'T' ∉ date.isoformat := by
  have other : ∀ digit < 10, 'T' ≠ Nat.digitChar digit := by decide
  intro member
  rcases Date.char_of_isoformat member with hyphen | ⟨digit, small, same⟩
  · exact absurd hyphen (by decide)
  · exact other digit small same

theorem trimBoth_isoformat (date : Date) : Text.trimBoth Text.isSpace date.isoformat = date.isoformat := by
  have digits : ∀ digit < 10, Text.isSpace (Nat.digitChar digit) = false := by decide
  have kept : ∀ c ∈ date.isoformat, Text.isSpace c = false := by
    intro c member
    rcases Date.char_of_isoformat member with rfl | ⟨digit, small, rfl⟩
    · rfl
    · exact digits digit small
  exact Text.trimBoth_of_kept kept

theorem parseDayStart_isoformat (date : Date) : parseDayStart fromisoformat (some date.isoformat) =
    .ok (some (.startOf date)) := by
  have some_char : date.isoformat.isEmpty = false := by
    rw [List.isEmpty_eq_false_iff]
    intro none_there
    have long := date.length_isoformat
    rw [none_there] at long
    cases long
  have all_taken : date.isoformat.take 10 = date.isoformat := List.take_of_length_le date.length_isoformat.le
  have plain : date.isoformat.contains 'T' = false := by
    rw [List.contains_eq_mem, decide_eq_false_iff_not]
    exact plain_isoformat date
  rw [parseDayStart, trimBoth_isoformat, some_char, if_neg Bool.false_ne_true, plain, if_neg Bool.false_ne_true, all_taken,
    strptime_isoformat]

theorem lastDay_isoformat {date next : Date} (follows : date.next = some next) :
    lastDay fromisoformat (some date.isoformat) = .ok (some (.startOf next)) := by
  rw [lastDay, parseDayStart_isoformat]
  show includeDay _ _ = _
  rw [includeDay_of_date (plain_isoformat date), follows]
  rfl

end Days

def Query.during (query : Query) (range : Range) : Query := { query with range }

section Parts

variable {Seconds : Type} {query : Query} {stored : List (UsageRow Seconds)} {other : Range} {keep : List Char → Bool}

def Keeps (range other : Range) (keep : List Char → Bool) : Prop :=
  ∀ moment, other.covers moment = (range.covers moment && keep moment.date.isoformat)

theorem rows_during (keeps : Keeps query.range other keep) :
    (query.during other).rows stored = (query.rows stored).filter fun event => keep (dayKey event) := by
  have total : Std.Total fun first second : UsageRow Seconds => first.createdAt ≤ second.createdAt := ⟨fun _ _ => le_total _ _⟩
  have trans : IsTrans (UsageRow Seconds) fun first second => first.createdAt ≤ second.createdAt := ⟨fun _ _ _ => le_trans⟩
  rw [Query.rows, Query.rows, filter_insertionSort, List.filter_filter]
  congr 1
  refine List.filter_congr fun event _ => ?_
  rw [Query.selects, Query.selects, Query.during, keeps, dayKey]
  cases keep event.createdAt.date.isoformat <;> simp

variable [Zero Seconds] [Add Seconds]

theorem shownDays_during (keeps : Keeps query.range other keep) :
    shownDays (query.during other) stored = (shownDays query stored).filter keep := by
  -- Both lists ascend, so they are one when they have the same days.
  refine List.Pairwise.eq_of_mem_iff shownDays_ascending (shownDays_ascending.filter keep) fun day => ?_
  rw [List.mem_filter, mem_shownDays, mem_shownDays, rows_during keeps]
  simp only [List.mem_map, List.mem_filter]
  constructor
  · rintro ⟨event, ⟨member, kept⟩, rfl⟩
    exact ⟨⟨event, member, rfl⟩, kept⟩
  · rintro ⟨⟨event, member, rfl⟩, kept⟩
    exact ⟨event, ⟨member, kept⟩, rfl⟩

theorem days_during (keeps : Keeps query.range other keep) :
    (usageStats (query.during other) stored).days = (usageStats query stored).days.filter fun row => keep row.1 := by
  rw [days_eq, days_eq, shownDays_during keeps, List.filter_map]
  refine List.map_congr_left fun day member => ?_
  have kept : keep day = true := (List.mem_filter.mp member).2
  rw [rows_during keeps, List.filter_filter]
  refine congrArg (fun rows => (day, figuresOf rows)) (List.filter_congr fun event _ => ?_)
  by_cases same : dayKey event = day
  · simp [same, kept]
  · simp [same]

theorem total_of_one_day {date : Date} (keeps : Keeps query.range other fun day => day == date.isoformat) :
    (∀ row ∈ (usageStats (query.during other) stored).days, (usageStats (query.during other) stored).total = row.2) ∧
      ((usageStats (query.during other) stored).days = [] → (usageStats (query.during other) stored).total = .empty) := by
  have one_day : ∀ event ∈ (query.during other).rows stored, dayKey event = date.isoformat := by
    intro event member
    rw [rows_during keeps] at member
    exact beq_iff_eq.mp (List.mem_filter.mp member).2
  constructor
  · intro row member
    rw [days_eq] at member
    obtain ⟨day, shown, rfl⟩ := List.mem_map.mp member
    obtain ⟨event, there, rfl⟩ := List.mem_map.mp (mem_shownDays.mp shown)
    have all : ((query.during other).rows stored).filter (fun later => dayKey later = dayKey event) =
      (query.during other).rows stored := by
      rw [List.filter_eq_self]
      intro later its
      rw [one_day later its, one_day event there, decide_eq_true_eq]
    rw [total_eq, all]
  · intro none_shown
    have no_rows : (query.during other).rows stored = [] := by
      rw [List.eq_nil_iff_forall_not_mem]
      intro event member
      have shown : dayKey event ∈ shownDays (query.during other) stored := mem_shownDays.mpr (List.mem_map_of_mem member)
      rw [days_eq, List.map_eq_nil_iff] at none_shown
      rw [none_shown] at shown
      exact List.not_mem_nil shown
    rw [total_eq, no_rows]
    rfl

end Parts

section Requests

variable {Seconds : Type} [Zero Seconds] [Add Seconds] {query : Query} {stored : List (UsageRow Seconds)}
  {fromisoformat : List Char → Except RangeFault Moment} {fromDay toDay : Option (List Char)}

structure DaysAgree (fromisoformat : List Char → Except RangeFault Moment) (query : Query) (stored : List (UsageRow Seconds))
    (fromDay toDay : Option (List Char)) : Prop where
  ascending : ((usageStats query stored).days.map Prod.fst).Pairwise (· < ·)
  sums : ∀ measure ∈ measures,
    ((usageStats query stored).days.map fun row => measure row.2).sum = measure (usageStats query stored).total
  -- a day of the table that is asked for alone shows its row, and any other day shows nothing
  alone : ∀ date next, date.next = some next → query.range.covers (.startOf date) = true → ∃ range,
    parseOrgStatsRange fromisoformat (some date.isoformat) (some date.isoformat) = .ok range ∧
      let alone := usageStats (query.during range) stored
      alone.days = (usageStats query stored).days.filter (fun row => row.1 == date.isoformat) ∧
        (∀ row ∈ alone.days, alone.total = row.2) ∧ (alone.days = [] → alone.total = .empty)
  -- two requests, the second from the day after the first, show together what one shows
  split : ∀ date next, date.next = some next → query.range.covers (.startOf date) = true → ∃ before after,
    parseOrgStatsRange fromisoformat fromDay (some date.isoformat) = .ok before ∧
      parseOrgStatsRange fromisoformat (some next.isoformat) toDay = .ok after ∧
      (usageStats (query.during before) stored).days ++ (usageStats (query.during after) stored).days =
        (usageStats query stored).days ∧
      ∀ measure ∈ measures, measure (usageStats (query.during before) stored).total +
        measure (usageStats (query.during after) stored).total = measure (usageStats query stored).total

theorem covers_alone {date next : Date} (follows : date.next = some next) (first : OnDay query.range.start)
    (last : OnDay query.range.stop) (inside : query.range.covers (.startOf date) = true) :
    Keeps query.range ⟨some (.startOf date), some (.startOf next)⟩ fun day => day == date.isoformat := by
  intro moment
  have within := @Moment.within_day date next moment follows
  rw [Range.covers, Option.all_some, Option.all_some, ← Bool.decide_and, Bool.decide_congr within]
  beta_reduce
  by_cases same : moment.date = date
  · rw [decide_eq_true same, covers_of_date first last, same, inside, beq_self_eq_true, Bool.true_and]
  · have other : (moment.date.isoformat == date.isoformat) = false :=
      beq_false_of_ne fun texts => same (Date.isoformat_injective texts)
    rw [decide_eq_false same, other, Bool.and_false]

theorem covers_before {date next : Date} (follows : date.next = some next) (last : OnDay query.range.stop)
    (inside : query.range.covers (.startOf date) = true) :
    Keeps query.range ⟨query.range.start, some (.startOf next)⟩ fun day => decide (day < next.isoformat) := by
  intro moment
  rw [Range.covers, Range.covers, Option.all_some, Bool.decide_congr Moment.lt_startOf, Bool.and_assoc]
  beta_reduce
  rw [Bool.decide_congr Date.isoformat_lt]
  congr 1
  -- The end of the range is behind this day, so what comes before the next one is inside.
  cases bound : query.range.stop with
  | none => rw [Option.all_none, Bool.true_and]
  | some stop =>
    obtain ⟨day, rfl⟩ := last stop bound
    have before : date < day := by
      rw [Range.covers, bound, Option.all_some, Bool.and_eq_true, decide_eq_true_eq, Moment.lt_startOf] at inside
      exact inside.2
    rw [Option.all_some, Bool.decide_congr Moment.lt_startOf, ← Bool.decide_and]
    refine Bool.decide_congr ⟨fun less => ⟨?_, less⟩, And.right⟩
    exact ((Date.lt_next follows).mp less).trans_lt before

theorem covers_after {date next : Date} (follows : date.next = some next) (first : OnDay query.range.start)
    (inside : query.range.covers (.startOf date) = true) :
    Keeps query.range ⟨some (.startOf next), query.range.stop⟩ fun day => !decide (day < next.isoformat) := by
  intro moment
  have from_next : decide (Moment.startOf next ≤ moment) = !decide (moment.date.isoformat < next.isoformat) := by
    rw [← decide_not]
    exact Bool.decide_congr (Moment.startOf_le.trans (not_lt.symm.trans Date.isoformat_lt.not.symm))
  rw [Range.covers, Range.covers, Option.all_some, Bool.and_comm, Bool.and_comm _ (query.range.stop.all _), Bool.and_assoc]
  beta_reduce
  rw [← from_next]
  congr 1
  -- The start of the range is not behind this day, so what comes from the next one on is inside.
  cases bound : query.range.start with
  | none => rw [Option.all_none, Bool.true_and]
  | some start =>
    obtain ⟨day, rfl⟩ := first start bound
    have after : day ≤ date := by
      rw [Range.covers, bound, Option.all_some, Bool.and_eq_true, decide_eq_true_eq, Moment.startOf_le] at inside
      exact inside.1
    have later : next ≤ moment.date → day ≤ moment.date := (after.trans (Date.lt_next follows |>.mpr le_rfl).le).trans
    rw [Option.all_some, ← Bool.decide_and]
    refine Bool.decide_congr ⟨fun less => ⟨?_, less⟩, And.right⟩
    exact Moment.startOf_le.mpr (later (Moment.startOf_le.mp less))

/-- The statistics of a range that is asked for in days. -/
theorem days_agree (plain : ∀ text, fromDay = some text ∨ toDay = some text → 'T' ∉ text)
    (parsed : parseOrgStatsRange fromisoformat fromDay toDay = .ok query.range) :
    DaysAgree fromisoformat query stored fromDay toDay := by
  obtain ⟨from_parsed, to_parsed⟩ := parseOrgStatsRange_ok.mp parsed
  have first : OnDay query.range.start := parseDayStart_onDay (fun text given => plain text (.inl given)) from_parsed
  have last : OnDay query.range.stop := lastDay_onDay (fun text given => plain text (.inr given)) to_parsed
  have ascending : ((usageStats query stored).days.map Prod.fst).Pairwise (· < ·) := by
    rw [days_eq, List.map_map]
    simp only [Function.comp_def, List.map_id']
    exact shownDays_ascending
  refine ⟨ascending, fun measure listed => sum_days listed, fun date next follows inside => ?_,
    fun date next follows inside => ?_⟩
  · have keeps := covers_alone follows first last inside
    refine ⟨_, parseOrgStatsRange_ok.mpr ⟨parseDayStart_isoformat date, lastDay_isoformat follows⟩, days_during keeps, ?_⟩
    exact total_of_one_day keeps
  · have before := covers_before follows last inside
    have after := covers_after follows first inside
    -- The days of both parts are those of the whole, cut where the texts of dates pass the next day.
    have together : (usageStats (query.during ⟨query.range.start, some (.startOf next)⟩) stored).days ++
        (usageStats (query.during ⟨some (.startOf next), query.range.stop⟩) stored).days = (usageStats query stored).days := by
      rw [days_during before, days_during after]
      refine filter_append_filter ((List.pairwise_map.mp ascending).imp fun less below => ?_)
      rw [decide_eq_true_eq] at below ⊢
      exact less.trans below
    refine ⟨⟨query.range.start, some (.startOf next)⟩, ⟨some (.startOf next), query.range.stop⟩,
      parseOrgStatsRange_ok.mpr ⟨from_parsed, lastDay_isoformat follows⟩,
      parseOrgStatsRange_ok.mpr ⟨parseDayStart_isoformat next, to_parsed⟩, together, fun measure listed => ?_⟩
    rw [← sum_days listed, ← sum_days listed, ← sum_days listed, ← together, List.map_append, List.sum_append]

end Requests

section Samples

def february (day : Fin 28) : Date := ⟨2026, 2, day + 1, by revert day; decide⟩

def usedOn (day : Fin 28) (kind : TaskType) (amount : Int) : UsageRow Int where
  orgId := 2
  userId := some 4
  taskId := none
  kind
  audioSec := some 60
  summaryChars := some 900
  amount
  unlimitedSkip := false
  createdAt := ⟨february day, ⟨5, by decide⟩⟩

def threeDays : Query := ⟨some 2, ⟨some (.startOf (february 0)), some (.startOf (february 3))⟩, none, none⟩

def februaryRows : List (UsageRow Int) :=
  [usedOn 2 .transcribe 5, usedOn 0 .transcribe 10, usedOn 2 .summarize 7, usedOn 3 .transcribe 1000]

theorem days_agree_in_february :
    DaysAgree (fun _ => .error .invalid) threeDays februaryRows (some "2026-02-01".toList) (some "2026-2-3".toList) ∧
      (usageStats threeDays februaryRows).shown.days.map (fun row => (row.1, row.2.amount)) =
        [("2026-02-01".toList, "0.010".toList), ("2026-02-03".toList, "0.012".toList)] := by
  refine ⟨days_agree ?_ (by rfl), by decide +kernel⟩
  rintro text (same | same)
  · obtain rfl := Option.some.inj same
    decide
  · obtain rfl := Option.some.inj same
    decide

end Samples

end IdigestHub.Billing
