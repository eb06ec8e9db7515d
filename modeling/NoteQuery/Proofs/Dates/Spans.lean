import NoteQuery.Dates.Resolve
import NoteQuery.Proofs.Calendar.Weeks

/-!
# Spans of calendar units

An instant lies in one second, minute, day, week, month, quarter and year. The form of
such a unit carries the numbers that the calendar gives it, and its span covers exactly
the instants of that unit, the last unit of the calendar included, which is cut off where
the calendar ends.
-/
namespace NoteQuery

/-- The lengths of time that a date form may stand for. -/
inductive Granularity where
  | second
  | minute
  | day
  | week
  | month
  | quarter
  | year
  deriving DecidableEq, Repr

namespace Day

theorem eq_of_index {d e : Day} (h : d.index = e.index) : d = e := by
  cases d
  cases e
  cases h
  rfl

theorem eq_of_date {d e : Day} (hyear : d.year = e.year) (hmonth : d.month = e.month)
    (hday : d.dayOfMonth = e.dayOfMonth) : d = e := by
  have hd := ofDate?_date d
  rw [hyear, hmonth, hday, ofDate?_date e] at hd
  exact (Option.some_inj.mp hd).symm

/-- What the year and the month of a day say about the number of its month. -/
theorem monthNumber_eq (d : Day) :
    d.monthNumber = 12 * d.year + (d.month - 1) ∧ 1 ≤ d.year ∧ d.year ≤ maxYear ∧ 1 ≤ d.month ∧
      d.month ≤ 12 :=
  ⟨rfl, d.isDate.1, d.isDate.2.1, d.isDate.2.2.1, d.isDate.2.2.2.1⟩

def quarter (d : Day) : Nat := (d.month - 1) / 3 + 1

end Day

namespace Instant

theorem eq_of_ticks {s t : Instant} (h : s.ticks = t.ticks) : s = t := by
  cases s
  cases t
  cases h
  rfl

/-- The day and the clock count the minutes. -/
theorem minutes_eq (t : Instant) :
    t.ticks / 60000000 = (t.day.index * 24 + t.hour) * 60 + t.minute ∧ t.hour < 24 ∧
      t.minute < 60 := by
  rw [day, hour, minute, ofMidnight]
  simp only
  omega

/-- The day and the clock count the seconds. -/
theorem seconds_eq (t : Instant) :
    t.ticks / 1000000 = ((t.day.index * 24 + t.hour) * 60 + t.minute) * 60 + t.second ∧
      t.hour < 24 ∧ t.minute < 60 ∧ t.second < 60 := by
  rw [day, hour, minute, second, ofMidnight]
  simp only
  omega

/-- A full second of the minute of an instant. -/
theorem ofDayTime?_clock (t : Instant) {s : Nat} (h : s < 60) :
    ∃ start, ofDayTime? t.day t.hour t.minute s 0 = some start ∧
      start.ticks = t.ticks / 60000000 * 60000000 + s * 1000000 := by
  obtain ⟨hminutes, hhour, hminute⟩ := t.minutes_eq
  have htime : IsTime t.hour t.minute s 0 := ⟨by omega, by omega, by omega, by omega⟩
  rw [ofDayTime?, dif_pos htime]
  refine ⟨_, rfl, ?_⟩
  rw [hminutes]
  simp only
  omega

theorem ofDay_ticks (d : Day) : (ofDay d).ticks = d.index * 86400000000 := rfl

theorem day_index (t : Instant) : t.day.index = t.ticks / 86400000000 := rfl

theorem pred_ticks (t : Instant) : t.pred.ticks = t.ticks - 1 := rfl

theorem le_last (t : Instant) : t.ticks ≤ last.ticks := by
  have hlast : last.ticks = 3652059 * 86400000000 - 1 := rfl
  have ht := t.inCalendar
  omega

theorem ofDay_le_iff (d : Day) (t : Instant) :
    (ofDay d).ticks ≤ t.ticks ↔ d.index ≤ t.day.index := by
  rw [ofDay_ticks, day_index]
  omega

theorem le_pred_ofDay_iff {d : Day} (h : 0 < d.index) (t : Instant) :
    t.ticks ≤ (ofDay d).pred.ticks ↔ t.day.index < d.index := by
  rw [pred_ticks, ofDay_ticks, day_index]
  omega

theorem add?_eq (t : Instant) (n : Nat) :
    t.add? n = if h : t.ticks + n < 3652059 * 86400000000 then some ⟨t.ticks + n, h⟩ else none :=
  rfl

end Instant

theorem DateRange.covers_iff (r : DateRange) (t : Instant) :
    r.covers t ↔ r.start.ticks ≤ t.ticks ∧ t.ticks ≤ r.stop.ticks := by
  rw [DateRange.covers, Bool.and_eq_true, decide_eq_true_eq, decide_eq_true_eq]
  exact Iff.rfl

namespace DateForm

def ofUnit (t : Instant) : Granularity → DateForm
  | .second => .second t.day.year t.day.month t.day.dayOfMonth t.hour t.minute t.second
  | .minute => .minute t.day.year t.day.month t.day.dayOfMonth t.hour t.minute
  | .day => .day t.day.year t.day.month t.day.dayOfMonth
  | .week => .week t.day.isoYear t.day.isoWeek
  | .month => .month t.day.year t.day.month
  | .quarter => .quarter t.day.year t.day.quarter
  | .year => .year t.day.year

/-- A span of some length that begins with the unit of that length which `t` falls in. -/
theorem spanFrom_covers_iff {start t : Instant} {n : Nat} (h : 0 < n)
    (hstart : start.ticks = t.ticks / n * n) (s : Instant) :
    (spanFrom start n).covers s ↔ s.ticks / n = t.ticks / n := by
  have hstop : s.ticks ≤ (spanFrom start n).stop.ticks ↔ s.ticks < start.ticks + n := by
    have hs := s.inCalendar
    rw [spanFrom, Instant.add?_eq]
    by_cases hn : start.ticks + n < 3652059 * 86400000000
    · rw [dif_pos hn]
      simp only [Instant.pred_ticks]
      omega
    · rw [dif_neg hn]
      have hlast := s.le_last
      simp only
      omega
  have hspan : (spanFrom start n).start = start := by
    rw [spanFrom]
    split <;> rfl
  rw [DateRange.covers_iff, hspan, hstop, Nat.div_eq_iff h, hstart]
  omega

/-- A span of months begins with the first of a month and ends in front of the first of
another one or with the calendar. -/
theorem monthSpan?_ends {y m n : Nat} (hy : 1 ≤ y) (hcount : 1 ≤ n)
    {first : Day} (hfirst : Day.ofDate? y m 1 = some first) {k : Nat}
    (hk : k = 12 * y + (m - 1)) :
    ∃ r, monthSpan? y m n = some r ∧ r.start = Instant.ofDay first ∧
      ∀ t : Instant, t.ticks ≤ r.stop.ticks ↔
        t.day.index < Day.monthStart (k + n) ∨ 12 * (maxYear + 1) ≤ k + n := by
  have hadd : addMonths y m n = ((k + n) / 12, (k + n) % 12 + 1) := by
    rw [addMonths, Nat.mul_comm y 12, hk]
  by_cases hend : maxYear < (k + n) / 12
  · refine ⟨⟨.ofDay first, .last⟩, ?_, rfl, ?_⟩
    · rw [monthSpan?, hfirst, hadd]
      simp [hend]
    · exact fun t => ⟨fun _ => Or.inr (by omega), fun _ => t.le_last⟩
  · obtain ⟨next, hnext, hnextIndex⟩ := Day.ofDate?_first (y := (k + n) / 12)
      (m := (k + n) % 12 + 1) (by omega) (by omega) (by omega) (by omega)
    have hnumber : 12 * ((k + n) / 12) + ((k + n) % 12 + 1 - 1) = k + n := by omega
    rw [hnumber] at hnextIndex
    refine ⟨⟨.ofDay first, (Instant.ofDay next).pred⟩, ?_, rfl, ?_⟩
    · rw [monthSpan?, hfirst, hadd]
      simp [hend, hnext]
    · intro t
      have hpos : Day.monthStart k < Day.monthStart (k + n) := by
        have := Day.monthStart_lt_succ (k := k) (by omega)
        have := Day.monthStart_mono (k := k + 1) (l := k + n) (by omega) (by omega)
        omega
      have hmax' : ¬ 12 * (maxYear + 1) ≤ k + n := by omega
      rw [Instant.le_pred_ofDay_iff (by omega), hnextIndex]
      simp only [hmax', or_false]

/-- Some months from the first of a month on. -/
theorem monthSpan?_covers_iff {y m n : Nat} (hy : 1 ≤ y) (hmax : y ≤ maxYear) (hm : 1 ≤ m)
    (hm' : m ≤ 12) (hcount : 1 ≤ n) :
    ∃ r, monthSpan? y m n = some r ∧ ∀ t : Instant, r.covers t ↔
      12 * y + (m - 1) ≤ t.day.monthNumber ∧ t.day.monthNumber < 12 * y + (m - 1) + n := by
  obtain ⟨first, hfirst, hindex⟩ := Day.ofDate?_first hy hmax hm hm'
  obtain ⟨k, hk⟩ : ∃ k, k = 12 * y + (m - 1) := ⟨_, rfl⟩
  obtain ⟨r, hr, hrstart, hrstop⟩ := monthSpan?_ends hy hcount hfirst hk
  rw [← hk] at hindex ⊢
  refine ⟨r, hr, fun t => ?_⟩
  rw [DateRange.covers_iff, hrstart, Instant.ofDay_le_iff, hindex, hrstop]
  constructor
  · rintro ⟨hlow, hhigh⟩
    exact Day.monthNumber_between (by omega) (by omega) hlow hhigh
  · rintro ⟨hlow, hhigh⟩
    obtain ⟨htwelve, hnumber, -, htstart, htstop⟩ := Day.monthNumber_spec t.day
    constructor
    · have := Day.monthStart_mono (k := k) (by omega) hlow
      omega
    · by_cases hend : 12 * (maxYear + 1) ≤ k + n
      · exact Or.inr hend
      · have := Day.monthStart_mono (k := t.day.monthNumber + 1) (l := k + n) (by omega) hhigh
        exact Or.inl (by omega)

variable (order : DayOrder) (today : Day) (t : Instant)

theorem ofUnit_second_iff (s t : Instant) :
    ofUnit s .second = ofUnit t .second ↔ s.ticks / 1000000 = t.ticks / 1000000 := by
  obtain ⟨hs, hhour, hminute, hsecond⟩ := s.seconds_eq
  obtain ⟨ht, hhour', hminute', hsecond'⟩ := t.seconds_eq
  rw [hs, ht]
  simp only [ofUnit, DateForm.second.injEq]
  constructor
  · rintro ⟨hyear, hmonth, hday, hsame⟩
    rw [Day.eq_of_date hyear hmonth hday]
    omega
  · intro hsame
    have hday : s.day = t.day := Day.eq_of_index (by omega)
    rw [hday] at hsame ⊢
    exact ⟨rfl, rfl, rfl, by omega, by omega, by omega⟩

theorem ofUnit_minute_iff (s t : Instant) :
    ofUnit s .minute = ofUnit t .minute ↔ s.ticks / 60000000 = t.ticks / 60000000 := by
  obtain ⟨hs, hhour, hminute⟩ := s.minutes_eq
  obtain ⟨ht, hhour', hminute'⟩ := t.minutes_eq
  rw [hs, ht]
  simp only [ofUnit, DateForm.minute.injEq]
  constructor
  · rintro ⟨hyear, hmonth, hday, hsame⟩
    rw [Day.eq_of_date hyear hmonth hday]
    omega
  · intro hsame
    have hday : s.day = t.day := Day.eq_of_index (by omega)
    rw [hday] at hsame ⊢
    exact ⟨rfl, rfl, rfl, by omega, by omega⟩

theorem ofUnit_day_iff (s t : Instant) :
    ofUnit s .day = ofUnit t .day ↔ s.ticks / 86400000000 = t.ticks / 86400000000 := by
  rw [← Instant.day_index, ← Instant.day_index]
  simp only [ofUnit, DateForm.day.injEq]
  constructor
  · rintro ⟨hyear, hmonth, hday⟩
    rw [Day.eq_of_date hyear hmonth hday]
  · intro hsame
    rw [Day.eq_of_index hsame]
    exact ⟨rfl, rfl, rfl⟩

theorem ofUnit_week_iff (s t : Instant) :
    ofUnit s .week = ofUnit t .week ↔ s.ticks / 604800000000 = t.ticks / 604800000000 := by
  simp only [ofUnit, DateForm.week.injEq]
  rw [Day.isoWeek_eq_iff, Instant.day_index, Instant.day_index, Nat.div_div_eq_div_mul,
    Nat.div_div_eq_div_mul]

theorem second_span : ∃ r, span? order today (ofUnit t .second) = some r ∧
    ∀ s : Instant, r.covers s ↔ ofUnit s .second = ofUnit t .second := by
  obtain ⟨hseconds, -, -, hsecond⟩ := t.seconds_eq
  obtain ⟨hminutes, -, -⟩ := t.minutes_eq
  obtain ⟨start, hstart, hticks⟩ := t.ofDayTime?_clock hsecond
  have hunit : start.ticks = t.ticks / 1000000 * 1000000 := by
    rw [hticks, hseconds, hminutes]
    omega
  refine ⟨spanFrom start 1000000, ?_, fun s => ?_⟩
  · rw [ofUnit, span?, Day.ofDate?_date, Option.bind_eq_bind, Option.bind_some, hstart]
    rfl
  · rw [ofUnit_second_iff]
    exact spanFrom_covers_iff (by decide) hunit s

theorem minute_span : ∃ r, span? order today (ofUnit t .minute) = some r ∧
    ∀ s : Instant, r.covers s ↔ ofUnit s .minute = ofUnit t .minute := by
  obtain ⟨start, hstart, hticks⟩ := t.ofDayTime?_clock (s := 0) (by decide)
  have hunit : start.ticks = t.ticks / 60000000 * 60000000 := by
    rw [hticks, Nat.zero_mul, Nat.add_zero]
  refine ⟨spanFrom start 60000000, ?_, fun s => ?_⟩
  · rw [ofUnit, span?, Day.ofDate?_date, Option.bind_eq_bind, Option.bind_some, hstart]
    rfl
  · rw [ofUnit_minute_iff]
    exact spanFrom_covers_iff (by decide) hunit s

theorem day_span : ∃ r, span? order today (ofUnit t .day) = some r ∧
    ∀ s : Instant, r.covers s ↔ ofUnit s .day = ofUnit t .day := by
  have hunit : (Instant.ofDay t.day).ticks = t.ticks / 86400000000 * 86400000000 := rfl
  refine ⟨daySpan t.day, ?_, fun s => ?_⟩
  · rw [ofUnit, span?, Day.ofDate?_date, Option.map_some]
  · rw [ofUnit_day_iff]
    exact spanFrom_covers_iff (by decide) hunit s

theorem week_span : ∃ r, span? order today (ofUnit t .week) = some r ∧
    ∀ s : Instant, r.covers s ↔ ofUnit s .week = ofUnit t .week := by
  have hunit : (Instant.ofDay t.day.monday).ticks = t.ticks / 604800000000 * 604800000000 := by
    have hindex : t.day.monday.index = 7 * (t.day.index / 7) := rfl
    rw [Instant.ofDay_ticks, hindex, Instant.day_index]
    omega
  refine ⟨weekSpan t.day.monday, ?_, fun s => ?_⟩
  · rw [ofUnit, span?, Day.ofWeek?_iso, Option.map_some]
  · rw [ofUnit_week_iff]
    exact spanFrom_covers_iff (by decide) hunit s

theorem month_span : ∃ r, span? order today (ofUnit t .month) = some r ∧
    ∀ s : Instant, r.covers s ↔ ofUnit s .month = ofUnit t .month := by
  obtain ⟨hnumber, hy, hmax, hm, hm'⟩ := t.day.monthNumber_eq
  obtain ⟨r, hr, hcovers⟩ := monthSpan?_covers_iff hy hmax hm hm' (Nat.le_refl 1)
  refine ⟨r, by rw [ofUnit, span?, hr], fun s => ?_⟩
  obtain ⟨hnumber', -, -, hn, hn'⟩ := s.day.monthNumber_eq
  rw [hcovers]
  simp only [ofUnit, DateForm.month.injEq]
  omega

theorem quarter_span : ∃ r, span? order today (ofUnit t .quarter) = some r ∧
    ∀ s : Instant, r.covers s ↔ ofUnit s .quarter = ofUnit t .quarter := by
  obtain ⟨hnumber, hy, hmax, hm, hm'⟩ := t.day.monthNumber_eq
  obtain ⟨q, hq⟩ : ∃ q, q = t.day.quarter := ⟨_, rfl⟩
  have hquarter : q = (t.day.month - 1) / 3 + 1 := hq
  obtain ⟨r, hr, hcovers⟩ := monthSpan?_covers_iff hy hmax (m := 3 * (q - 1) + 1) (by omega)
    (by omega) (n := 3) (by decide)
  refine ⟨r, by rw [ofUnit, span?, ← hq, if_pos ⟨by omega, by omega⟩, hr], fun s => ?_⟩
  obtain ⟨hnumber', -, -, hn, hn'⟩ := s.day.monthNumber_eq
  rw [hcovers]
  simp only [ofUnit, DateForm.quarter.injEq, Day.quarter]
  omega

theorem year_span : ∃ r, span? order today (ofUnit t .year) = some r ∧
    ∀ s : Instant, r.covers s ↔ ofUnit s .year = ofUnit t .year := by
  obtain ⟨-, hy, hmax, -, -⟩ := t.day.monthNumber_eq
  obtain ⟨r, hr, hcovers⟩ := monthSpan?_covers_iff hy hmax (m := 1) (by decide) (by decide)
    (n := 12) (by decide)
  refine ⟨r, by rw [ofUnit, span?, hr], fun s => ?_⟩
  obtain ⟨hnumber', -, -, hn, hn'⟩ := s.day.monthNumber_eq
  rw [hcovers]
  simp only [ofUnit, DateForm.year.injEq]
  omega

end DateForm

end NoteQuery
