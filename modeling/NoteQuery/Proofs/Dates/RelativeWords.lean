import NoteQuery.Proofs.Dates.Ranges
import NoteQuery.Proofs.Dates.Tiling
import NoteQuery.Proofs.Text.Casing

/-!
# Relative words as absolute texts

A relative word stands for what an absolute text of the current day stands for: the text of
its day, week or month, of the day before, or of the range from an earlier day up to it. So
a word stands for nothing only where its first day would lie in front of the calendar.
-/
namespace NoteQuery

namespace RelativeDay

def reach (current : Day) : RelativeDay → Nat
  | .today => 0
  | .yesterday => 1
  | .last7Days => 6
  | .last30Days => 29
  | .thisWeek => current.weekday
  | .thisMonth => current.dayOfMonth - 1

/-- The absolute text for a word: an ISO text of the current time or of the first day, or the
range from the first day to the current one. -/
def absoluteText (first : Day) (now : Instant) : RelativeDay → Text
  | .today => now.unitText .day
  | .yesterday => first.toText
  | .last7Days => first.toText ++ DateExpr.dots ++ now.day.toText
  | .last30Days => first.toText ++ DateExpr.dots ++ now.day.toText
  | .thisWeek => now.unitText .week
  | .thisMonth => now.unitText .month

/-! ## Reading a word -/

theorem isAscii_of_mem_word (w : RelativeDay) : ∀ d ∈ w.word, Text.IsAscii d := by
  have hall : w.word.all fun d => decide (Text.IsAscii d) := by cases w <;> decide
  intro d hd
  exact of_decide_eq_true (List.all_eq_true.mp hall d hd)

theorem isPlain_word (w : RelativeDay) : w.word.IsPlain := by
  cases w <;> decide

theorem find?_word (w : RelativeDay) : (all.find? fun v => v.word == w.word) = some w := by
  cases w <;> decide

theorem lower_eq_word_iff (w : RelativeDay) (s : Text) :
    Text.lower s = w.word ↔ Text.IsCasing s w.word :=
  Text.lower_eq_iff w.isAscii_of_mem_word

/-- A relative word begins with one of three letters. -/
theorem exists_head_of_isCasing {w : RelativeDay} {s : Text} (h : Text.IsCasing s w.word) :
    ∃ c ∈ s.head?, ∃ d ∈ ['t', 'y', 'l'], Text.IsCaseOf c d := by
  have hhead : ∃ d ds, w.word = d :: ds ∧ d ∈ ['t', 'y', 'l'] := by
    cases w <;> exact ⟨_, _, rfl, by decide⟩
  obtain ⟨d, ds, hword, hd⟩ := hhead
  rw [hword, Text.IsCasing, List.forall₂_cons_right_iff] at h
  obtain ⟨c, rest, hcase, -, rfl⟩ := h
  exact ⟨c, rfl, d, hd, hcase⟩

end RelativeDay

namespace Text

theorem exists_isCaseOf_of_mem {s word : Text} (h : IsCasing s word) {c : Char} (hc : c ∈ s) :
    ∃ d ∈ word, IsCaseOf c d := by
  induction h with
  | nil => cases hc
  | cons hcase _ ih =>
    rcases List.mem_cons.mp hc with rfl | hc
    · exact ⟨_, List.mem_cons_self, hcase⟩
    · obtain ⟨d, hd, hcase⟩ := ih hc
      exact ⟨d, List.mem_cons_of_mem _ hd, hcase⟩

/-- Blanks and dots have no case. -/
theorem toLower_of_not_plain {c : Char} (h : isBlank c = true ∨ c = '.') : c.toLower = c := by
  by_cases hascii : c.toNat < 0x80
  · have hall : ∀ n < 0x80, isBlank (Char.ofNat n) = true ∨ Char.ofNat n = '.' →
        (Char.ofNat n).toLower = Char.ofNat n := by decide
    have hc := hall c.toNat hascii
    rw [Char.ofNat_toNat] at hc
    exact hc h
  · exact toLower_eq_self (by omega)

theorem IsCasing.isPlain {s word : Text} (h : IsCasing s word) (hword : word.IsPlain) :
    s.IsPlain := by
  rw [IsPlain, List.all_eq_true]
  intro c hc
  obtain ⟨d, hd, hcase⟩ := exists_isCaseOf_of_mem h hc
  by_contra hnot
  have hplain : isBlank c = true ∨ c = '.' := by
    simp only [Bool.and_eq_true, Bool.not_eq_true', bne_iff_ne, ne_eq, not_and_or,
      Bool.not_eq_false, not_not] at hnot
    exact hnot
  rcases hcase with hlower | ⟨rfl, -⟩
  · rw [toLower_of_not_plain hplain] at hlower
    subst hlower
    rcases hplain with hblank | rfl
    · rw [hword.not_blank hd] at hblank
      cases hblank
    · exact hword.not_dot hd
  · exact absurd hplain (by decide)

end Text

namespace DateExpr

theorem isSide_of_isPlain {s : Text} (h : s.IsPlain) (hne : s ≠ []) : IsSide s := by
  constructor
  · rw [Text.trim_eq_self fun c hc => h.not_blank hc]
    exact hne
  · intro hdots
    exact h.not_dot (hdots.subset List.mem_cons_self)

variable (order : DayOrder) (now : Instant)

/-- A casing of a relative word is read as that word. -/
theorem resolve?_of_isCasing {s : Text} {w : RelativeDay} (h : Text.IsCasing s w.word) :
    resolve? order now s = DateForm.relativeSpan? now.day w := by
  have hplain := h.isPlain w.isPlain_word
  have htrim := Text.trim_eq_self fun c hc => hplain.not_blank hc
  have hlower := (w.lower_eq_word_iff s).mpr h
  have hform : DateForm.ofText? s = some (.relative w) := by
    simp only [DateForm.ofText?, htrim, hlower, w.find?_word]
  simp only [resolve?, htrim, splitFirst?_dots hplain.not_dot, side?, hform, Option.bind_some]
  rfl

end DateExpr

/-! ## Absolute texts -/

theorem Instant.day_ofDay (d : Day) : (ofDay d).day = d := by
  apply Day.eq_of_index
  rw [day_index, ofDay_ticks]
  omega

theorem Day.sub?_eq_some {d e : Day} {n : Nat} (h : e.index + n = d.index) :
    d.sub? n = some e := by
  have hindex : d.index - n = e.index := by omega
  rw [sub?, if_pos (by omega), hindex, ofIndex?, dif_pos e.inCalendar]

theorem Day.sub?_eq_none_iff (d : Day) (n : Nat) : d.sub? n = none ↔ d.index < n := by
  have hd := d.inCalendar
  rw [sub?]
  by_cases h : n ≤ d.index
  · rw [if_pos h, ofIndex?, dif_pos (by omega)]
    constructor
    · intro hnone
      cases hnone
    · intro hlt
      omega
  · rw [if_neg h]
    constructor
    · intro _
      omega
    · intro _
      rfl

theorem Day.unitText_ofDay (d : Day) : (Instant.ofDay d).unitText .day = d.toText := by
  rw [Instant.unitText, Instant.day_ofDay]

theorem DateForm.daySpan_start (d : Day) : (daySpan d).start = .ofDay d := by
  rw [daySpan, spanFrom_start]

theorem DateForm.weekSpan_start (d : Day) : (weekSpan d).start = .ofDay d := by
  rw [weekSpan, spanFrom_start]

namespace DateExpr

variable (order : DayOrder) (now : Instant)

theorem isSide_toText (d : Day) : IsSide d.toText := by
  have hplain := (Instant.ofDay d).isPlain_unitText .day
  obtain ⟨digit, s, -, htext⟩ := (Instant.ofDay d).exists_digit .day
  rw [d.unitText_ofDay] at hplain htext
  apply isSide_of_isPlain hplain
  rw [htext]
  exact List.cons_ne_nil _ _

theorem resolve?_toText (d : Day) : resolve? order now d.toText = some (DateForm.daySpan d) := by
  rw [← d.unitText_ofDay, resolve?_unitText, DateForm.ofUnit, Instant.day_ofDay, DateForm.span?,
    Day.ofDate?_date, Option.map_some]

/-- The range between the texts of two days in order. -/
theorem resolve?_toText_dots {d e : Day} (h : d.index ≤ e.index) :
    resolve? order now (d.toText ++ dots ++ e.toText) =
      some ⟨.ofDay d, (DateForm.daySpan e).stop⟩ := by
  have hordered : ¬ (DateForm.daySpan e).stop < (DateForm.daySpan d).start := by
    have hstop := DateForm.daySpan_ordered e
    rw [Instant.le_iff, DateForm.daySpan_start, Instant.ofDay_ticks] at hstop
    rw [Instant.lt_iff, DateForm.daySpan_start, Instant.ofDay_ticks]
    omega
  rw [resolve?_between (isSide_toText d) (isSide_toText e), ← resolve?_side (isSide_toText d),
    ← resolve?_side (isSide_toText e), resolve?_toText, resolve?_toText, Option.bind_some,
    Option.map_some, between, if_neg hordered, DateForm.daySpan_start]

end DateExpr

/-! ## Spans -/

namespace DateForm

/-- Only the days of the calendar can be reached. -/
theorem relativeSpan?_eq_none_iff (d : Day) (w : RelativeDay) :
    relativeSpan? d w = none ↔ d.index < w.reach d := by
  cases w with
  | today =>
    rw [relativeSpan?, RelativeDay.reach]
    constructor
    · intro h
      cases h
    · intro h
      omega
  | yesterday | last7Days | last30Days | thisWeek =>
    rw [relativeSpan?, Option.map_eq_none_iff, Day.sub?_eq_none_iff, RelativeDay.reach]
  | thisMonth =>
    obtain ⟨r, hr, -⟩ := month_span .dayFirst d (Instant.ofDay d)
    rw [ofUnit, Instant.day_ofDay, span?] at hr
    obtain ⟨m, n, -, hday, -, hindex, -⟩ := d.date_spec
    rw [relativeSpan?, hr, RelativeDay.reach, hday]
    constructor
    · intro h
      cases h
    · intro h
      omega

variable {d first : Day}

/-- The span of the month of a day begins with its first day. -/
theorem monthSpan?_start (h : first.index + (d.dayOfMonth - 1) = d.index) :
    ∃ r, monthSpan? d.year d.month 1 = some r ∧ r.start = .ofDay first := by
  obtain ⟨m, n, hmonth, hday, hm, hindex, -⟩ := d.date_spec
  obtain ⟨-, hy, hmax, hone, htwelve⟩ := d.monthNumber_eq
  obtain ⟨e, he, hstart⟩ := Day.ofDate?_first hy hmax hone htwelve
  have hdiv : (12 * d.year + (d.month - 1)) / 12 = d.year := by omega
  have hmod : (12 * d.year + (d.month - 1)) % 12 = m := by omega
  rw [Day.monthStart, hdiv, hmod] at hstart
  have hfirst : e = first := by
    apply Day.eq_of_index
    omega
  obtain ⟨r, hr, hrstart, -⟩ := monthSpan?_ends hy (Nat.le_refl 1) he rfl
  exact ⟨r, hr, by rw [hrstart, hfirst]⟩

theorem daySpan_covers (t : Instant) : (daySpan t.day).covers t := by
  have hspan := Instant.span?_eq_unitRange .dayFirst .first t .day
  rw [ofUnit, span?, Day.ofDate?_date, Option.map_some, Option.some_inj] at hspan
  rw [hspan]
  exact (Instant.isTiling_unitRange .day).covers_self t

theorem weekSpan_covers (t : Instant) : (weekSpan t.day.monday).covers t := by
  have hspan := Instant.span?_eq_unitRange .dayFirst .first t .week
  rw [ofUnit, span?, Day.ofWeek?_iso, Option.map_some, Option.some_inj] at hspan
  rw [hspan]
  exact (Instant.isTiling_unitRange .week).covers_self t

theorem monthSpan?_covers {t : Instant} {r : DateRange}
    (h : monthSpan? t.day.year t.day.month 1 = some r) : r.covers t := by
  have hspan := Instant.span?_eq_unitRange .dayFirst .first t .month
  rw [ofUnit, span?, h, Option.some_inj] at hspan
  rw [hspan]
  exact (Instant.isTiling_unitRange .month).covers_self t

/-- A range may begin with an earlier day than the one of an instant in it. -/
theorem covers_of_days {r : DateRange} {t : Instant} (hr : r.covers t)
    (h : first.index ≤ t.day.index) : DateRange.covers ⟨.ofDay first, r.stop⟩ t := by
  rw [DateRange.covers_iff] at hr ⊢
  constructor
  · exact (Instant.ofDay_le_iff first t).mpr h
  · exact hr.2

/-- A word whose first day exists has a span that begins with it, and all but one of these
spans hold the current time. -/
theorem exists_relativeSpan? {t : Instant} {w : RelativeDay}
    (h : first.index + w.reach t.day = t.day.index) :
    ∃ r, relativeSpan? t.day w = some r ∧ r.start = .ofDay first ∧
      (w ≠ .yesterday → r.covers t) := by
  cases w with
  | today =>
    have hfirst : t.day = first := Day.eq_of_index h.symm
    rw [← hfirst]
    exact ⟨daySpan t.day, rfl, daySpan_start t.day, fun _ => daySpan_covers t⟩
  | yesterday =>
    have hsub : t.day.sub? 1 = some first := Day.sub?_eq_some h
    refine ⟨daySpan first, ?_, daySpan_start first, fun hne => absurd rfl hne⟩
    rw [relativeSpan?, hsub, Option.map_some]
  | last7Days =>
    have hsub : t.day.sub? 6 = some first := Day.sub?_eq_some h
    have hle : first.index ≤ t.day.index := by omega
    refine ⟨⟨.ofDay first, (daySpan t.day).stop⟩, ?_, rfl, fun _ => ?_⟩
    · rw [relativeSpan?, hsub, Option.map_some]
    · exact covers_of_days (daySpan_covers t) hle
  | last30Days =>
    have hsub : t.day.sub? 29 = some first := Day.sub?_eq_some h
    have hle : first.index ≤ t.day.index := by omega
    refine ⟨⟨.ofDay first, (daySpan t.day).stop⟩, ?_, rfl, fun _ => ?_⟩
    · rw [relativeSpan?, hsub, Option.map_some]
    · exact covers_of_days (daySpan_covers t) hle
  | thisWeek =>
    have hfirst : t.day.monday = first := by
      apply Day.eq_of_index
      have hmonday : t.day.monday.index = 7 * (t.day.index / 7) := rfl
      have hreach : RelativeDay.reach t.day .thisWeek = t.day.index % 7 := rfl
      omega
    have hsub : t.day.sub? t.day.weekday = some first := Day.sub?_eq_some h
    refine ⟨weekSpan first, ?_, weekSpan_start first, fun _ => hfirst ▸ weekSpan_covers t⟩
    rw [relativeSpan?, hsub, Option.map_some]
  | thisMonth =>
    obtain ⟨r, hr, hstart⟩ := monthSpan?_start h
    exact ⟨r, hr, hstart, fun _ => monthSpan?_covers hr⟩

end DateForm

namespace DateExpr

variable (order : DayOrder) {now : Instant} {first : Day} {w : RelativeDay}

/-- The absolute text for a word stands for the span of the word. -/
theorem resolve?_absoluteText (h : first.index + w.reach now.day = now.day.index) :
    resolve? order now (w.absoluteText first now) = DateForm.relativeSpan? now.day w := by
  cases w with
  | today =>
    rw [RelativeDay.absoluteText, resolve?_unitText, DateForm.ofUnit, DateForm.span?,
      Day.ofDate?_date]
    rfl
  | yesterday =>
    have hsub : now.day.sub? 1 = some first := Day.sub?_eq_some h
    rw [RelativeDay.absoluteText, resolve?_toText, DateForm.relativeSpan?, hsub, Option.map_some]
  | last7Days =>
    have hsub : now.day.sub? 6 = some first := Day.sub?_eq_some h
    rw [RelativeDay.absoluteText, resolve?_toText_dots order now (by omega),
      DateForm.relativeSpan?, hsub, Option.map_some]
  | last30Days =>
    have hsub : now.day.sub? 29 = some first := Day.sub?_eq_some h
    rw [RelativeDay.absoluteText, resolve?_toText_dots order now (by omega),
      DateForm.relativeSpan?, hsub, Option.map_some]
  | thisWeek =>
    have hmonday : now.day.sub? now.day.weekday = some now.day.monday := by
      apply Day.sub?_eq_some
      have hindex : now.day.monday.index = 7 * (now.day.index / 7) := rfl
      have hweekday : now.day.weekday = now.day.index % 7 := rfl
      omega
    rw [RelativeDay.absoluteText, resolve?_unitText, DateForm.ofUnit, DateForm.span?,
      Day.ofWeek?_iso, DateForm.relativeSpan?, hmonday]
  | thisMonth =>
    rw [RelativeDay.absoluteText, resolve?_unitText]
    rfl

end DateExpr

/-- A relative word in any case stands for nothing exactly if its first day would lie in
front of the calendar. Otherwise it stands for what its absolute text stands for, beginning
with that day; and but for the word for the day before, the range holds the current time. -/
theorem DateExpr.resolve_relative (order : DayOrder) (now : Instant) (w : RelativeDay) {s : Text}
    (h : s.IsCasing w.word) :
    (resolve order ⟨now, none⟩ s = .ok none ↔ now.day.index < w.reach now.day) ∧
    ∀ first : Day, first.index + w.reach now.day = now.day.index → ∃ r : DateRange,
      resolve order ⟨now, none⟩ s = .ok (some r) ∧
      resolve order ⟨now, none⟩ (w.absoluteText first now) = .ok (some r) ∧
      r.start = .ofDay first ∧ (w ≠ .yesterday → r.contains (some ⟨now, none⟩) = .ok true) := by
  have hlocal : ∀ u, resolve order ⟨now, none⟩ u = .ok (resolve? order now u) := fun _ => rfl
  have hword := resolve?_of_isCasing order now h
  constructor
  · rw [hlocal, hword, Except.ok.injEq]
    exact DateForm.relativeSpan?_eq_none_iff now.day w
  · intro first hfirst
    obtain ⟨r, hr, hstart, hcovers⟩ := DateForm.exists_relativeSpan? hfirst
    refine ⟨r, ?_, ?_, hstart, ?_⟩
    · rw [hlocal, hword, hr]
    · rw [hlocal, resolve?_absoluteText order hfirst, hr]
    · intro hne
      exact congrArg Except.ok (hcovers hne)

/-- New Year 2021, a Friday: the week is the last one of 2020. -/
theorem DateExpr.resolve_relative_newYear :
    ∃ now : Instant, now = ⟨737790 * 86400000000, by decide⟩ ∧
      Text.IsCasing "ThisWEEK".toList RelativeDay.thisWeek.word ∧
      (resolve .monthFirst ⟨now, none⟩ "ThisWEEK".toList = .ok none ↔ now.day.index < 4) ∧
      ∃ first : Day, first.index + 4 = now.day.index ∧ ∃ r : DateRange,
        resolve .monthFirst ⟨now, none⟩ "ThisWEEK".toList = .ok (some r) ∧
        resolve .monthFirst ⟨now, none⟩ "2020-W53".toList = .ok (some r) ∧
        r.start = .ofDay first ∧ r.contains (some ⟨now, none⟩) = .ok true := by
  obtain ⟨now, hnow⟩ : ∃ now : Instant, now = ⟨737790 * 86400000000, by decide⟩ := ⟨_, rfl⟩
  have hcasing : Text.IsCasing "ThisWEEK".toList RelativeDay.thisWeek.word := by
    rw [← RelativeDay.lower_eq_word_iff]
    decide +kernel
  have hreach : RelativeDay.thisWeek.reach now.day = 4 := by
    rw [hnow]
    decide
  have hfirst : 737786 + RelativeDay.thisWeek.reach now.day = now.day.index := by
    rw [hnow]
    decide
  have htext : RelativeDay.thisWeek.absoluteText ⟨737786, by decide⟩ now = "2020-W53".toList := by
    rw [hnow]
    decide
  obtain ⟨hnone, hsome⟩ := resolve_relative .monthFirst now .thisWeek hcasing
  obtain ⟨r, hr, hr', hstart, hholds⟩ := hsome ⟨737786, by decide⟩ hfirst
  rw [hreach] at hnone hfirst
  rw [htext] at hr'
  exact ⟨now, hnow, hcasing, hnone, _, hfirst, r, hr, hr', hstart, hholds (by decide)⟩

end NoteQuery
