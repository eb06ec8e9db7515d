import NoteQuery.Proofs.Dates.Ranges
import NoteQuery.Proofs.Dates.Shapes

/-!
# Single dates

An expression without two dots stands for a range exactly if it has one of the shapes of a
single date and its numbers name something in the calendar. The span of a form fails at no
other place: a span that would run past the calendar is cut off.
-/
namespace NoteQuery

/-- What stands behind a condition is there if the condition holds and it is. -/
theorem isSome_ite_iff {α : Type} {p : Prop} [Decidable p] {o : Option α} :
    (if p then o else none).isSome ↔ p ∧ o.isSome := by
  by_cases h : p
  · rw [if_pos h]
    exact (and_iff_right h).symm
  · rw [if_neg h]
    constructor
    · intro hsome
      cases hsome
    · intro hboth
      exact absurd hboth.1 h

/-! ## What the calendar holds -/

namespace Day

theorem ofIndex?_isSome_iff (n : Nat) : (ofIndex? n).isSome ↔ n < 3652059 := by
  rw [ofIndex?, Option.isSome_dite]

/-- The days of a month lie in front of the next month. -/
theorem index_lt_of_isDate {y m d : Nat} (h : IsDate y m d) :
    beforeYear y + beforeMonth y m + (d - 1) < 3652059 := by
  obtain ⟨hy, hmax, hm, hm', hd, hlength⟩ := h
  obtain ⟨k, hk⟩ : ∃ k, k = 12 * y + (m - 1) := ⟨_, rfl⟩
  have hdiv : k / 12 = y := by omega
  have hmod : k % 12 + 1 = m := by omega
  have hstart : monthStart k = beforeYear y + beforeMonth y m := by rw [monthStart, hdiv, hmod]
  have hsucc := monthStart_succ (k := k) (by omega)
  have hmono := monthStart_mono (k := k + 1) (l := 12 * (maxYear + 1)) (by omega) (by omega)
  have hend : monthStart (12 * (maxYear + 1)) = 3652059 := by decide
  rw [hdiv, hmod] at hsucc
  omega

theorem ofDate?_isSome_iff (y m d : Nat) : (ofDate? y m d).isSome ↔ IsDate y m d := by
  rw [ofDate?, isSome_ite_iff, ofIndex?_isSome_iff]
  constructor
  · intro h
    exact h.1
  · intro h
    exact ⟨h, index_lt_of_isDate h⟩

/-- The last week of a year begins in that year. -/
theorem firstWeek_add_lt {y w : Nat} (hmax : y ≤ maxYear) (hy : 1 ≤ y) (hw : w ≤ weeksIn y) :
    firstWeek y + 7 * (w - 1) < 3652059 := by
  have hnext := beforeYear_succ hy
  have hlast : beforeYear (y + 1) ≤ 3652059 := by
    have hmono := monthStart_mono (k := 12 * (y + 1)) (l := 12 * (maxYear + 1)) (by omega)
      (by omega)
    have hend : monthStart (12 * (maxYear + 1)) = 3652059 := by decide
    have hdiv : 12 * (y + 1) / 12 = y + 1 := by omega
    rw [monthStart, hdiv] at hmono
    omega
  have hlength : beforeYear y + 365 ≤ 3652059 := by
    rw [hnext] at hlast
    split at hlast <;> omega
  rw [weeksIn] at hw
  simp only [firstWeek]
  split at hw
  · rename_i hlong
    rw [Bool.or_eq_true, Bool.and_eq_true, beq_iff_eq, beq_iff_eq] at hlong
    have hnot : ¬ 3 < beforeYear y % 7 := by omega
    rw [if_neg hnot]
    omega
  · split <;> omega

theorem ofWeek?_isSome_iff (y w : Nat) :
    (ofWeek? y w 1).isSome ↔ 1 ≤ y ∧ y ≤ maxYear ∧ 1 ≤ w ∧ w ≤ weeksIn y := by
  rw [ofWeek?, isSome_ite_iff, ofIndex?_isSome_iff]
  constructor
  · rintro ⟨⟨hy, hmax, hone, hw, -, -⟩, -⟩
    exact ⟨hy, hmax, hone, hw⟩
  · rintro ⟨hy, hmax, hone, hw⟩
    constructor
    · exact ⟨hy, hmax, hone, hw, Nat.le_refl 1, by decide⟩
    · exact firstWeek_add_lt hmax hy hw

end Day

/-- A time of a day exists on every day. -/
theorem Instant.ofDayTime?_isSome_iff (d : Day) (h mi s : Nat) :
    (ofDayTime? d h mi s 0).isSome ↔ h < 24 ∧ mi < 60 ∧ s < 60 := by
  rw [ofDayTime?, Option.isSome_dite, IsTime]
  omega

namespace DateForm

/-! ## Forms that name something -/

/-- A year of the calendar. -/
def IsYear (year : Nat) : Prop := 1 ≤ year ∧ year ≤ maxYear

/-- A word reaches back to a day of the calendar; numbers name a year, a part of a year, a day
or a time of a day. Of two numbers whose order is open, one above twelve is the day. -/
def IsNamed (order : DayOrder) (today : Day) : DateForm → Prop
  | .relative w => w.reach today ≤ today.index
  | .second y mo d h mi s => Day.IsDate y mo d ∧ h < 24 ∧ mi < 60 ∧ s < 60
  | .minute y mo d h mi => Day.IsDate y mo d ∧ h < 24 ∧ mi < 60
  | .day y m d => Day.IsDate y m d
  | .week y w => IsYear y ∧ 1 ≤ w ∧ w ≤ Day.weeksIn y
  | .month y m => IsYear y ∧ 1 ≤ m ∧ m ≤ 12
  | .quarter y q => IsYear y ∧ 1 ≤ q ∧ q ≤ 4
  | .year y => IsYear y
  | .numeric a b y =>
    if 12 < a ∨ b ≤ 12 ∧ order = .dayFirst then Day.IsDate y b a else Day.IsDate y a b

theorem monthSpan?_isSome_iff {n : Nat} (hn : 1 ≤ n) (y m : Nat) :
    (monthSpan? y m n).isSome ↔ IsYear y ∧ 1 ≤ m ∧ m ≤ 12 := by
  constructor
  · intro h
    obtain ⟨r, hr⟩ := Option.isSome_iff_exists.mp h
    obtain ⟨first, hfirst, -⟩ := Option.bind_eq_some_iff.mp hr
    obtain ⟨hy, hmax, hm, hm', -, -⟩ :=
      (Day.ofDate?_isSome_iff y m 1).mp (Option.isSome_iff_exists.mpr ⟨first, hfirst⟩)
    exact ⟨⟨hy, hmax⟩, hm, hm'⟩
  · rintro ⟨⟨hy, hmax⟩, hm, hm'⟩
    obtain ⟨r, hr, -⟩ := monthSpan?_covers_iff hy hmax hm hm' hn
    exact Option.isSome_iff_exists.mpr ⟨r, hr⟩

/-- One of two numbers above twelve is the day, the first of them if both are. -/
theorem isDate_dayAndMonth_iff (order : DayOrder) (a b y : Nat) :
    Day.IsDate y (dayAndMonth order a b).2 (dayAndMonth order a b).1 ↔
      if 12 < a ∨ b ≤ 12 ∧ order = .dayFirst then Day.IsDate y b a else Day.IsDate y a b := by
  rw [dayAndMonth]
  by_cases ha : 12 < a
  · rw [if_pos ha, if_pos (Or.inl ha)]
  · by_cases hb : 12 < b
    · have hnot : ¬ (12 < a ∨ b ≤ 12 ∧ order = .dayFirst) := by omega
      rw [if_neg ha, if_pos hb, if_neg hnot]
    · rw [if_neg ha, if_neg hb]
      cases order with
      | dayFirst => rw [if_pos (Or.inr ⟨Nat.le_of_not_lt hb, rfl⟩), DayOrder.apply]
      | monthFirst =>
        have hnot : ¬ (12 < a ∨ b ≤ 12 ∧ DayOrder.monthFirst = .dayFirst) := by simp [ha]
        rw [if_neg hnot, DayOrder.apply]

/-- A time of a day has a span if the day and the time exist. -/
theorem clockSpan_isSome_iff (y mo d h mi s ticks : Nat) :
    (do
      let day ← Day.ofDate? y mo d
      let start ← Instant.ofDayTime? day h mi s 0
      some (spanFrom start ticks) : Option DateRange).isSome ↔
      Day.IsDate y mo d ∧ h < 24 ∧ mi < 60 ∧ s < 60 := by
  rw [← Day.ofDate?_isSome_iff]
  cases Day.ofDate? y mo d with
  | none => simp
  | some day =>
    rw [← Instant.ofDayTime?_isSome_iff day]
    cases hclock : Instant.ofDayTime? day h mi s 0 <;> simp [hclock]

/-- A form has a span exactly if it names something. -/
theorem span?_isSome_iff (order : DayOrder) (today : Day) (form : DateForm) :
    (span? order today form).isSome ↔ form.IsNamed order today := by
  cases form with
  | relative w =>
    have hnone := relativeSpan?_eq_none_iff today w
    rw [span?, IsNamed, Option.isSome_iff_ne_none, ne_eq, hnone]
    omega
  | second y mo d h mi s =>
    rw [span?, IsNamed]
    exact clockSpan_isSome_iff y mo d h mi s Instant.ticksPerSecond
  | minute y mo d h mi =>
    have htime : h < 24 ∧ mi < 60 ↔ h < 24 ∧ mi < 60 ∧ 0 < 60 := by omega
    rw [span?, IsNamed, htime]
    exact clockSpan_isSome_iff y mo d h mi 0 (60 * Instant.ticksPerSecond)
  | day y m d => rw [span?, IsNamed, Option.isSome_map, Day.ofDate?_isSome_iff]
  | week y w =>
    rw [span?, IsNamed, Option.isSome_map, Day.ofWeek?_isSome_iff, IsYear, and_assoc]
  | month y m => rw [span?, IsNamed, monthSpan?_isSome_iff (Nat.le_refl 1)]
  | quarter y q =>
    rw [span?, IsNamed, isSome_ite_iff, monthSpan?_isSome_iff (by decide)]
    constructor
    · rintro ⟨hq, hy, -⟩
      exact ⟨hy, hq⟩
    · rintro ⟨hy, hq⟩
      have hfirst : 1 ≤ 3 * (q - 1) + 1 ∧ 3 * (q - 1) + 1 ≤ 12 := by omega
      exact ⟨hq, hy, hfirst⟩
  | year y =>
    rw [span?, IsNamed, monthSpan?_isSome_iff (by decide)]
    exact and_iff_left (by decide)
  | numeric a b y =>
    rw [IsNamed, ← isDate_dayAndMonth_iff, ← Day.ofDate?_isSome_iff]
    exact Iff.of_eq (congrArg (· = true) (Option.isSome_map ..))

end DateForm

namespace DateExpr

theorem resolve_of_no_dots (order : DayOrder) (now : Instant) {expression : Text}
    (h : ¬ dots <:+: expression) : resolve order ⟨now, none⟩ expression =
      .ok ((DateForm.ofText? expression).bind (DateForm.span? order now.day)) :=
  congrArg Except.ok (resolve?_of_no_dots h)

theorem exists_resolve_iff (order : DayOrder) (now : Instant) {expression : Text}
    (h : ¬ dots <:+: expression) :
    (∃ r, resolve order ⟨now, none⟩ expression = .ok (some r)) ↔
      ∃ shape form, DateShape.Writes shape form (Text.trim expression) ∧
        form.IsNamed order now.day := by
  simp only [resolve_of_no_dots order now h, Except.ok.injEq]
  constructor
  · rintro ⟨r, hr⟩
    obtain ⟨form, hform, hspan⟩ := Option.bind_eq_some_iff.mp hr
    obtain ⟨shape, hwrites⟩ := (DateForm.ofText?_eq_some_iff expression form).mp hform
    have hsome := Option.isSome_iff_exists.mpr ⟨r, hspan⟩
    exact ⟨shape, form, hwrites, (DateForm.span?_isSome_iff order now.day form).mp hsome⟩
  · rintro ⟨shape, form, hwrites, hnamed⟩
    have hform := (DateForm.ofText?_eq_some_iff expression form).mpr ⟨shape, hwrites⟩
    have hsome := (DateForm.span?_isSome_iff order now.day form).mpr hnamed
    obtain ⟨r, hr⟩ := Option.isSome_iff_exists.mp hsome
    exact ⟨r, by rw [hform, Option.bind_some, hr]⟩

/-- An expression without two dots stands for a range exactly if it has one of the shapes and
what it writes is named, blanks around it apart. No text has two shapes, and readers of the
single shapes find the same range in whatever order they are tried. -/
theorem resolve_single (order : DayOrder) (now : Instant) {expression : Text}
    (h : ¬ dots <:+: expression) :
    ((∃ r, resolve order ⟨now, none⟩ expression = .ok (some r)) ↔
      ∃ shape form, DateShape.Writes shape form (Text.trim expression) ∧
        form.IsNamed order now.day) ∧
    (∀ s shape shape' form form', DateShape.Writes shape form s →
      DateShape.Writes shape' form' s → shape = shape' ∧ form = form') ∧
    ∀ read : DateShape → Option DateForm,
      (∀ shape form, read shape = some form ↔
        DateShape.Writes shape form (Text.trim expression)) →
      ∀ shapes : List DateShape, (∀ shape, shape ∈ shapes) →
        resolve order ⟨now, none⟩ expression =
          .ok ((shapes.findSome? read).bind (DateForm.span? order now.day)) := by
  refine ⟨exists_resolve_iff order now h, fun s shape shape' form form' hs hs' => ?_, ?_⟩
  · exact hs.unique hs'
  · intro read hread shapes hall
    rw [resolve_of_no_dots order now h, DateShape.findSome?_eq_ofText? hread hall]

/-- The year 2020 had 53 weeks and the year 2021 had not. -/
theorem resolve_single_lastWeek :
    ¬ dots <:+: " 2020-w53 ".toList ∧ ¬ dots <:+: "2021-W53".toList ∧
      (∃ r, resolve .dayFirst ⟨.first, none⟩ " 2020-w53 ".toList = .ok (some r)) ∧
      (¬ ∃ r, resolve .dayFirst ⟨.first, none⟩ "2021-W53".toList = .ok (some r)) ∧
      resolve .dayFirst ⟨.first, none⟩ " 2020-w53 ".toList =
        .ok (DateForm.span? .dayFirst Instant.first.day (.week 2020 53)) := by
  have hdots : ¬ dots <:+: " 2020-w53 ".toList := (splitFirst?_eq_none_iff _).mp (by decide)
  have hdots' : ¬ dots <:+: "2021-W53".toList := (splitFirst?_eq_none_iff _).mp (by decide)
  have hlong : DateShape.Writes .week (.week 2020 53) (Text.trim " 2020-w53 ".toList) :=
    @DateShape.Writes.week "2020".toList ['-'] "53".toList 'w' (by decide) (by decide)
      (by decide) (by decide)
  have hshort : DateShape.Writes .week (.week 2021 53) (Text.trim "2021-W53".toList) :=
    @DateShape.Writes.week "2021".toList ['-'] "53".toList 'W' (by decide) (by decide)
      (by decide) (by decide)
  obtain ⟨hiff, hunique, hread⟩ := resolve_single .dayFirst .first hdots
  refine ⟨hdots, hdots', ?_, ?_, ?_⟩
  · exact hiff.mpr ⟨_, _, hlong, ⟨by decide, by decide⟩, by decide, by decide⟩
  · rw [(resolve_single .dayFirst .first hdots').1]
    rintro ⟨shape, form, hwrites, hnamed⟩
    obtain ⟨-, rfl⟩ := hunique _ _ _ _ _ hwrites hshort
    exact absurd hnamed.2.2 (by decide)
  · -- A reader of weeks among readers that find nothing.
    have hfound := hread (fun shape => if shape = .week then some (.week 2020 53) else none)
      (fun shape form => ?_) [.numeric, .quarter, .week, .compactMonth, .month, .year,
        .compactDay, .day, .clock, .word] (fun shape => by cases shape <;> decide)
    · exact hfound
    · constructor
      · intro h
        split at h
        · rename_i hshape
          cases h
          rw [hshape]
          exact hlong
        · cases h
      · intro hwrites
        obtain ⟨rfl, rfl⟩ := hunique _ _ _ _ _ hwrites hlong
        rfl

/-- The letter of a week may be small: the shapes with capital letters in weeks and quarters
are not all that stands for a range. -/
theorem resolve_single_smallLetter :
    ¬ dots <:+: "2026w6".toList ∧
      ¬ ((∃ r, resolve .dayFirst ⟨.first, none⟩ "2026w6".toList = .ok (some r)) ↔
        ∃ shape form, DateShape.Writes shape form (Text.trim "2026w6".toList) ∧
          (shape = .week → 'W' ∈ Text.trim "2026w6".toList) ∧
          (shape = .quarter → 'Q' ∈ Text.trim "2026w6".toList) ∧
          form.IsNamed .dayFirst Instant.first.day) := by
  have hdots : ¬ dots <:+: "2026w6".toList := (splitFirst?_eq_none_iff _).mp (by decide)
  have hweek : DateShape.Writes .week (.week 2026 6) (Text.trim "2026w6".toList) :=
    @DateShape.Writes.week "2026".toList [] "6".toList 'w' (by decide) (by decide) (by decide)
      (by decide)
  refine ⟨hdots, fun hiff => ?_⟩
  have hresolves := (exists_resolve_iff .dayFirst .first hdots).mpr
    ⟨_, _, hweek, ⟨by decide, by decide⟩, by decide, by decide⟩
  obtain ⟨shape, form, hwrites, hletter, -, -⟩ := hiff.mp hresolves
  obtain ⟨hshape, -⟩ := hwrites.unique hweek
  exact absurd (hletter hshape) (by decide)

end DateExpr

end NoteQuery
