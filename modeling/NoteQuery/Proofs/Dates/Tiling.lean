import NoteQuery.Proofs.Dates.Spelling

/-!
# Calendar units tile time

The ranges of the units of one length cover every instant, do not overlap and leave no
gaps: where one ends the next begins one microsecond later, and the last one ends with
the calendar. This holds of any ranges of which each covers the instants of one kind. A
unit lies in the longer unit that its form determines.
-/
namespace NoteQuery

/-- Ranges that cover the instants with one key each. -/
structure IsTiling {α : Type} (key : Instant → α) (range : Instant → DateRange) : Prop where
  covers_iff : ∀ s t, (range t).covers s ↔ key s = key t
  congr : ∀ s t, key s = key t → range s = range t

namespace IsTiling

variable {α β : Type} {key : Instant → α} {range : Instant → DateRange}

theorem covers_self (h : IsTiling key range) (t : Instant) : (range t).covers t :=
  (h.covers_iff t t).mpr rfl

theorem start_le (h : IsTiling key range) (t : Instant) : (range t).start.ticks ≤ t.ticks :=
  ((DateRange.covers_iff _ t).mp (h.covers_self t)).1

theorem le_stop (h : IsTiling key range) (t : Instant) : t.ticks ≤ (range t).stop.ticks :=
  ((DateRange.covers_iff _ t).mp (h.covers_self t)).2

/-- An instant between the ends of a range has that range. -/
theorem eq_of_between (h : IsTiling key range) {s t : Instant}
    (hlow : (range t).start.ticks ≤ s.ticks) (hhigh : s.ticks ≤ (range t).stop.ticks) :
    range s = range t :=
  h.congr s t ((h.covers_iff s t).mp ((DateRange.covers_iff _ s).mpr ⟨hlow, hhigh⟩))

theorem eq_or_before (h : IsTiling key range) {s t : Instant} (hst : s ≤ t) :
    range s = range t ∨ (range s).stop < (range t).start := by
  have hst : s.ticks ≤ t.ticks := hst
  have hs := h.start_le s
  have ht := h.le_stop t
  by_cases hbefore : (range s).stop.ticks < (range t).start.ticks
  · exact Or.inr hbefore
  · refine Or.inl ?_
    by_cases hts : t.ticks ≤ (range s).stop.ticks
    · exact (h.eq_of_between (by omega) hts).symm
    · -- The end of the first range lies in both.
      have hstop := h.le_stop s
      have hfirst : range (range s).stop = range s := h.eq_of_between (by omega) (Nat.le_refl _)
      have hsecond : range (range s).stop = range t := h.eq_of_between (by omega) (by omega)
      rw [← hfirst, hsecond]

theorem exists_next (h : IsTiling key range) (t : Instant) :
    (range t).stop = .last ∨
      ∃ next : Instant, next.ticks = (range t).stop.ticks + 1 ∧ (range next).start = next := by
  by_cases hlast : (range t).stop.ticks + 1 < 3652059 * 86400000000
  · refine Or.inr ⟨⟨_, hlast⟩, rfl, ?_⟩
    obtain ⟨next, hnext⟩ : ∃ next : Instant, next = ⟨(range t).stop.ticks + 1, hlast⟩ := ⟨_, rfl⟩
    have hticks : next.ticks = (range t).stop.ticks + 1 := by rw [hnext]
    rw [← hnext]
    have hlow := h.start_le next
    have hhigh := h.le_stop next
    have hstart := h.start_le t
    have hstop := h.le_stop t
    apply Instant.eq_of_ticks
    by_cases hbefore : (range next).start.ticks = next.ticks
    · exact hbefore
    · -- Otherwise the end of the range would lie in the next one.
      have hsame : range (range t).stop = range next := h.eq_of_between (by omega) (by omega)
      have hown : range (range t).stop = range t := h.eq_of_between (by omega) (Nat.le_refl _)
      rw [← hsame, hown] at hhigh
      omega
  · refine Or.inl (Instant.eq_of_ticks ?_)
    have hstop := (range t).stop.inCalendar
    have hend : Instant.last.ticks = 3652059 * 86400000000 - 1 := rfl
    omega

/-- Ranges of a key that determines another one lie in the ranges of that key. -/
theorem nested (h : IsTiling key range) {wideKey : Instant → β} {wide : Instant → DateRange}
    (hwide : IsTiling wideKey wide) (hkeys : ∀ s t, key s = key t → wideKey s = wideKey t)
    (t : Instant) : (wide t).start ≤ (range t).start ∧ (range t).stop ≤ (wide t).stop := by
  have hlow := h.start_le t
  have hhigh := h.le_stop t
  have hin : ∀ s : Instant, (range t).start.ticks ≤ s.ticks → s.ticks ≤ (range t).stop.ticks →
      (wide t).start.ticks ≤ s.ticks ∧ s.ticks ≤ (wide t).stop.ticks := by
    intro s hs hs'
    have hkey := (h.covers_iff s t).mp ((DateRange.covers_iff _ s).mpr ⟨hs, hs'⟩)
    exact (DateRange.covers_iff _ s).mp ((hwide.covers_iff s t).mpr (hkeys s t hkey))
  exact ⟨(hin _ (Nat.le_refl _) (by omega)).1, (hin _ (by omega) (Nat.le_refl _)).2⟩

end IsTiling

/-- The next longer units that a unit lies in. -/
def Granularity.wider : Granularity → List Granularity
  | .second => [.minute]
  | .minute => [.day]
  | .day => [.week, .month]
  | .week => []
  | .month => [.quarter]
  | .quarter => [.year]
  | .year => []

namespace DateForm

theorem exists_span (order : DayOrder) (today : Day) (t : Instant) (g : Granularity) :
    ∃ r, span? order today (ofUnit t g) = some r ∧
      ∀ s : Instant, r.covers s ↔ ofUnit s g = ofUnit t g := by
  cases g with
  | second => exact second_span order today t
  | minute => exact minute_span order today t
  | day => exact day_span order today t
  | week => exact week_span order today t
  | month => exact month_span order today t
  | quarter => exact quarter_span order today t
  | year => exact year_span order today t

/-- The form of a unit determines that of the longer unit. -/
theorem ofUnit_wider {g h : Granularity} (hgh : h ∈ g.wider) {s t : Instant}
    (heq : ofUnit s g = ofUnit t g) : ofUnit s h = ofUnit t h := by
  cases g with
  | second =>
    simp only [Granularity.wider, List.mem_singleton] at hgh
    simp only [ofUnit, DateForm.second.injEq] at heq
    simp only [hgh, ofUnit, DateForm.minute.injEq]
    exact ⟨heq.1, heq.2.1, heq.2.2.1, heq.2.2.2.1, heq.2.2.2.2.1⟩
  | minute =>
    simp only [Granularity.wider, List.mem_singleton] at hgh
    simp only [ofUnit, DateForm.minute.injEq] at heq
    simp only [hgh, ofUnit, DateForm.day.injEq]
    exact ⟨heq.1, heq.2.1, heq.2.2.1⟩
  | day =>
    simp only [Granularity.wider, List.mem_cons, List.not_mem_nil, or_false] at hgh
    simp only [ofUnit, DateForm.day.injEq] at heq
    have hday : s.day = t.day := Day.eq_of_date heq.1 heq.2.1 heq.2.2
    rcases hgh with rfl | rfl <;> simp only [ofUnit, hday]
  | month =>
    simp only [Granularity.wider, List.mem_singleton] at hgh
    simp only [ofUnit, DateForm.month.injEq] at heq
    simp only [hgh, ofUnit, Day.quarter, heq.1, heq.2]
  | quarter =>
    simp only [Granularity.wider, List.mem_singleton] at hgh
    simp only [ofUnit, DateForm.quarter.injEq] at heq
    simp only [hgh, ofUnit, heq.1]
  | week => cases hgh
  | year => cases hgh

/-- Forms of calendar units do not look at the clock. -/
theorem span?_ofUnit (order : DayOrder) (today : Day) (t : Instant) (g : Granularity) :
    span? order today (ofUnit t g) = span? .dayFirst .first (ofUnit t g) := by
  cases g <;> rfl

end DateForm

namespace Instant

def unitRange (t : Instant) (g : Granularity) : DateRange :=
  ((DateForm.ofUnit t g).span? .dayFirst .first).getD ⟨t, t⟩

theorem span?_eq_unitRange (order : DayOrder) (today : Day) (t : Instant) (g : Granularity) :
    DateForm.span? order today (DateForm.ofUnit t g) = some (t.unitRange g) := by
  obtain ⟨r, hr, -⟩ := DateForm.exists_span .dayFirst .first t g
  rw [DateForm.span?_ofUnit, unitRange, hr]
  rfl

theorem isTiling_unitRange (g : Granularity) :
    IsTiling (fun t => DateForm.ofUnit t g) (fun t => t.unitRange g) := by
  constructor
  · intro s t
    obtain ⟨r, hr, hcovers⟩ := DateForm.exists_span .dayFirst .first t g
    rw [span?_eq_unitRange, Option.some_inj] at hr
    rw [hr]
    exact hcovers s
  · intro s t h
    have hs := span?_eq_unitRange .dayFirst .first s g
    rw [h, span?_eq_unitRange, Option.some_inj] at hs
    exact hs.symm

/-- The ISO text of the unit of an instant stands for the range of the unit at every
reading of the clock. These ranges cover their instants; of two instants in order the
ranges are the same or one after the other; and the next range begins right behind a
range that does not end with the calendar. Ranges of a unit lie in those of the longer
units that it is a part of. -/
theorem unitRange_tiles (g : Granularity) :
    (∀ (order : DayOrder) (now : Moment) (t : Instant),
      DateExpr.resolve order now (t.unitText g) =
        now.local.map fun _ => some (t.unitRange g)) ∧
    (∀ t : Instant, (t.unitRange g).covers t) ∧
    (∀ s t : Instant, s ≤ t →
      s.unitRange g = t.unitRange g ∨ (s.unitRange g).stop < (t.unitRange g).start) ∧
    (∀ t : Instant, (t.unitRange g).stop = .last ∨
      ∃ next : Instant, next.ticks = (t.unitRange g).stop.ticks + 1 ∧
        (next.unitRange g).start = next) ∧
    ∀ h ∈ g.wider, ∀ t : Instant,
      (t.unitRange h).start ≤ (t.unitRange g).start ∧
        (t.unitRange g).stop ≤ (t.unitRange h).stop := by
  have htiling := isTiling_unitRange g
  refine ⟨?_, htiling.covers_self, fun s t => htiling.eq_or_before, htiling.exists_next, ?_⟩
  · intro order now t
    rw [DateExpr.resolve]
    congr 1
    funext time
    rw [DateExpr.resolve?_unitText, span?_eq_unitRange]
  · intro h hgh t
    exact htiling.nested (isTiling_unitRange h) (fun s t => DateForm.ofUnit_wider hgh) t

end Instant

end NoteQuery
