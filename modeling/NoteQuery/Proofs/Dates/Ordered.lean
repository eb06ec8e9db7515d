import NoteQuery.Dates.Resolve
import NoteQuery.Proofs.Dates.Spans

/-!
# Spans in order

Whatever a form stands for begins no later than it ends, also where the calendar cuts it
off. So does everything that an expression stands for, since sides in the wrong order are
exchanged and an open end is never earlier than the side in front of it.
-/
namespace NoteQuery

namespace Instant

theorem le_iff (s t : Instant) : s ≤ t ↔ s.ticks ≤ t.ticks := Iff.rfl

theorem lt_iff (s t : Instant) : s < t ↔ s.ticks < t.ticks := Iff.rfl

theorem max_ticks (s t : Instant) : (max s t).ticks = max s.ticks t.ticks := by
  have hmax : max s t = if s ≤ t then t else s := rfl
  rw [hmax]
  by_cases h : s ≤ t
  · have hticks : s.ticks ≤ t.ticks := h
    rw [if_pos h]
    omega
  · have hticks : ¬ s.ticks ≤ t.ticks := h
    rw [if_neg h]
    omega

end Instant

namespace DateForm

theorem spanFrom_start (start : Instant) (n : Nat) : (spanFrom start n).start = start := by
  rw [spanFrom]
  split <;> rfl

theorem le_spanFrom_stop (start : Instant) {n : Nat} (h : 0 < n) :
    start ≤ (spanFrom start n).stop := by
  rw [spanFrom, Instant.add?_eq, Instant.le_iff]
  by_cases hn : start.ticks + n < 3652059 * 86400000000
  · rw [dif_pos hn]
    simp only [Instant.pred_ticks]
    omega
  · rw [dif_neg hn]
    exact start.le_last

theorem spanFrom_ordered (start : Instant) {n : Nat} (h : 0 < n) :
    (spanFrom start n).start ≤ (spanFrom start n).stop := by
  rw [spanFrom_start]
  exact le_spanFrom_stop start h

theorem daySpan_ordered (d : Day) : (daySpan d).start ≤ (daySpan d).stop := by
  have hday : 0 < Instant.ticksPerDay := Nat.zero_lt_succ _
  rw [daySpan]
  exact spanFrom_ordered (.ofDay d) hday

theorem weekSpan_ordered (d : Day) : (weekSpan d).start ≤ (weekSpan d).stop := by
  have hweek : 0 < 7 * Instant.ticksPerDay := Nat.zero_lt_succ _
  rw [weekSpan]
  exact spanFrom_ordered (.ofDay d) hweek

theorem monthSpan?_ordered {y m n : Nat} (hn : 1 ≤ n) {r : DateRange}
    (h : monthSpan? y m n = some r) : r.start ≤ r.stop := by
  obtain ⟨first, hfirst⟩ : ∃ first, Day.ofDate? y m 1 = some first := by
    cases hfirst : Day.ofDate? y m 1 with
    | none =>
      rw [monthSpan?, hfirst] at h
      cases h
    | some first => exact ⟨first, rfl⟩
  have hdate : Day.IsDate y m 1 := by
    by_cases hdate : Day.IsDate y m 1
    · exact hdate
    · rw [Day.ofDate?, if_neg hdate] at hfirst
      cases hfirst
  obtain ⟨hy, hmax, hm, hm', -, -⟩ := hdate
  obtain ⟨k, hk⟩ : ∃ k, k = 12 * y + (m - 1) := ⟨_, rfl⟩
  have hindex : first.index = Day.monthStart k := by
    obtain ⟨d, hd, hindex⟩ := Day.ofDate?_first hy hmax hm hm'
    rw [hfirst, Option.some_inj] at hd
    rw [hd, hindex, hk]
  obtain ⟨s, hs, hstart, hstop⟩ := monthSpan?_ends hy hn hfirst hk
  rw [h, Option.some_inj] at hs
  rw [hs, hstart, Instant.le_iff, hstop]
  by_cases hend : 12 * (maxYear + 1) ≤ k + n
  · exact Or.inr hend
  · have hday : (Instant.ofDay first).day.index = first.index := by
      rw [Instant.day_index, Instant.ofDay_ticks]
      omega
    have hsucc := Day.monthStart_lt_succ (k := k) (by omega)
    have hmono := Day.monthStart_mono (k := k + 1) (l := k + n) (by omega) (by omega)
    rw [hday, hindex]
    exact Or.inl (by omega)

theorem of_sub? {d e : Day} {n : Nat} (h : d.sub? n = some e) : e.index ≤ d.index := by
  rw [Day.sub?] at h
  by_cases hn : n ≤ d.index
  · rw [if_pos hn, Day.ofIndex?] at h
    split at h
    · cases h
      exact Nat.sub_le _ _
    · cases h
  · rw [if_neg hn] at h
    cases h

/-- From the start of a day to the end of that day or a later one. -/
theorem days_ordered {d e : Day} (h : d.index ≤ e.index) {r : DateRange}
    (hr : DateRange.mk (.ofDay d) (daySpan e).stop = r) : r.start ≤ r.stop := by
  have hday : 0 < Instant.ticksPerDay := Nat.zero_lt_succ _
  have hdays : (Instant.ofDay d).ticks ≤ (Instant.ofDay e).ticks := by
    rw [Instant.ofDay_ticks, Instant.ofDay_ticks]
    omega
  have hstop : Instant.ofDay e ≤ (daySpan e).stop := by
    rw [daySpan]
    exact le_spanFrom_stop (.ofDay e) hday
  obtain ⟨start, stop⟩ := r
  rw [DateRange.mk.injEq] at hr
  rw [hr.2] at hstop
  rw [hr.1] at hdays
  exact Nat.le_trans hdays hstop

theorem relativeSpan?_ordered {today : Day} {word : RelativeDay} {r : DateRange}
    (h : relativeSpan? today word = some r) : r.start ≤ r.stop := by
  cases word with
  | today =>
    rw [← Option.some.inj h]
    exact daySpan_ordered today
  | yesterday =>
    obtain ⟨d, -, rfl⟩ := Option.map_eq_some_iff.mp h
    exact daySpan_ordered d
  | last7Days =>
    obtain ⟨d, hd, hr⟩ := Option.map_eq_some_iff.mp h
    exact days_ordered (of_sub? hd) hr
  | last30Days =>
    obtain ⟨d, hd, hr⟩ := Option.map_eq_some_iff.mp h
    exact days_ordered (of_sub? hd) hr
  | thisWeek =>
    obtain ⟨d, -, rfl⟩ := Option.map_eq_some_iff.mp h
    exact weekSpan_ordered d
  | thisMonth => exact monthSpan?_ordered (Nat.le_refl 1) h

/-- A span begins no later than it ends. -/
theorem span?_ordered {order : DayOrder} {today : Day} {form : DateForm} {r : DateRange}
    (h : span? order today form = some r) : r.start ≤ r.stop := by
  cases form with
  | relative word => exact relativeSpan?_ordered h
  | second y mo d h' mi s =>
    obtain ⟨day, -, h⟩ := Option.bind_eq_some_iff.mp h
    obtain ⟨start, -, h⟩ := Option.bind_eq_some_iff.mp h
    rw [← Option.some.inj h]
    exact spanFrom_ordered start (Nat.zero_lt_succ _)
  | minute y mo d h' mi =>
    obtain ⟨day, -, h⟩ := Option.bind_eq_some_iff.mp h
    obtain ⟨start, -, h⟩ := Option.bind_eq_some_iff.mp h
    rw [← Option.some.inj h]
    exact spanFrom_ordered start (Nat.zero_lt_succ _)
  | day y m d =>
    obtain ⟨day, -, rfl⟩ := Option.map_eq_some_iff.mp h
    exact daySpan_ordered day
  | week y w =>
    obtain ⟨day, -, rfl⟩ := Option.map_eq_some_iff.mp h
    exact weekSpan_ordered day
  | month y m => exact monthSpan?_ordered (Nat.le_refl 1) h
  | quarter y q =>
    by_cases hq : 1 ≤ q ∧ q ≤ 4
    · rw [span?, if_pos hq] at h
      exact monthSpan?_ordered (by decide) h
    · rw [span?, if_neg hq] at h
      cases h
  | year y => exact monthSpan?_ordered (by decide) h
  | numeric a b y =>
    obtain ⟨day, -, rfl⟩ := Option.map_eq_some_iff.mp h
    exact daySpan_ordered day

end DateForm

namespace DateExpr

variable {order : DayOrder} {now : Instant}

theorem side?_ordered {s : Text} {r : DateRange} (h : side? order now s = some r) :
    r.start ≤ r.stop := by
  obtain ⟨form, -, hspan⟩ := Option.bind_eq_some_iff.mp h
  exact DateForm.span?_ordered hspan

theorem between_ordered {a b : DateRange} (ha : a.start ≤ a.stop) (hb : b.start ≤ b.stop) :
    (between a b).start ≤ (between a b).stop := by
  rw [Instant.le_iff] at ha hb ⊢
  rw [between]
  by_cases hswap : b.stop < a.start
  · rw [if_pos hswap]
    rw [Instant.lt_iff] at hswap
    exact Nat.le_trans hb (Nat.le_trans (Nat.le_of_lt hswap) ha)
  · rw [if_neg hswap]
    rw [Instant.lt_iff] at hswap
    exact Nat.le_of_not_lt hswap

/-- Every range that an expression stands for begins no later than it ends. -/
theorem resolve?_ordered {s : Text} {r : DateRange} (h : resolve? order now s = some r) :
    r.start ≤ r.stop := by
  simp only [resolve?] at h
  split at h
  · exact side?_ordered h
  · rename_i left right _
    split at h
    · cases h
    · split at h
      · cases h
      · obtain ⟨b, -, rfl⟩ := Option.map_eq_some_iff.mp h
        exact Nat.zero_le _
      · obtain ⟨a, ha, rfl⟩ := Option.map_eq_some_iff.mp h
        have hside := side?_ordered ha
        rw [Instant.le_iff, Instant.max_ticks]
        rw [Instant.le_iff] at hside
        exact Nat.le_trans hside (Nat.le_max_right _ _)
      · obtain ⟨a, ha, h⟩ := Option.bind_eq_some_iff.mp h
        obtain ⟨b, hb, h⟩ := Option.bind_eq_some_iff.mp h
        cases h
        exact between_ordered (side?_ordered ha) (side?_ordered hb)

end DateExpr

end NoteQuery
