import NoteQuery.Proofs.Calendar.Months

/-!
# The week of a day

An ISO week runs from Monday to Sunday and belongs to the year that its Thursday falls in,
where it is counted by its Thursdays. The week of a day, found in this way, begins with
the Monday in front of that day.
-/
namespace NoteQuery.Day

/-- The Thursday of the week of a day, as a distance from the first day. -/
def thursday (d : Day) : Nat := 7 * (d.index / 7) + 3

def isoYear (d : Day) : Nat := yearOf d.thursday

def isoWeek (d : Day) : Nat := (d.thursday - beforeYear d.isoYear) / 7 + 1

def monday (d : Day) : Day := ⟨7 * (d.index / 7), by have := d.inCalendar; omega⟩

theorem thursday_lt (d : Day) : d.thursday < 3652059 := by
  have := d.inCalendar
  rw [thursday]
  omega

theorem isoWeek_le (d : Day) : d.isoWeek ≤ weeksIn d.isoYear := by
  obtain ⟨hone, -, hlow, hhigh⟩ := yearOf_spec d.thursday_lt
  have hyear : d.isoYear = yearOf d.thursday := rfl
  rw [← hyear] at hone hlow hhigh
  rw [beforeYear_succ hone] at hhigh
  have hthursday : d.thursday % 7 = 3 := by
    rw [thursday]
    omega
  rw [isoWeek, weeksIn]
  cases hleap : isLeap d.isoYear with
  | true =>
    rw [hleap] at hhigh
    simp only [if_true] at hhigh
    by_cases hthree : beforeYear d.isoYear % 7 = 3
    · simp [hthree]
      omega
    · by_cases htwo : beforeYear d.isoYear % 7 = 2
      · simp [htwo]
        omega
      · simp [hthree, htwo]
        omega
  | false =>
    rw [hleap] at hhigh
    by_cases hthree : beforeYear d.isoYear % 7 = 3
    · simp [hthree]
      simp at hhigh
      omega
    · simp [hthree]
      simp at hhigh
      omega

/-- The week of a day begins with the Monday in front of it. -/
theorem ofWeek?_iso (d : Day) : ofWeek? d.isoYear d.isoWeek 1 = some d.monday := by
  obtain ⟨hone, hmax, hlow, -⟩ := yearOf_spec d.thursday_lt
  have hyear : d.isoYear = yearOf d.thursday := rfl
  rw [← hyear] at hone hmax hlow
  have hmonday : firstWeek d.isoYear + 7 * (d.isoWeek - 1) + (1 - 1) = d.monday.index := by
    have hthursday : d.thursday = d.monday.index + 3 := rfl
    have hseven : d.monday.index % 7 = 0 := Nat.mul_mod_right 7 _
    rw [isoWeek, firstWeek]
    split <;> omega
  rw [ofWeek?, if_pos ⟨hone, hmax, by rw [isoWeek]; omega, d.isoWeek_le, by omega, by omega⟩,
    hmonday, ofIndex?, dif_pos d.monday.inCalendar]

/-- Days are in one week if they are the same number of weeks from the first day. -/
theorem isoWeek_eq_iff (d e : Day) :
    (d.isoYear = e.isoYear ∧ d.isoWeek = e.isoWeek) ↔ d.index / 7 = e.index / 7 := by
  constructor
  · rintro ⟨hyear, hweek⟩
    have hd := ofWeek?_iso d
    rw [hyear, hweek, ofWeek?_iso e, Option.some_inj] at hd
    have hindex : e.monday.index = d.monday.index := by rw [hd]
    simp only [monday] at hindex
    omega
  · intro h
    have hthursday : d.thursday = e.thursday := by rw [thursday, thursday, h]
    have hyear : d.isoYear = e.isoYear := by rw [isoYear, isoYear, hthursday]
    exact ⟨hyear, by rw [isoWeek, isoWeek, hyear, hthursday]⟩

end NoteQuery.Day
