import NoteQuery.Calendar.Instant

/-!
# Years and months of a day

A day lies in exactly one month: months are numbered through all years, the first days of
the months increase with the number, and every day lies between the first day of its own
month and that of the next. So the date of a day names that day, and the days of some
months in a row are the days between two first days.
-/
namespace NoteQuery.Day

theorem beforeYear_succ {y : Nat} (h : 1 ≤ y) :
    beforeYear (y + 1) = beforeYear y + if isLeap y then 366 else 365 := by
  obtain ⟨p, rfl⟩ : ∃ p, y = p + 1 := ⟨y - 1, by omega⟩
  simp only [beforeYear, isLeap, Nat.add_sub_cancel]
  -- Each quotient grows by one in the years that its divisor divides.
  have h4 : (p + 1) / 4 = p / 4 + if (p + 1) % 4 = 0 then 1 else 0 := by
    split <;> omega
  have h100 : (p + 1) / 100 = p / 100 + if (p + 1) % 100 = 0 then 1 else 0 := by
    split <;> omega
  have h400 : (p + 1) / 400 = p / 400 + if (p + 1) % 400 = 0 then 1 else 0 := by
    split <;> omega
  have hle : p / 100 ≤ p / 4 := Nat.div_le_div_left (by omega) (by omega)
  rw [h4, h100, h400]
  by_cases c4 : (p + 1) % 4 = 0
  · by_cases c100 : (p + 1) % 100 = 0
    · by_cases c400 : (p + 1) % 400 = 0
      · simp [c4, c100, c400]
        omega
      · simp [c4, c100, c400]
        omega
    · have c400 : (p + 1) % 400 ≠ 0 := by omega
      simp [c4, c100, c400]
      omega
  · have c100 : (p + 1) % 100 ≠ 0 := by omega
    have c400 : (p + 1) % 400 ≠ 0 := by omega
    simp [c4, c100, c400]
    omega

/-- The days before a year lie between those that years of the mean length would have. -/
theorem beforeYear_bounds {y : Nat} (h : 1 ≤ y) :
    400 * beforeYear y + 146097 ≤ 146097 * y + 396 ∧
      146097 * y ≤ 400 * beforeYear y + 146796 := by
  obtain ⟨p, rfl⟩ : ∃ p, y = p + 1 := ⟨y - 1, by omega⟩
  rw [beforeYear, Nat.add_sub_cancel]
  constructor
  · omega
  · omega

theorem yearOf_spec {n : Nat} (h : n < 3652059) :
    1 ≤ yearOf n ∧ yearOf n ≤ maxYear ∧ beforeYear (yearOf n) ≤ n ∧
      n < beforeYear (yearOf n + 1) := by
  obtain ⟨p, hp⟩ : ∃ p, p = (400 * n - 400) / 146097 := ⟨_, rfl⟩
  have hyear : yearOf n = if n < beforeYear (p + 2) then p + 1 else p + 2 := by
    rw [yearOf, ← hp]
  have hfirst := beforeYear_bounds (y := p + 1) (by omega)
  have hsecond := beforeYear_bounds (y := p + 2) (by omega)
  have hthird := beforeYear_bounds (y := p + 3) (by omega)
  rw [hyear, maxYear]
  by_cases h2 : n < beforeYear (p + 2)
  · rw [if_pos h2]
    exact ⟨by omega, by omega, by omega, h2⟩
  · rw [if_neg h2]
    have hnext : p + 2 + 1 = p + 3 := rfl
    exact ⟨by omega, by omega, by omega, by rw [hnext]; omega⟩

@[simp] theorem daysIn_nil : daysIn [] = 0 := rfl

@[simp] theorem daysIn_cons (n : Nat) (lengths : List Nat) :
    daysIn (n :: lengths) = n + daysIn lengths := rfl

theorem locate_spec (lengths : List Nat) {n : Nat} (h : n < daysIn lengths) :
    (locate lengths n).1 < lengths.length ∧
      daysIn (lengths.take (locate lengths n).1) + (locate lengths n).2 = n ∧
      (locate lengths n).2 < lengths.getD (locate lengths n).1 0 := by
  induction lengths generalizing n with
  | nil =>
    rw [daysIn_nil] at h
    omega
  | cons len rest ih =>
    rw [locate]
    by_cases hn : n < len
    · rw [if_pos hn]
      simp [hn]
    · rw [if_neg hn]
      have hrest : n - len < daysIn rest := by
        rw [daysIn_cons] at h
        omega
      obtain ⟨hlen, hsum, hday⟩ := ih hrest
      refine ⟨by simpa using hlen, ?_, by simpa using hday⟩
      simp only [List.take_succ_cons, daysIn_cons]
      omega

theorem daysIn_monthLengths (leap : Bool) :
    daysIn (monthLengths leap) = if leap then 366 else 365 := by
  cases leap <;> rfl

theorem length_monthLengths (leap : Bool) : (monthLengths leap).length = 12 := by
  cases leap <;> rfl

/-- The days before the first of a month, months being numbered from January of year 0. -/
def monthStart (k : Nat) : Nat := beforeYear (k / 12) + beforeMonth (k / 12) (k % 12 + 1)

def monthNumber (d : Day) : Nat := 12 * d.year + (d.month - 1)

theorem daysIn_take_succ (lengths : List Nat) (n : Nat) :
    daysIn (lengths.take (n + 1)) = daysIn (lengths.take n) + lengths.getD n 0 := by
  induction lengths generalizing n with
  | nil => simp
  | cons len rest ih =>
    cases n with
    | zero => simp
    | succ n =>
      have := ih n
      simp only [List.take_succ_cons, daysIn_cons, List.getD_cons_succ]
      omega

/-- Some days into a month, the number of the month and that day are found. -/
theorem date_spec (d : Day) :
    ∃ m r, d.month = m + 1 ∧ d.dayOfMonth = r + 1 ∧ m < 12 ∧
      d.index = beforeYear d.year + beforeMonth d.year (m + 1) + r ∧
      r < monthLength d.year (m + 1) := by
  obtain ⟨hone, -, hlow, hhigh⟩ := yearOf_spec d.inCalendar
  have hyear : d.year = yearOf d.index := rfl
  rw [← hyear] at hone hlow hhigh
  have hrest : d.index - beforeYear d.year < daysIn (monthLengths (isLeap d.year)) := by
    rw [daysIn_monthLengths]
    rw [beforeYear_succ hone] at hhigh
    omega
  obtain ⟨hm, hsum, hr⟩ := locate_spec _ hrest
  obtain ⟨m, r, hlocate⟩ :
      ∃ m r, locate (monthLengths (isLeap d.year)) (d.index - beforeYear d.year) = (m, r) :=
    ⟨_, _, rfl⟩
  have hdate : d.monthAndDay = (m + 1, r + 1) := by rw [monthAndDay, hlocate]
  rw [hlocate] at hm hsum hr
  rw [length_monthLengths] at hm
  refine ⟨m, r, by rw [month, hdate], by rw [dayOfMonth, hdate], hm, ?_, ?_⟩
  · rw [beforeMonth, Nat.add_sub_cancel]
    simp only at hsum
    omega
  · rw [monthLength]
    simpa using hr

theorem isDate (d : Day) : IsDate d.year d.month d.dayOfMonth := by
  obtain ⟨hone, hmax, -, -⟩ := yearOf_spec d.inCalendar
  obtain ⟨m, r, hmonth, hday, hm, -, hr⟩ := date_spec d
  rw [hmonth, hday]
  exact ⟨hone, hmax, by omega, by omega, by omega, hr⟩

/-- The date of a day names that day. -/
theorem ofDate?_date (d : Day) : ofDate? d.year d.month d.dayOfMonth = some d := by
  obtain ⟨m, r, hmonth, hday, -, hindex, -⟩ := date_spec d
  have hd := d.inCalendar
  rw [ofDate?, if_pos d.isDate, hmonth, hday, Nat.add_sub_cancel, ← hindex, ofIndex?, dif_pos hd]

theorem monthStart_succ {k : Nat} (h : 12 ≤ k) :
    monthStart (k + 1) = monthStart k + monthLength (k / 12) (k % 12 + 1) := by
  have hlength : monthLength (k / 12) (k % 12 + 1) =
      (monthLengths (isLeap (k / 12))).getD (k % 12) 0 := by
    simp [monthLength]
  have hnext : daysIn ((monthLengths (isLeap (k / 12))).take (k % 12 + 1)) =
      beforeMonth (k / 12) (k % 12 + 1) + monthLength (k / 12) (k % 12 + 1) := by
    rw [hlength, beforeMonth, Nat.add_sub_cancel, daysIn_take_succ]
  by_cases hlast : k % 12 = 11
  · -- December: the twelve months make up the year.
    have hdiv : (k + 1) / 12 = k / 12 + 1 := by omega
    have hmod : (k + 1) % 12 = 0 := by omega
    have hyear : (monthLengths (isLeap (k / 12))).take 12 = monthLengths (isLeap (k / 12)) :=
      List.take_of_length_le (Nat.le_of_eq (length_monthLengths _))
    have hfirst : beforeMonth (k / 12 + 1) (0 + 1) = 0 := by simp [beforeMonth]
    rw [hlast, hyear, daysIn_monthLengths] at hnext
    rw [monthStart, monthStart, hdiv, hmod, beforeYear_succ (by omega), hlast, hfirst]
    omega
  · have hdiv : (k + 1) / 12 = k / 12 := by omega
    have hmod : (k + 1) % 12 = k % 12 + 1 := by omega
    have hsum : beforeMonth (k / 12) (k % 12 + 1 + 1) =
        daysIn ((monthLengths (isLeap (k / 12))).take (k % 12 + 1)) := rfl
    rw [monthStart, monthStart, hdiv, hmod, hsum, hnext, Nat.add_assoc]

theorem monthLength_pos (y : Nat) {m : Nat} (h : 1 ≤ m) (h' : m ≤ 12) : 1 ≤ monthLength y m := by
  have hall : ∀ leap, ∀ m < 12, 1 ≤ (monthLengths leap).getD m 0 := by decide
  have hm := hall (isLeap y) (m - 1) (by omega)
  have hne : (m == 0) = false := by simp; omega
  rw [monthLength, hne]
  exact hm

theorem monthLength_le (y m : Nat) : monthLength y m ≤ 31 := by
  have hall : ∀ leap, ∀ n ∈ monthLengths leap, n ≤ 31 := by decide
  rw [monthLength]
  split
  · omega
  · rw [List.getD_eq_getElem?_getD]
    cases hm : (monthLengths (isLeap y))[m - 1]? with
    | none => simp
    | some n => exact hall _ n (List.mem_of_getElem? hm)

theorem monthStart_lt_succ {k : Nat} (h : 12 ≤ k) : monthStart k < monthStart (k + 1) := by
  have := monthLength_pos (k / 12) (m := k % 12 + 1) (by omega) (by omega)
  rw [monthStart_succ h]
  omega

theorem monthStart_mono {k l : Nat} (h : 12 ≤ k) (hkl : k ≤ l) : monthStart k ≤ monthStart l := by
  induction l with
  | zero => omega
  | succ l ih =>
    by_cases hl : k = l + 1
    · exact Nat.le_of_eq (by rw [hl])
    · have := ih (by omega)
      have := monthStart_lt_succ (k := l) (by omega)
      omega

theorem monthStart_lt {k : Nat} (h : 12 ≤ k) (hk : k < 12 * (maxYear + 1)) :
    monthStart k < 3652059 := by
  have hend : monthStart (12 * (maxYear + 1)) = 3652059 := by decide
  have hmono : monthStart (k + 1) ≤ monthStart (12 * (maxYear + 1)) :=
    monthStart_mono (by omega) hk
  have := monthStart_lt_succ h
  omega

/-- The first of a month. -/
theorem ofDate?_first {y m : Nat} (hy : 1 ≤ y) (hmax : y ≤ maxYear) (hm : 1 ≤ m) (hm' : m ≤ 12) :
    ∃ d, ofDate? y m 1 = some d ∧ d.index = monthStart (12 * y + (m - 1)) := by
  have hdiv : (12 * y + (m - 1)) / 12 = y := by omega
  have hmod : (12 * y + (m - 1)) % 12 + 1 = m := by omega
  have hstart : beforeYear y + beforeMonth y m + (1 - 1) = monthStart (12 * y + (m - 1)) := by
    rw [monthStart, hdiv, hmod]
    rfl
  have hlt : monthStart (12 * y + (m - 1)) < 3652059 := monthStart_lt (by omega) (by omega)
  refine ⟨⟨_, hlt⟩, ?_, rfl⟩
  rw [ofDate?, if_pos ⟨hy, hmax, hm, hm', Nat.le_refl 1, monthLength_pos y hm hm'⟩, hstart,
    ofIndex?, dif_pos hlt]

/-- A day lies in its own month. -/
theorem monthNumber_spec (d : Day) :
    12 ≤ d.monthNumber ∧ d.monthNumber < 12 * (maxYear + 1) ∧ d.monthNumber / 12 = d.year ∧
      monthStart d.monthNumber ≤ d.index ∧ d.index < monthStart (d.monthNumber + 1) := by
  obtain ⟨hone, hmax, -, -⟩ := d.isDate
  obtain ⟨m, r, hmonth, -, hm, hindex, hr⟩ := date_spec d
  have hnumber : d.monthNumber = 12 * d.year + m := by
    rw [monthNumber, hmonth, Nat.add_sub_cancel]
  have hdiv : d.monthNumber / 12 = d.year := by omega
  have hmod : d.monthNumber % 12 = m := by omega
  have hstart : monthStart d.monthNumber = beforeYear d.year + beforeMonth d.year (m + 1) := by
    rw [monthStart, hdiv, hmod]
  have hnext := monthStart_succ (k := d.monthNumber) (by omega)
  rw [hdiv, hmod] at hnext
  exact ⟨by omega, by omega, hdiv, by omega, by omega⟩

/-- The days from the first of a month on, up to the first of a later one, are the days of
the months between. -/
theorem monthNumber_between {d : Day} {k l : Nat} (hk : 12 ≤ k) (hkl : k ≤ l)
    (hlow : monthStart k ≤ d.index)
    (hhigh : d.index < monthStart l ∨ 12 * (maxYear + 1) ≤ l) :
    k ≤ d.monthNumber ∧ d.monthNumber < l := by
  obtain ⟨htwelve, hmax, -, hstart, hstop⟩ := monthNumber_spec d
  constructor
  · by_cases h : k ≤ d.monthNumber
    · exact h
    · have hmono : monthStart (d.monthNumber + 1) ≤ monthStart k :=
        monthStart_mono (by omega) (by omega)
      omega
  · by_cases h : d.monthNumber < l
    · exact h
    · rcases hhigh with hhigh | hhigh
      · have hmono : monthStart l ≤ monthStart d.monthNumber :=
          monthStart_mono (by omega) (by omega)
        omega
      · omega

end NoteQuery.Day
