import Mathlib.Data.List.GetD
import NoteQuery.Calendar.IsoText
import NoteQuery.Proofs.Dates.Spelling

/-!
# Reading ISO texts back

The ISO text of an instant, with or without microseconds, is read as that instant in local
time: numbers stand in their widths, and no sign in the text can be taken for the start of an
offset.
-/
namespace NoteQuery

namespace Text

/-- The characters that a padded number consists of. -/
theorem mem_padded {w n : Nat} (hw : 1 ≤ w) (h : n < 10 ^ w) {c : Char}
    (hc : c ∈ ofNatPadded w n) : ∃ d < 10, c = Nat.digitChar d := by
  rw [ofNatPadded_eq hw h] at hc
  obtain ⟨d, hd, rfl⟩ := List.mem_map.mp hc
  exact ⟨d, lt_of_mem_digitsOf hd, rfl⟩

theorem length_padded {w n : Nat} (hw : 1 ≤ w) (h : n < 10 ^ w) :
    (ofNatPadded w n).length = w := by
  rw [ofNatPadded_eq hw h, List.length_map, length_digitsOf]

theorem exists_padded {w n : Nat} (hw : 1 ≤ w) (h : n < 10 ^ w) :
    ∃ d < 10, ∃ rest, ofNatPadded w n = Nat.digitChar d :: rest := by
  have hlength := length_padded hw h
  cases hpadded : ofNatPadded w n with
  | nil =>
    rw [hpadded, List.length_nil] at hlength
    omega
  | cons c rest =>
    obtain ⟨d, hd, rfl⟩ := mem_padded hw h (c := c) (by rw [hpadded]; exact List.mem_cons_self)
    exact ⟨d, hd, rest, rfl⟩

theorem isAsciiDigit_digitChar {d : Nat} (h : d < 10) : isAsciiDigit (Nat.digitChar d) = true := by
  have hall : ∀ d < 10, isAsciiDigit (Nat.digitChar d) = true := by decide
  exact hall d h

theorem digitChar_ne {d : Nat} (h : d < 10) {c : Char} (hc : isAsciiDigit c = false) :
    Nat.digitChar d ≠ c := by
  intro heq
  rw [← heq, isAsciiDigit_digitChar h] at hc
  cases hc

end Text

theorem Day.length_toText (d : Day) : d.toText.length = 10 := by
  obtain ⟨hyear, hmonth, hday, -⟩ := d.widths
  simp only [toText, List.length_append, Text.length_padded (by decide : 1 ≤ 4) hyear,
    Text.length_padded (by decide : 1 ≤ 2) hmonth, Text.length_padded (by decide : 1 ≤ 2) hday,
    List.length_singleton]

namespace IsoText

theorem digit?_digitChar {d : Nat} (h : d < 10) : digit? (Nat.digitChar d) = some d := by
  have hall : ∀ d < 10, digit? (Nat.digitChar d) = some d := by decide
  exact hall d h

theorem digits?_map {ds : List Nat} (h : ∀ d ∈ ds, d < 10) (value : Nat) (s : Text) :
    digits? ds.length value (ds.map Nat.digitChar ++ s) =
      some (ds.foldl (fun n d => 10 * n + d) value, s) := by
  induction ds generalizing value with
  | nil => rfl
  | cons d ds ih =>
    rw [List.forall_mem_cons] at h
    rw [List.length_cons, List.map_cons, List.cons_append, digits?, digit?_digitChar h.1]
    exact ih h.2 (10 * value + d)

theorem digits?_padded {w n : Nat} (hw : 1 ≤ w) (h : n < 10 ^ w) (s : Text) :
    digits? w 0 (Text.ofNatPadded w n ++ s) = some (n, s) := by
  have hread := digits?_map (fun d hd => lt_of_mem_digitsOf (w := w) (n := n) hd) 0 s
  have hnumber := number_digitsOf w h
  rw [DateForm.number] at hnumber
  rwa [length_digitsOf, ← ofNatPadded_eq hw h, hnumber] at hread

/-- The text of a day is read as that day. -/
theorem day?_toText (d : Day) : day? d.toText = some d := by
  obtain ⟨hyear, hmonth, hday, -⟩ := d.widths
  have hend := digits?_padded (by decide : 1 ≤ 2) hday []
  rw [List.append_nil] at hend
  simp only [Day.toText, List.append_assoc, List.cons_append, List.nil_append]
  rw [day?, digits?_padded (by decide) hyear]
  simp only [Option.bind_eq_bind, Option.bind_some]
  split
  · -- A month does not begin with the letter of a week.
    rename_i rest hrest
    obtain ⟨c, hc, more, hpadded⟩ := Text.exists_padded (by decide : 1 ≤ 2) hmonth
    rw [hpadded, List.cons_append] at hrest
    exact absurd (List.cons.inj hrest).1 (Text.digitChar_ne hc rfl)
  · rw [digits?_padded (by decide) hmonth]
    simp only [Option.bind_some]
    rw [hend]
    exact d.ofDate?_date

theorem dateLength?_toText (d : Day) {s : Text} (hs : s ≠ []) :
    dateLength? (d.toText ++ s) = some 10 := by
  obtain ⟨hyear, hmonth, -⟩ := d.widths
  have hpos : 0 < s.length := List.length_pos_iff.mpr hs
  have hlength : (d.toText ++ s).length = 10 + s.length := by
    rw [List.length_append, d.length_toText]
  obtain ⟨c, hc, more, hpadded⟩ := Text.exists_padded (by decide : 1 ≤ 2) hmonth
  obtain ⟨rest, hrest⟩ : ∃ rest, d.toText ++ s =
      Text.ofNatPadded 4 d.year ++ '-' :: Nat.digitChar c :: rest := by
    simp only [Day.toText, hpadded, List.append_assoc, List.cons_append, List.nil_append]
    exact ⟨_, rfl⟩
  have hwidth := Text.length_padded (by decide : 1 ≤ 4) hyear
  have hdash : (d.toText ++ s).getD 4 (Char.ofNat 0) = '-' := by
    rw [hrest, List.getD_append_right _ _ _ _ (by omega), hwidth]
    rfl
  have hdigit : (d.toText ++ s).getD 5 (Char.ofNat 0) = Nat.digitChar c := by
    rw [hrest, List.getD_append_right _ _ _ _ (by omega), hwidth]
    rfl
  have hletter : (Nat.digitChar c == 'W') = false :=
    beq_eq_false_iff_ne.mpr (Text.digitChar_ne hc rfl)
  have hseven : ((d.toText ++ s).length == 7) = false := beq_eq_false_iff_ne.mpr (by omega)
  simp only [dateLength?]
  rw [if_neg (by omega), hseven, hdash, hdigit, hletter]
  rfl

end IsoText

namespace Instant

theorem micro_lt (t : Instant) : t.micro < 10 ^ 6 := Nat.mod_lt _ (by decide)

/-- The characters of a time of day. -/
theorem mem_timeText {t : Instant} {c : Char} (h : c ∈ t.timeText) :
    Text.isAsciiDigit c = true ∨ c = ':' ∨ c = '.' := by
  obtain ⟨-, hhour, hminute, hsecond⟩ := t.seconds_eq
  have hdigit : ∀ {w n : Nat}, 1 ≤ w → n < 10 ^ w → c ∈ Text.ofNatPadded w n →
      Text.isAsciiDigit c = true ∨ c = ':' ∨ c = '.' := by
    intro w n hw hn hc
    obtain ⟨d, hd, rfl⟩ := Text.mem_padded hw hn hc
    exact Or.inl (Text.isAsciiDigit_digitChar hd)
  simp only [timeText, clockText, List.append_assoc, List.mem_append, List.mem_singleton] at h
  rcases h with h | h | h | h | h | h
  · exact hdigit (by decide) (by omega) h
  · exact Or.inr (Or.inl h)
  · exact hdigit (by decide) (by omega) h
  · exact Or.inr (Or.inl h)
  · exact hdigit (by decide) (by omega) h
  · split at h
    · cases h
    · rcases List.mem_cons.mp h with h | h
      · exact Or.inr (Or.inr h)
      · exact hdigit (by decide) t.micro_lt h

/-- The characters of the ISO text of an instant. -/
theorem mem_toTextWith {t : Instant} {c : Char} (h : c ∈ t.toTextWith 'T') :
    Text.isAsciiDigit c = true ∨ c = '-' ∨ c = 'T' ∨ c = ':' ∨ c = '.' := by
  obtain ⟨hyear, hmonth, hday, -⟩ := t.day.widths
  have hdigit : ∀ {w n : Nat}, 1 ≤ w → n < 10 ^ w → c ∈ Text.ofNatPadded w n →
      Text.isAsciiDigit c = true := by
    intro w n hw hn hc
    obtain ⟨d, hd, rfl⟩ := Text.mem_padded hw hn hc
    exact Text.isAsciiDigit_digitChar hd
  simp only [toTextWith, Day.toText, List.append_assoc, List.mem_append,
    List.mem_singleton] at h
  rcases h with h | h | h | h | h | h | h
  · exact Or.inl (hdigit (by decide) hyear h)
  · exact Or.inr (Or.inl h)
  · exact Or.inl (hdigit (by decide) hmonth h)
  · exact Or.inr (Or.inl h)
  · exact Or.inl (hdigit (by decide) hday h)
  · exact Or.inr (Or.inr (Or.inl h))
  · rcases mem_timeText h with h | h
    · exact Or.inl h
    · exact Or.inr (Or.inr (Or.inr h))

/-- The parts of a time of day name that time. -/
theorem ofDayTime?_parts (t : Instant) :
    ofDayTime? t.day t.hour t.minute t.second t.micro = some t := by
  obtain ⟨hseconds, hhour, hminute, hsecond⟩ := t.seconds_eq
  have hmicro : t.micro = t.ticks % 1000000 := by
    rw [micro, ofMidnight]
    omega
  have htime : IsTime t.hour t.minute t.second t.micro :=
    ⟨by omega, by omega, by omega, t.micro_lt⟩
  rw [ofDayTime?, dif_pos htime, Option.some_inj]
  refine eq_of_ticks ?_
  simp only
  omega

end Instant

namespace IsoText

/-- A number in front of a colon. -/
theorem clockFrom?_colon (after : Char) (parts : ClockParts) (left : Nat) {n : Nat}
    (hn : n < 10 ^ 2) {s : Text} (hs : s ≠ []) :
    clockFrom? after true parts (left + 1) (Text.ofNatPadded 2 n ++ ':' :: s) =
      clockFrom? after true (parts.set (2 - left) n) left s := by
  have hlength : ((':' :: s).length == 1) = false := by
    rw [beq_eq_false_iff_ne, List.length_cons]
    have hpos := List.length_pos_iff.mpr hs
    omega
  rw [clockFrom?, digits?_padded (by decide) hn]
  simp only [Option.bind_eq_bind, Option.bind_some, List.isEmpty_cons, hlength, Bool.false_and,
    Bool.or_self, Bool.false_eq_true, if_false, List.headD_cons, beq_self_eq_true, ite_self,
    Bool.and_self, if_true, List.drop_succ_cons, List.drop_zero]

/-- Seconds at the end. -/
theorem clockFrom?_seconds (parts : ClockParts) {n : Nat} (hn : n < 10 ^ 2) :
    clockFrom? (Char.ofNat 0) true parts 1 (Text.ofNatPadded 2 n) =
      some (parts.set 2 n, false) := by
  have hread := digits?_padded (by decide : 1 ≤ 2) hn []
  rw [List.append_nil] at hread
  rw [clockFrom?, hread]
  rfl

/-- Seconds with microseconds behind them. -/
theorem clockFrom?_micros (parts : ClockParts) {n m : Nat} (hn : n < 10 ^ 2) (hm : m < 10 ^ 6) :
    clockFrom? (Char.ofNat 0) true parts 1
        (Text.ofNatPadded 2 n ++ '.' :: Text.ofNatPadded 6 m) =
      some ({parts.set 2 n with micro := m}, false) := by
  have hread := digits?_padded (by decide : 1 ≤ 6) hm []
  rw [List.append_nil] at hread
  have hwidth := Text.length_padded (by decide : 1 ≤ 6) hm
  have hlength : (('.' :: Text.ofNatPadded 6 m).length == 1) = false := by
    rw [List.length_cons, hwidth]
    rfl
  have hfraction : fraction? (Char.ofNat 0) (parts.set 2 n) (Text.ofNatPadded 6 m) =
      some ({parts.set 2 n with micro := m}, false) := by
    rw [fraction?, hwidth, Nat.min_self, hread]
    simp
  rw [clockFrom?, digits?_padded (by decide) hn]
  simp only [Option.bind_eq_bind, Option.bind_some, List.isEmpty_cons, hlength, Bool.false_and,
    Bool.or_self, Bool.false_eq_true, if_false, List.headD_cons, List.drop_succ_cons,
    List.drop_zero]
  exact hfraction

theorem clock?_timeText (t : Instant) :
    clock? (Char.ofNat 0) t.timeText =
      some (⟨t.hour, t.minute, t.second, t.micro⟩, false) := by
  obtain ⟨-, hhour, hminute, hsecond⟩ := t.seconds_eq
  obtain ⟨c, -, more, hpadded⟩ := Text.exists_padded (by decide : 1 ≤ 2) (n := t.second) (by omega)
  simp only [Instant.timeText, Instant.clockText, List.append_assoc, List.cons_append,
    List.nil_append]
  rw [clock?, clockFrom?_colon _ _ _ (by omega) (by simp), clockFrom?_colon _ _ _ (by omega)
    (by simp [hpadded])]
  by_cases hzero : t.micro = 0
  · rw [if_pos (beq_iff_eq.mpr hzero), List.append_nil, clockFrom?_seconds _ (by omega), hzero]
    rfl
  · rw [if_neg (mt beq_iff_eq.mp hzero), clockFrom?_micros _ (by omega) t.micro_lt]
    rfl

/-- No character of a time of day begins an offset. -/
theorem time?_timeText (t : Instant) :
    time? t.timeText = some (⟨t.hour, t.minute, t.second, t.micro⟩, none) := by
  have hpass : ∀ c ∈ t.timeText, (!(c == '+' || c == '-' || c == 'Z')) = true := by
    intro c hc
    rcases Instant.mem_timeText hc with hdigit | rfl | rfl
    · have hplus : c ≠ '+' := by rintro rfl; cases hdigit
      have hminus : c ≠ '-' := by rintro rfl; cases hdigit
      have hzone : c ≠ 'Z' := by rintro rfl; cases hdigit
      simp [hplus, hminus, hzone]
    · rfl
    · rfl
  simp only [time?]
  rw [List.dropWhile_eq_nil_iff.mpr hpass, List.takeWhile_eq_self_iff.mpr hpass]
  simp only [clock?_timeText, Option.bind_eq_bind, Option.bind_some, Bool.false_eq_true, if_false]

/-- The text of an instant, with any separator, is read as that instant. -/
theorem stamp?_toTextWith (separator : Char) (t : Instant) :
    stamp? (t.toTextWith separator) = some ⟨t, none⟩ := by
  have htext : t.toTextWith separator = t.day.toText ++ separator :: t.timeText := by
    rw [Instant.toTextWith, List.append_assoc]
    rfl
  have hday := t.day.length_toText
  have htake : (t.toTextWith separator).take 10 = t.day.toText := by
    rw [htext, List.take_left' hday]
  have hdrop : (t.toTextWith separator).drop (10 + 1) = t.timeText := by
    rw [htext, ← hday, List.drop_append]
    simp
  have hlong : ¬(t.toTextWith separator).length ≤ 10 := by
    rw [htext, List.length_append, List.length_cons]
    omega
  have hlength := dateLength?_toText t.day (List.cons_ne_nil separator t.timeText)
  rw [← htext] at hlength
  rw [stamp?, hlength]
  simp only [Option.bind_eq_bind, Option.bind_some]
  rw [htake, day?_toText, Option.bind_some, if_neg hlong, hdrop, time?_timeText, Option.bind_some]
  simp only [t.ofDayTime?_parts, Option.bind_some]

end IsoText

end NoteQuery
