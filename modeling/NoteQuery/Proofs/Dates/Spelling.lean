import Mathlib.Algebra.Group.Nat.Defs
import NoteQuery.Proofs.Dates.Spans
import NoteQuery.Proofs.Text.Stripping

/-!
# The texts of calendar units

Each unit of the calendar has one ISO text: numbers of a fixed width with signs between
them. Such a text has no blanks and no dots, is no relative word, and is read as the form
of its unit, so that it stands for the span of the unit whatever the clock says.
-/
namespace NoteQuery

/-! ## Numbers of a fixed width -/

/-- The last digits of a number, most significant first. -/
def digitsOf : Nat → Nat → List Nat
  | 0, _ => []
  | w + 1, n => digitsOf w (n / 10) ++ [n % 10]

theorem length_digitsOf (w n : Nat) : (digitsOf w n).length = w := by
  induction w generalizing n with
  | zero => rfl
  | succ w ih => rw [digitsOf, List.length_append, ih, List.length_singleton]

theorem lt_of_mem_digitsOf {w n d : Nat} (h : d ∈ digitsOf w n) : d < 10 := by
  induction w generalizing n with
  | zero => cases h
  | succ w ih =>
    rw [digitsOf, List.mem_append] at h
    rcases h with h | h
    · exact ih h
    · rw [List.mem_singleton.mp h]
      omega

theorem number_concat (ds : List Nat) (d : Nat) :
    DateForm.number (ds ++ [d]) = 10 * DateForm.number ds + d := by
  rw [DateForm.number, List.foldl_append]
  rfl

theorem number_digitsOf (w : Nat) {n : Nat} (h : n < 10 ^ w) :
    DateForm.number (digitsOf w n) = n := by
  induction w generalizing n with
  | zero =>
    have : n = 0 := by omega
    rw [this]
    rfl
  | succ w ih =>
    rw [Nat.pow_succ] at h
    rw [digitsOf, number_concat, ih (by omega)]
    omega

/-- The last digit of a padded number stands behind those of its quotient by the base. -/
theorem padLeft_toDigits_succ {b w : Nat} (hb : 1 < b) (hw : 1 ≤ w) (n : Nat) :
    Text.padLeft '0' (w + 1) (Nat.toDigits b n) =
      Text.padLeft '0' w (Nat.toDigits b (n / b)) ++ [Nat.digitChar (n % b)] := by
  rw [Text.padLeft, Text.padLeft]
  by_cases hn : n < b
  · have hwidth : w + 1 - 1 = w - 1 + 1 := by omega
    rw [Nat.toDigits_of_lt_base hn, Nat.div_eq_of_lt hn, Nat.toDigits_zero, Nat.mod_eq_of_lt hn,
      List.length_singleton, List.length_singleton, hwidth, List.replicate_succ']
  · rw [Nat.toDigits_of_base_le hb (by omega), List.length_append, List.length_singleton,
      Nat.add_sub_add_right, List.append_assoc]

/-- A padded number is written with its last digits. -/
theorem ofNatPadded_eq {w n : Nat} (hw : 1 ≤ w) (h : n < 10 ^ w) :
    Text.ofNatPadded w n = (digitsOf w n).map Nat.digitChar := by
  induction w generalizing n with
  | zero => omega
  | succ w ih =>
    rw [Nat.pow_succ] at h
    rw [digitsOf, List.map_append, List.map_singleton]
    by_cases hw : w = 0
    · subst hw
      have hn : n < 10 := by omega
      rw [Text.ofNatPadded, Text.ofNat, Nat.toDigits_of_lt_base hn, Nat.mod_eq_of_lt hn]
      rfl
    · rw [← ih (by omega) (by omega)]
      exact padLeft_toDigits_succ (by decide) (by omega) n

theorem digitValue?_digitChar {d : Nat} (h : d < 10) :
    Text.digitValue? (Nat.digitChar d) = some d := by
  have hall : ∀ d < 10, Text.digitValue? (Nat.digitChar d) = some d := by decide
  exact hall d h

/-! ## Pieces -/

namespace DateForm

def NoDigitHead (s : Text) : Prop := ∀ c rest, s = c :: rest → Text.digitValue? c = none

theorem noDigitHead_nil : NoDigitHead [] := by
  intro c rest h
  cases h

theorem noDigitHead_cons {c : Char} (h : Text.digitValue? c = none) (s : Text) :
    NoDigitHead (c :: s) := by
  intro d rest hd
  cases hd
  exact h

theorem pieces_sign {c : Char} (h : Text.digitValue? c = none) (s : Text) :
    pieces (c :: s) = .sign c :: pieces s := by
  rw [pieces, h]

theorem consDigit_pieces {s : Text} (h : NoDigitHead s) (d : Nat) :
    consDigit d (pieces s) = .digits [d] :: pieces s := by
  cases s with
  | nil => rfl
  | cons c rest =>
    rw [pieces_sign (h c rest rfl)]
    rfl

theorem pieces_digits {ds : List Nat} (hne : ds ≠ []) (hds : ∀ d ∈ ds, d < 10) {s : Text}
    (h : NoDigitHead s) : pieces (ds.map Nat.digitChar ++ s) = .digits ds :: pieces s := by
  induction ds with
  | nil => exact absurd rfl hne
  | cons d ds ih =>
    have hd := digitValue?_digitChar (hds d List.mem_cons_self)
    rw [List.map_cons, List.cons_append, pieces, hd]
    cases ds with
    | nil => exact consDigit_pieces h d
    | cons e ds =>
      rw [ih (by simp) fun f hf => hds f (List.mem_cons_of_mem d hf)]
      rfl

/-- A padded number is one run of digits. -/
theorem pieces_padded {w n : Nat} (hw : 1 ≤ w) (hn : n < 10 ^ w) {s : Text} (h : NoDigitHead s) :
    pieces (Text.ofNatPadded w n ++ s) = .digits (digitsOf w n) :: pieces s := by
  have hne : digitsOf w n ≠ [] := by
    intro hnil
    have hlength := length_digitsOf w n
    rw [hnil, List.length_nil] at hlength
    omega
  rw [ofNatPadded_eq hw hn, pieces_digits hne (fun d hd => lt_of_mem_digitsOf hd) h]

theorem pieces_padded_end {w n : Nat} (hw : 1 ≤ w) (hn : n < 10 ^ w) :
    pieces (Text.ofNatPadded w n) = [.digits (digitsOf w n)] := by
  have hend := pieces_padded hw hn noDigitHead_nil
  rw [List.append_nil] at hend
  exact hend

end DateForm

/-! ## Texts without blanks and dots -/

theorem DateExpr.splitFirst?_dots {s : Text} (h : '.' ∉ s) : Text.splitFirst? dots s = none := by
  induction s with
  | nil => rfl
  | cons c s ih =>
    have hc : c ≠ '.' := fun hc => h (by rw [hc]; exact List.mem_cons_self)
    have hprefix : List.isPrefixOf dots (c :: s) = false := by
      simp [dots, List.isPrefixOf, Ne.symm hc]
    rw [Text.splitFirst?, hprefix, if_neg (by decide), ih fun hs => h (List.mem_cons_of_mem c hs)]
    rfl

/-- A relative word does not begin with a digit. -/
theorem DateForm.relative_eq_none {d : Nat} (h : d < 10) (s : Text) :
    (RelativeDay.all.find? fun w => w.word == Text.lower (Nat.digitChar d :: s)) = none := by
  have hlower : ∀ d < 10, (Nat.digitChar d).toNat ≠ 0x3a3 ∧
      Text.lowerChar (Nat.digitChar d) = [Nat.digitChar d] := by decide
  have hword : ∀ w ∈ RelativeDay.all, ∀ d < 10, w.word.head? ≠ some (Nat.digitChar d) := by decide
  obtain ⟨hsigma, hsame⟩ := hlower d h
  have hhead : (Text.lower (Nat.digitChar d :: s)).head? = some (Nat.digitChar d) := by
    rw [Text.lower, Text.lowerFrom, beq_eq_false_iff_ne.mpr hsigma, if_neg (by decide), hsame]
    rfl
  rw [List.find?_eq_none]
  intro w hw heq
  rw [beq_iff_eq] at heq
  rw [← heq] at hhead
  exact hword w hw d h hhead

/-! ## Unit texts -/

namespace Instant

def unitText (t : Instant) : Granularity → Text
  | .second => t.day.toText ++ ['T'] ++ t.clockText ++ [':'] ++ Text.ofNatPadded 2 t.second
  | .minute => t.day.toText ++ ['T'] ++ t.clockText
  | .day => t.day.toText
  | .week => Text.ofNatPadded 4 t.day.isoYear ++ ['-', 'W'] ++ Text.ofNatPadded 2 t.day.isoWeek
  | .month => Text.ofNatPadded 4 t.day.year ++ ['-'] ++ Text.ofNatPadded 2 t.day.month
  | .quarter => Text.ofNatPadded 4 t.day.year ++ ['-', 'Q'] ++ Text.ofNatPadded 1 t.day.quarter
  | .year => Text.ofNatPadded 4 t.day.year

end Instant

/-- The numbers of a unit fit the widths that they are written in. -/
theorem Day.widths (d : Day) :
    d.year < 10 ^ 4 ∧ d.month < 10 ^ 2 ∧ d.dayOfMonth < 10 ^ 2 ∧ d.quarter < 10 ^ 1 ∧
      d.isoYear < 10 ^ 4 ∧ d.isoWeek < 10 ^ 2 := by
  obtain ⟨-, hyear, -, hmonth, -, hday⟩ := d.isDate
  obtain ⟨-, hisoYear, -, -⟩ := yearOf_spec d.thursday_lt
  have hlength := monthLength_le d.year d.month
  have hweeks : weeksIn d.isoYear ≤ 53 := by
    rw [weeksIn]
    split <;> omega
  have hweek := d.isoWeek_le
  rw [maxYear] at hyear hisoYear
  rw [quarter, isoYear]
  exact ⟨by omega, by omega, by omega, by omega, by omega, by omega⟩

def Text.IsPlain (s : Text) : Prop := s.all fun c => !isBlank c && c != '.'

instance (s : Text) : Decidable s.IsPlain := inferInstanceAs (Decidable (_ = true))

theorem Text.isPlain_append {u v : Text} (hu : u.IsPlain) (hv : v.IsPlain) : IsPlain (u ++ v) := by
  rw [IsPlain, List.all_append, hu, hv]
  rfl

theorem Text.IsPlain.not_blank {s : Text} (h : s.IsPlain) {c : Char} (hc : c ∈ s) :
    isBlank c = false := by
  have hc := List.all_eq_true.mp h c hc
  rw [Bool.and_eq_true, Bool.not_eq_true'] at hc
  exact hc.1

theorem Text.IsPlain.not_dot {s : Text} (h : s.IsPlain) : '.' ∉ s := by
  intro hc
  have hc := List.all_eq_true.mp h '.' hc
  rw [Bool.and_eq_true, bne_self_eq_false] at hc
  exact Bool.noConfusion hc.2

theorem Text.isPlain_padded {w n : Nat} (hw : 1 ≤ w) (h : n < 10 ^ w) :
    (ofNatPadded w n).IsPlain := by
  have hall : ∀ d < 10, (!isBlank (Nat.digitChar d) && Nat.digitChar d != '.') = true := by decide
  rw [ofNatPadded_eq hw h, IsPlain, List.all_eq_true]
  intro c hc
  obtain ⟨d, hd, rfl⟩ := List.mem_map.mp hc
  exact hall d (lt_of_mem_digitsOf hd)

namespace DateForm

theorem pieces_day (d : Day) {s : Text} (h : NoDigitHead s) :
    pieces (d.toText ++ s) = .digits (digitsOf 4 d.year) :: .sign '-' ::
      .digits (digitsOf 2 d.month) :: .sign '-' :: .digits (digitsOf 2 d.dayOfMonth) ::
        pieces s := by
  obtain ⟨hyear, hmonth, hday, -⟩ := d.widths
  simp only [Day.toText, List.append_assoc, List.cons_append, List.nil_append]
  rw [pieces_padded (by decide) hyear (noDigitHead_cons rfl _), pieces_sign rfl,
    pieces_padded (by decide) hmonth (noDigitHead_cons rfl _), pieces_sign rfl,
    pieces_padded (by decide) hday h]

theorem pieces_clock (t : Instant) {s : Text} (h : NoDigitHead s) :
    pieces (t.clockText ++ s) = .digits (digitsOf 2 t.hour) :: .sign ':' ::
      .digits (digitsOf 2 t.minute) :: pieces s := by
  obtain ⟨-, hhour, hminute⟩ := t.minutes_eq
  simp only [Instant.clockText, List.append_assoc, List.cons_append, List.nil_append]
  rw [pieces_padded (by decide) (by omega) (noDigitHead_cons rfl _), pieces_sign rfl,
    pieces_padded (by decide) (by omega) h]

/-- The runs of digits and the signs that the text of a unit consists of. -/
def unitPieces (t : Instant) : Granularity → List Piece
  | .second =>
    [.digits (digitsOf 4 t.day.year), .sign '-', .digits (digitsOf 2 t.day.month), .sign '-',
      .digits (digitsOf 2 t.day.dayOfMonth), .sign 'T', .digits (digitsOf 2 t.hour), .sign ':',
      .digits (digitsOf 2 t.minute), .sign ':', .digits (digitsOf 2 t.second)]
  | .minute =>
    [.digits (digitsOf 4 t.day.year), .sign '-', .digits (digitsOf 2 t.day.month), .sign '-',
      .digits (digitsOf 2 t.day.dayOfMonth), .sign 'T', .digits (digitsOf 2 t.hour), .sign ':',
      .digits (digitsOf 2 t.minute)]
  | .day =>
    [.digits (digitsOf 4 t.day.year), .sign '-', .digits (digitsOf 2 t.day.month), .sign '-',
      .digits (digitsOf 2 t.day.dayOfMonth)]
  | .week =>
    [.digits (digitsOf 4 t.day.isoYear), .sign '-', .sign 'W', .digits (digitsOf 2 t.day.isoWeek)]
  | .month => [.digits (digitsOf 4 t.day.year), .sign '-', .digits (digitsOf 2 t.day.month)]
  | .quarter =>
    [.digits (digitsOf 4 t.day.year), .sign '-', .sign 'Q', .digits (digitsOf 1 t.day.quarter)]
  | .year => [.digits (digitsOf 4 t.day.year)]

theorem pieces_unitText (t : Instant) (g : Granularity) :
    pieces (t.unitText g) = unitPieces t g := by
  obtain ⟨hyear, hmonth, -, hquarter, hisoYear, hisoWeek⟩ := t.day.widths
  obtain ⟨-, -, -, hsecond⟩ := t.seconds_eq
  have hday := pieces_day t.day noDigitHead_nil
  have hclock := pieces_clock t noDigitHead_nil
  rw [List.append_nil] at hday hclock
  cases g with
  | second =>
    simp only [Instant.unitText, List.append_assoc, List.cons_append, List.nil_append]
    rw [pieces_day _ (noDigitHead_cons rfl _), pieces_sign rfl,
      pieces_clock _ (noDigitHead_cons rfl _), pieces_sign rfl,
      pieces_padded_end (by decide) (by omega), unitPieces]
  | minute =>
    simp only [Instant.unitText, List.append_assoc, List.cons_append, List.nil_append]
    rw [pieces_day _ (noDigitHead_cons rfl _), pieces_sign rfl, hclock]
    rfl
  | day =>
    rw [Instant.unitText, hday]
    rfl
  | week =>
    simp only [Instant.unitText, List.append_assoc, List.cons_append, List.nil_append]
    rw [pieces_padded (by decide) hisoYear (noDigitHead_cons rfl _), pieces_sign rfl,
      pieces_sign rfl, pieces_padded_end (by decide) hisoWeek, unitPieces]
  | month =>
    simp only [Instant.unitText, List.append_assoc, List.cons_append, List.nil_append]
    rw [pieces_padded (by decide) hyear (noDigitHead_cons rfl _), pieces_sign rfl,
      pieces_padded_end (by decide) hmonth, unitPieces]
  | quarter =>
    simp only [Instant.unitText, List.append_assoc, List.cons_append, List.nil_append]
    rw [pieces_padded (by decide) hyear (noDigitHead_cons rfl _), pieces_sign rfl,
      pieces_sign rfl, pieces_padded_end (by decide) hquarter, unitPieces]
  | year => rw [Instant.unitText, pieces_padded_end (by decide) hyear, unitPieces]

theorem ofPieces?_unitPieces (t : Instant) (g : Granularity) :
    ofPieces? (unitPieces t g) = some (ofUnit t g) := by
  obtain ⟨hyear, hmonth, hday, hquarter, hisoYear, hisoWeek⟩ := t.day.widths
  obtain ⟨-, hhour, hminute, hsecond⟩ := t.seconds_eq
  have nyear := number_digitsOf 4 hyear
  have nmonth := number_digitsOf 2 hmonth
  have nday := number_digitsOf 2 hday
  have nhour := number_digitsOf 2 (n := t.hour) (by omega)
  have nminute := number_digitsOf 2 (n := t.minute) (by omega)
  have nsecond := number_digitsOf 2 (n := t.second) (by omega)
  cases g with
  | second =>
    rw [unitPieces, ofPieces?, isTimed, isShort]
    simp [length_digitsOf, nyear, nmonth, nday, nhour, nminute, nsecond, ofUnit]
  | minute =>
    rw [unitPieces, ofPieces?, isTimed, isShort]
    simp [length_digitsOf, nyear, nmonth, nday, nhour, nminute, ofUnit]
  | day =>
    rw [unitPieces, ofPieces?, ofThree?, isShort, isShort]
    simp [length_digitsOf, nyear, nmonth, nday, ofUnit]
  | week =>
    rw [unitPieces, ofPieces?, ofLetter?, isShort]
    simp [length_digitsOf, number_digitsOf 4 hisoYear, number_digitsOf 2 hisoWeek, ofUnit]
  | month =>
    rw [unitPieces, ofPieces?, isShort]
    simp [length_digitsOf, nyear, nmonth, ofUnit]
  | quarter =>
    rw [unitPieces, ofPieces?, ofLetter?]
    simp [length_digitsOf, nyear, number_digitsOf 1 hquarter, ofUnit]
  | year =>
    rw [unitPieces, ofPieces?]
    simp [length_digitsOf, nyear, ofUnit]

/-- The form of a unit is read back from its text. -/
theorem ofPieces?_unitText (t : Instant) (g : Granularity) :
    ofPieces? (pieces (t.unitText g)) = some (ofUnit t g) := by
  rw [pieces_unitText, ofPieces?_unitPieces]

end DateForm

theorem Instant.isPlain_unitText (t : Instant) (g : Granularity) : (t.unitText g).IsPlain := by
  obtain ⟨hyear, hmonth, hday, hquarter, hisoYear, hisoWeek⟩ := t.day.widths
  obtain ⟨-, hhour, hminute, hsecond⟩ := t.seconds_eq
  have hdate : t.day.toText.IsPlain := by
    have hsign : Text.IsPlain ['-'] := by decide
    have hym := Text.isPlain_append (Text.isPlain_append
      (Text.isPlain_padded (by decide) hyear) hsign) (Text.isPlain_padded (by decide) hmonth)
    exact Text.isPlain_append (Text.isPlain_append hym hsign)
      (Text.isPlain_padded (by decide) hday)
  have hclock : t.clockText.IsPlain := by
    have hsign : Text.IsPlain [':'] := by decide
    exact Text.isPlain_append (Text.isPlain_append
      (Text.isPlain_padded (by decide) (by omega)) hsign)
      (Text.isPlain_padded (by decide) (by omega))
  have htimed := Text.isPlain_append (Text.isPlain_append hdate (v := ['T']) (by decide)) hclock
  cases g with
  | second =>
    exact Text.isPlain_append (Text.isPlain_append htimed (v := [':']) (by decide))
      (Text.isPlain_padded (by decide) (by omega))
  | minute => exact htimed
  | day => exact hdate
  | week =>
    exact Text.isPlain_append (Text.isPlain_append
      (Text.isPlain_padded (by decide) hisoYear) (v := ['-', 'W']) (by decide))
      (Text.isPlain_padded (by decide) hisoWeek)
  | month =>
    exact Text.isPlain_append (Text.isPlain_append
      (Text.isPlain_padded (by decide) hyear) (v := ['-']) (by decide))
      (Text.isPlain_padded (by decide) hmonth)
  | quarter =>
    exact Text.isPlain_append (Text.isPlain_append
      (Text.isPlain_padded (by decide) hyear) (v := ['-', 'Q']) (by decide))
      (Text.isPlain_padded (by decide) hquarter)
  | year => exact Text.isPlain_padded (by decide) hyear

/-- Unit texts begin with a digit. -/
theorem Instant.exists_digit (t : Instant) (g : Granularity) :
    ∃ d s, d < 10 ∧ t.unitText g = Nat.digitChar d :: s := by
  have hpadded : ∀ y s, y < 10 ^ 4 → ∃ d u, d < 10 ∧
      Text.ofNatPadded 4 y ++ s = Nat.digitChar d :: u := by
    intro y s hy
    refine ⟨y / 10 / 10 / 10 % 10, (Text.ofNatPadded 4 y ++ s).tail, by omega, ?_⟩
    rw [ofNatPadded_eq (by decide) hy]
    rfl
  obtain ⟨hyear, -, -, -, hisoYear, -⟩ := t.day.widths
  cases g with
  | week =>
    rw [unitText, List.append_assoc]
    exact hpadded _ _ hisoYear
  | year =>
    rw [unitText, ← List.append_nil (Text.ofNatPadded 4 t.day.year)]
    exact hpadded _ _ hyear
  | _ =>
    simp only [unitText, Day.toText, List.append_assoc]
    exact hpadded _ _ hyear

/-- A unit text stands for the span of its unit. -/
theorem DateExpr.resolve?_unitText (order : DayOrder) (now t : Instant) (g : Granularity) :
    resolve? order now (t.unitText g) = DateForm.span? order now.day (DateForm.ofUnit t g) := by
  have hplain := t.isPlain_unitText g
  have htrim := Text.trim_eq_self fun c hc => hplain.not_blank hc
  have hdots := splitFirst?_dots hplain.not_dot
  obtain ⟨d, s, hd, htext⟩ := t.exists_digit g
  have hrelative := DateForm.relative_eq_none hd s
  rw [← htext] at hrelative
  rw [resolve?, htrim, hdots]
  simp only [side?, DateForm.ofText?, htrim, hrelative, DateForm.ofPieces?_unitText,
    Option.bind_some]

/-- The first of January 2021 is a Friday, in the last of 53 weeks. -/
example : (Instant.ofDay ⟨737790, by decide⟩).unitText .week = "2020-W53".toList := by decide

end NoteQuery
