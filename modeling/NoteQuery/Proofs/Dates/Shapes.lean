import NoteQuery.Proofs.Dates.DayDependence
import NoteQuery.Proofs.Dates.Numbers

/-!
# The shapes of a single date

A single date is a relative word or a text of numbers and signs in one of nine shapes. A form
is read from a text exactly if the text has one of the shapes and its numbers are those of the
form. The form and the presence of a sign tell which shape it is: no text has two of them, so
that readers of the single shapes may be tried in any order.
-/
namespace NoteQuery

inductive DateShape where
  | word
  | clock
  | day
  | compactDay
  | year
  | month
  | compactMonth
  | week
  | quarter
  | numeric
  deriving DecidableEq, Repr

namespace DateShape

/-- A text of a shape writes a form. Digits are decimal digits of any script. -/
inductive Writes : DateShape → DateForm → Text → Prop where
  | word {w : RelativeDay} {s : Text} (hs : s.IsCasing w.word) : Writes .word (.relative w) s
  | second {y mo d h mi s : Text} {t : Char} (hy : y.IsNumber 4) (hmo : mo.IsNumber 2)
      (hd : d.IsNumber 2) (ht : t = 'T' ∨ t = 't') (hh : h.IsShort) (hmi : mi.IsNumber 2)
      (hs : s.IsNumber 2) :
      Writes .clock (.second y.digitsValue mo.digitsValue d.digitsValue h.digitsValue
          mi.digitsValue s.digitsValue)
        (y ++ '-' :: (mo ++ '-' :: (d ++ t :: (h ++ ':' :: (mi ++ ':' :: s)))))
  | minute {y mo d h mi : Text} {t : Char} (hy : y.IsNumber 4) (hmo : mo.IsNumber 2)
      (hd : d.IsNumber 2) (ht : t = 'T' ∨ t = 't') (hh : h.IsShort) (hmi : mi.IsNumber 2) :
      Writes .clock (.minute y.digitsValue mo.digitsValue d.digitsValue h.digitsValue
          mi.digitsValue)
        (y ++ '-' :: (mo ++ '-' :: (d ++ t :: (h ++ ':' :: mi))))
  | day {y m d : Text} (hy : y.IsNumber 4) (hm : m.IsShort) (hd : d.IsShort) :
      Writes .day (.day y.digitsValue m.digitsValue d.digitsValue) (y ++ '-' :: (m ++ '-' :: d))
  | compactDay {y m d : Text} (hy : y.IsNumber 4) (hm : m.IsNumber 2) (hd : d.IsNumber 2) :
      Writes .compactDay (.day y.digitsValue m.digitsValue d.digitsValue) (y ++ (m ++ d))
  | year {y : Text} (hy : y.IsNumber 4) : Writes .year (.year y.digitsValue) y
  | month {y m : Text} (hy : y.IsNumber 4) (hm : m.IsShort) :
      Writes .month (.month y.digitsValue m.digitsValue) (y ++ '-' :: m)
  | compactMonth {y m : Text} (hy : y.IsNumber 4) (hm : m.IsNumber 2) :
      Writes .compactMonth (.month y.digitsValue m.digitsValue) (y ++ m)
  | week {y dash n : Text} {c : Char} (hy : y.IsNumber 4) (hdash : dash = [] ∨ dash = ['-'])
      (hc : c = 'W' ∨ c = 'w') (hn : n.IsShort) :
      Writes .week (.week y.digitsValue n.digitsValue) (y ++ (dash ++ c :: n))
  | quarter {y dash n : Text} {c : Char} (hy : y.IsNumber 4) (hdash : dash = [] ∨ dash = ['-'])
      (hc : c = 'Q' ∨ c = 'q') (hn : n.IsNumber 1) :
      Writes .quarter (.quarter y.digitsValue n.digitsValue) (y ++ (dash ++ c :: n))
  | numeric {a b y : Text} {c : Char} (ha : a.IsShort) (hb : b.IsShort) (hy : y.IsNumber 4)
      (hc : c = '/' ∨ c = '.' ∨ c = '-') :
      Writes .numeric (.numeric a.digitsValue b.digitsValue y.digitsValue)
        (a ++ c :: (b ++ c :: y))

end DateShape

/-! ## Letters and digits -/

/-- Only ASCII characters are lowered to ASCII characters here. -/
theorem Text.lt_of_toLower_eq {c d : Char} (hd : d.toNat < 0x80) (h : c.toLower = d) :
    c.toNat < 0x80 := by
  by_contra hc
  rw [toLower_eq_self (by omega)] at h
  exact hc (h ▸ hd)

/-- A character has the one other case that it has among the ASCII characters. -/
theorem Text.toLower_eq_iff {u d : Char} (hd : d.toNat < 0x80) (hu : u.toNat < 0x80)
    (hall : ∀ n < 0x80, (Char.ofNat n).toLower = d ↔ Char.ofNat n = u ∨ Char.ofNat n = d)
    (c : Char) : c.toLower = d ↔ c = u ∨ c = d := by
  by_cases hc : c.toNat < 0x80
  · have hboth := hall c.toNat hc
    rw [Char.ofNat_toNat] at hboth
    exact hboth
  · constructor
    · intro h
      exact absurd (lt_of_toLower_eq hd h) hc
    · rintro (rfl | rfl)
      · exact absurd hu hc
      · exact absurd hd hc

theorem Text.toLower_eq_t_iff (c : Char) : c.toLower = 't' ↔ c = 'T' ∨ c = 't' :=
  toLower_eq_iff (by decide) (by decide) (by decide) c

theorem Text.toLower_eq_w_iff (c : Char) : c.toLower = 'w' ↔ c = 'W' ∨ c = 'w' :=
  toLower_eq_iff (by decide) (by decide) (by decide) c

theorem Text.toLower_eq_q_iff (c : Char) : c.toLower = 'q' ↔ c = 'Q' ∨ c = 'q' :=
  toLower_eq_iff (by decide) (by decide) (by decide) c

/-- No relative word begins with a digit. -/
theorem RelativeDay.not_isCasing_of_isDigit {c : Char} {s : Text} (hc : Text.isDigit c)
    (w : RelativeDay) : ¬ Text.IsCasing (c :: s) w.word := by
  intro hcasing
  obtain ⟨e, he, d, hd, hcase⟩ := exists_head_of_isCasing hcasing
  cases he
  have hascii : ['t', 'y', 'l'].all fun d => d.toNat < 0x80 && d != 'k' := by decide
  have hletters : ∀ n < 0x80, (Char.ofNat n).toLower ∈ ['t', 'y', 'l'] →
      Text.isDigit (Char.ofNat n) = false := by decide
  have hboth := List.all_eq_true.mp hascii d hd
  rw [Bool.and_eq_true, decide_eq_true_eq, bne_iff_ne] at hboth
  rcases hcase with hlower | ⟨-, rfl⟩
  · have hnot := hletters c.toNat (Text.lt_of_toLower_eq hboth.1 hlower)
    rw [Char.ofNat_toNat, hc, hlower] at hnot
    exact absurd (hnot hd) (by decide)
  · exact hboth.2 rfl

/-! ## From a shape to its form -/

namespace DateForm

/-- A text that begins with a number is read by its pieces. -/
theorem IsLaid.ofText?_eq {ds : List Nat} {ps : List Piece} {s : Text}
    (h : IsLaid (.digits ds :: ps) s) : ofText? s = ofPieces? (.digits ds :: ps) := by
  obtain ⟨u, rest, rfl, hu, -, -⟩ := exists_of_pieces_digits h.pieces_eq
  obtain ⟨c, v, rfl⟩ := List.exists_cons_of_ne_nil hu.1
  have hword : (RelativeDay.all.find? fun w => w.word == Text.lower (c :: v ++ rest)) = none := by
    rw [List.find?_eq_none]
    intro w _ heq
    have hcasing : Text.IsCasing (c :: (v ++ rest)) w.word :=
      (w.lower_eq_word_iff _).mp (beq_iff_eq.mp heq).symm
    exact RelativeDay.not_isCasing_of_isDigit (hu.2 c List.mem_cons_self) w hcasing
  simp only [ofText?, Text.trim_eq_self h.not_isBlank, hword, h.pieces_eq]

/-- A year with a letter and a number behind it, a dash in between or none. -/
theorem ofText?_letter {y dash n : Text} {c : Char} (hy : y.IsDigits)
    (hdash : dash = [] ∨ dash = ['-']) (hc : IsSign c) (hne : c ≠ '-') (hn : n.IsDigits) :
    ofText? (y ++ (dash ++ c :: n)) = ofLetter? y.values c n.values := by
  rcases hdash with rfl | rfl
  · have hlaid := (IsLaid.last hn).number hy hc
    rw [List.nil_append, hlaid.ofText?_eq]
    simp [ofPieces?, hne]
  · have hlaid := ((IsLaid.last hn).sign hc).number hy (c := '-') (by decide)
    rw [List.cons_append, List.nil_append, hlaid.ofText?_eq]
    simp [ofPieces?]

end DateForm

namespace DateShape.Writes

open DateForm Text

/-- A text that a form is written in is read as that form. -/
theorem ofText?_eq {shape : DateShape} {form : DateForm} {s : Text} (h : Writes shape form s) :
    ofText? s = some form := by
  cases h with
  | @word w s hs =>
    have hplain := hs.isPlain w.isPlain_word
    have htrim := trim_eq_self fun c hc => hplain.not_blank hc
    simp only [ofText?, htrim, (w.lower_eq_word_iff s).mpr hs, w.find?_word]
  | @second y mo d h mi s t hy hmo hd ht hh hmi hs =>
    have hsign : IsSign t := by rcases ht with rfl | rfl <;> decide
    have hclock := (IsLaid.last hs.isDigits).number hmi.isDigits (c := ':') (by decide)
    have htime := (hclock.number hh.isDigits (c := ':') (by decide)).number hd.isDigits hsign
    have hlaid := (htime.number hmo.isDigits (c := '-') (by decide)).number hy.isDigits
      (c := '-') (by decide)
    rw [hlaid.ofText?_eq]
    simp [ofPieces?, isTimed, hy.length_values, hmo.length_values, hd.length_values,
      (toLower_eq_t_iff t).mpr ht, hh.isShort_values, hmi.length_values, hs.length_values,
      number_values hy.2, number_values hmo.2, number_values hd.2, number_values hh.isDigits.2,
      number_values hmi.2, number_values hs.2]
  | @minute y mo d h mi t hy hmo hd ht hh hmi =>
    have hsign : IsSign t := by rcases ht with rfl | rfl <;> decide
    have htime := ((IsLaid.last hmi.isDigits).number hh.isDigits (c := ':') (by decide)).number
      hd.isDigits hsign
    have hlaid := (htime.number hmo.isDigits (c := '-') (by decide)).number hy.isDigits
      (c := '-') (by decide)
    rw [hlaid.ofText?_eq]
    simp [ofPieces?, isTimed, hy.length_values, hmo.length_values, hd.length_values,
      (toLower_eq_t_iff t).mpr ht, hh.isShort_values, hmi.length_values, number_values hy.2,
      number_values hmo.2, number_values hd.2, number_values hh.isDigits.2, number_values hmi.2]
  | @day y m d hy hm hd =>
    have hlaid := ((IsLaid.last hd.isDigits).number hm.isDigits (c := '-') (by decide)).number
      hy.isDigits (c := '-') (by decide)
    rw [hlaid.ofText?_eq]
    simp [ofPieces?, ofThree?, hy.length_values, hm.isShort_values, hd.isShort_values,
      number_values hy.2, number_values hm.isDigits.2, number_values hd.isDigits.2]
  | @compactDay y m d hy hm hd =>
    have hlaid := IsLaid.last (hy.isDigits.append (hm.isDigits.append hd.isDigits))
    have hlong : y.values.drop 6 = [] := List.drop_of_length_le (by rw [hy.length_values]; decide)
    rw [hlaid.ofText?_eq]
    simp [ofPieces?, values_append, hy.length_values, hm.length_values, hd.length_values,
      List.drop_append, hlong, number_values hy.2, number_values hm.2, number_values hd.2]
  | @year y hy =>
    rw [(IsLaid.last hy.isDigits).ofText?_eq]
    simp [ofPieces?, hy.length_values, number_values hy.2]
  | @month y m hy hm =>
    have hlaid := (IsLaid.last hm.isDigits).number hy.isDigits (c := '-') (by decide)
    rw [hlaid.ofText?_eq]
    simp [ofPieces?, hy.length_values, hm.isShort_values, number_values hy.2,
      number_values hm.isDigits.2]
  | @compactMonth y m hy hm =>
    rw [(IsLaid.last (hy.isDigits.append hm.isDigits)).ofText?_eq]
    simp [ofPieces?, values_append, hy.length_values, hm.length_values, number_values hy.2,
      number_values hm.2]
  | @week y dash n c hy hdash hc hn =>
    have hsign : IsSign c ∧ c ≠ '-' := by rcases hc with rfl | rfl <;> decide
    rw [ofText?_letter hy.isDigits hdash hsign.1 hsign.2 hn.isDigits]
    simp [ofLetter?, hy.length_values, (toLower_eq_w_iff c).mpr hc, hn.isShort_values,
      number_values hy.2, number_values hn.isDigits.2]
  | @quarter y dash n c hy hdash hc hn =>
    have hsign : IsSign c ∧ c ≠ '-' := by rcases hc with rfl | rfl <;> decide
    rw [ofText?_letter hy.isDigits hdash hsign.1 hsign.2 hn.isDigits]
    simp [ofLetter?, hy.length_values, (toLower_eq_q_iff c).mpr hc, hn.length_values,
      number_values hy.2, number_values hn.2]
  | @numeric a b y c ha hb hy hc =>
    have hsign : IsSign c := by rcases hc with rfl | rfl | rfl <;> decide
    have hseparator : isSeparator c := by rcases hc with rfl | rfl | rfl <;> decide
    have hnot : a.values.length ≠ 4 := by
      rcases ha with ha | ha
      · rw [ha.length_values]
        decide
      · rw [ha.length_values]
        decide
    have hlaid := ((IsLaid.last hy.isDigits).number hb.isDigits hsign).number ha.isDigits hsign
    rw [hlaid.ofText?_eq]
    simp [ofPieces?, ofThree?, hnot, hseparator, ha.isShort_values, hb.isShort_values,
      hy.length_values, number_values ha.isDigits.2, number_values hb.isDigits.2,
      number_values hy.2]

end DateShape.Writes

/-! ## From a form to its shape -/

namespace DateForm

open DateShape Text

/-- A single run of digits is a year, a month or a day, by its length. -/
theorem exists_writes_of_run {s : Text} {form : DateForm} (hs : s.IsDigits)
    (h : ofPieces? [.digits s.values] = some form) : ∃ shape, Writes shape form s := by
  rw [ofPieces?] at h
  split at h
  · rename_i hlength
    have hy := hs.isNumber (beq_iff_eq.mp hlength)
    cases h
    rw [number_values hs.2]
    exact ⟨.year, .year hy⟩
  · split at h
    · rename_i hlength
      have hnumber : IsNumber (4 + 2) s := hs.isNumber (beq_iff_eq.mp hlength)
      obtain ⟨hy, hyear⟩ := hnumber.take
      obtain ⟨hm, hmonth⟩ := hnumber.drop
      have hwrites := Writes.compactMonth hy hm
      rw [List.take_append_drop, ← number_values hy.2, ← number_values hm.2, hyear, hmonth]
        at hwrites
      cases h
      exact ⟨_, hwrites⟩
    · split at h
      · rename_i hlength
        have hnumber : IsNumber (4 + (2 + 2)) s := hs.isNumber (beq_iff_eq.mp hlength)
        obtain ⟨hy, hyear⟩ := hnumber.take
        obtain ⟨hrest, hvalues⟩ := hnumber.drop
        obtain ⟨hm, hmonth⟩ := hrest.take
        obtain ⟨hd, hday⟩ := hrest.drop
        have hwrites := Writes.compactDay hy hm hd
        rw [List.take_append_drop, List.take_append_drop, ← number_values hy.2,
          ← number_values hm.2, ← number_values hd.2, hyear, hmonth, hday, hvalues,
          List.drop_drop] at hwrites
        cases h
        exact ⟨_, hwrites⟩
      · cases h

theorem exists_writes_of_letter {y dash n : Text} {c : Char} {form : DateForm} (hy : y.IsDigits)
    (hdash : dash = [] ∨ dash = ['-']) (hn : n.IsDigits)
    (h : ofLetter? y.values c n.values = some form) :
    ∃ shape, Writes shape form (y ++ (dash ++ c :: n)) := by
  rw [ofLetter?] at h
  split at h
  · cases h
  · rename_i hlength
    have hyear := hy.isNumber (by simpa using hlength)
    rw [number_values hy.2, number_values hn.2] at h
    split at h
    · rename_i hweek
      rw [Bool.and_eq_true, beq_iff_eq, toLower_eq_w_iff] at hweek
      cases h
      exact ⟨.week, .week hyear hdash hweek.1 (isShort_of_isShort_values hn.2 hweek.2)⟩
    · split at h
      · rename_i hquarter
        rw [Bool.and_eq_true, beq_iff_eq, beq_iff_eq, toLower_eq_q_iff] at hquarter
        cases h
        exact ⟨.quarter, .quarter hyear hdash hquarter.1 (hn.isNumber hquarter.2)⟩
      · cases h

theorem exists_writes_of_three {a b y : Text} {c d : Char} {form : DateForm} (ha : a.IsDigits)
    (hb : b.IsDigits) (hy : y.IsDigits)
    (h : ofThree? a.values c b.values d y.values = some form) :
    ∃ shape, Writes shape form (a ++ c :: (b ++ d :: y)) := by
  rw [ofThree?, number_values ha.2, number_values hb.2, number_values hy.2] at h
  split at h
  · rename_i hday
    simp only [Bool.and_eq_true, beq_iff_eq] at hday
    obtain ⟨⟨⟨⟨rfl, rfl⟩, hlength⟩, hm⟩, hd⟩ := hday
    cases h
    exact ⟨.day, .day (ha.isNumber hlength) (isShort_of_isShort_values hb.2 hm)
      (isShort_of_isShort_values hy.2 hd)⟩
  · split at h
    · rename_i hnumeric
      simp only [Bool.and_eq_true, beq_iff_eq] at hnumeric
      obtain ⟨⟨⟨⟨hseparator, rfl⟩, hfirst⟩, hsecond⟩, hlength⟩ := hnumeric
      have hc : c = '/' ∨ c = '.' ∨ c = '-' := by
        simpa [isSeparator, or_assoc] using hseparator
      cases h
      exact ⟨.numeric, .numeric (isShort_of_isShort_values ha.2 hfirst)
        (isShort_of_isShort_values hb.2 hsecond) (hy.isNumber hlength) hc⟩
    · cases h

theorem of_isTimed {y mo d h mi : List Nat} {t : Char} (htimed : isTimed y mo d h mi t) :
    y.length = 4 ∧ mo.length = 2 ∧ d.length = 2 ∧ (t = 'T' ∨ t = 't') ∧ isShort h ∧
      mi.length = 2 := by
  simp only [isTimed, Bool.and_eq_true, beq_iff_eq] at htimed
  obtain ⟨⟨⟨⟨⟨hy, hmo⟩, hd⟩, ht⟩, hh⟩, hmi⟩ := htimed
  exact ⟨hy, hmo, hd, (toLower_eq_t_iff t).mp ht, hh, hmi⟩

theorem exists_writes_of_minute {y mo d h mi : Text} {t : Char} {form : DateForm}
    (hy : y.IsDigits) (hmo : mo.IsDigits) (hd : d.IsDigits) (hh : h.IsDigits) (hmi : mi.IsDigits)
    (hform : (if isTimed y.values mo.values d.values h.values mi.values t then
      some (.minute (number y.values) (number mo.values) (number d.values) (number h.values)
        (number mi.values)) else none) = some form) :
    ∃ shape, Writes shape form (y ++ '-' :: (mo ++ '-' :: (d ++ t :: (h ++ ':' :: mi)))) := by
  split at hform
  · rename_i htimed
    obtain ⟨hylen, hmolen, hdlen, ht, hshort, hmilen⟩ := of_isTimed htimed
    rw [number_values hy.2, number_values hmo.2, number_values hd.2, number_values hh.2,
      number_values hmi.2] at hform
    cases hform
    exact ⟨.clock, .minute (hy.isNumber hylen) (hmo.isNumber hmolen) (hd.isNumber hdlen) ht
      (isShort_of_isShort_values hh.2 hshort) (hmi.isNumber hmilen)⟩
  · cases hform

theorem exists_writes_of_second {y mo d h mi s : Text} {t : Char} {form : DateForm}
    (hy : y.IsDigits) (hmo : mo.IsDigits) (hd : d.IsDigits) (hh : h.IsDigits) (hmi : mi.IsDigits)
    (hs : s.IsDigits)
    (hform : (if isTimed y.values mo.values d.values h.values mi.values t && s.values.length == 2
      then some (.second (number y.values) (number mo.values) (number d.values) (number h.values)
        (number mi.values) (number s.values)) else none) = some form) :
    ∃ shape, Writes shape form
      (y ++ '-' :: (mo ++ '-' :: (d ++ t :: (h ++ ':' :: (mi ++ ':' :: s))))) := by
  split at hform
  · rename_i hboth
    rw [Bool.and_eq_true, beq_iff_eq] at hboth
    obtain ⟨hylen, hmolen, hdlen, ht, hshort, hmilen⟩ := of_isTimed hboth.1
    rw [number_values hy.2, number_values hmo.2, number_values hd.2, number_values hh.2,
      number_values hmi.2, number_values hs.2] at hform
    cases hform
    exact ⟨.clock, .second (hy.isNumber hylen) (hmo.isNumber hmolen) (hd.isNumber hdlen) ht
      (isShort_of_isShort_values hh.2 hshort) (hmi.isNumber hmilen) (hs.isNumber hboth.2)⟩
  · cases hform

/-- A text whose pieces make up a form has one of the shapes. -/
theorem exists_writes_of_ofPieces? {s : Text} {form : DateForm}
    (h : ofPieces? (pieces s) = some form) : ∃ shape, Writes shape form s := by
  generalize hps : pieces s = ps at h
  rw [ofPieces?.eq_def] at h
  split at h
  · obtain ⟨hs, rfl⟩ := isDigits_of_pieces hps
    exact exists_writes_of_run hs h
  · obtain ⟨y, rest, rfl, hy, rfl, hrest⟩ := exists_of_pieces_number hps
    obtain ⟨hm, rfl⟩ := isDigits_of_pieces hrest
    split at h
    · rename_i hc
      split at h
      · rename_i hmonth
        rw [Bool.and_eq_true, beq_iff_eq] at hmonth
        rw [number_values hy.2, number_values hm.2] at h
        cases h
        rw [beq_iff_eq.mp hc]
        exact ⟨.month, .month (hy.isNumber hmonth.1) (isShort_of_isShort_values hm.2 hmonth.2)⟩
      · cases h
    · exact exists_writes_of_letter hy (Or.inl rfl) hm h
  · obtain ⟨y, rest, rfl, hy, rfl, hrest⟩ := exists_of_pieces_number hps
    obtain ⟨v, rfl, hv⟩ := exists_of_pieces_sign hrest
    obtain ⟨hn, rfl⟩ := isDigits_of_pieces hv
    exact exists_writes_of_letter hy (Or.inr rfl) hn h
  · obtain ⟨a, rest, rfl, ha, rfl, hrest⟩ := exists_of_pieces_number hps
    obtain ⟨b, last, rfl, hb, rfl, hlast⟩ := exists_of_pieces_number hrest
    obtain ⟨hy, rfl⟩ := isDigits_of_pieces hlast
    exact exists_writes_of_three ha hb hy h
  · obtain ⟨y, s₁, rfl, hy, rfl, h₁⟩ := exists_of_pieces_number hps
    obtain ⟨mo, s₂, rfl, hmo, rfl, h₂⟩ := exists_of_pieces_number h₁
    obtain ⟨d, s₃, rfl, hd, rfl, h₃⟩ := exists_of_pieces_number h₂
    obtain ⟨hour, mi, rfl, hh, rfl, h₄⟩ := exists_of_pieces_number h₃
    obtain ⟨hmi, rfl⟩ := isDigits_of_pieces h₄
    exact exists_writes_of_minute hy hmo hd hh hmi h
  · obtain ⟨y, s₁, rfl, hy, rfl, h₁⟩ := exists_of_pieces_number hps
    obtain ⟨mo, s₂, rfl, hmo, rfl, h₂⟩ := exists_of_pieces_number h₁
    obtain ⟨d, s₃, rfl, hd, rfl, h₃⟩ := exists_of_pieces_number h₂
    obtain ⟨hour, s₄, rfl, hh, rfl, h₄⟩ := exists_of_pieces_number h₃
    obtain ⟨mi, s, rfl, hmi, rfl, h₅⟩ := exists_of_pieces_number h₄
    obtain ⟨hs, rfl⟩ := isDigits_of_pieces h₅
    exact exists_writes_of_second hy hmo hd hh hmi hs h
  · cases h

/-- A text is read as a form exactly if it has a shape in which it writes that form, blanks
around it apart. -/
theorem ofText?_eq_some_iff (s : Text) (form : DateForm) :
    ofText? s = some form ↔ ∃ shape, Writes shape form (trim s) := by
  have htrim : ofText? (trim s) = ofText? s := by simp only [ofText?, trim_trim]
  constructor
  · intro h
    by_cases hword : ∃ w, form = .relative w
    · obtain ⟨w, rfl⟩ := hword
      exact ⟨.word, .word (isCasing_of_ofText? h)⟩
    · simp only [ofText?] at h
      split at h
      · rename_i w hw
        exact absurd ⟨w, (Option.some.inj h).symm⟩ hword
      · exact exists_writes_of_ofPieces? h
  · rintro ⟨shape, hwrites⟩
    rw [← htrim]
    exact hwrites.ofText?_eq

end DateForm

/-! ## One shape for each text -/

namespace DateShape

open Text

/-- The shape that a form is written in, with digits only or with a sign. -/
def ofForm (allDigits : Bool) : DateForm → DateShape
  | .relative _ => .word
  | .second .. => .clock
  | .minute .. => .clock
  | .day .. => if allDigits then .compactDay else .day
  | .week .. => .week
  | .month .. => if allDigits then .compactMonth else .month
  | .quarter .. => .quarter
  | .year _ => .year
  | .numeric .. => .numeric

theorem Writes.eq_ofForm {shape : DateShape} {form : DateForm} {s : Text}
    (h : Writes shape form s) : shape = ofForm (s.all isDigit) form := by
  have hdash : isDigit '-' = false := by decide
  cases h with
  | day hy hm hd => simp [ofForm, hdash]
  | month hy hm => simp [ofForm, hdash]
  | @compactDay y m d hy hm hd =>
    have hall : ∀ c ∈ y ++ (m ++ d), isDigit c :=
      (hy.isDigits.append (hm.isDigits.append hd.isDigits)).2
    rw [List.all_eq_true.mpr hall]
    rfl
  | @compactMonth y m hy hm =>
    have hall : ∀ c ∈ y ++ m, isDigit c := (hy.isDigits.append hm.isDigits).2
    rw [List.all_eq_true.mpr hall]
    rfl
  | _ => rfl

/-- A text has one shape at most, and writes one form in it. -/
theorem Writes.unique {shape shape' : DateShape} {form form' : DateForm} {s : Text}
    (h : Writes shape form s) (h' : Writes shape' form' s) : shape = shape' ∧ form = form' := by
  have hform : form = form' := by
    rw [← Option.some_inj, ← h.ofText?_eq, h'.ofText?_eq]
  constructor
  · rw [h.eq_ofForm, h'.eq_ofForm, hform]
  · exact hform

/-- Readers of the single shapes, tried one after the other in any order, read what is read
at once. -/
theorem findSome?_eq_ofText? {s : Text} {read : DateShape → Option DateForm}
    (hread : ∀ shape form, read shape = some form ↔ Writes shape form (trim s))
    {shapes : List DateShape} (hall : ∀ shape, shape ∈ shapes) :
    shapes.findSome? read = DateForm.ofText? s := by
  apply Option.ext
  intro form
  rw [DateForm.ofText?_eq_some_iff]
  constructor
  · intro h
    obtain ⟨shape, -, hshape⟩ := List.exists_of_findSome?_eq_some h
    exact ⟨shape, (hread shape form).mp hshape⟩
  · rintro ⟨shape, hwrites⟩
    have hsome := List.findSome?_isSome_iff.mpr
      ⟨shape, hall shape, Option.isSome_iff_exists.mpr ⟨form, (hread shape form).mpr hwrites⟩⟩
    obtain ⟨found, hfound⟩ := Option.isSome_iff_exists.mp hsome
    obtain ⟨shape', -, hshape'⟩ := List.exists_of_findSome?_eq_some hfound
    obtain ⟨-, hform⟩ := ((hread shape' found).mp hshape').unique hwrites
    rw [hfound, hform]

end DateShape

end NoteQuery
