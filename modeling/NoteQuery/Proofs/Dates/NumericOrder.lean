import Mathlib.Data.List.Chain
import NoteQuery.Proofs.Dates.Ranges
import NoteQuery.Proofs.Dates.Shapes

/-!
# The order of day and month

The two orders of dates in numbers are mirror images: a date under one order is the date with
its first two numbers exchanged under the other. Where the numbers settle which of them is the
day, the orders agree. Both carry over to ranges with such dates on their sides.
-/
namespace NoteQuery

/-- A date of two short numbers and a year, with the same separator twice. -/
structure NumericDate where
  first : Text
  second : Text
  year : Text
  separator : Char
  first_isShort : first.IsShort
  second_isShort : second.IsShort
  year_isNumber : year.IsNumber 4
  isSeparator : separator = '/' ∨ separator = '.' ∨ separator = '-'

namespace NumericDate

def text (d : NumericDate) : Text :=
  d.first ++ d.separator :: (d.second ++ d.separator :: d.year)

def form (d : NumericDate) : DateForm :=
  .numeric d.first.digitsValue d.second.digitsValue d.year.digitsValue

def flip (d : NumericDate) : NumericDate where
  first := d.second
  second := d.first
  year := d.year
  separator := d.separator
  first_isShort := d.second_isShort
  second_isShort := d.first_isShort
  year_isNumber := d.year_isNumber
  isSeparator := d.isSeparator

/-- The numbers tell the day and the month apart, or need not: one is above twelve, or they are
the same. -/
def IsSettled (d : NumericDate) : Prop :=
  12 < d.first.digitsValue ∨ 12 < d.second.digitsValue ∨
    d.first.digitsValue = d.second.digitsValue

instance (d : NumericDate) : Decidable d.IsSettled := inferInstanceAs (Decidable (_ ∨ _))

theorem ofText?_text (d : NumericDate) : DateForm.ofText? d.text = some d.form :=
  (DateShape.Writes.numeric d.first_isShort d.second_isShort d.year_isNumber
    d.isSeparator).ofText?_eq

end NumericDate

/-! ## Texts with a digit on one side of every place -/

namespace Text

def HasDigits (s : Text) : Prop := s.IsChain fun c d => isDigit c ∨ isDigit d

theorem HasDigits.number {u rest : Text} (hu : ∀ c ∈ u, isDigit c) (h : HasDigits rest) :
    HasDigits (u ++ rest) := by
  induction u with
  | nil => exact h
  | cons c u ih =>
    rw [List.forall_mem_cons] at hu
    rw [HasDigits, List.cons_append, List.isChain_cons]
    exact ⟨fun d _ => Or.inl hu.1, ih hu.2⟩

/-- A sign between numbers. -/
theorem HasDigits.sign {u rest : Text} (c : Char) (hu : u.IsDigits)
    (h : HasDigits (u ++ rest)) : HasDigits (c :: (u ++ rest)) := by
  obtain ⟨e, v, rfl⟩ := List.exists_cons_of_ne_nil hu.1
  rw [HasDigits, List.isChain_cons]
  constructor
  · intro d hd
    cases hd
    exact Or.inr (hu.2 e List.mem_cons_self)
  · exact h

theorem HasDigits.no_dots {s : Text} (h : HasDigits s) : ¬ DateExpr.dots <:+: s := by
  intro hdots
  have hchain := List.IsChain.infix h hdots
  rw [DateExpr.dots, List.isChain_pair] at hchain
  exact absurd hchain (by decide)

end Text

theorem NumericDate.hasDigits_text (d : NumericDate) : d.text.HasDigits := by
  have hyear : Text.HasDigits (d.year ++ []) :=
    Text.HasDigits.number d.year_isNumber.2 List.isChain_nil
  have hlast := Text.HasDigits.number d.second_isShort.isDigits.2
    (hyear.sign d.separator d.year_isNumber.isDigits)
  have hall := Text.HasDigits.number d.first_isShort.isDigits.2
    (hlast.sign d.separator d.second_isShort.isDigits)
  rw [List.append_nil] at hall
  exact hall

/-! ## Spans -/

namespace DateForm

/-- The two orders take exchanged numbers for the same day and month, unless neither of the
numbers can be a month. -/
theorem dayAndMonth_flip {a b : Nat} (h : a ≤ 12 ∨ b ≤ 12) :
    dayAndMonth .monthFirst a b = dayAndMonth .dayFirst b a := by
  rw [dayAndMonth, dayAndMonth]
  by_cases ha : 12 < a
  · have hb : ¬ 12 < b := by omega
    rw [if_pos ha, if_neg hb, if_pos ha]
  · by_cases hb : 12 < b
    · rw [if_neg ha, if_pos hb, if_pos hb]
    · rw [if_neg ha, if_neg hb, if_neg hb, if_neg ha, DayOrder.apply, DayOrder.apply]

theorem dayAndMonth_of_settled {a b : Nat} (h : 12 < a ∨ 12 < b ∨ a = b)
    (order order' : DayOrder) : dayAndMonth order a b = dayAndMonth order' a b := by
  rw [dayAndMonth, dayAndMonth]
  by_cases ha : 12 < a
  · rw [if_pos ha, if_pos ha]
  · by_cases hb : 12 < b
    · rw [if_neg ha, if_pos hb, if_neg ha, if_pos hb]
    · have hab : a = b := by omega
      rw [if_neg ha, if_neg hb, if_neg ha, if_neg hb, hab]
      cases order <;> cases order' <;> rfl

theorem ofDate?_eq_none_of_month {y m : Nat} (h : 12 < m) (d : Nat) : Day.ofDate? y m d = none := by
  rw [Day.ofDate?, if_neg]
  rintro ⟨-, -, -, hm, -⟩
  omega

variable (today : Day) (a b y : Nat)

theorem span?_flip :
    span? .monthFirst today (.numeric a b y) = span? .dayFirst today (.numeric b a y) := by
  rw [span?, span?]
  by_cases h : a ≤ 12 ∨ b ≤ 12
  · rw [dayAndMonth_flip h]
  · -- With both numbers above twelve the first is the day on either side, but no month is left.
    have ha : 12 < a := by omega
    have hb : 12 < b := by omega
    simp only [dayAndMonth, if_pos ha, if_pos hb, ofDate?_eq_none_of_month ha,
      ofDate?_eq_none_of_month hb]

theorem span?_of_settled (h : 12 < a ∨ 12 < b ∨ a = b) (order order' : DayOrder) :
    span? order today (.numeric a b y) = span? order' today (.numeric a b y) := by
  rw [span?, span?, dayAndMonth_of_settled h order order']

end DateForm

/-! ## Sides of a range -/

/-- What stands on one side of two dots: nothing, a date in numbers, or a text that is not read
as one. -/
inductive DateSide where
  | omitted
  | numeric (d : NumericDate)
  | other (s : Text) (isSide : DateExpr.IsSide s)
    (not_numeric : ∀ a b y, DateForm.ofText? s ≠ some (.numeric a b y))

namespace DateSide

def text : DateSide → Text
  | omitted => []
  | numeric d => d.text
  | other s _ _ => s

def flip : DateSide → DateSide
  | omitted => omitted
  | numeric d => numeric d.flip
  | other s isSide not_numeric => other s isSide not_numeric

def IsSettled : DateSide → Prop
  | omitted => True
  | numeric d => d.IsSettled
  | other _ _ _ => True

end DateSide

namespace DateExpr

theorem isSide_text (d : NumericDate) : IsSide d.text := by
  have hsign : DateForm.IsSign d.separator := by
    rcases d.isSeparator with h | h | h <;> rw [h] <;> decide
  have hlaid := ((DateForm.IsLaid.last d.year_isNumber.isDigits).number
    d.second_isShort.isDigits hsign).number d.first_isShort.isDigits hsign
  constructor
  · rw [NumericDate.text, Text.trim_eq_self hlaid.not_isBlank]
    exact List.append_ne_nil_of_left_ne_nil d.first_isShort.isDigits.1 _
  · exact d.hasDigits_text.no_dots

section

variable (now : Instant)

theorem side?_text (order : DayOrder) (d : NumericDate) :
    side? order now d.text = DateForm.span? order now.day d.form := by
  rw [side?, d.ofText?_text, Option.bind_some]

theorem side?_flip (d : NumericDate) :
    side? .monthFirst now d.text = side? .dayFirst now d.flip.text := by
  rw [side?_text, side?_text]
  exact DateForm.span?_flip now.day _ _ _

theorem side?_of_settled {d : NumericDate} (h : d.IsSettled) :
    side? .monthFirst now d.text = side? .dayFirst now d.text := by
  rw [side?_text, side?_text]
  exact DateForm.span?_of_settled now.day _ _ _ h .monthFirst .dayFirst

/-- The order matters for dates in numbers only. -/
theorem side?_of_not_numeric {s : Text}
    (h : ∀ a b y, DateForm.ofText? s ≠ some (.numeric a b y)) :
    side? .monthFirst now s = side? .dayFirst now s := by
  rw [side?, side?]
  cases hform : DateForm.ofText? s with
  | none => rfl
  | some form =>
    cases form with
    | numeric a b y => exact absurd hform (h a b y)
    | _ => rfl

/-- Two texts that stand for the same on one side of two dots, the first with the month first
and the second with the day first. -/
inductive SameSide : Text → Text → Prop where
  | omitted : SameSide [] []
  | side {u v : Text} (hu : IsSide u) (hv : IsSide v)
      (h : side? .monthFirst now u = side? .dayFirst now v) : SameSide u v

variable {now}

theorem SameSide.resolve?_eq {u u' v v' : Text} (hu : SameSide now u u')
    (hv : SameSide now v v') :
    resolve? .monthFirst now (u ++ dots ++ v) = resolve? .dayFirst now (u' ++ dots ++ v') := by
  cases hu with
  | omitted =>
    cases hv with
    | omitted => rfl
    | side hv hv' h => rw [List.nil_append, resolve?_until hv, resolve?_until hv', h]
  | side hu hu' h =>
    cases hv with
    | omitted =>
      rw [List.append_nil, List.append_nil, resolve?_since hu, resolve?_since hu', h]
    | side hv hv' h' => rw [resolve?_between hu hv, resolve?_between hu' hv', h, h']

theorem sameSide_flip (s : DateSide) : SameSide now s.text s.flip.text := by
  cases s with
  | omitted => exact .omitted
  | numeric d => exact .side (isSide_text d) (isSide_text d.flip) (side?_flip now d)
  | other s hs hother => exact .side hs hs (side?_of_not_numeric now hother)

theorem sameSide_of_settled {s : DateSide} (h : s.IsSettled) : SameSide now s.text s.text := by
  cases s with
  | omitted => exact .omitted
  | numeric d => exact .side (isSide_text d) (isSide_text d) (side?_of_settled now h)
  | other s hs hother => exact .side hs hs (side?_of_not_numeric now hother)

end

/-- A date in numbers stands with the month first for what the date with exchanged numbers
stands for with the day first, and for the same under both orders if its numbers settle which
of them is the day. The same holds of ranges that have such dates on their sides, all of them
exchanged together. -/
theorem resolve_flip (now : Instant) :
    (∀ d : NumericDate,
      resolve .monthFirst ⟨now, none⟩ d.text = resolve .dayFirst ⟨now, none⟩ d.flip.text ∧
      (d.IsSettled →
        resolve .monthFirst ⟨now, none⟩ d.text = resolve .dayFirst ⟨now, none⟩ d.text)) ∧
    ∀ left right : DateSide,
      resolve .monthFirst ⟨now, none⟩ (left.text ++ dots ++ right.text) =
        resolve .dayFirst ⟨now, none⟩ (left.flip.text ++ dots ++ right.flip.text) ∧
      (left.IsSettled → right.IsSettled →
        resolve .monthFirst ⟨now, none⟩ (left.text ++ dots ++ right.text) =
          resolve .dayFirst ⟨now, none⟩ (left.text ++ dots ++ right.text)) := by
  have hlocal : ∀ order s, resolve order ⟨now, none⟩ s = .ok (resolve? order now s) :=
    fun _ _ => rfl
  constructor
  · intro d
    have hd := isSide_text d
    constructor
    · rw [hlocal, hlocal, resolve?_side hd, resolve?_side (isSide_text d.flip), side?_flip]
    · intro hsettled
      rw [hlocal, hlocal, resolve?_side hd, resolve?_side hd, side?_of_settled now hsettled]
  · intro left right
    constructor
    · rw [hlocal, hlocal, (sameSide_flip left).resolve?_eq (sameSide_flip right)]
    · intro hleft hright
      rw [hlocal, hlocal,
        (sameSide_of_settled hleft).resolve?_eq (sameSide_of_settled hright)]

/-- A date whose order is open and one with a thirteenth day, on the sides of a range. -/
theorem resolve_flip_spring :
    ∃ d e : NumericDate, d.text = "03/04/2026".toList ∧ e.text = "13.2.2026".toList ∧
      e.IsSettled ∧ ¬ d.IsSettled ∧
      resolve .monthFirst ⟨.first, none⟩ d.text =
        resolve .dayFirst ⟨.first, none⟩ "04/03/2026".toList ∧
      resolve .monthFirst ⟨.first, none⟩ e.text = resolve .dayFirst ⟨.first, none⟩ e.text ∧
      resolve .monthFirst ⟨.first, none⟩ (d.text ++ dots ++ e.text) =
        resolve .dayFirst ⟨.first, none⟩ "04/03/2026..2.13.2026".toList ∧
      resolve .monthFirst ⟨.first, none⟩ (e.text ++ dots) =
        resolve .dayFirst ⟨.first, none⟩ (e.text ++ dots) := by
  obtain ⟨d, hd⟩ : ∃ d : NumericDate, d = ⟨"03".toList, "04".toList, "2026".toList, '/',
    by decide, by decide, by decide, by decide⟩ := ⟨_, rfl⟩
  obtain ⟨e, he⟩ : ∃ e : NumericDate, e = ⟨"13".toList, "2".toList, "2026".toList, '.',
    by decide, by decide, by decide, by decide⟩ := ⟨_, rfl⟩
  have hflip : d.flip.text = "04/03/2026".toList := by
    rw [hd]
    decide
  have hflip' : e.flip.text = "2.13.2026".toList := by
    rw [he]
    decide
  have hsettled : e.IsSettled := by
    rw [he]
    decide
  have hopen : ¬ d.IsSettled := by
    rw [hd]
    decide
  obtain ⟨hsingle, hrange⟩ := resolve_flip .first
  have hfirst := (hsingle d).1
  have hboth := (hrange (.numeric d) (.numeric e)).1
  have hsince := (hrange (.numeric e) .omitted).2 hsettled trivial
  simp only [DateSide.flip, DateSide.text, hflip, hflip', List.append_nil] at hfirst hboth hsince
  refine ⟨d, e, by rw [hd]; decide, by rw [he]; decide, hsettled, hopen, hfirst,
    (hsingle e).2 hsettled, ?_, hsince⟩
  rw [hboth]
  rfl

end DateExpr

end NoteQuery
