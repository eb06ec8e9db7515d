import NoteQuery.Proofs.Dates.Ordered
import NoteQuery.Proofs.Faults.Positions

/-!
# Dates with their faults

The spans of date forms are found here by steps that go wrong where numbers name no date or a
time is outside the calendar, and an expression is read by catching these two faults. A span that
is not there is no such fault: it would not be caught. Every expression is read, and as
`DateExpr.resolve?` reads it.
-/
namespace NoteQuery.Checked

/-! ## Steps -/

/-- What has to be there. -/
def demand {α : Type} (fault : Fault) : Option α → Except Fault α
  | some a => .ok a
  | none => .error fault

def date (year month day : Nat) : Except Fault Day := demand .date (Day.ofDate? year month day)

def time (day : Day) (hour minute second : Nat) : Except Fault Instant :=
  demand .date (Instant.ofDayTime? day hour minute second 0)

def daysBack (d : Day) (n : Nat) : Except Fault Day := demand .calendar (d.sub? n)

/-- The time some microseconds later. A fault is caught at once: there is no such time. -/
def later (t : Instant) (ticks : Nat) : Option Instant :=
  (demand .calendar (t.add? ticks)).toOption

/-- The span up to the next one, or up to the end of the calendar. -/
def spanTo (start : Instant) : Option Instant → Except Fault DateRange
  | none => .ok ⟨start, .last⟩
  | some next => do
    let stop ← demand .calendar (Instant.ofTicks? ((next.ticks : Int) - 1))
    return ⟨start, stop⟩

def daySpan (d : Day) : Except Fault DateRange :=
  spanTo (.ofDay d) (later (.ofDay d) Instant.ticksPerDay)

def weekSpan (monday : Day) : Except Fault DateRange :=
  spanTo (.ofDay monday) (later (.ofDay monday) (7 * Instant.ticksPerDay))

/-- The first of a month, unless its year is behind the last one. -/
def monthStart (year month : Nat) : Except Fault (Option Instant) :=
  if maxYear < year then .ok none
  else do
    let first ← date year month 1
    return some (.ofDay first)

def monthSpan (year month count : Nat) : Except Fault DateRange := do
  let first ← date year month 1
  let (y, m) := DateForm.addMonths year month count
  let next ← monthStart y m
  spanTo (.ofDay first) next

def lastDays (today : Day) (n : Nat) : Except Fault DateRange := do
  let first ← daysBack today n
  let span ← daySpan today
  return ⟨.ofDay first, span.stop⟩

def relativeSpan (today : Day) : RelativeDay → Except Fault DateRange
  | .today => daySpan today
  | .yesterday => daysBack today 1 >>= daySpan
  | .last7Days => lastDays today 6
  | .last30Days => lastDays today 29
  | .thisWeek => daysBack today today.weekday >>= weekSpan
  | .thisMonth => monthSpan today.year today.month 1

def timeSpan (hour minute second ticks : Nat) (day : Day) : Except Fault DateRange := do
  let start ← time day hour minute second
  spanTo start (later start ticks)

/-- The span of a form; quarters other than the four are none. -/
def span (order : DayOrder) (today : Day) : DateForm → Except Fault (Option DateRange)
  | .relative word => (relativeSpan today word).map some
  | .second y mo d h mi s => (date y mo d >>= timeSpan h mi s Instant.ticksPerSecond).map some
  | .minute y mo d h mi => (date y mo d >>= timeSpan h mi 0 (60 * Instant.ticksPerSecond)).map some
  | .day y m d => (date y m d >>= daySpan).map some
  | .week y w => (demand .date (Day.ofWeek? y w 1) >>= weekSpan).map some
  | .month y m => (monthSpan y m 1).map some
  | .quarter y q => if 1 ≤ q ∧ q ≤ 4 then (monthSpan y (3 * (q - 1) + 1) 3).map some else .ok none
  | .year y => (monthSpan y 1 12).map some
  | .numeric a b y =>
    let (d, m) := DateForm.dayAndMonth order a b
    (date y m d >>= daySpan).map some

def side (order : DayOrder) (now : Instant) (s : Text) : Except Fault (Option DateRange) :=
  match DateForm.ofText? s with
  | some form => span order now.day form
  | none => .ok none

/-- The span of a side of a range; one that is empty has none. -/
def sideSpan (order : DayOrder) (now : Instant) (s : Text) : Except Fault (Option DateRange) :=
  if s.isEmpty then .ok none else side order now s

/-- Two spans, exchanged if they are in the wrong order. -/
def inOrder : Option DateRange → Option DateRange → Option DateRange × Option DateRange
  | some a, some b => if b.stop < a.start then (some b, some a) else (some a, some b)
  | a, b => (a, b)

/-- The end of a range. Without a right side there has to be a left one. -/
def stopOf (now : Instant) (left right : Option DateRange) : Except Fault Instant :=
  match right with
  | some b => .ok b.stop
  | none => do
    let a ← demand .missing left
    return max now a.stop

def join (now : Instant) (left right : Option DateRange) : Except Fault (Option DateRange) := do
  let (left, right) := inOrder left right
  let stop ← stopOf now left right
  return some ⟨(left.map (·.start)).getD .first, stop⟩

def between (order : DayOrder) (now : Instant) (left right : Text) :
    Except Fault (Option DateRange) := do
  let a ← sideSpan order now left
  let b ← sideSpan order now right
  if (!left.isEmpty && a.isNone) || (!right.isEmpty && b.isNone) then .ok none
  else join now a b

/-- The range of an expression, before faults are caught. -/
def attempt (order : DayOrder) (now : Instant) (expression : Text) :
    Except Fault (Option DateRange) :=
  let s := Text.trim expression
  if s.isEmpty then .ok none
  else
    match Text.splitFirst? DateExpr.dots s with
    | none => side order now s
    | some (left, right) =>
      if (Text.splitFirst? DateExpr.dots right).isSome || (left.isEmpty && right.isEmpty) then
        .ok none
      else between order now left right

/-- Dates that do not exist and times outside the calendar are no ranges. -/
def caught {α : Type} : Except Fault (Option α) → Except Fault (Option α)
  | .error .date => .ok none
  | .error .calendar => .ok none
  | x => x

def resolve (order : DayOrder) (now : Instant) (expression : Text) :
    Except Fault (Option DateRange) :=
  caught (attempt order now expression)

/-! ## Agreement -/

variable {α β : Type}

/-- A computation gives what an option holds, and otherwise a fault that is caught. -/
inductive Yields : Except Fault α → Option α → Prop
  | value (a : α) : Yields (.ok a) (some a)
  | date : Yields (.error .date) none
  | calendar : Yields (.error .calendar) none

/-- A computation gives an option, or a fault that is caught in place of nothing. -/
inductive Agrees : Except Fault (Option α) → Option α → Prop
  | value (a : Option α) : Agrees (.ok a) a
  | date : Agrees (.error .date) none
  | calendar : Agrees (.error .calendar) none

namespace Yields

theorem demand_date (x : Option α) : Yields (demand .date x) x := by
  cases x with
  | none => exact .date
  | some a => exact .value a

theorem demand_calendar (x : Option α) : Yields (demand .calendar x) x := by
  cases x with
  | none => exact .calendar
  | some a => exact .value a

theorem bind {x : Except Fault α} {y : Option α} {f : α → Except Fault β} {g : α → Option β}
    (h : Yields x y) (hf : ∀ a, y = some a → Yields (f a) (g a)) :
    Yields (x >>= f) (y.bind g) := by
  cases h with
  | value a => exact hf a rfl
  | date => exact .date
  | calendar => exact .calendar

/-- Steps that do not go wrong. -/
theorem map {x : Except Fault α} {y : Option α} {f : α → Except Fault β} {g : α → β}
    (h : Yields x y) (hf : ∀ a, f a = .ok (g a)) : Yields (x >>= f) (y.map g) := by
  cases h with
  | value a =>
    rw [ok_bind, hf]
    exact .value (g a)
  | date => exact .date
  | calendar => exact .calendar

theorem agrees {x : Except Fault α} {y : Option α} (h : Yields x y) : Agrees (x.map some) y := by
  cases h with
  | value a => exact .value (some a)
  | date => exact .date
  | calendar => exact .calendar

end Yields

theorem Agrees.bind {x : Except Fault (Option α)} {y : Option α}
    {f : Option α → Except Fault (Option β)} {g : Option α → Option β} (h : Agrees x y)
    (hf : ∀ a, Agrees (f a) (g a)) (hnone : g none = none) : Agrees (x >>= f) (g y) := by
  cases h with
  | value => exact hf _
  | date =>
    rw [hnone]
    exact .date
  | calendar =>
    rw [hnone]
    exact .calendar

theorem caught_of_agrees {x : Except Fault (Option α)} {y : Option α} (h : Agrees x y) :
    caught x = .ok y := by
  cases h <;> rfl

theorem later_eq (t : Instant) (ticks : Nat) : later t ticks = t.add? ticks := by
  rw [later]
  cases t.add? ticks <;> rfl

/-! ## Spans -/

/-- The microsecond in front of a time that is not the first. -/
theorem spanTo_some (start : Instant) {next : Instant} (h : 0 < next.ticks) :
    spanTo start (some next) = .ok ⟨start, next.pred⟩ := by
  have hpred : Instant.ofTicks? ((next.ticks : Int) - 1) = some next.pred := by
    have hticks : (next.ticks : Int) - 1 = (next.pred.ticks : Nat) := by
      rw [Instant.pred_ticks]
      omega
    rw [hticks]
    exact dif_pos next.pred.inCalendar
  rw [spanTo, hpred]
  rfl

theorem spanTo_later (start : Instant) {ticks : Nat} (h : 0 < ticks) :
    spanTo start (later start ticks) = .ok (DateForm.spanFrom start ticks) := by
  rw [later_eq, DateForm.spanFrom]
  cases hnext : start.add? ticks with
  | none => rfl
  | some next =>
    refine spanTo_some start ?_
    rw [Instant.add?_eq] at hnext
    split at hnext
    · cases hnext
      exact Nat.add_pos_right _ h
    · cases hnext

theorem daySpan_eq (d : Day) : daySpan d = .ok (DateForm.daySpan d) := by
  have hday : 0 < Instant.ticksPerDay := Nat.zero_lt_succ _
  exact spanTo_later (.ofDay d) hday

theorem weekSpan_eq (monday : Day) : weekSpan monday = .ok (DateForm.weekSpan monday) := by
  have hweek : 0 < 7 * Instant.ticksPerDay := Nat.zero_lt_succ _
  exact spanTo_later (.ofDay monday) hweek

theorem isDate_of_ofDate? {y m d : Nat} {day : Day} (h : Day.ofDate? y m d = some day) :
    Day.IsDate y m d := by
  by_contra hdate
  rw [Day.ofDate?, if_neg hdate] at h
  cases h

/-- Some months behind the first of a month there is the first of another one, and it is not the
first day, unless the calendar has ended. -/
theorem ofDate?_addMonths {y m n y' m' : Nat} {first : Day}
    (hfirst : Day.ofDate? y m 1 = some first) (hn : 1 ≤ n)
    (hadd : DateForm.addMonths y m n = (y', m')) (hend : y' ≤ maxYear) :
    ∃ next, Day.ofDate? y' m' 1 = some next ∧ 0 < next.index := by
  obtain ⟨hy, -, -, -, -, -⟩ := isDate_of_ofDate? hfirst
  rw [DateForm.addMonths, Prod.mk.injEq] at hadd
  obtain ⟨next, hnext, hindex⟩ := Day.ofDate?_first (y := y') (m := m') (by omega) hend (by omega)
    (by omega)
  have hsucc : Day.monthStart 12 < Day.monthStart 13 := Day.monthStart_lt_succ (by omega)
  have hmono : Day.monthStart 13 ≤ Day.monthStart (12 * y' + (m' - 1)) :=
    Day.monthStart_mono (by omega) (by omega)
  exact ⟨next, hnext, by omega⟩

theorem monthSpan_yields (y m : Nat) {n : Nat} (hn : 1 ≤ n) :
    Yields (monthSpan y m n) (DateForm.monthSpan? y m n) := by
  rw [monthSpan, DateForm.monthSpan?]
  refine (Yields.demand_date (Day.ofDate? y m 1)).bind fun first hfirst => ?_
  cases hadd : DateForm.addMonths y m n with
  | mk y' m' =>
    by_cases hend : maxYear < y'
    · have hstart : monthStart y' m' = .ok none := if_pos hend
      simp only [hstart]
      rw [if_pos hend]
      exact .value _
    · obtain ⟨next, hnext, hpos⟩ := ofDate?_addMonths hfirst hn hadd (by omega)
      have hstart : monthStart y' m' = .ok (some (.ofDay next)) := by
        rw [monthStart, if_neg hend, date, hnext]
        rfl
      have hticks : 0 < (Instant.ofDay next).ticks := by
        rw [Instant.ofDay_ticks]
        omega
      simp only [hstart]
      rw [if_neg hend, hnext, ok_bind, spanTo_some _ hticks]
      exact .value _

theorem lastDays_yields (today : Day) (n : Nat) :
    Yields (lastDays today n)
      ((today.sub? n).map fun d => ⟨.ofDay d, (DateForm.daySpan today).stop⟩) := by
  refine (Yields.demand_calendar (today.sub? n)).map fun d => ?_
  rw [daySpan_eq]
  rfl

theorem relativeSpan_yields (today : Day) (word : RelativeDay) :
    Yields (relativeSpan today word) (DateForm.relativeSpan? today word) := by
  cases word with
  | today =>
    rw [relativeSpan, daySpan_eq]
    exact .value _
  | yesterday => exact (Yields.demand_calendar _).map daySpan_eq
  | last7Days => exact lastDays_yields today 6
  | last30Days => exact lastDays_yields today 29
  | thisWeek => exact (Yields.demand_calendar _).map weekSpan_eq
  | thisMonth => exact monthSpan_yields _ _ (Nat.le_refl 1)

theorem timeSpan_yields (h mi s : Nat) {ticks : Nat} (hticks : 0 < ticks) (day : Day) :
    Yields (timeSpan h mi s ticks day)
      ((Instant.ofDayTime? day h mi s 0).bind fun start =>
        some (DateForm.spanFrom start ticks)) := by
  refine (Yields.demand_date _).bind fun start _ => ?_
  rw [spanTo_later start hticks]
  exact .value _

theorem span_agrees (order : DayOrder) (today : Day) (form : DateForm) :
    Agrees (span order today form) (DateForm.span? order today form) := by
  cases form with
  | relative word => exact (relativeSpan_yields today word).agrees
  | second y mo d h mi s =>
    have hticks : 0 < Instant.ticksPerSecond := Nat.zero_lt_succ _
    exact ((Yields.demand_date _).bind fun day _ => timeSpan_yields h mi s hticks day).agrees
  | minute y mo d h mi =>
    have hticks : 0 < 60 * Instant.ticksPerSecond := Nat.zero_lt_succ _
    exact ((Yields.demand_date _).bind fun day _ => timeSpan_yields h mi 0 hticks day).agrees
  | day y m d => exact ((Yields.demand_date _).map daySpan_eq).agrees
  | week y w => exact ((Yields.demand_date _).map weekSpan_eq).agrees
  | month y m => exact (monthSpan_yields y m (Nat.le_refl 1)).agrees
  | quarter y q =>
    rw [span, DateForm.span?]
    split
    · exact (monthSpan_yields _ _ (by decide)).agrees
    · exact .value none
  | year y => exact (monthSpan_yields y 1 (by decide)).agrees
  | numeric a b y => exact ((Yields.demand_date _).map daySpan_eq).agrees

/-! ## Expressions -/

theorem side_agrees (order : DayOrder) (now : Instant) (s : Text) :
    Agrees (side order now s) (DateExpr.side? order now s) := by
  rw [side, DateExpr.side?]
  cases DateForm.ofText? s with
  | none => exact .value none
  | some form => exact span_agrees order now.day form

theorem join_both (now : Instant) (a b : DateRange) :
    join now (some a) (some b) = .ok (some (DateExpr.between a b)) := by
  rw [join, inOrder, DateExpr.between]
  by_cases h : b.stop < a.start
  · rw [if_pos h, if_pos h]
    rfl
  · rw [if_neg h, if_neg h]
    rfl

theorem between_left (order : DayOrder) (now : Instant) {left : Text}
    (hleft : left.isEmpty = false) :
    Agrees (between order now left [])
      ((DateExpr.side? order now left).map fun a => ⟨a.start, max now a.stop⟩) := by
  have hspan : sideSpan order now left = side order now left :=
    if_neg (Bool.eq_false_iff.mp hleft)
  rw [between, hspan, hleft]
  refine (side_agrees order now left).bind (fun a => ?_) rfl
  cases a with
  | none => exact .value none
  | some a => exact .value (some _)

theorem between_right (order : DayOrder) (now : Instant) {right : Text}
    (hright : right.isEmpty = false) :
    Agrees (between order now [] right)
      ((DateExpr.side? order now right).map fun b => ⟨.first, b.stop⟩) := by
  have hspan : sideSpan order now right = side order now right :=
    if_neg (Bool.eq_false_iff.mp hright)
  have hempty : sideSpan order now [] = .ok none := rfl
  rw [between, hspan, hright, hempty, ok_bind]
  refine (side_agrees order now right).bind (fun b => ?_) rfl
  cases b with
  | none => exact .value none
  | some b => exact .value (some _)

theorem between_both (order : DayOrder) (now : Instant) {left right : Text}
    (hleft : left.isEmpty = false) (hright : right.isEmpty = false) :
    Agrees (between order now left right)
      ((DateExpr.side? order now left).bind fun a =>
        (DateExpr.side? order now right).bind fun b => some (DateExpr.between a b)) := by
  have hleftSpan : sideSpan order now left = side order now left :=
    if_neg (Bool.eq_false_iff.mp hleft)
  have hrightSpan : sideSpan order now right = side order now right :=
    if_neg (Bool.eq_false_iff.mp hright)
  rw [between, hleftSpan, hrightSpan, hleft, hright]
  refine (side_agrees order now left).bind (g := fun y => y.bind fun a =>
    (DateExpr.side? order now right).bind fun b => some (DateExpr.between a b)) (fun a => ?_) rfl
  cases a with
  | none =>
    -- the right side is read all the same, and whatever comes of it counts for nothing
    exact (side_agrees order now right).bind (g := fun _ => none) (fun b => .value none) rfl
  | some a =>
    refine (side_agrees order now right).bind
      (g := fun y => y.bind fun b => some (DateExpr.between a b)) (fun b => ?_) rfl
    cases b with
    | none => exact .value none
    | some b =>
      have hjoin := join_both now a b
      simp only [Bool.not_false, Option.isNone_some, Bool.and_false, Bool.or_false]
      rw [if_neg Bool.false_ne_true, hjoin]
      exact .value (some _)

theorem attempt_agrees (order : DayOrder) (now : Instant) (expression : Text) :
    Agrees (attempt order now expression) (DateExpr.resolve? order now expression) := by
  rw [attempt, DateExpr.resolve?]
  cases hs : Text.trim expression with
  | nil => exact .value none
  | cons c s =>
    rw [List.isEmpty_cons, if_neg Bool.false_ne_true]
    cases hsplit : Text.splitFirst? DateExpr.dots (c :: s) with
    | none => exact side_agrees order now (c :: s)
    | some sides =>
      obtain ⟨left, right⟩ := sides
      simp only
      cases (Text.splitFirst? DateExpr.dots right).isSome with
      | true => exact .value none
      | false =>
        cases hleft : left.isEmpty <;> cases hright : right.isEmpty
        · exact between_both order now hleft hright
        · rw [List.isEmpty_iff.mp hright]
          exact between_left order now hleft
        · rw [List.isEmpty_iff.mp hleft]
          exact between_right order now hright
        · exact .value none

/-- Every expression is read, as the range that it stands for or as none. -/
theorem resolve_eq (order : DayOrder) (now : Instant) (expression : Text) :
    resolve order now expression = .ok (DateExpr.resolve? order now expression) :=
  caught_of_agrees (attempt_agrees order now expression)

end NoteQuery.Checked
