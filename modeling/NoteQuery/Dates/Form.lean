import NoteQuery.Dates.Basic

/-!
# Date forms

One side of a date expression: a relative word, or a year, quarter, month, week, day,
minute or second of the calendar. Each form covers a span of time from its first to its
last microsecond; a span that would run past the calendar ends with it. Decimal digits
of any script are read.
-/
namespace NoteQuery

/-- Words for spans that depend on the current day. -/
inductive RelativeDay where
  | today
  | yesterday
  | last7Days
  | last30Days
  | thisWeek
  | thisMonth
  deriving DecidableEq, Repr

namespace RelativeDay

def all : List RelativeDay := [today, yesterday, last7Days, last30Days, thisWeek, thisMonth]

def word : RelativeDay → Text
  | today => "today".toList
  | yesterday => "yesterday".toList
  | last7Days => "last7d".toList
  | last30Days => "last30d".toList
  | thisWeek => "thisweek".toList
  | thisMonth => "thismonth".toList

end RelativeDay

inductive DateForm where
  | relative (word : RelativeDay)
  | second (year month day hour minute second : Nat)
  | minute (year month day hour minute : Nat)
  | day (year month day : Nat)
  | week (year week : Nat)
  | month (year month : Nat)
  | quarter (year quarter : Nat)
  | year (year : Nat)
  /-- Two numbers whose order may be open, and a year. -/
  | numeric (first second year : Nat)
  deriving DecidableEq, Repr

namespace DateForm

/-! ## Reading -/

/-- A run of digits, by their values, or any other character. -/
inductive Piece where
  | digits (values : List Nat)
  | sign (c : Char)
  deriving DecidableEq, Repr

def consDigit (d : Nat) : List Piece → List Piece
  | .digits ds :: ps => .digits (d :: ds) :: ps
  | ps => .digits [d] :: ps

def pieces : Text → List Piece
  | [] => []
  | c :: rest =>
    match Text.digitValue? c with
    | some d => consDigit d (pieces rest)
    | none => .sign c :: pieces rest

def number (ds : List Nat) : Nat := ds.foldl (fun n d => 10 * n + d) 0

def isShort (ds : List Nat) : Bool := ds.length == 1 || ds.length == 2

def isSeparator (c : Char) : Bool := c == '/' || c == '.' || c == '-'

def ofLetter? (year : List Nat) (letter : Char) (ds : List Nat) : Option DateForm :=
  if year.length != 4 then none
  else if letter.toLower == 'w' && isShort ds then some (.week (number year) (number ds))
  else if letter.toLower == 'q' && ds.length == 1 then some (.quarter (number year) (number ds))
  else none

/-- Three numbers with separators: year first, or year last behind one kind of
separator. -/
def ofThree? (a : List Nat) (s : Char) (b : List Nat) (t : Char) (c : List Nat) : Option DateForm :=
  if s == '-' && t == '-' && a.length == 4 && isShort b && isShort c then
    some (.day (number a) (number b) (number c))
  else if isSeparator s && s == t && isShort a && isShort b && c.length == 4 then
    some (.numeric (number a) (number b) (number c))
  else none

/-- Whether pieces of a full date and of a time have the lengths they need. -/
def isTimed (y mo d h mi : List Nat) (t : Char) : Bool :=
  y.length == 4 && mo.length == 2 && d.length == 2 && t.toLower == 't' && isShort h
    && mi.length == 2

def ofPieces? : List Piece → Option DateForm
  | [.digits ds] =>
    if ds.length == 4 then some (.year (number ds))
    else if ds.length == 6 then some (.month (number (ds.take 4)) (number (ds.drop 4)))
    else if ds.length == 8 then
      some (.day (number (ds.take 4)) (number ((ds.drop 4).take 2)) (number (ds.drop 6)))
    else none
  | [.digits y, .sign s, .digits m] =>
    if s == '-' then
      if y.length == 4 && isShort m then some (.month (number y) (number m)) else none
    else ofLetter? y s m
  | [.digits y, .sign '-', .sign s, .digits n] => ofLetter? y s n
  | [.digits a, .sign s, .digits b, .sign t, .digits c] => ofThree? a s b t c
  | [.digits y, .sign '-', .digits mo, .sign '-', .digits d, .sign t, .digits h, .sign ':',
      .digits mi] =>
    if isTimed y mo d h mi t then
      some (.minute (number y) (number mo) (number d) (number h) (number mi))
    else none
  | [.digits y, .sign '-', .digits mo, .sign '-', .digits d, .sign t, .digits h, .sign ':',
      .digits mi, .sign ':', .digits s] =>
    if isTimed y mo d h mi t && s.length == 2 then
      some (.second (number y) (number mo) (number d) (number h) (number mi) (number s))
    else none
  | _ => none

/-- The form that a text writes, blanks around it apart. -/
def ofText? (s : Text) : Option DateForm :=
  let s := Text.trim s
  match RelativeDay.all.find? fun w => w.word == Text.lower s with
  | some w => some (.relative w)
  | none => ofPieces? (pieces s)

/-! ## Spans -/

def spanFrom (start : Instant) (ticks : Nat) : DateRange :=
  match start.add? ticks with
  | some next => ⟨start, next.pred⟩
  | none => ⟨start, .last⟩

def daySpan (d : Day) : DateRange := spanFrom (.ofDay d) Instant.ticksPerDay

def weekSpan (monday : Day) : DateRange := spanFrom (.ofDay monday) (7 * Instant.ticksPerDay)

def addMonths (year month count : Nat) : Nat × Nat :=
  let index := year * 12 + (month - 1) + count
  (index / 12, index % 12 + 1)

def monthSpan? (year month count : Nat) : Option DateRange := do
  let first ← Day.ofDate? year month 1
  let (y, m) := addMonths year month count
  if maxYear < y then some ⟨.ofDay first, .last⟩
  else
    let next ← Day.ofDate? y m 1
    some ⟨.ofDay first, (Instant.ofDay next).pred⟩

def relativeSpan? (today : Day) : RelativeDay → Option DateRange
  | .today => some (daySpan today)
  | .yesterday => (today.sub? 1).map daySpan
  | .last7Days => (today.sub? 6).map fun d => ⟨.ofDay d, (daySpan today).stop⟩
  | .last30Days => (today.sub? 29).map fun d => ⟨.ofDay d, (daySpan today).stop⟩
  | .thisWeek => (today.sub? today.weekday).map weekSpan
  | .thisMonth => monthSpan? today.year today.month 1

/-- The day and the month of two numbers: one above twelve is the day. -/
def dayAndMonth (order : DayOrder) (a b : Nat) : Nat × Nat :=
  if 12 < a then (a, b)
  else if 12 < b then (b, a)
  else order.apply a b

/-- The span of a form, if its numbers name something in the calendar. -/
def span? (order : DayOrder) (today : Day) : DateForm → Option DateRange
  | .relative word => relativeSpan? today word
  | .second y mo d h mi s => do
    let day ← Day.ofDate? y mo d
    let start ← Instant.ofDayTime? day h mi s 0
    some (spanFrom start Instant.ticksPerSecond)
  | .minute y mo d h mi => do
    let day ← Day.ofDate? y mo d
    let start ← Instant.ofDayTime? day h mi 0 0
    some (spanFrom start (60 * Instant.ticksPerSecond))
  | .day y m d => (Day.ofDate? y m d).map daySpan
  | .week y w => (Day.ofWeek? y w 1).map weekSpan
  | .month y m => monthSpan? y m 1
  | .quarter y q => if 1 ≤ q ∧ q ≤ 4 then monthSpan? y (3 * (q - 1) + 1) 3 else none
  | .year y => monthSpan? y 1 12
  | .numeric a b y =>
    let (d, m) := dayAndMonth order a b
    (Day.ofDate? y m d).map daySpan

end DateForm

end NoteQuery
