/-!
# Days

Days of the Gregorian calendar from the first of January of year 1 to the last of
December of year 9999, counted from zero. A day outside that span does not exist, so
every way to build one may fail.
-/
namespace NoteQuery

def maxYear : Nat := 9999

/-- A day by its distance from the first of January of year 1. -/
structure Day where
  index : Nat
  inCalendar : index < 3652059
  deriving DecidableEq, Repr

namespace Day

def isLeap (year : Nat) : Bool :=
  year % 4 == 0 && (year % 100 != 0 || year % 400 == 0)

def monthLengths (leap : Bool) : List Nat :=
  [31, if leap then 29 else 28, 31, 30, 31, 30, 31, 31, 30, 31, 30, 31]

/-- The length of a month, zero if there is no such month. -/
def monthLength (year month : Nat) : Nat :=
  if month == 0 then 0 else (monthLengths (isLeap year)).getD (month - 1) 0

def beforeYear (year : Nat) : Nat :=
  let p := year - 1
  365 * p + p / 4 - p / 100 + p / 400

def daysIn (lengths : List Nat) : Nat := lengths.foldr (· + ·) 0

def beforeMonth (year month : Nat) : Nat :=
  daysIn ((monthLengths (isLeap year)).take (month - 1))

def ofIndex? (n : Nat) : Option Day :=
  if h : n < 3652059 then some ⟨n, h⟩ else none

def IsDate (year month day : Nat) : Prop :=
  1 ≤ year ∧ year ≤ maxYear ∧ 1 ≤ month ∧ month ≤ 12 ∧ 1 ≤ day ∧ day ≤ monthLength year month

instance (year month day : Nat) : Decidable (IsDate year month day) :=
  inferInstanceAs (Decidable (_ ∧ _))

def ofDate? (year month day : Nat) : Option Day :=
  if IsDate year month day then
    ofIndex? (beforeYear year + beforeMonth year month + (day - 1))
  else none

def first : Day := ⟨0, by decide⟩

def sub? (d : Day) (n : Nat) : Option Day :=
  if n ≤ d.index then ofIndex? (d.index - n) else none

/-- The year that a day falls in. The mean length of a year gives it or the year
before. -/
def yearOf (index : Nat) : Nat :=
  let p := (400 * index - 400) / 146097
  if index < beforeYear (p + 2) then p + 1 else p + 2

def year (d : Day) : Nat := yearOf d.index

/-- The month, counted from zero, and the day, counted from zero, that lie some days
into a list of months. -/
def locate : List Nat → Nat → Nat × Nat
  | [], n => (0, n)
  | len :: rest, n =>
    if n < len then (0, n)
    else
      let (month, day) := locate rest (n - len)
      (month + 1, day)

def monthAndDay (d : Day) : Nat × Nat :=
  let (month, day) := locate (monthLengths (isLeap d.year)) (d.index - beforeYear d.year)
  (month + 1, day + 1)

def month (d : Day) : Nat := d.monthAndDay.1

def dayOfMonth (d : Day) : Nat := d.monthAndDay.2

/-- The days since Monday; the first day of the calendar is a Monday. -/
def weekday (d : Day) : Nat := d.index % 7

/-- The Monday of the week that holds the fourth of January, as a distance from the
first day. -/
def firstWeek (year : Nat) : Nat :=
  let newYear := beforeYear year
  let weekday := newYear % 7
  if 3 < weekday then newYear - weekday + 7 else newYear - weekday

/-- Years that start on a Thursday, and leap years that start on a Wednesday, have 53
weeks. -/
def weeksIn (year : Nat) : Nat :=
  let weekday := beforeYear year % 7
  if weekday == 3 || (weekday == 2 && isLeap year) then 53 else 52

/-- The day of an ISO week of a year, Monday being day 1. -/
def ofWeek? (year week day : Nat) : Option Day :=
  if 1 ≤ year ∧ year ≤ maxYear ∧ 1 ≤ week ∧ week ≤ weeksIn year ∧ 1 ≤ day ∧ day ≤ 7 then
    ofIndex? (firstWeek year + 7 * (week - 1) + (day - 1))
  else none

end Day

end NoteQuery
