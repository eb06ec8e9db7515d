import NoteQuery.Calendar.Instant
import NoteQuery.Text.Basic
import NoteQuery.Text.Case

/-!
# Date ranges

The note timestamp that a date filter reads, the order of day and month in dates
written with numbers only, and inclusive ranges of local time.
-/
namespace NoteQuery

/-- The timestamp of a note that a date filter applies to. -/
inductive DateField where
  | created
  | modified
  deriving DecidableEq, Repr

namespace DateField

def word : DateField → Text
  | created => "created".toList
  | modified => "modified".toList

/-- The spellings of the fields, one-letter ones included. -/
def spellings : List (Text × DateField) :=
  [("c".toList, created), ("created".toList, created), ("ctime".toList, created),
    ("m".toList, modified), ("modified".toList, modified), ("mtime".toList, modified)]

/-- A text that is not a spelling of a field, lowered and trimmed. -/
structure Unknown where
  text : Text
  deriving DecidableEq, Repr

def Unknown.message (e : Unknown) : Text := "Unknown date field: ".toList ++ e.text

def ofText (s : Text) : Except Unknown DateField :=
  let s := Text.trim (Text.lower s)
  match spellings.lookup s with
  | some f => .ok f
  | none => .error ⟨s⟩

end DateField

/-- Which of two numbers that may both be months is the day. -/
inductive DayOrder where
  | dayFirst
  | monthFirst
  deriving DecidableEq, Repr

namespace DayOrder

/-- The day and the month that two numbers stand for. -/
def apply : DayOrder → Nat → Nat → Nat × Nat
  | dayFirst, first, second => (first, second)
  | monthFirst, first, second => (second, first)

def monthFirstLocales : List Text :=
  ["en_us", "en_as", "en_gu", "en_mp", "en_pr", "en_um", "en_vi", "en_ph", "fil_ph", "es_us",
    "en_fm", "en_mh"].map String.toList

/-- The language and territory of a locale, without encoding and modifier. -/
def localeName (locale : Text) : Text :=
  Text.lower (Text.replace '-' ['_'] (Text.before '@' (Text.before '.' locale)))

def ofLocale (locale : Text) : DayOrder :=
  if monthFirstLocales.contains (localeName locale) then monthFirst else dayFirst

end DayOrder

/-- Moving a moment to local time led outside the calendar. -/
structure OutOfCalendar where
  deriving DecidableEq, Repr

def OutOfCalendar.message (_ : OutOfCalendar) : Text := "date value out of range".toList

def Moment.local (m : Moment) : Except OutOfCalendar Instant :=
  match m.local? with
  | some t => .ok t
  | none => .error {}

/-- A range of local time, both ends included. -/
structure DateRange where
  start : Instant
  stop : Instant
  deriving DecidableEq, Repr

namespace DateRange

def covers (r : DateRange) (t : Instant) : Bool := r.start ≤ t && t ≤ r.stop

/-- Whether a timestamp falls in a range; one that is missing does not. -/
def contains (r : DateRange) : Option Moment → Except OutOfCalendar Bool
  | none => .ok false
  | some m => (m.local).map r.covers

def display (r : DateRange) : Text :=
  "DateRange(".toList ++ r.start.toText ++ " .. ".toList ++ r.stop.toText ++ [')']

end DateRange

end NoteQuery
