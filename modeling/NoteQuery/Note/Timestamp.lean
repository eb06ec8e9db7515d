import NoteQuery.Calendar.IsoText
import NoteQuery.Dates.Basic
import NoteQuery.Value.Basic

/-!
# Timestamps of notes

A timestamp is a moment, a day, an ISO text, or a number of milliseconds since the start
of 1970. Milliseconds are divided into seconds as binary floating point numbers, and the
fraction is rounded to the nearest microsecond, a tie going to the even one.
-/
namespace NoteQuery.Timestamp

inductive Error where
  /-- The value is no timestamp. -/
  | invalid (v : Value)
  /-- The number lies outside the calendar. -/
  | outOfRange (v : Value)
  /-- Moving the moment to local time led outside the calendar. -/
  | outOfCalendar
  /-- The value is to be shown and has no written form. -/
  | unwritable

namespace Error

def message : Error → Text
  | invalid v => "Invalid timestamp: ".toList ++ v.literal
  | outOfRange v => "Timestamp out of range: ".toList ++ v.literal
  | outOfCalendar => OutOfCalendar.message {}
  | unwritable => Value.Unwritable.message {}

end Error

def refusal (error : Value → Error) (v : Value) : Error :=
  if v.isWritable then error v else .unwritable

/-- The microseconds in a number of seconds; the fraction is rounded twice, to a binary
number after scaling and then to an integer. -/
def micros? : Double → Option Int
  | .finite negative m e =>
    let (n, d) := Double.ratio m e
    match Double.ofRatio false (n % d * Instant.ticksPerSecond) d with
    | .finite _ m e =>
      let (p, q) := Double.ratio m e
      let total : Int := n / d * Instant.ticksPerSecond + Double.roundDiv p q
      some (if negative then -total else total)
    | _ => none
  | _ => none

/-- The days before the first of January 1970. -/
def epochDay : Nat := 719162

section

variable (zone : Zone)

/-- The local instant some seconds after the start of 1970. The day before it is looked at as
well, so the first day of the calendar is not reached. -/
def ofSeconds? (seconds : Double) : Option Instant := do
  let micros ← micros? seconds
  let ticks := epochDay * Instant.ticksPerDay + micros
  let dayBefore := ticks - Instant.ticksPerDay
  let t ← Instant.ofTicks? (ticks + zone ticks)
  let _ ← Instant.ofTicks? (dayBefore + zone dayBefore)
  return t

def ofStamp (s : Stamp) : Except Error Instant :=
  match (s.moment zone).local? with
  | some t => .ok t
  | none => .error .outOfCalendar

/-- The instant that a text names; a zone `Z` may stand anywhere in it. -/
def ofText (s : Text) : Except Error Instant :=
  match IsoText.stamp? (Text.replace 'Z' "+00:00".toList s) with
  | none => .error (.invalid (.text s))
  | some stamp => ofStamp zone stamp

def ofMillis (v : Value) (seconds : Double) : Except Error Instant :=
  match ofSeconds? zone seconds with
  | some t => .ok t
  | none => .error (refusal .outOfRange v)

/-- The local instant that a value stands for, if it stands for any. -/
def ofValue : Value → Except Error (Option Instant)
  | .null => .ok none
  | .text [] => .ok none
  | .text s => (ofText zone s).map some
  | .moment s => (ofStamp zone s).map some
  | .date d => .ok (some (.ofDay d))
  | .int n => (ofMillis zone (.int n) (.ofRatio (n < 0) n.natAbs 1000)).map some
  | .float x => (ofMillis zone (.float x) (x.divNat 1000)).map some
  | v => .error (refusal .invalid v)

end

end NoteQuery.Timestamp
