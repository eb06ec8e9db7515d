import NoteQuery.Calendar.Day
import NoteQuery.Text.Digit

/-!
# Instants

Local time in microseconds, from the first instant of year 1 to the last of year 9999,
and moments: instants as a clock or a text gives them, which may carry an offset from
universal time. A moment with an offset is moved to universal time and from there to
local time, and may fall outside the calendar on the way. Where local time stands is a
parameter, which each moment has its own part of.
-/
namespace NoteQuery

namespace Instant

def ticksPerSecond : Nat := 1000000

def ticksPerDay : Nat := 86400000000

end Instant

/-- An instant by the microseconds since the first instant of year 1. -/
structure Instant where
  ticks : Nat
  inCalendar : ticks < 3652059 * 86400000000
  deriving DecidableEq, Repr

namespace Instant

instance : LE Instant := ⟨fun a b => a.ticks ≤ b.ticks⟩

instance : LT Instant := ⟨fun a b => a.ticks < b.ticks⟩

instance (a b : Instant) : Decidable (a ≤ b) := inferInstanceAs (Decidable (a.ticks ≤ b.ticks))

instance (a b : Instant) : Decidable (a < b) := inferInstanceAs (Decidable (a.ticks < b.ticks))

instance : Max Instant := ⟨fun a b => if a ≤ b then b else a⟩

def first : Instant := ⟨0, by decide⟩

def last : Instant := ⟨3652059 * 86400000000 - 1, by decide⟩

def ofTicks? (n : Int) : Option Instant :=
  match n with
  | .ofNat n => if h : n < 3652059 * 86400000000 then some ⟨n, h⟩ else none
  | .negSucc _ => none

def ofDay (d : Day) : Instant :=
  ⟨d.index * 86400000000, by have := d.inCalendar; omega⟩

/-- Whether the parts name a time of day. -/
def IsTime (hour minute second micro : Nat) : Prop :=
  hour ≤ 23 ∧ minute ≤ 59 ∧ second ≤ 59 ∧ micro < 1000000

instance (hour minute second micro : Nat) : Decidable (IsTime hour minute second micro) :=
  inferInstanceAs (Decidable (_ ∧ _))

def ofDayTime? (d : Day) (hour minute second micro : Nat) : Option Instant :=
  if h : IsTime hour minute second micro then
    some ⟨d.index * 86400000000 + (((hour * 60 + minute) * 60 + second) * 1000000 + micro), by
      obtain ⟨_, _, _, _⟩ := h
      have := d.inCalendar
      omega⟩
  else none

def day (t : Instant) : Day :=
  ⟨t.ticks / 86400000000, by have := t.inCalendar; omega⟩

def ofMidnight (t : Instant) : Nat := t.ticks % 86400000000

def hour (t : Instant) : Nat := t.ofMidnight / 3600000000

def minute (t : Instant) : Nat := t.ofMidnight / 60000000 % 60

def second (t : Instant) : Nat := t.ofMidnight / 1000000 % 60

def micro (t : Instant) : Nat := t.ofMidnight % 1000000

def add? (t : Instant) (ticks : Nat) : Option Instant := ofTicks? (t.ticks + ticks)

/-- The instant one microsecond earlier; the first instant stays. -/
def pred (t : Instant) : Instant := ⟨t.ticks - 1, by have := t.inCalendar; omega⟩

end Instant

def Day.toText (d : Day) : Text :=
  Text.ofNatPadded 4 d.year ++ ['-'] ++ Text.ofNatPadded 2 d.month ++ ['-']
    ++ Text.ofNatPadded 2 d.dayOfMonth

namespace Instant

def clockText (t : Instant) : Text :=
  Text.ofNatPadded 2 t.hour ++ [':'] ++ Text.ofNatPadded 2 t.minute

/-- The time of day; microseconds only where there are any. -/
def timeText (t : Instant) : Text :=
  t.clockText ++ [':'] ++ Text.ofNatPadded 2 t.second
    ++ if t.micro == 0 then [] else '.' :: Text.ofNatPadded 6 t.micro

def toTextWith (separator : Char) (t : Instant) : Text :=
  t.day.toText ++ [separator] ++ t.timeText

def toText (t : Instant) : Text := t.toTextWith 'T'

end Instant

/-- Local time by the microseconds that it is east of universal time, at each number of
microseconds of universal time since the first instant. -/
abbrev Zone := Int → Int

/-- Local time that is universal time. -/
def Zone.universal : Zone := fun _ => 0

/-- An instant as written: with an offset, in microseconds east of universal time, or in
local time. -/
structure Stamp where
  wall : Instant
  east : Option Int
  deriving DecidableEq, Repr

namespace Stamp

/-- An offset as `+HH:MM`, with seconds and microseconds only where there are any. -/
def offsetText (east : Int) : Text :=
  let n := east.natAbs
  let seconds := n / 1000000 % 60
  let micro := n % 1000000
  [if east < 0 then '-' else '+'] ++ Text.ofNatPadded 2 (n / 3600000000) ++ [':']
    ++ Text.ofNatPadded 2 (n / 60000000 % 60)
    ++ (if seconds == 0 && micro == 0 then [] else ':' :: Text.ofNatPadded 2 seconds)
    ++ (if micro == 0 then [] else '.' :: Text.ofNatPadded 6 micro)

def toTextWith (separator : Char) (s : Stamp) : Text :=
  s.wall.toTextWith separator ++ (s.east.map offsetText).getD []

end Stamp

/-- The offset that an instant is written with, and that of local time at the instant. -/
structure Offset where
  east : Int
  localEast : Int
  deriving DecidableEq, Repr

/-- An instant of a clock or a text, together with what tells its local time. -/
structure Moment where
  wall : Instant
  offset : Option Offset
  deriving DecidableEq, Repr

namespace Moment

def stamp (m : Moment) : Stamp := ⟨m.wall, m.offset.map Offset.east⟩

/-- The local instant of a moment, unless that or its universal time falls outside the
calendar. -/
def local? (m : Moment) : Option Instant :=
  match m.offset with
  | none => some m.wall
  | some o => do
    let universal ← Instant.ofTicks? (m.wall.ticks - o.east)
    Instant.ofTicks? (universal.ticks + o.localEast)

def toTextWith (separator : Char) (m : Moment) : Text := m.stamp.toTextWith separator

end Moment

/-- What is written, as a moment in a zone. -/
def Stamp.moment (zone : Zone) (s : Stamp) : Moment where
  wall := s.wall
  offset := s.east.map fun east => ⟨east, zone (s.wall.ticks - east)⟩

end NoteQuery
