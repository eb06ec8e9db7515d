import NoteQuery.Calendar.Instant

/-!
# Reading ISO 8601 texts

A date in extended, basic or week form, then any one character, then a time of day down
to fractions of a second, then an offset. The reader is lenient where a time is cut off
in front of an offset: a separator or a point with nothing behind it is passed over.
-/
namespace NoteQuery.IsoText

/-- An ASCII digit's value. -/
def digit? (c : Char) : Option Nat :=
  if '0' ≤ c && c ≤ '9' then some (c.toNat - 0x30) else none

/-- The number in exactly `n` leading ASCII digits, and the rest. -/
def digits? : Nat → Nat → Text → Option (Nat × Text)
  | 0, value, s => some (value, s)
  | n + 1, value, c :: rest => do digits? n (10 * value + (← digit? c)) rest
  | _ + 1, _, [] => none

def isAsciiDigit (c : Char) : Bool := (digit? c).isSome

/-- The characters of the date part. Where a week date is followed by digits, an even
count of them says that the weekday is left out, times being written in pairs. -/
def dateLength? (s : Text) : Option Nat :=
  let char (i : Nat) : Char := s.getD i (Char.ofNat 0)
  if s.length < 7 then none
  else if s.length == 7 then some 7
  else if char 4 == '-' then
    if char 5 == 'W' then
      if char 8 == '-' then
        if s.length == 9 then none
        else if isAsciiDigit (char 10) then some 8 else some 10
      else some 8
    else some 10
  else if char 4 == 'W' then
    let stop := 7 + ((s.drop 7).takeWhile isAsciiDigit).length
    if stop < 9 then some stop else if stop % 2 == 0 then some 7 else some 8
  else some 8

def day? (s : Text) : Option Day := do
  let (year, s) ← digits? 4 0 s
  let (dashed, s) := match s with
    | '-' :: s => (true, s)
    | s => (false, s)
  match s with
  | 'W' :: s =>
    let (week, s) ← digits? 2 0 s
    match dashed, s with
    | _, [] => Day.ofWeek? year week 1
    | true, '-' :: s => lastDigit? s >>= Day.ofWeek? year week
    | false, s => lastDigit? s >>= Day.ofWeek? year week
    | true, _ => none
  | s =>
    let (month, s) ← digits? 2 0 s
    let s ← match dashed, s with
      | true, '-' :: s => some s
      | true, _ => none
      | false, s => some s
    match ← digits? 2 0 s with
    | (day, []) => Day.ofDate? year month day
    | _ => none
where
  lastDigit? (s : Text) : Option Nat :=
    match digits? 1 0 s with
    | some (d, []) => some d
    | _ => none

/-- Hours, minutes, seconds and microseconds as written, not yet checked. -/
structure ClockParts where
  hour : Nat
  minute : Nat
  second : Nat
  micro : Nat

def ClockParts.set (parts : ClockParts) : Nat → Nat → ClockParts
  | 0, n => { parts with hour := n }
  | 1, n => { parts with minute := n }
  | _, n => { parts with second := n }

/-- The fraction of a second: six digits count, further ones are passed over. The flag
tells whether something follows, `after` being the character behind the text. -/
def fraction? (after : Char) (parts : ClockParts) (s : Text) : Option (ClockParts × Bool) := do
  let n := min 6 s.length
  let (value, rest) ← digits? n 0 s
  let rest := rest.dropWhile isAsciiDigit
  some ({ parts with micro := value * Nat.pow 10 (6 - n) }, rest.headD after != Char.ofNat 0)

/-- Pairs of digits from the field numbered `3 - left` on, with colons between all of
them or none, then an optional fraction. -/
def clockFrom? (after : Char) (colons : Bool) (parts : ClockParts) :
    Nat → Text → Option (ClockParts × Bool)
  | 0, s => fraction? after parts s
  | left + 1, s => do
    let (value, s) ← digits? 2 0 s
    let parts := parts.set (2 - left) value
    let c := s.headD after
    let colons := if left == 2 then c == ':' else colons
    if s.isEmpty || (s.length == 1 && c.toNat < 0x80) then some (parts, c != Char.ofNat 0)
    else if colons && c == ':' then clockFrom? after colons parts left (s.drop 1)
    else if c == '.' || c == ',' then fraction? after parts (s.drop 1)
    else if !colons then clockFrom? after colons parts left s
    else none

def clock? (after : Char) (s : Text) : Option (ClockParts × Bool) :=
  clockFrom? after true ⟨0, 0, 0, 0⟩ 3 s

/-- A time of day and an offset in microseconds, if one is written. -/
def time? (s : Text) : Option (ClockParts × Option Int) := do
  let isMark (c : Char) : Bool := c == '+' || c == '-' || c == 'Z'
  let body := s.takeWhile (!isMark ·)
  match s.dropWhile (!isMark ·) with
  | [] =>
    let (parts, more) ← clock? (Char.ofNat 0) body
    if more then none else some (parts, none)
  | mark :: zone =>
    let (parts, _) ← clock? mark body
    if mark == 'Z' then
      if zone.headD (Char.ofNat 0) == Char.ofNat 0 then some (parts, some 0) else none
    else
      let (z, more) ← clock? (Char.ofNat 0) zone
      if more then none
      else
        let seconds := (z.hour * 60 + z.minute) * 60 + z.second
        -- an offset of less than a second counts as none
        let micros : Int := if seconds == 0 then 0 else seconds * 1000000 + z.micro
        some (parts, some (if mark == '-' then -micros else micros))

/-- Offsets reach up to a day, exclusive. -/
def isOffset (offset : Int) : Bool := offset.natAbs < Instant.ticksPerDay

def stamp? (s : Text) : Option Stamp := do
  let n ← dateLength? s
  let day ← day? (s.take n)
  if s.length ≤ n then some ⟨Instant.ofDay day, none⟩
  else
    let (t, offset) ← time? (s.drop (n + 1))
    let wall ← Instant.ofDayTime? day t.hour t.minute t.second t.micro
    match offset with
    | none => some ⟨wall, none⟩
    | some offset => if isOffset offset then some ⟨wall, some offset⟩ else none

end NoteQuery.IsoText
