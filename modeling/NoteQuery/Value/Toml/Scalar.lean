import NoteQuery.Calendar.Instant
import NoteQuery.Value.Basic
import NoteQuery.Value.ReadError

/-!
# TOML: scalars and keys

Readers of the strings, numbers, dates, times and keys of a TOML text, and of the blanks and
comments between them. Each takes what stands at the start of a text and gives the rest.
-/
namespace NoteQuery.Toml

inductive Fault where
  | malformed
  /-- An integer of more digits than are converted. -/
  | tooManyDigits (count : Nat)

def isSpace (c : Char) : Bool := c == ' ' || c == '\t'

def skipSpace (s : Text) : Text := s.dropWhile isSpace

def isControl (c : Char) : Bool := (c.toNat < 0x20 && c != '\t') || c.toNat == 0x7f

def isBareKeyChar (c : Char) : Bool :=
  ('a' ≤ c && c ≤ 'z') || ('A' ≤ c && c ≤ 'Z') || Text.isAsciiDigit c || c == '-' || c == '_'

/-- The rest of a line behind a statement, a comment passed over. -/
def lineEnd? (s : Text) : Option Text :=
  match skipSpace s with
  | [] => some []
  | '\n' :: rest => some rest
  | '#' :: rest =>
    if (rest.takeWhile (· != '\n')).any isControl then none
    else some ((rest.dropWhile (· != '\n')).drop 1)
  | _ => none

/-- Blanks, line breaks and comments between the items of an array. -/
def skipLines? : Nat → Text → Option Text
  | 0, _ => none
  | fuel + 1, s =>
    match s.dropWhile fun c => isSpace c || c == '\n' with
    | '#' :: rest =>
      if (rest.takeWhile (· != '\n')).any isControl then none
      else skipLines? fuel (rest.dropWhile (· != '\n'))
    | rest => some rest

/-! ## Strings -/

def simpleEscapes : List (Char × Nat) :=
  [('b', 8), ('t', 9), ('n', 10), ('f', 12), ('r', 13), ('e', 0x1b), ('"', 0x22), ('\\', 0x5c)]

/-- The character of an escape, the text starting behind the backslash. -/
def escape? (s : Text) : Option (Char × Text) :=
  let scalar (size : Nat) (rest : Text) : Option (Char × Text) := do
    let (n, rest) ← Text.hexDigits? size 0 rest
    if n < 0x110000 && !Text.isHighSurrogate n && !Text.isLowSurrogate n then
      some (Char.ofNat n, rest)
    else none
  match s with
  | 'x' :: rest => scalar 2 rest
  | 'u' :: rest => scalar 4 rest
  | 'U' :: rest => scalar 8 rest
  | c :: rest => (simpleEscapes.lookup c).map fun n => (Char.ofNat n, rest)
  | [] => none

/-- The rest of a basic string of one line. -/
def basic? : Nat → Text → Option (Text × Text)
  | 0, _ => none
  | fuel + 1, s =>
    match s with
    | [] => none
    | '"' :: rest => some ([], rest)
    | '\\' :: rest => do
      let (c, rest) ← escape? rest
      let (t, rest) ← basic? fuel rest
      some (c :: t, rest)
    | c :: rest =>
      if isControl c then none
      else do
        let (t, rest) ← basic? fuel rest
        some (c :: t, rest)

/-- The rest of a literal string of one line. -/
def literal? (s : Text) : Option (Text × Text) :=
  let t := s.takeWhile (· != '\'')
  match s.drop t.length with
  | _ :: rest => if t.any isControl then none else some (t, rest)
  | [] => none

/-- The rest of a string over several lines; up to two quotes may stand in front of the
three that close it. -/
def multiline? (quote : Char) : Nat → Text → Option (Text × Text)
  | 0, _ => none
  | fuel + 1, s =>
    match s with
    | [] => none
    | c :: rest =>
      if c == quote && rest.take 2 == [quote, quote] then
        let extra := ((rest.drop 2).take 2).takeWhile (· == quote)
        some (extra, rest.drop (2 + extra.length))
      else if c == '\\' && quote == '"' then
        let gap := rest.takeWhile isSpace
        if (rest.drop gap.length).head? == some '\n' then
          multiline? quote fuel (rest.dropWhile fun c => isSpace c || c == '\n')
        else do
          let (c, rest) ← escape? rest
          let (t, rest) ← multiline? quote fuel rest
          some (c :: t, rest)
      else if isControl c && c != '\n' then none
      else do
        let (t, rest) ← multiline? quote fuel rest
        some (c :: t, rest)

def string? (s : Text) : Option (Text × Text) :=
  let fuel := s.length + 1
  let dropBreak (s : Text) : Text := if s.head? == some '\n' then s.drop 1 else s
  match s with
  | '"' :: '"' :: '"' :: rest => multiline? '"' fuel (dropBreak rest)
  | '\'' :: '\'' :: '\'' :: rest => multiline? '\'' fuel (dropBreak rest)
  | '"' :: rest => basic? fuel rest
  | '\'' :: rest => literal? rest
  | _ => none

/-! ## Keys -/

def keyPart? (s : Text) : Option (Text × Text) :=
  match s with
  | '"' :: rest => basic? (s.length + 1) rest
  | '\'' :: rest => literal? rest
  | s =>
    let t := s.takeWhile isBareKeyChar
    if t.isEmpty then none else some (t, s.drop t.length)

/-- A key of one or more parts with points between them. -/
def key? : Nat → Text → Option (List Text × Text)
  | 0, _ => none
  | fuel + 1, s => do
    let (part, rest) ← keyPart? s
    match skipSpace rest with
    | '.' :: rest =>
      let (parts, rest) ← key? fuel (skipSpace rest)
      some (part :: parts, rest)
    | rest => some ([part], rest)

/-! ## Numbers -/

def withoutGaps (s : Text) : Text := s.filter (· != '_')

def hexValue (base : Nat) (s : Text) : Nat :=
  s.foldl (fun n c => base * n + (Text.hexDigit? c).getD 0) 0

def based? (base : Nat) (p : Char → Bool) (s : Text) : Option (Value × Text) :=
  let digits := Text.digitRun p s
  if digits.isEmpty then none
  else some (.int (hexValue base (withoutGaps digits)), s.drop digits.length)

def fraction (s : Text) : Text × Text :=
  match s with
  | '.' :: rest =>
    let ds := Text.digitRun Text.isAsciiDigit rest
    if ds.isEmpty then ([], s) else (ds, rest.drop ds.length)
  | s => ([], s)

def exponent (s : Text) : Option Int × Text :=
  match s with
  | e :: rest =>
    if e == 'e' || e == 'E' then
      let (down, digits) := match rest with
        | '-' :: r => (true, r)
        | '+' :: r => (false, r)
        | r => (false, r)
      let ds := Text.digitRun Text.isAsciiDigit digits
      if ds.isEmpty then (none, s)
      else
        let n : Int := Text.decimal (withoutGaps ds)
        (some (if down then -n else n), digits.drop ds.length)
    else (none, s)
  | [] => (none, [])

def decimal (s : Text) : Except Fault (Value × Text) :=
  let (negative, body) := match s with
    | '-' :: r => (true, r)
    | '+' :: r => (false, r)
    | r => (false, r)
  if "inf".toList.isPrefixOf body then .ok (.float (.infinite negative), body.drop 3)
  else if "nan".toList.isPrefixOf body then .ok (.float .nan, body.drop 3)
  else
    let run := match body with
      | '0' :: _ => ['0']
      | b => Text.digitRun Text.isAsciiDigit b
    let whole := withoutGaps run
    if whole.isEmpty then .error .malformed
    else
      let (places, rest) := fraction (body.drop run.length)
      let (power, rest) := exponent rest
      if places.isEmpty && power.isNone then
        if ReadError.digitLimit < whole.length then .error (.tooManyDigits whole.length)
        else
          let n : Int := Text.decimal whole
          .ok (.int (if negative then -n else n), rest)
      else
        let places := withoutGaps places
        .ok (.float (.ofDecimal negative (Text.decimal (whole ++ places))
          (power.getD 0 - places.length)), rest)

def number (s : Text) : Except Fault (Value × Text) :=
  let based := match s with
    | '0' :: 'x' :: rest => based? 16 Text.isHexDigit rest
    | '0' :: 'o' :: rest => based? 8 (fun c => '0' ≤ c && c ≤ '7') rest
    | '0' :: 'b' :: rest => based? 2 (fun c => c == '0' || c == '1') rest
    | _ => none
  match based with
  | some r => .ok r
  | none => decimal s

/-! ## Dates and times -/

/-- A number of two digits that lies in a range. -/
def two? (low high : Nat) (s : Text) : Option (Nat × Text) :=
  match s with
  | a :: b :: rest =>
    let n := Text.decimal [a, b]
    if Text.isAsciiDigit a && Text.isAsciiDigit b && low ≤ n && n ≤ high then some (n, rest)
    else none
  | _ => none

def skipChar? (c : Char) : Text → Option Text
  | d :: rest => if c == d then some rest else none
  | [] => none

/-- The microseconds of a fraction; digits behind the sixth do not count. -/
def micros (s : Text) : Nat × Text :=
  match s with
  | '.' :: rest =>
    let digits := rest.takeWhile Text.isAsciiDigit
    if digits.isEmpty then (0, s)
    else (Text.decimal ((digits ++ List.replicate 5 '0').take 6), rest.drop digits.length)
  | s => (0, s)

/-- A time of day on a day; the seconds may be left out. -/
def time? (d : Day) (s : Text) : Option (Instant × Text) := do
  let (hour, s) ← two? 0 23 s
  let (minute, s) ← two? 0 59 (← skipChar? ':' s)
  match (skipChar? ':' s).bind (two? 0 59) with
  | some (second, s) =>
    let (micro, s) := micros s
    (Instant.ofDayTime? d hour minute second micro).map fun t => (t, s)
  | none => (Instant.ofDayTime? d hour minute 0 0).map fun t => (t, s)

def offset (s : Text) : Option Int × Text :=
  match s with
  | c :: rest =>
    if c == 'Z' || c == 'z' then (some 0, rest)
    else if c == '+' || c == '-' then
      match two? 0 23 rest with
      | some (hours, more) =>
        match (skipChar? ':' more).bind (two? 0 59) with
        | some (minutes, more) =>
          let micros : Int := (hours * 60 + minutes) * 60000000
          (some (if c == '-' then -micros else micros), more)
        | none => (none, s)
      | none => (none, s)
    else (none, s)
  | [] => (none, [])

def dateNumbers? (s : Text) : Option ((Nat × Nat × Nat) × Text) := do
  let year := s.take 4
  if year.length == 4 && year.all Text.isAsciiDigit then
    let (month, s) ← two? 1 12 (← skipChar? '-' (s.drop 4))
    let (day, s) ← two? 1 31 (← skipChar? '-' s)
    some ((Text.decimal year, month, day), s)
  else none

/-- A date, perhaps with a time and an offset, or a time alone, if one stands here. A date
that does not exist is an error. -/
def dateTime? (s : Text) : Option (Except Fault (Value × Text)) :=
  match dateNumbers? s with
  | some ((year, month, day), rest) =>
    match Day.ofDate? year month day with
    | none => some (.error .malformed)
    | some d =>
      let timed := match rest with
        | c :: more => if c == 'T' || c == 't' || c == ' ' then time? d more else none
        | [] => none
      match timed with
      | some (t, rest) =>
        let (zone, rest) := offset rest
        some (.ok (.moment ⟨t, zone⟩, rest))
      | none => some (.ok (.date d, rest))
  | none => (time? .first s).map fun (t, rest) => .ok (.clock t, rest)

end NoteQuery.Toml
