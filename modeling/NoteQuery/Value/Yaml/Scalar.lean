import NoteQuery.Calendar.IsoText
import NoteQuery.Text.Case
import NoteQuery.Value.Basic
import NoteQuery.Value.Yaml.Place

/-!
# YAML: scalars

The kinds of scalars in the rules of YAML 1.1, and the values of their texts. The spelling of
a plain scalar shows its kind. A tag can name a kind too, so the values are found for all
texts, also for those that do not look like their kind.
-/
namespace NoteQuery.Yaml

inductive ScalarKind where
  | null
  | bool
  | int
  | float
  | time
  | text
  /-- The key under which the entries of other mappings are taken over. -/
  | merge
  /-- The key of a default value. -/
  | default
  /-- A mark of the language itself. -/
  | indicator
  deriving DecidableEq, Repr

def sign : Text → Bool × Text
  | '-' :: rest => (true, rest)
  | '+' :: rest => (false, rest)
  | rest => (false, rest)

def isDigitOrGap (c : Char) : Bool := Text.isAsciiDigit c || c == '_'

/-! ## Spellings -/

def boolWords : List Text :=
  ["yes", "Yes", "YES", "no", "No", "NO", "true", "True", "TRUE", "false", "False", "FALSE",
    "on", "On", "ON", "off", "Off", "OFF"].map String.toList

def nullWords : List Text := ["~", "null", "Null", "NULL", ""].map String.toList

/-- A group below sixty behind a colon: one digit, or two of which the first is at most
five. -/
def isSixtieth : Text → Bool
  | [a] => Text.isAsciiDigit a
  | [a, b] => '0' ≤ a && a ≤ '5' && Text.isAsciiDigit b
  | _ => false

/-- Whether a text is a number in groups of base sixty, the first of them starting with a
digit of a class. -/
def isSexagesimal (first : Char → Bool) (s : Text) : Bool :=
  match Text.splitOn [':'] s with
  | whole :: group :: groups =>
    whole.head?.any first && whole.all isDigitOrGap && (group :: groups).all isSixtieth
  | _ => false

/-- Whether a text looks like an integer: decimal, binary, octal, hexadecimal or in base
sixty. -/
def looksInt (s : Text) : Bool :=
  let body := (sign s).2
  let all (digits : Text) (p : Char → Bool) : Bool :=
    !digits.isEmpty && digits.all fun c => p c || c == '_'
  let isNonZero (c : Char) : Bool := '1' ≤ c && c ≤ '9'
  isSexagesimal isNonZero body ||
    match body with
    | ['0'] => true
    | '0' :: 'b' :: digits => all digits fun c => c == '0' || c == '1'
    | '0' :: 'x' :: digits => all digits Text.isHexDigit
    | '0' :: digits => all digits fun c => '0' ≤ c && c ≤ '7'
    | c :: digits => isNonZero c && digits.all isDigitOrGap
    | [] => false

def isExponent : Text → Bool
  | [] => true
  | e :: m :: digits =>
    (e == 'e' || e == 'E') && (m == '-' || m == '+') && !digits.isEmpty
      && digits.all Text.isAsciiDigit
  | _ => false

/-- Whether a text looks like a float: a point is needed, and a sign in an exponent. -/
def looksFloat (s : Text) : Bool :=
  let body := (sign s).2
  if body ∈ [".inf", ".Inf", ".INF"].map String.toList then true
  else if s ∈ [".nan", ".NaN", ".NAN"].map String.toList then true
  else
    match Text.splitFirst? ['.'] body with
    | none => false
    | some (whole, tail) =>
      let fraction := tail.takeWhile isDigitOrGap
      let rest := tail.drop fraction.length
      match whole with
      | [] => fraction.head?.any Text.isAsciiDigit && body.length == s.length && isExponent rest
      | c :: _ =>
        (Text.isAsciiDigit c && whole.all isDigitOrGap && isExponent rest)
          || (isSexagesimal Text.isAsciiDigit whole && rest.isEmpty)

/-- One or two digits, and the rest. -/
def shortNumber? (s : Text) : Option (Nat × Text) :=
  match (s.take 2).takeWhile Text.isAsciiDigit with
  | [] => none
  | digits => some (Text.decimal digits, s.drop digits.length)

def skipChar? (c : Char) : Text → Option Text
  | d :: rest => if c == d then some rest else none
  | [] => none

/-- The parts of a date or time as written. -/
structure TimeShape where
  year : Nat
  month : Nat
  day : Nat
  /-- Hour, minute, second and microsecond. -/
  clock : Option (Nat × Nat × Nat × Nat)
  /-- Microseconds east of universal time. -/
  offset : Option Int

/-- The zone behind a time: nothing, `Z`, or a sign with hours and perhaps minutes. -/
def zone? (s : Text) : Option (Option Int) :=
  match s.dropWhile isBlank with
  | [] => if s.isEmpty then some none else none
  | ['Z'] => some (some 0)
  | m :: rest =>
    if m == '+' || m == '-' then do
      let (hours, rest) ← shortNumber? rest
      let minutes ←
        match rest with
        | [] => some 0
        | [':', a, b] =>
          if Text.isAsciiDigit a && Text.isAsciiDigit b then some (Text.decimal [a, b]) else none
        | _ => none
      let micros : Int := (hours * 60 + minutes) * 60000000
      some (some (if m == '-' then -micros else micros))
    else none

/-- The time behind a date: hours may have one digit, the fraction is cut at six. -/
def clock? (s : Text) : Option ((Nat × Nat × Nat × Nat) × Option Int) := do
  let (hour, s) ← shortNumber? s
  let (minute, s) ← IsoText.digits? 2 0 (← skipChar? ':' s)
  let (second, s) ← IsoText.digits? 2 0 (← skipChar? ':' s)
  let (micro, s) :=
    match s with
    | '.' :: rest =>
      let digits := rest.takeWhile Text.isAsciiDigit
      (Text.decimal ((digits ++ List.replicate 6 '0').take 6), rest.drop digits.length)
    | s => (0, s)
  some ((hour, minute, second, micro), ← zone? s)

def timeShape? (s : Text) : Option TimeShape := do
  let (year, s) ← IsoText.digits? 4 0 s
  let (month, s) ← shortNumber? (← skipChar? '-' s)
  let (day, s) ← shortNumber? (← skipChar? '-' s)
  match s with
  | [] => some ⟨year, month, day, none, none⟩
  | c :: rest =>
    let rest ←
      if c == 'T' || c == 't' then some rest
      else if isBlank c then some (rest.dropWhile isBlank)
      else none
    let (clock, offset) ← clock? rest
    some ⟨year, month, day, some clock, offset⟩

/-- Whether a text looks like a date or a time; a date alone has all its ten characters. -/
def looksTime (s : Text) : Bool :=
  match timeShape? s with
  | some t => t.clock.isSome || s.length == 10
  | none => false

def ScalarKind.ofPlain (s : Text) : ScalarKind :=
  if boolWords.contains s then bool
  else if looksFloat s then float
  else if looksInt s then int
  else if s == "<<".toList then merge
  else if nullWords.contains s then null
  else if looksTime s then time
  else if s == ['='] then default
  else if s ∈ [['!'], ['&'], ['*']] then indicator
  else text

/-! ## Values -/

def digitIn? (base : Nat) (c : Char) : Option Nat :=
  match (Text.digitValue? c).orElse fun _ => Text.hexDigit? c with
  | some d => if d < base then some d else none
  | none => none

def behindBase (base : Nat) (s : Text) : Text :=
  match base, s with
  | 2, '0' :: c :: rest => if c == 'b' || c == 'B' then rest else s
  | 8, '0' :: c :: rest => if c == 'o' || c == 'O' then rest else s
  | 16, '0' :: c :: rest => if c == 'x' || c == 'X' then rest else s
  | _, s => s

def integer (base : Nat) (s : Text) : Except ReadError Int :=
  let (negative, body) := sign (Text.trim s)
  let digits := behindBase base body
  if digits.isEmpty || !digits.all fun c => (digitIn? base c).isSome then
    .error (.invalid ("invalid literal for int() with base ".toList ++ Text.ofNat base
      ++ [':', ' '] ++ Text.literal s))
  else if base == 10 && ReadError.digitLimit < digits.length then
    .error (.tooManyDigits digits.length)
  else
    let n := digits.foldl (fun n c => base * n + (digitIn? base c).getD 0) 0
    .ok (if negative then -(n : Int) else n)

/-- The value of groups in base sixty, the most significant first. -/
def sexagesimal (groups : List Int) : Int := groups.foldl (fun n g => 60 * n + g) 0

def intValue (s : Text) : Except ReadError Value := do
  let (negative, body) := sign (s.filter (· != '_'))
  let n ←
    match body with
    | [] => .error .emptyNumber
    | ['0'] => .ok 0
    | '0' :: 'b' :: digits => integer 2 digits
    | '0' :: 'x' :: digits => integer 16 digits
    | '0' :: _ => integer 8 body
    | _ =>
      if body.contains ':' then do
        let groups ← (Text.splitOn [':'] body).mapM (integer 10)
        .ok (sexagesimal groups)
      else integer 10 body
  .ok (.int (if negative then -n else n))

def decimalFloat? (s : Text) : Option Double :=
  let (negative, body) := sign s
  let signed (x : Double) : Double := if negative then x.neg else x
  if body ∈ ["inf", "infinity"].map String.toList then some (.infinite negative)
  else if body == "nan".toList then some .nan
  else
    let whole := body.takeWhile Text.isDigit
    let rest := body.drop whole.length
    let (fraction, rest) :=
      match rest with
      | '.' :: more => (more.takeWhile Text.isDigit, more.dropWhile Text.isDigit)
      | rest => ([], rest)
    if whole.isEmpty && fraction.isEmpty then none
    else
      let result (power : Int) : Double :=
        signed (.ofDecimal false (Text.digitsValue (whole ++ fraction)) (power - fraction.length))
      match rest with
      | [] => some (result 0)
      | e :: power =>
        let (down, digits) := sign power
        if (e == 'e' || e == 'E') && !digits.isEmpty && digits.all Text.isDigit then
          let n : Int := Text.digitsValue digits
          some (result (if down then -n else n))
        else none

def float (s : Text) : Except ReadError Double :=
  match decimalFloat? (Text.trim s) with
  | some x => .ok x
  | none => .error (.invalid ("could not convert string to float: ".toList ++ Text.literal s))

/-- The sum of groups in base sixty, the least significant first; the scales, the products and
the sums are rounded. -/
def sexagesimalFloat (scale : Nat) (sum : Double) : List Double → Except ReadError Double
  | [] => .ok sum
  | g :: groups =>
    match Double.ofRatio false scale 1 with
    | .finite _ m e =>
      let (n, d) := Double.ratio m e
      sexagesimalFloat (60 * scale) (sum.add (g.mulNat (n / d))) groups
    | _ => .error .beyondFloats

def floatValue (s : Text) : Except ReadError Value := do
  let s := Text.lower (s.filter (· != '_'))
  let (negative, body) := sign s
  if s.isEmpty then .error .emptyNumber
  else if body == ".inf".toList then .ok (.float (.infinite negative))
  else if body == ".nan".toList then .ok (.float .nan)
  else
    let x ←
      if body.contains ':' then do
        let groups ← (Text.splitOn [':'] body).mapM float
        sexagesimalFloat 1 (.ofDecimal false 0 0) groups.reverse
      else float body
    .ok (.float (if negative then x.neg else x))

/-- Why a date does not exist; years have no other bound than their four digits. -/
def dateFault (year month : Nat) : Text :=
  if year == 0 then "year 0 is out of range".toList
  else if month == 0 || 12 < month then "month must be in 1..12".toList
  else "day is out of range for month".toList

def clockFault (hour minute : Nat) : Text :=
  if 23 < hour then "hour must be in 0..23".toList
  else if 59 < minute then "minute must be in 0..59".toList
  else "second must be in 0..59".toList

/-- The parts of an offset that is too large, as days, seconds and microseconds. -/
def offsetFault (offset : Int) : Text :=
  let perDay : Int := Instant.ticksPerDay
  let part (name : String) (n : Int) : List Text :=
    if n == 0 then [] else [name.toList ++ ['='] ++ Text.ofInt n]
  ("offset must be a timedelta strictly between -timedelta(hours=24) and "
      ++ "timedelta(hours=24), not datetime.timedelta(").toList
    ++ Text.join [',', ' ']
      (part "days" (offset.fdiv perDay) ++ part "seconds" (offset.fmod perDay / 1000000))
    ++ [')', '.']

/-- The date or time of a shape, unless it does not exist. -/
def TimeShape.value (t : TimeShape) : Except ReadError Value :=
  match t.clock with
  | none =>
    match Day.ofDate? t.year t.month t.day with
    | some d => .ok (.date d)
    | none => .error (.invalid (dateFault t.year t.month))
  | some (hour, minute, second, micro) =>
    if t.offset.any fun offset => !IsoText.isOffset offset then
      .error (.invalid (offsetFault (t.offset.getD 0)))
    else
      match Day.ofDate? t.year t.month t.day with
      | none => .error (.invalid (dateFault t.year t.month))
      | some d =>
        match Instant.ofDayTime? d hour minute second micro with
        | none => .error (.invalid (clockFault hour minute))
        | some wall => .ok (.moment ⟨wall, t.offset⟩)

def boolValue (s : Text) : Except ReadError Value :=
  let s := Text.lower s
  if s ∈ ["yes", "true", "on"].map String.toList then .ok (.bool true)
  else if s ∈ ["no", "false", "off"].map String.toList then .ok (.bool false)
  else .error (.notBoolean s)

def timeValue (s : Text) : Except ReadError Value :=
  match timeShape? s with
  | some t => t.value
  | none => .error .notTime

namespace ScalarKind

def all : List ScalarKind := [null, bool, int, float, time, text, merge, default, indicator]

def name : ScalarKind → String
  | null => "null"
  | bool => "bool"
  | int => "int"
  | float => "float"
  | time => "timestamp"
  | text => "str"
  | merge => "merge"
  | default => "value"
  | indicator => "yaml"

/-- What a kind makes of a text. Keys and marks have no values. -/
def value? (s : Text) : ScalarKind → Option (Except ReadError Value)
  | null => some (.ok .null)
  | bool => some (boolValue s)
  | int => some (intValue s)
  | float => some (floatValue s)
  | time => some (timeValue s)
  | text => some (.ok (.text s))
  | merge => none
  | default => none
  | indicator => none

end ScalarKind

end NoteQuery.Yaml
