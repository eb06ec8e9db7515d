import NoteQuery.Text.Surrogate
import NoteQuery.Value.Basic
import NoteQuery.Value.ReadError

/-!
# JSON

Reading and writing JSON texts. The reader also takes `NaN`, `Infinity` and
`-Infinity`; of several values under one key the last counts, in the place of the
first. The writer escapes everything beyond printable ASCII. Halves of surrogate pairs may be
written, and stay what they are.
-/
namespace NoteQuery.Json

/-- How a text breaks the grammar. -/
inductive Problem where
  | noValue
  | noName
  | noColon
  | noComma
  | openString
  | controlCharacter
  | escape
  | unicodeEscape
  | moreText
  | byteOrderMark
  deriving DecidableEq, Repr

def Problem.text : Problem → Text
  | noValue => "Expecting value".toList
  | noName => "Expecting property name enclosed in double quotes".toList
  | noColon => "Expecting ':' delimiter".toList
  | noComma => "Expecting ',' delimiter".toList
  | openString => "Unterminated string starting at".toList
  | controlCharacter => "Invalid control character at".toList
  | escape => "Invalid \\escape".toList
  | unicodeEscape => "Invalid \\uXXXX escape".toList
  | moreText => "Extra data".toList
  | byteOrderMark => "Unexpected UTF-8 BOM (decode using utf-8-sig)".toList

inductive Fault where
  /-- A problem at a place from which so many characters are left. -/
  | grammar (p : Problem) (left : Nat)
  /-- An integer of more digits than are converted. -/
  | tooManyDigits (count : Nat)

def isSpace (c : Char) : Bool := c == ' ' || c == '\t' || c == '\n' || c == '\r'

def skipSpace (s : Text) : Text := s.dropWhile isSpace

/-- The character that a pair of code units writes. -/
def pairChar (high low : Nat) : Char :=
  Char.ofNat (0x10000 + (high - 0xd800) * 0x400 + (low - 0xdc00))

/-- The character of a `\u` escape, the text starting behind the `u`. Something must stand
behind its last digits. -/
def unicodeEscape? (s : Text) : Option (Char × Text) := do
  let (n, rest) ← Text.hexDigits? 4 0 s
  if rest.isEmpty then none
  else if Text.isHighSurrogate n then
    match rest with
    | '\\' :: 'u' :: more =>
      match Text.hexDigits? 4 0 more with
      | some (low, rest') =>
        if Text.isLowSurrogate low && !rest'.isEmpty then some (pairChar n low, rest')
        else some (Text.ofCodePoint n, rest)
      | none => some (Text.ofCodePoint n, rest)
    | _ => some (Text.ofCodePoint n, rest)
  else some (Text.ofCodePoint n, rest)

def simpleEscape? : Char → Option Char
  | '"' => some '"'
  | '\\' => some '\\'
  | '/' => some '/'
  | 'b' => some (Char.ofNat 8)
  | 'f' => some (Char.ofNat 12)
  | 'n' => some '\n'
  | 'r' => some '\r'
  | 't' => some '\t'
  | _ => none

/-- One character of a string, as it is written at the start of a text; control characters
are refused. Nothing if the text ends first. -/
def stringChar? : Text → Option (Except Fault (Char × Text))
  | [] => none
  | ['\\'] => none
  | '\\' :: 'u' :: rest =>
    match unicodeEscape? rest with
    | some r => some (.ok r)
    | none => some (.error (.grammar .unicodeEscape (rest.length + 1)))
  | '\\' :: e :: rest =>
    match simpleEscape? e with
    | some c => some (.ok (c, rest))
    | none => some (.error (.grammar .escape (rest.length + 2)))
  | c :: rest =>
    if c.toNat < 0x20 then some (.error (.grammar .controlCharacter (rest.length + 1)))
    else some (.ok (c, rest))

/-- The rest of a string behind its opening quote, if it is closed; `seen` is what has been
read of it, the last character first. -/
def stringFrom? (seen : Text) : Nat → Text → Option (Except Fault (Text × Text))
  | 0, _ => none
  | fuel + 1, s =>
    match s with
    | '"' :: rest => some (.ok (seen.reverse, rest))
    | s =>
      match stringChar? s with
      | none => none
      | some (.error e) => some (.error e)
      | some (.ok (c, rest)) => stringFrom? (c :: seen) fuel rest

/-- The rest of a string behind its opening quote, in a text of a size. -/
def string (size : Nat) (s : Text) : Except Fault (Text × Text) :=
  (stringFrom? [] (size + 1) s).getD (.error (.grammar .openString (s.length + 1)))

/-- The exponent part of a number, if a whole one stands here. -/
def exponent? : Text → Option (Int × Text)
  | e :: rest =>
    if e == 'e' || e == 'E' then
      let (negative, digits) := match rest with
        | '-' :: r => (true, r)
        | '+' :: r => (false, r)
        | r => (false, r)
      let ds := digits.takeWhile Text.isAsciiDigit
      if ds.isEmpty then none
      else
        let n : Int := Text.decimal ds
        some (if negative then -n else n, digits.dropWhile Text.isAsciiDigit)
    else none
  | [] => none

/-- The fraction digits of a number, if a point with digits stands here. -/
def fraction? : Text → Option (Text × Text)
  | '.' :: rest =>
    let ds := rest.takeWhile Text.isAsciiDigit
    if ds.isEmpty then none else some (ds, rest.dropWhile Text.isAsciiDigit)
  | _ => none

/-- A number behind its sign, if digits stand there. A fraction or an exponent makes it a
float. -/
def number? (negative : Bool) (s : Text) : Option (Except Fault (Value × Text)) :=
  let whole := match s with
    | '0' :: _ => ['0']
    | s => s.takeWhile Text.isAsciiDigit
  let rest := s.drop whole.length
  if whole.isEmpty then none
  else
    match fraction? rest, exponent? rest with
    | none, none =>
      if ReadError.digitLimit < whole.length then some (.error (.tooManyDigits whole.length))
      else
        let n : Int := Text.decimal whole
        some (.ok (.int (if negative then -n else n), rest))
    | some (fraction, rest), _ =>
      let (e, rest) := (exponent? rest).getD (0, rest)
      some (.ok (.float (.ofDecimal negative (Text.decimal (whole ++ fraction))
        (e - fraction.length)), rest))
    | none, some (e, rest) =>
      some (.ok (.float (.ofDecimal negative (Text.decimal whole) e), rest))

def words : List (Text × Value) :=
  [("null".toList, .null), ("true".toList, .bool true), ("false".toList, .bool false),
    ("NaN".toList, .float .nan), ("Infinity".toList, .float (.infinite false)),
    ("-Infinity".toList, .float (.infinite true))]

/-- A word or a number at the start of a text. -/
def scalar (s : Text) : Except Fault (Value × Text) :=
  match words.find? (·.1.isPrefixOf s) with
  | some (word, v) => .ok (v, s.drop word.length)
  | none =>
    (match s with
      | '-' :: rest => number? true rest
      | s => number? false s).getD (.error (.grammar .noValue s.length))

mutual

/-- A value at the start of the rest of a text of a size, and what follows. The second argument
bounds the depth and the number of items. -/
def value (size fuel : Nat) (s : Text) : Except Fault (Value × Text) :=
  match fuel with
  | 0 => .error (.grammar .noValue s.length)
  | fuel + 1 =>
    match s with
    | '"' :: rest => (string size rest).map fun (t, rest) => (.text t, rest)
    | '[' :: rest =>
      match skipSpace rest with
      | ']' :: rest => .ok (.list [], rest)
      | rest => (items size fuel rest).map fun (vs, rest) => (.list vs, rest)
    | '\x7b' :: rest =>
      match skipSpace rest with
      | '\x7d' :: rest => .ok (.dict [], rest)
      | rest => (entries size fuel [] rest).map fun (es, rest) => (.dict es, rest)
    | s => scalar s

def items (size fuel : Nat) (s : Text) : Except Fault (List Value × Text) :=
  match fuel with
  | 0 => .error (.grammar .noValue s.length)
  | fuel + 1 => do
    let (v, rest) ← value size fuel s
    match skipSpace rest with
    | ']' :: rest => .ok ([v], rest)
    | ',' :: rest =>
      let (vs, rest) ← items size fuel (skipSpace rest)
      .ok (v :: vs, rest)
    | rest => .error (.grammar .noComma rest.length)

/-- The entries of a dictionary up to its closing brace, added to those before. -/
def entries (size fuel : Nat) (seen : List (Value × Value)) (s : Text) :
    Except Fault (List (Value × Value) × Text) :=
  match fuel with
  | 0 => .error (.grammar .noName s.length)
  | fuel + 1 =>
    match s with
    | '"' :: rest => do
      let (key, rest) ← string size rest
      match skipSpace rest with
      | ':' :: rest =>
        let (v, rest) ← value size fuel (skipSpace rest)
        let seen := Value.setEntry (.text key) v seen
        match skipSpace rest with
        | '\x7d' :: rest => .ok (seen, rest)
        | ',' :: rest => entries size fuel seen (skipSpace rest)
        | rest => .error (.grammar .noComma rest.length)
      | rest => .error (.grammar .noColon rest.length)
    | s => .error (.grammar .noName s.length)

end

def document (s : Text) : Except Fault Value :=
  if s.head?.any (·.toNat == 0xfeff) then .error (.grammar .byteOrderMark s.length)
  else do
    let size := s.length
    let (v, rest) ← value size (2 * size + 2) (skipSpace s)
    match skipSpace rest with
    | [] => .ok v
    | rest => .error (.grammar .moreText rest.length)

/-- What is said about a problem, with its place in lines and columns, both counted from one,
and in characters from the start. -/
def Problem.message (p : Problem) (s : Text) (left : Nat) : Text :=
  let before := s.take (s.length - left)
  let line := (before.filter (· == '\n')).length + 1
  let column := (before.reverse.takeWhile (· != '\n')).length + 1
  p.text ++ ": line ".toList ++ Text.ofNat line ++ " column ".toList ++ Text.ofNat column
    ++ " (char ".toList ++ Text.ofNat before.length ++ [')']

def read (s : Text) : Except ReadError Value :=
  match document s with
  | .ok v => .ok v
  | .error (.grammar p left) => .error (.malformed [.words (p.message s left)])
  | .error (.tooManyDigits count) => .error (.tooManyDigits count)

/-- A code unit of four hexadecimal digits. -/
def unitText (n : Nat) : Text := ['\\', 'u'] ++ Text.ofNatHex 4 n

def escapeChar (c : Char) : Text :=
  let n := Text.codePoint c
  if c == '"' then ['\\', '"']
  else if c == '\\' then ['\\', '\\']
  else if c == '\n' then ['\\', 'n']
  else if c == '\r' then ['\\', 'r']
  else if c == '\t' then ['\\', 't']
  else if n == 8 then ['\\', 'b']
  else if n == 12 then ['\\', 'f']
  else if 0x20 ≤ n && n < 0x7f then [c]
  else if n < 0x10000 then unitText n
  else unitText (0xd800 + (n - 0x10000) / 0x400) ++ unitText (0xdc00 + (n - 0x10000) % 0x400)

def stringText (s : Text) : Text := ['"'] ++ s.flatMap escapeChar ++ ['"']

def floatText : Double → Text
  | .nan => "NaN".toList
  | .infinite negative => if negative then "-Infinity".toList else "Infinity".toList
  | x => x.toText

/-- How items are set apart: on one line, or on lines of their own under an indent. -/
inductive Layout where
  | line
  | indented (depth : Nat)

namespace Layout

def deeper : Layout → Layout
  | line => line
  | indented depth => indented (depth + 1)

def lineBreak : Layout → Text
  | line => []
  | indented depth => '\n' :: List.replicate (2 * depth) ' '

/-- What stands between two items, the break apart. -/
def comma : Layout → Text
  | line => [',', ' ']
  | indented _ => [',']

/-- Items in brackets; brackets without items stay on one line. -/
def enclose (l : Layout) (opening closing : Char) (items : List Text) : Text :=
  if items.isEmpty then [opening, closing]
  else
    [opening] ++ l.deeper.lineBreak ++ Text.join (l.comma ++ l.deeper.lineBreak) items
      ++ l.lineBreak ++ [closing]

end Layout

mutual

/-- The JSON text of a value; values that JSON does not know are written as strings. -/
def textWith (l : Layout) : Value → Text
  | .null => "null".toList
  | .bool b => if b then "true".toList else "false".toList
  | .int n => Text.ofInt n
  | .float x => floatText x
  | .text s => stringText s
  | .date d => stringText d.toText
  | .moment m => stringText (m.toTextWith 'T')
  | .clock t => stringText t.timeText
  | .list items => l.enclose '[' ']' (itemTexts l.deeper items)
  | .dict entries => l.enclose '\x7b' '\x7d' (entryTexts l.deeper entries)

def itemTexts (l : Layout) : List Value → List Text
  | [] => []
  | v :: rest => textWith l v :: itemTexts l rest

def entryTexts (l : Layout) : List (Value × Value) → List Text
  | [] => []
  | (k, v) :: rest =>
    (stringText k.toText ++ [':', ' '] ++ textWith l v) :: entryTexts l rest

end

def text (v : Value) : Text := textWith .line v

/-- A value over several lines, two spaces deeper for each level. -/
def indentedText (v : Value) : Text := textWith (.indented 0) v

end NoteQuery.Json
