import NoteQuery.Text.Basic
import NoteQuery.Text.Digit
import NoteQuery.Text.Printable

/-!
# Event tags

A tag of markup that starts with `@` names an event. Its parameter names a handler, with
arguments in brackets, or is an argument itself. Arguments are literals: numbers, texts,
the words `None`, `True` and `False`, and tuples, sets and dictionaries of these. Only
whether a parameter is well formed matters here.
-/
namespace NoteQuery.EventTag

/-- What kind of literal has been read: a real or an imaginary number, either of them behind
a sign, or something else that may or may not be a key. -/
inductive Shape where
  | real
  | imaginary
  | signedReal
  | signedImaginary
  | key
  | collection
  deriving DecidableEq, Repr

/-- Whether a literal may be in a set or a key of a dictionary. -/
def Shape.isKey (s : Shape) : Bool := s != .collection

/-! ## Blanks -/

/-- Passes over blanks and comments; line breaks only count as blanks within brackets or
behind a backslash. -/
def skip (inside comment : Bool) : Text → Text
  | [] => []
  | '\\' :: '\n' :: rest =>
    if !comment || inside then skip inside false rest else '\n' :: rest
  | c :: rest =>
    if c == '\n' then if inside then skip inside false rest else c :: rest
    else if comment || c == '#' then skip inside true rest
    else if c == ' ' || c == '\t' || c.toNat == 0x0c then skip inside false rest
    else c :: rest

/-! ## Numbers -/

def isDecimal (c : Char) : Bool := '0' ≤ c && c ≤ '9'

def isHex (c : Char) : Bool := isDecimal c || ('a' ≤ c.toLower && c.toLower ≤ 'f')

/-- The digits behind a letter that gives the base, perhaps with an underscore in front. -/
def basedRest? (p : Char → Bool) (s : Text) : Option Text :=
  let s := match s with
    | '_' :: rest => rest
    | s => s
  let digits := Text.digitRun p s
  if digits.isEmpty then none else some (s.drop digits.length)

def skipExponent (s : Text) : Option Text :=
  match s with
  | e :: rest =>
    if e.toLower == 'e' then
      let rest := match rest with
        | '+' :: r => r
        | '-' :: r => r
        | r => r
      let digits := Text.digitRun isDecimal rest
      if digits.isEmpty then none else some (rest.drop digits.length)
    else none
  | [] => none

/-- A number without a sign. An integer that is not zero starts with no zero. -/
def decimal? (s : Text) : Option (Shape × Text) :=
  let whole := Text.digitRun isDecimal s
  let rest := s.drop whole.length
  let (point, rest) := match rest with
    | '.' :: r => (true, r.drop (Text.digitRun isDecimal r).length)
    | r => (false, r)
  let hasDigits := !whole.isEmpty || (point && (s.drop 1).head?.any isDecimal)
  if !hasDigits then none
  else
    let (isFloat, rest) := match skipExponent rest with
      | some r => (true, r)
      | none => (point, rest)
    match rest with
    | j :: r =>
      if j.toLower == 'j' then some (.imaginary, r)
      else if isFloat || whole.head? != some '0' || whole.all (fun c => c == '0' || c == '_') then
        some (.real, rest)
      else none
    | [] =>
      if isFloat || whole.head? != some '0' || whole.all (fun c => c == '0' || c == '_') then
        some (.real, rest)
      else none

def number? (s : Text) : Option (Shape × Text) :=
  match s with
  | '0' :: x :: rest =>
    if x.toLower == 'x' then (basedRest? isHex rest).map fun r => (.real, r)
    else if x.toLower == 'o' then
      (basedRest? (fun c => '0' ≤ c && c ≤ '7') rest).map fun r => (.real, r)
    else if x.toLower == 'b' then
      (basedRest? (fun c => c == '0' || c == '1') rest).map fun r => (.real, r)
    else decimal? s
  | s => decimal? s

/-! ## Texts -/

/-- How a text in quotes is written: its letters in front, and its quotes. -/
structure Quotation where
  raw : Bool
  bytes : Bool
  quote : Char
  triple : Bool

/-- How many hexadecimal digits an escape needs. -/
def escapeDigits (bytes : Bool) (c : Char) : Nat :=
  if c == 'x' then 2 else if bytes then 0 else if c == 'u' then 4 else if c == 'U' then 8 else 0

/-- The rest behind the closing quote of a text, of which `left` characters are to be passed
over. -/
def textRest? (q : Quotation) : (left : Nat) → Text → Option Text
  | _, [] => none
  | left + 1, _ :: rest => textRest? q left rest
  | 0, c :: rest =>
    if c == '\\' then
      match rest with
      | [] => none
      | e :: more =>
        let count := if q.raw then 0 else escapeDigits q.bytes e
        let digits := more.take count
        if digits.length < count || !digits.all isHex then none
        else if count == 8 &&
            !(['0', '0', '0'].isPrefixOf digits || "0010".toList.isPrefixOf digits)
        then none
        else textRest? q (1 + count) rest
    else if c == q.quote && (!q.triple || [c, c].isPrefixOf rest) then
      some (rest.drop (if q.triple then 2 else 0))
    else if c == '\n' && !q.triple then none
    else if q.bytes && 0x80 ≤ c.toNat then none
    else textRest? q 0 rest

/-- The letters that may stand in front of a text: whether it is raw, and whether it holds
bytes. -/
def letters : List (Text × Bool × Bool) :=
  [([], false, false), (['r'], true, false), (['u'], false, false), (['b'], false, true),
    (['b', 'r'], true, true), (['r', 'b'], true, true)]

def quoted? (s : Text) : Option (Bool × Text) := do
  let start := (s.take 2).takeWhile Char.isAlpha
  let (raw, bytes) ← letters.lookup (start.map Char.toLower)
  match s.drop start.length with
  | q :: rest =>
    if q == '\'' || q == '"' then
      let triple := [q, q].isPrefixOf rest
      let rest ← textRest? ⟨raw, bytes, q, triple⟩ 0 (if triple then rest.drop 2 else rest)
      some (bytes, rest)
    else none
  | [] => none

/-- Texts that follow one another are one text; those of bytes keep to themselves. -/
def texts? (inside bytes : Bool) : Nat → Text → Option Text
  | 0, _ => none
  | fuel + 1, s =>
    match quoted? (skip inside false s) with
    | some (b, rest) => if b == bytes then texts? inside bytes fuel rest else none
    | none => some s

/-! ## Literals -/

/-- The characters of names; of those beyond ASCII all that can be printed. -/
def isNameChar (c : Char) : Bool :=
  c.isAlphanum || c == '_' || (0x80 ≤ c.toNat && Text.isPrintable c)

def words : List Text := ["None".toList, "True".toList, "False".toList]

def word? (inside : Bool) (s : Text) : Option (Shape × Text) :=
  let name := s.takeWhile isNameChar
  let rest := s.drop name.length
  if words.contains name then some (.key, rest)
  else if name == "set".toList then
    match skip inside false rest with
    | '(' :: rest =>
      match skip true false rest with
      | ')' :: rest => some (.collection, rest)
      | _ => none
    | _ => none
  else none

mutual

/-- A literal that needs no sign. -/
def atom? (inside : Bool) (fuel : Nat) (s : Text) : Option (Shape × Text) :=
  match fuel with
  | 0 => none
  | fuel + 1 =>
    match s with
    | '.' :: '.' :: '.' :: rest => some (.key, rest)
    | '(' :: rest =>
      match skip true false rest with
      | ')' :: rest => some (.key, rest)
      | rest => do
        let (first, rest) ← literal? true fuel rest
        match skip true false rest with
        | ')' :: rest => some (first, rest)
        | ',' :: rest => do
          let (shape, rest) ← items? true fuel first rest
          match skip true false rest with
          | ')' :: rest => some (shape, rest)
          | _ => none
        | _ => none
    | '\x7b' :: rest =>
      match skip true false rest with
      | '\x7d' :: rest => some (.collection, rest)
      | rest => do
        let (first, rest) ← literal? true fuel rest
        if !first.isKey then none
        else
          match skip true false rest with
          | ':' :: rest => do
            let (_, rest) ← literal? true fuel (skip true false rest)
            pairs? fuel rest
          | ',' :: rest => do
            let (shape, rest) ← items? true fuel first rest
            match skip true false rest with
            | '\x7d' :: rest => if shape.isKey then some (.collection, rest) else none
            | _ => none
          | '\x7d' :: rest => some (.collection, rest)
          | _ => none
    | s =>
      match number? s with
      | some r => some r
      | none =>
        match quoted? s with
        | some (bytes, rest) =>
          (texts? inside bytes (rest.length + 1) rest).map fun rest => (.key, rest)
        | none => word? inside s

/-- A literal, perhaps with a sign, or the sum of a real and an imaginary number. -/
def literal? (inside : Bool) (fuel : Nat) (s : Text) : Option (Shape × Text) :=
  match fuel with
  | 0 => none
  | fuel + 1 => do
    let isSign (c : Char) : Bool := c == '+' || c == '-'
    let (left, rest) ←
      if s.head?.any isSign then do
        let (shape, rest) ← atom? inside fuel (skip inside false (s.drop 1))
        match shape with
        | .real => some (Shape.signedReal, rest)
        | .imaginary => some (Shape.signedImaginary, rest)
        | _ => none
      else atom? inside fuel s
    match skip inside false rest with
    | c :: more =>
      if isSign c then do
        let (right, rest) ← atom? inside fuel (skip inside false more)
        if (left == .real || left == .signedReal) && right == .imaginary then some (.key, rest)
        else none
      else some (left, rest)
    | [] => some (left, rest)

/-- The further items of a tuple or a set, a comma having been read; a comma may end them.
The shape is that of the tuple. -/
def items? (inside : Bool) (fuel : Nat) (before : Shape) (s : Text) : Option (Shape × Text) :=
  match fuel with
  | 0 => none
  | fuel + 1 =>
    let shape := if before.isKey then .key else .collection
    match skip inside false s with
    | [] => some (shape, [])
    | '\n' :: rest => some (shape, '\n' :: rest)
    | ')' :: rest => some (shape, ')' :: rest)
    | '\x7d' :: rest => some (shape, '\x7d' :: rest)
    | s => do
      let (item, rest) ← literal? inside fuel s
      let shape := if item.isKey then shape else .collection
      match skip inside false rest with
      | ',' :: rest => items? inside fuel shape rest
      | rest => some (shape, rest)

/-- The further entries of a dictionary, a value having been read. -/
def pairs? (fuel : Nat) (s : Text) : Option (Shape × Text) :=
  match fuel with
  | 0 => none
  | fuel + 1 =>
    match skip true false s with
    | '\x7d' :: rest => some (.collection, rest)
    | ',' :: rest =>
      match skip true false rest with
      | '\x7d' :: rest => some (.collection, rest)
      | rest => do
        let (name, rest) ← literal? true fuel rest
        if !name.isKey then none
        else
          match skip true false rest with
          | ':' :: rest => do
            let (_, rest) ← literal? true fuel (skip true false rest)
            pairs? fuel rest
          | _ => none
    | _ => none

end

/-- Whether a text is one literal, or several with commas between them. -/
def isLiteral (s : Text) : Bool :=
  match literal? false (4 * s.length + 4) (skip true false s) with
  | none => false
  | some (first, rest) =>
    match skip false false rest with
    | ',' :: rest =>
      match items? false (4 * s.length + 4) first rest with
      | some (_, rest) => (skip true false rest).isEmpty
      | none => false
    | rest => (skip true false rest).isEmpty

/-- Whether the parameter of an event tag is well formed: the name of a handler, perhaps with
arguments in brackets on one line, or literals alone. -/
def isParameter (s : Text) : Bool :=
  let s := Text.trim s
  let call := s.dropWhile fun c => isNameChar c || c == '.'
  if call.isEmpty then true
  else if call.head? == some '(' && call.getLast? == some ')' && 2 ≤ call.length
      && !call.contains '\n' then
    isLiteral call
  else isLiteral s

end NoteQuery.EventTag
