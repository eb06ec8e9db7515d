import NoteQuery.Text.Surrogate
import NoteQuery.Text.Utf8
import NoteQuery.Value.Yaml.Token

/-!
# YAML: lexemes

Readers of the tokens that are more than a mark: directives, names, tags and the five
styles of scalars. Each starts at the first character of its token and gives the place
behind it. Line breaks within scalars are folded, except in literal blocks.
-/
namespace NoteQuery.Yaml

namespace Place

/-- The place behind spaces, comments and line breaks, and whether a line ended there. -/
def skipFrom (broken : Bool) : Nat → Place → Bool × Place
  | 0, p => (broken, p)
  | fuel + 1, p =>
    let p := (p.pass (· == ' ')).passComment
    if p.isAt isBreak then skipFrom true fuel p.next else (broken, p)

/-- The place of the next token, and whether a line ended on the way. -/
def skip (p : Place) : Bool × Place := skipFrom false (p.left + 1) p

end Place

/-- What was expected at a place, and what stands there. -/
def expected (context : Text) (start : Mark) (what : Text) (p : Place) : ReadError :=
  complainWithin context start (what ++ ", but found ".toList ++ p.found) p.mark

def restOfLine (context : Text) (start : Mark) (p : Place) : Except ReadError Place :=
  let q := (p.pass (· == ' ')).passComment
  if atLineEnd q.rest then .ok q.next
  else .error (expected context start "expected a comment or a line break".toList q)

/-! ## Names, tags and directives -/

def isNameChar (c : Char) : Bool :=
  Text.isAsciiDigit c || ('A' ≤ c && c ≤ 'Z') || ('a' ≤ c && c ≤ 'z') || c == '-'
    || c == '_'

def notName : Text := "expected alphabetic or numeric character".toList

/-- A name behind its mark. What follows it must be among what may end it. -/
def name (context : Text) (start : Mark) (ends : Text → Bool) (p : Place) :
    Except ReadError (Text × Place) :=
  let s := p.run isNameChar
  let q := p.forward s.length
  if s.isEmpty || !ends q.rest then .error (expected context start notName q) else .ok (s, q)

def endsAnchor (s : Text) : Bool :=
  atGap s || (s.head?.any fun c => "?:,]\x7d%@".toList.contains c || c.toNat == 0x60)

def anchorName (kind : String) (p : Place) : Except ReadError (Text × Place) :=
  name ("while scanning an ".toList ++ kind.toList) p.mark endsAnchor p.next

def isTagChar (c : Char) : Bool :=
  isNameChar c || ";/?:@&=+$,.!~*'()[]%".toList.contains c

/-- The bytes that escapes with percent signs write, from a place on. -/
def tagBytes (context : Text) (start : Mark) :
    Nat → Place → Except ReadError (List UInt8 × Place)
  | 0, p => .ok ([], p)
  | fuel + 1, p =>
    if p.isAt (· == '%') then
      match Text.hexDigits? 2 0 p.next.rest with
      | some (n, _) => do
        let (bytes, q) ← tagBytes context start fuel (p.forward 3)
        .ok (UInt8.ofNat n :: bytes, q)
      | none =>
        let digit := (p.next.rest.takeWhile Text.isHexDigit).length
        .error (complainWithin context start
          ("expected URI escape sequence of 2 hexadecimal numbers, but found ".toList
            ++ (p.next.forward digit).found) p.next.mark)
    else .ok ([], p)

/-- The text of a tag up to a character that it cannot hold. -/
def tagTextFrom (context : Text) (start : Mark) : Nat → Place → Except ReadError (Text × Place)
  | 0, p => .ok ([], p)
  | fuel + 1, p =>
    if p.isAt (· == '%') then do
      let (bytes, q) ← tagBytes context start (p.left + 1) p
      match String.fromUTF8? ⟨bytes.toArray⟩ with
      | some s =>
        let (more, q) ← tagTextFrom context start fuel q
        .ok (s.toList ++ more, q)
      | none =>
        .error (complainWithin context start
          (((Utf8.fault? bytes).map Utf8.Fault.message).getD []) p.mark)
    else
      let s := p.run fun c => isTagChar c && c != '%'
      if s.isEmpty then .ok ([], p)
      else do
        let (more, q) ← tagTextFrom context start fuel (p.forward s.length)
        .ok (s ++ more, q)

/-- The text of a tag, which must not be empty. -/
def tagText (kind : String) (start : Mark) (p : Place) : Except ReadError (Text × Place) :=
  if p.isAt isTagChar then
    tagTextFrom ("while scanning a ".toList ++ kind.toList) start (p.left + 1) p
  else .error (expected ("while parsing a ".toList ++ kind.toList) start "expected URI".toList p)

/-- The handle of a tag: one mark, or a name between two. -/
def tagHandle (kind : String) (start : Mark) (p : Place) : Except ReadError (Text × Place) :=
  let missing (p : Place) : ReadError :=
    expected ("while scanning a ".toList ++ kind.toList) start "expected '!'".toList p
  if p.isAt (· == '!') then
    if p.next.isAt (· == ' ') then .ok (['!'], p.next)
    else
      let s := p.next.run isNameChar
      let q := p.next.forward s.length
      if q.isAt (· == '!') then .ok ('!' :: s ++ ['!'], q.next) else .error (missing q)
  else .error (missing p)

def tag (p : Place) : Except ReadError (TagName × Place) := do
  let start := p.mark
  let (t, q) ←
    if p.next.isAt (· == '<') then do
      let (s, q) ← tagText "tag" start (p.forward 2)
      if q.isAt (· == '>') then .ok ((⟨none, s⟩ : TagName), q.next)
      else .error (expected "while parsing a tag".toList start "expected '>'".toList q)
    else if atGap p.next.rest then .ok (⟨none, ['!']⟩, p.next)
    else do
      let word := p.next.run fun c => c != ' ' && !isBreak c
      let (handle, q) ← if word.contains '!' then tagHandle "tag" start p else .ok (['!'], p.next)
      let (s, q) ← tagText "tag" start q
      .ok (⟨some handle, s⟩, q)
  if atSpace q.rest then .ok (t, q)
  else .error (expected "while scanning a tag".toList start "expected ' '".toList q)

def inDirective : Text := "while scanning a directive".toList

def versionNumber (start : Mark) (p : Place) : Except ReadError (Nat × Place) :=
  let digits := p.run Text.isAsciiDigit
  if digits.isEmpty then .error (expected inDirective start "expected a digit".toList p)
  else if ReadError.digitLimit < digits.length then .error (.tooManyDigits digits.length)
  else .ok (Text.decimal digits, p.forward digits.length)

def version (start : Mark) (p : Place) : Except ReadError (Directive × Place) := do
  let (major, p) ← versionNumber start (p.pass (· == ' '))
  if p.isAt (· == '.') then
    let (_, p) ← versionNumber start p.next
    if atSpace p.rest then .ok (.version major, p)
    else .error (expected inDirective start "expected a digit or ' '".toList p)
  else .error (expected inDirective start "expected a digit or '.'".toList p)

def handleMeaning (start : Mark) (p : Place) : Except ReadError (Directive × Place) := do
  let (handle, p) ← tagHandle "directive" start (p.pass (· == ' '))
  if p.isAt (· == ' ') then
    let (meaning, p) ← tagText "directive" start (p.pass (· == ' '))
    if atSpace p.rest then .ok (.handle handle meaning, p)
    else .error (expected inDirective start "expected ' '".toList p)
  else .error (expected inDirective start "expected ' '".toList p)

def directive (p : Place) : Except ReadError (Directive × Place) := do
  let start := p.mark
  let (word, q) ← name inDirective start atSpace p.next
  let (d, q) ←
    if word == "YAML".toList then version start q
    else if word == "TAG".toList then handleMeaning start q
    else .ok (.other, q.pass fun c => !isBreak c)
  .ok (d, ← restOfLine inDirective start q)

/-! ## Quoted scalars -/

/-- A line break within a scalar and those behind it, folded: one alone is a space, and of
several the first is dropped. -/
def fold (first : Char) (more : Text) : Text :=
  if first != '\n' then first :: more else if more.isEmpty then [' '] else more

def inQuotes : Text := "while scanning a quoted scalar".toList

/-- The line breaks within a quoted scalar, from the start of a line up to a character that
is not blank. No document marker may start a line. -/
def quotedBreaks (start : Mark) : Nat → Place → Except ReadError (Text × Place)
  | 0, p => .ok ([], p)
  | fuel + 1, p =>
    if atMarker p.rest then
      .error (complainWithin inQuotes start "found unexpected document separator".toList p.mark)
    else
      let p := p.pass isBlank
      match p.peek? with
      | some c =>
        if isBreak c then do
          let (more, q) ← quotedBreaks start fuel p.next
          .ok (breakText c :: more, q)
        else .ok ([], p)
      | none => .ok ([], p)

/-- The blanks and line breaks at a place in a quoted scalar. -/
def quotedSpace (start : Mark) (p : Place) : Except ReadError (Text × Place) :=
  let blanks := p.run isBlank
  let p := p.forward blanks.length
  match p.peek? with
  | none => .error (complainWithin inQuotes start "found unexpected end of stream".toList p.mark)
  | some c =>
    if isBreak c then do
      let (more, q) ← quotedBreaks start (p.left + 1) p.next
      .ok (fold (breakText c) more, q)
    else .ok (blanks, p)

def simpleEscapes : List (Char × Nat) :=
  [('0', 0), ('a', 7), ('b', 8), ('t', 9), ('\t', 9), ('n', 10), ('v', 11), ('f', 12), ('r', 13),
    ('e', 0x1b), (' ', 0x20), ('"', 0x22), ('\\', 0x5c), ('/', 0x2f), ('N', 0x85), ('_', 0xa0),
    ('L', 0x2028), ('P', 0x2029)]

/-- How many digits follow the letter of an escape. -/
def escapeSize? : Char → Option Nat
  | 'x' => some 2
  | 'u' => some 4
  | 'U' => some 8
  | _ => none

/-- The character of a number that is escaped. Halves of surrogate pairs stay halves. -/
def escaped (n : Nat) : Except ReadError Char :=
  if n < 0x110000 then .ok (Text.ofCodePoint n)
  else if n < 0x80000000 then .error (.invalid "chr() arg not in range(0x110000)".toList)
  else .error .beyondCharacters

def escape (start : Mark) (p : Place) : Except ReadError (Text × Place) :=
  let context : Text := "while scanning a double-quoted scalar".toList
  let unknown : ReadError :=
    complainWithin context start ("found unknown escape character ".toList ++ p.found) p.mark
  match p.peek? with
  | none => .error unknown
  | some c =>
    match simpleEscapes.lookup c, escapeSize? c with
    | some n, _ => .ok ([Char.ofNat n], p.next)
    | none, some size =>
      let q := p.next
      match Text.hexDigits? size 0 q.rest with
      | some (n, _) => (escaped n).map fun c => ([c], q.forward size)
      | none =>
        .error (complainWithin context start
          ("expected escape sequence of ".toList ++ Text.ofNat size
            ++ " hexadecimal numbers, but found ".toList ++ (q.pass Text.isHexDigit).found) q.mark)
    | none, none =>
      if isBreak c then quotedBreaks start (p.left + 1) p.next else .error unknown

/-- What the characters at a place in a quoted scalar stand for; nothing if they close it. -/
def quotedPiece (double : Bool) (start : Mark) (p : Place) :
    Except ReadError (Option (Text × Place)) :=
  match p.rest with
  | '\'' :: '\'' :: _ => .ok (some (['\''], if double then p.next else p.forward 2))
  | [] => (quotedSpace start p).map some
  | c :: _ =>
    if c == (if double then '"' else '\'') then .ok none
    else if c == '\\' && double then (escape start p.next).map some
    else if isBlank c || isBreak c then (quotedSpace start p).map some
    else .ok (some ([c], p.next))

def quotedFrom (double : Bool) (start : Mark) : Nat → Place → Except ReadError (Text × Place)
  | 0, p => .error (complainWithin inQuotes start "found unexpected end of stream".toList p.mark)
  | fuel + 1, p => do
    match ← quotedPiece double start p with
    | none => .ok ([], p.next)
    | some (s, q) =>
      let (more, stop) ← quotedFrom double start fuel q
      .ok (s ++ more, stop)

/-- A scalar in single or double quotes. -/
def quoted (double : Bool) (p : Place) : Except ReadError (Text × Place) :=
  quotedFrom double p.mark (p.left + 1) p.next

/-! ## Plain scalars -/

def isBracket (c : Char) : Bool := c == '[' || c == ']' || c == '\x7b' || c == '\x7d'

def endsKey (flow : Bool) (s : Text) : Bool :=
  atGap s || (flow && s.head?.any fun c => c == ',' || isBracket c)

def stopsPlain (flow : Bool) (s : Text) : Bool :=
  match s with
  | [] => true
  | c :: rest =>
    atGap s || (c == ':' && endsKey flow rest)
      || (flow && (c == ',' || c == '?' || isBracket c))

/-- The characters of a plain scalar up to a gap or a mark. -/
def plainWord (flow : Bool) : Text → Text
  | [] => []
  | c :: rest => if stopsPlain flow (c :: rest) then [] else c :: plainWord flow rest

/-- The line breaks behind a word of a plain scalar, from the start of a line up to a
character that is neither space nor break; nothing if a document marker ends the scalar. -/
def plainBreaks (seen : Text) : Nat → Place → Option Text × Place
  | 0, p => (some seen, p)
  | fuel + 1, p =>
    if atMarker p.rest then (none, p)
    else
      let p := p.pass (· == ' ')
      match p.peek? with
      | some c =>
        if isBreak c then plainBreaks (seen ++ [breakText c]) fuel p.next else (some seen, p)
      | none => (some seen, p)

/-- A plain scalar. -/
structure Plain where
  text : Text
  /-- Where its last word stops. -/
  stop : Mark
  /-- The place behind the space that follows it. -/
  place : Place
  /-- Whether that space holds a line break. -/
  broken : Bool

/-- What stands behind a word of a plain scalar, folded, the place behind it, and whether a
line ends there. -/
def plainSpace (p : Place) : Text × Place × Bool :=
  let blanks := p.run (· == ' ')
  let p := p.forward blanks.length
  match p.peek? with
  | some c =>
    if isBreak c then
      match plainBreaks [] (p.left + 1) p.next with
      | (some more, q) => (fold (breakText c) more, q, true)
      | (none, q) => ([], q, true)
    else (blanks, p, false)
  | none => (blanks, p, false)

/-- A plain scalar from a word on, going on over lines that are indented to at least
`least`. -/
def plainFrom (flow : Bool) (least : Nat) : Nat → Place → Plain
  | 0, p => ⟨[], p.mark, p, false⟩
  | fuel + 1, p =>
    let word := plainWord flow p.rest
    let q := p.forward word.length
    let (space, r, broken) := plainSpace q
    if space.isEmpty || r.isAt (· == '#') || (!flow && r.column < least)
        || (plainWord flow r.rest).isEmpty then ⟨word, q.mark, r, broken⟩
    else
      let more := plainFrom flow least fuel r
      { more with text := word ++ space ++ more.text }

def plain (flow : Bool) (least : Nat) (p : Place) : Plain :=
  plainFrom flow least (p.left + 1) p

/-! ## Block scalars -/

/-- What becomes of the line breaks at the end of a block scalar. -/
inductive Chomping where
  | strip
  | clip
  | keep

/-- What is left of the break of the last line and of those behind it. -/
def Chomping.apply (c : Chomping) (last more : Text) : Text :=
  match c with
  | strip => []
  | clip => last
  | keep => last ++ more

def inBlock : Text := "while scanning a block scalar".toList

def chomping? : Text → Option Chomping
  | '+' :: _ => some .keep
  | '-' :: _ => some .strip
  | _ => none

/-- A digit from one to nine for the indentation, if a digit stands here. -/
def increment? (start : Mark) (p : Place) : Except ReadError (Option Nat) :=
  match p.peek? with
  | some c =>
    if c == '0' then
      .error (complainWithin inBlock start
        "expected indentation indicator in the range 1-9, but found 0".toList p.mark)
    else if Text.isAsciiDigit c then .ok (some (Text.decimal [c]))
    else .ok none
  | none => .ok none

/-- The marks in the first line of a block scalar, in either order. -/
def blockMarks (start : Mark) (p : Place) :
    Except ReadError ((Chomping × Option Nat) × Place) := do
  let (chomping, increment, q) ←
    match chomping? p.rest with
    | some c => do
      let n ← increment? start p.next
      .ok (c, n, p.forward (if n.isSome then 2 else 1))
    | none => do
      match ← increment? start p with
      | none => .ok (Chomping.clip, none, p)
      | some n =>
        match chomping? p.next.rest with
        | some c => .ok (c, some n, p.forward 2)
        | none => .ok (.clip, some n, p.next)
  if atSpace q.rest then .ok ((chomping, increment), q)
  else .error (expected inBlock start "expected chomping or indentation indicators".toList q)

/-- The line breaks in front of a block scalar, and the greatest indentation on the way. -/
def blockIndent (seen : Text) (most : Nat) : Nat → Place → Text × Nat × Place
  | 0, p => (seen, most, p)
  | fuel + 1, p =>
    match p.peek? with
    | some c =>
      if c == ' ' then blockIndent seen (max most p.next.column) fuel p.next
      else if isBreak c then blockIndent (seen ++ [breakText c]) most fuel p.next
      else (seen, most, p)
    | none => (seen, most, p)

/-- The line breaks between two lines of a block scalar, spaces up to the indentation passed
over. -/
def blockBreaks (indent : Nat) (seen : Text) : Nat → Place → Text × Place
  | 0, p => (seen, p)
  | fuel + 1, p =>
    let p := p.forward (min (indent - p.column) (p.run (· == ' ')).length)
    match p.peek? with
    | some c =>
      if isBreak c then blockBreaks indent (seen ++ [breakText c]) fuel p.next else (seen, p)
    | none => (seen, p)

/-- The lines of a block scalar, `breaks` standing in front of the next one. Folded lines
are joined by a space, unless one of them starts with a blank. -/
def blockLines (folded : Bool) (chomping : Chomping) (indent : Nat) :
    Nat → Text → Text → Place → Text × Place
  | 0, last, breaks, p => (chomping.apply last breaks, p)
  | fuel + 1, last, breaks, p =>
    if p.column == indent && !p.rest.isEmpty then
      let line := p.run fun c => !isBreak c
      let q := p.forward line.length
      let lineBreak := (q.peek?.map breakText).toList
      let (after, r) := blockBreaks indent [] (q.left + 1) q.next
      let (more, stop) := blockLines folded chomping indent fuel lineBreak after r
      let goesOn := r.column == indent && !r.rest.isEmpty
      let joint :=
        if !goesOn then []
        else if folded && lineBreak == ['\n'] && !p.isAt isBlank && !r.isAt isBlank then
          if after.isEmpty then [' '] else []
        else lineBreak
      (line ++ joint ++ (if goesOn then after else []) ++ more, stop)
    else (chomping.apply last breaks, p)

/-- A literal or folded block scalar; its lines are indented to at least `least`. -/
def blockScalar (folded : Bool) (least : Nat) (p : Place) : Except ReadError (Text × Place) := do
  let start := p.mark
  let ((chomping, increment), q) ← blockMarks start p.next
  let q ← restOfLine inBlock start q
  let (breaks, indent, q) :=
    match increment with
    | none =>
      let (breaks, most, q) := blockIndent [] 0 (q.left + 1) q
      (breaks, max least most, q)
    | some n =>
      let indent := least + n - 1
      let (breaks, q) := blockBreaks indent [] (q.left + 1) q
      (breaks, indent, q)
  let lead := if q.column == indent && !q.rest.isEmpty then breaks else []
  let (s, stop) := blockLines folded chomping indent (q.left + 1) [] breaks q
  .ok (lead ++ s, stop)

end NoteQuery.Yaml
