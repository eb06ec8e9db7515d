import NoteQuery.Text.Literal
import NoteQuery.Value.ReadError

/-!
# YAML: places

A place in a YAML text is what is left of it, with the line and the column that it starts
in. Everything that reads a text goes from place to place, and complaints point to places.
-/
namespace NoteQuery.Yaml

/-- A line and a column, counted from zero. -/
structure Mark where
  line : Nat
  column : Nat
  deriving DecidableEq, Repr

structure Place extends Mark where
  rest : Text
  /-- How many characters are left. -/
  left : Nat

def isBreak (c : Char) : Bool :=
  c == '\n' || c == '\r' || c.toNat == 0x85 || c.toNat == 0x2028 || c.toNat == 0x2029

def isBlank (c : Char) : Bool := c == ' ' || c == '\t'

def atLineEnd : Text → Bool
  | [] => true
  | c :: _ => isBreak c

/-- Whether a text is over or goes on with a space or a line break. -/
def atSpace : Text → Bool
  | [] => true
  | c :: _ => c == ' ' || isBreak c

/-- Whether a text is over or goes on with a space, a tab or a line break. -/
def atGap : Text → Bool
  | [] => true
  | c :: _ => isBlank c || isBreak c

/-- Whether a line of a text starts with three dashes or dots that stand alone. -/
def atMarker (s : Text) : Bool :=
  (['-', '-', '-'].isPrefixOf s || ['.', '.', '.'].isPrefixOf s) && atGap (s.drop 3)

def breakText (c : Char) : Char :=
  if c.toNat == 0x2028 || c.toNat == 0x2029 then c else '\n'

namespace Place

def start (s : Text) : Place := ⟨⟨0, 0⟩, s, s.length⟩

def mark (p : Place) : Mark := p.toMark

/-- The place behind the next character; a byte order mark takes no column. -/
def next (p : Place) : Place :=
  match p.rest with
  | [] => p
  | c :: rest =>
    if isBreak c then ⟨⟨p.line + 1, 0⟩, rest, p.left - 1⟩
    else if c.toNat == 0xfeff then ⟨p.mark, rest, p.left - 1⟩
    else ⟨⟨p.line, p.column + 1⟩, rest, p.left - 1⟩

def forward (p : Place) : Nat → Place
  | 0 => p
  | n + 1 => p.next.forward n

def run (p : Place) (f : Char → Bool) : Text := p.rest.takeWhile f

def pass (p : Place) (f : Char → Bool) : Place := p.forward (p.run f).length

def peek? (p : Place) : Option Char := p.rest.head?

def isAt (p : Place) (f : Char → Bool) : Bool := p.peek?.any f

/-- The place behind a comment that may stand here. -/
def passComment (p : Place) : Place :=
  if p.isAt (· == '#') then p.pass fun c => !isBreak c else p

/-- What stands here, for a message: a null character stands behind the last one. -/
def found (p : Place) : Text := Text.literal [p.peek?.getD (Char.ofNat 0)]

end Place

/-! ## Complaints -/

def Mark.remark (m : Mark) : Remark := .place m.line m.column

def complain (problem : Text) (spot : Mark) : ReadError :=
  .malformed [.words problem, spot.remark]

/-- A complaint about a place within something that starts at a mark. The start is not told
if it is that place. -/
def complainWithin (context : Text) (start : Mark) (problem : Text) (spot : Mark) : ReadError :=
  .malformed ([.words context] ++ (if start = spot then [] else [start.remark])
    ++ [.words problem, spot.remark])

end NoteQuery.Yaml
