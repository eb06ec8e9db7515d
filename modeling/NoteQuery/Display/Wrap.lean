import NoteQuery.Text.Basic
import NoteQuery.Text.Width

/-!
# Wrapping

Texts broken into lines of a given width. A line is broken in front of a word that does
not fit; a word that fits on no line is folded over several or cut short with an
ellipsis. Lines can be filled up with spaces on either side.
-/
namespace NoteQuery.Wrap

/-- What happens to a word that fits on no line. -/
inductive Overflow where
  | fold
  | ellipsis
  deriving DecidableEq, Repr

/-- Where a line stands in its width; a ragged line is not filled up. -/
inductive Alignment where
  | ragged
  | left
  | centre
  | right
  deriving DecidableEq, Repr

/-- The words of a text, each with the blanks behind it and the first one also with those
in front. `word` is read backwards, `begun` tells whether it has a character that is no
blank, and `gap` whether it has blanks behind that. -/
def wordsFrom (word : Text) (begun gap : Bool) : Text → List Text
  | [] => if begun then [word.reverse] else []
  | c :: rest =>
    if Text.isBlank c then wordsFrom (c :: word) begun begun rest
    else if gap then word.reverse :: wordsFrom [c] true false rest
    else wordsFrom (c :: word) true false rest

def words (s : Text) : List Text := wordsFrom [] false false s

/-- The lines that are full, the latest first, the line being filled, the cells it takes,
and whether any text has been met. -/
structure State where
  full : List Text := []
  line : Text := []
  used : Nat := 0
  begun : Bool := false

namespace State

/-- Goes on with a text on a new line, unless nothing stands in front. -/
def next (st : State) (s : Text) : State where
  full := if st.begun then st.line :: st.full else st.full
  line := s
  used := Text.width s
  begun := st.begun || !s.isEmpty

def append (st : State) (s : Text) : State :=
  { st with line := st.line ++ s, used := st.used + Text.width s, begun := true }

def place (overflow : Overflow) (n : Nat) (st : State) (word : Text) : State :=
  let size := Text.width (Text.dropEndWhile Text.isBlank word)
  if st.used + size ≤ n then st.append word
  else if n < size then
    match overflow with
    | .fold => (Text.chop n word).foldl next st
    | .ellipsis => st.next word
  else st.next word

end State

/-- A line broken at the words that do not fit. -/
def breakLine (overflow : Overflow) (n : Nat) (line : Text) : List Text :=
  match words line with
  | [] => [line]
  | ws =>
    let st := ws.foldl (State.place overflow n) {}
    (st.line :: st.full).reverse

/-- Drops the blanks at the end of a line that stand behind its first `n` characters. -/
def dropExcess (n : Nat) (line : Text) : Text :=
  let blanks := (line.reverse.takeWhile Text.isBlank).length
  line.take (line.length - min blanks (line.length - n))

def cut (overflow : Overflow) (n : Nat) (line : Text) : Text :=
  if Text.width line ≤ n then line
  else
    match overflow with
    | .fold => Text.fit n line
    | .ellipsis => Text.fit (n - 1) line ++ ['…']

/-- Fills up a line that is not too wide. -/
def align (a : Alignment) (n : Nat) (line : Text) : Text :=
  let gap := n - Text.width line
  match a with
  | .ragged => line
  | .left => line ++ Text.spaces gap
  | .centre => Text.spaces (gap / 2) ++ line ++ Text.spaces (gap - gap / 2)
  | .right => Text.spaces gap ++ line

/-- A line of its own in `n` cells; blanks at the end count only where the start of the
line is fixed. -/
def layLine (overflow : Overflow) (a : Alignment) (n : Nat) (line : Text) : Text :=
  let line := dropExcess n line
  let line := match a with
    | .centre => Text.dropEndWhile Text.isBlank line
    | .right => Text.dropEndWhile Text.isBlank line
    | _ => line
  align a n (cut overflow n line)

/-- The lines of a text in `n` cells. Where there is no cell, there is no line. -/
def lines (overflow : Overflow) (a : Alignment) (n : Nat) (s : Text) : List Text :=
  if n == 0 then []
  else
    (Text.lines s).flatMap fun line =>
      (breakLine overflow n (Text.expandTabs line)).map (layLine overflow a n)

/-- Characters that end a line when a text is measured. -/
def isLineEnd (c : Char) : Bool :=
  let n := c.toNat
  (0x0a ≤ n && n ≤ 0x0d) || (0x1c ≤ n && n ≤ 0x1e) || n == 0x85 || n == 0x2028 || n == 0x2029

/-- The text up to the first end of a line, and the lines behind it. -/
def measuredLines : Text → List Text
  | [] => [[]]
  | c :: rest =>
    if isLineEnd c then [] :: measuredLines rest else Text.consHead c (measuredLines rest)

/-- The cells that the widest line of a text takes, tabs taking none. -/
def widest (s : Text) : Nat := ((measuredLines s).map Text.width).foldl max 0

end NoteQuery.Wrap
