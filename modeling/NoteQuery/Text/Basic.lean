/-!
# Texts

A text is a list of characters, so that offsets count characters and definitions
recurse on the text itself. This module holds the operations that know of no character
but the blank ones: splitting, joining, searching, padding and trimming. Blanks are the
separators and line breaks of all scripts and the four information separators U+001C to
U+001F, and not the zero-width space.
-/
namespace NoteQuery

abbrev Text := List Char

namespace Text

/-- Whether `xs` stands in one piece somewhere in a list. -/
def isRunOf {α : Type} [BEq α] (xs : List α) : List α → Bool
  | [] => xs.isEmpty
  | y :: ys => xs.isPrefixOf (y :: ys) || isRunOf xs ys

/-- Puts a character in front of the first piece. -/
def consHead (c : Char) : List Text → List Text
  | [] => [[c]]
  | w :: ws => (c :: w) :: ws

/-- The pieces between the occurrences of a non-empty separator, found from the left;
`skip` characters are still to be passed over as part of the separator just met. -/
def splitFrom (sep : Text) : Nat → Text → List Text
  | _, [] => [[]]
  | skip + 1, _ :: rest => splitFrom sep skip rest
  | 0, c :: rest =>
    if sep.isPrefixOf (c :: rest) then [] :: splitFrom sep (sep.length - 1) rest
    else consHead c (splitFrom sep 0 rest)

/-- The pieces between the occurrences of a non-empty separator; always at least one. -/
def splitOn (sep s : Text) : List Text := splitFrom sep 0 s

/-- The parts before and after the first occurrence of a separator. -/
def splitFirst? (sep : Text) : Text → Option (Text × Text)
  | [] => if sep.isEmpty then some ([], []) else none
  | c :: rest =>
    if sep.isPrefixOf (c :: rest) then some ([], (c :: rest).drop sep.length)
    else (splitFirst? sep rest).map fun (l, r) => (c :: l, r)

/-- The part before the first occurrence of a character. -/
def before (c : Char) (s : Text) : Text := s.takeWhile (· != c)

def nonEmpty? (s : Text) : Option Text := if s.isEmpty then none else some s

def join (sep : Text) (pieces : List Text) : Text := List.intercalate sep pieces

def total (lengths : List Nat) : Nat := lengths.foldr (· + ·) 0

def replace (c : Char) (replacement s : Text) : Text :=
  s.flatMap fun d => if d == c then replacement else [d]

def dropEndWhile (p : Char → Bool) (s : Text) : Text := (s.reverse.dropWhile p).reverse

/-- Removes the characters of a class from both ends. -/
def stripWhere (p : Char → Bool) (s : Text) : Text := dropEndWhile p (s.dropWhile p)

/-- Removes the characters of a set from both ends. -/
def stripChars (set s : Text) : Text := stripWhere set.contains s

def padLeft (c : Char) (width : Nat) (s : Text) : Text :=
  List.replicate (width - s.length) c ++ s

/-- The lines of a text, without the line feeds between them. -/
def lines (s : Text) : List Text := splitOn ['\n'] s

/-! ## Blanks -/

/-- Whether a code point lies in one of the ranges, ends included. -/
def inRanges (ranges : List (Nat × Nat)) (n : Nat) : Bool :=
  ranges.any fun r => r.1 ≤ n && n ≤ r.2

def blankRanges : List (Nat × Nat) :=
  [(0x09, 0x0d), (0x1c, 0x20), (0x85, 0x85), (0xa0, 0xa0), (0x1680, 0x1680), (0x2000, 0x200a),
    (0x2028, 0x2029), (0x202f, 0x202f), (0x205f, 0x205f), (0x3000, 0x3000)]

def isBlank (c : Char) : Bool := inRanges blankRanges c.toNat

/-- Removes blanks from both ends. -/
def trim (s : Text) : Text := stripWhere isBlank s

end Text

end NoteQuery
