import NoteQuery.Text.Basic

/-!
# Segments

A query text is cut at blanks into segments. A backslash joins the next character to
the segment, whatever it is, and blanks between double quotes do not cut; a quote that
is left open runs to the end of the text.
-/
namespace NoteQuery

/-- A piece of a text with its offsets, `stop` being just past the last character. -/
structure Segment where
  start : Nat
  stop : Nat
  text : Text
  deriving DecidableEq, Repr

namespace Segment

/-- The offset and the characters so far of a segment that is still open. -/
abbrev Pending := Option (Nat × Text)

def Pending.extend (pending : Pending) (pos : Nat) (more : Text) : Pending :=
  match pending with
  | none => some (pos, more)
  | some (start, text) => some (start, text ++ more)

def Pending.close (pending : Pending) (pos : Nat) : List Segment :=
  match pending with
  | none => []
  | some (start, text) => [⟨start, pos, text⟩]

/-- The segments of the rest of a text that starts at offset `pos`. -/
def scan (pos : Nat) (quoted : Bool) (pending : Pending) : Text → List Segment
  | [] => pending.close pos
  | '\\' :: c :: rest => scan (pos + 2) quoted (pending.extend pos ['\\', c]) rest
  | c :: rest =>
    if Text.isBlank c && !quoted then pending.close pos ++ scan (pos + 1) quoted none rest
    else scan (pos + 1) (quoted != (c == '"')) (pending.extend pos [c]) rest

def split (s : Text) : List Segment := scan 0 false none s

def words (s : Text) : List Text := (split s).map (·.text)

end Segment

end NoteQuery
