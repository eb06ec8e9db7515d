import NoteQuery.Text.Basic

/-!
# Quoting

Inside a segment, double quotes are dropped and a backslash stands for the character
behind it. `quote` writes a key or a value so that it is read back unchanged; an equals
sign is escaped too, since it parts a key from its value.
-/
namespace NoteQuery.Quote

/-- A text without its quotes and with its escapes resolved; a backslash at the end is
kept. -/
def unquote : Text → Text
  | [] => []
  | '\\' :: c :: rest => c :: unquote rest
  | c :: rest => if c == '"' then unquote rest else c :: unquote rest

def needsEscape (c : Char) : Bool := c == '\\' || c == '"' || c == '='

def escape (s : Text) : Text := s.flatMap fun c => if needsEscape c then ['\\', c] else [c]

/-- Blanks and quotes call for quotes around the whole. -/
def quote (s : Text) : Text :=
  if s.any Text.isBlank || s.contains '"' then ['"'] ++ escape s ++ ['"'] else escape s

/-- The parts around the first separator outside quotes and escapes. -/
def splitFrom? (sep : Text) (quoted : Bool) : Text → Option (Text × Text)
  | [] => none
  | ['\\'] => none
  | '\\' :: c :: rest => (splitFrom? sep quoted rest).map fun (l, r) => ('\\' :: c :: l, r)
  | c :: rest =>
    if c == '"' then (splitFrom? sep (!quoted) rest).map fun (l, r) => (c :: l, r)
    else if [c] == sep && !quoted then some ([], rest)
    else (splitFrom? sep quoted rest).map fun (l, r) => (c :: l, r)

/-- The raw text in front of the first separator that counts and the raw text behind it,
if there is one. Only a separator of one character is ever found. -/
def splitUnquoted (sep s : Text) : Text × Option Text :=
  match splitFrom? sep false s with
  | some (l, r) => (l, some r)
  | none => (s, none)

end NoteQuery.Quote
