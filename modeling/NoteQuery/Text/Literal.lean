import NoteQuery.Text.Digit
import NoteQuery.Text.Printable
import NoteQuery.Text.Surrogate

/-!
# Quoted texts

A text written for a reader: in single quotes, or in double quotes when it holds a
single quote and no double one. The quote in use, the backslash and the characters
that are not printable are escaped.
-/
namespace NoteQuery.Text

def literalQuote (s : Text) : Char :=
  if s.contains '\'' && !s.contains '"' then '"' else '\''

def escapeChar (quote c : Char) : Text :=
  let n := codePoint c
  if c == quote || c == '\\' then ['\\', c]
  else if c == '\n' then ['\\', 'n']
  else if c == '\r' then ['\\', 'r']
  else if c == '\t' then ['\\', 't']
  else if isPrintable c then [c]
  else if n < 0x100 then ['\\', 'x'] ++ ofNatHex 2 n
  else if n < 0x10000 then ['\\', 'u'] ++ ofNatHex 4 n
  else ['\\', 'U'] ++ ofNatHex 8 n

def literal (s : Text) : Text :=
  let q := literalQuote s
  [q] ++ s.flatMap (escapeChar q) ++ [q]

end NoteQuery.Text
