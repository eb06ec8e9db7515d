import NoteQuery.Text.Basic

/-!
# Log levels

The names of log levels are written in capitals. Other names are passed over, but two belong
to things that are no level, a line format and the table of format styles.
-/
namespace NoteQuery.LogLevel

/-- A name that belongs to something else. -/
inductive Fault where
  | format
  | styles
  deriving DecidableEq, Repr

def lineFormat : Text := "%(levelname)s:%(name)s:%(message)s".toList

def Fault.message : Fault → Text
  | .format => "Unknown level: '".toList ++ lineFormat ++ ['\'']
  | .styles => "Level not an integer or a valid string".toList

/-- The ASCII capitals of a character; a few characters beyond ASCII have such capitals. -/
def capitals (c : Char) : Text :=
  match c.toNat with
  | 0x131 => ['I']
  | 0x17f => ['S']
  | 0xfb05 => ['S', 'T']
  | 0xfb06 => ['S', 'T']
  | _ => [c.toUpper]

def check (name : Text) : Except Fault Unit :=
  let capital := name.flatMap capitals
  if capital == "BASIC_FORMAT".toList then .error .format
  else if capital == "_STYLES".toList then .error .styles
  else .ok ()

end NoteQuery.LogLevel
