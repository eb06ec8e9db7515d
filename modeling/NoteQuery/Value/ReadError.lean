import NoteQuery.Text.Literal

/-!
# Reading errors

What a reader of values says about a text that it cannot read. A complaint about the grammar
is a few lines, some of which point into the text; they name the text as the caller names it.
The other errors are about texts in good grammar.
-/
namespace NoteQuery

inductive Remark where
  | words (s : Text)
  /-- A line and a column, counted from zero. -/
  | place (line column : Nat)
  /-- A number of characters from the start. -/
  | position (n : Nat)
  deriving DecidableEq, Repr

abbrev Complaint := List Remark

def Remark.text (name : Text) : Remark → Text
  | words s => s
  | place line column =>
    "  in \"".toList ++ name ++ "\", line ".toList ++ Text.ofNat (line + 1)
      ++ ", column ".toList ++ Text.ofNat (column + 1)
  | position n => "  in \"".toList ++ name ++ "\", position ".toList ++ Text.ofNat n

def Complaint.text (name : Text) (c : Complaint) : Text :=
  Text.join ['\n'] (c.map (Remark.text name))

/-- Why a text cannot be read as a value. -/
inductive ReadError where
  /-- The text breaks the grammar. -/
  | malformed (complaint : Complaint)
  /-- An integer of more digits than are converted. -/
  | tooManyDigits (count : Nat)
  /-- A number, a date or a time that does not exist. -/
  | invalid (reason : Text)
  /-- An escaped character far beyond all characters. -/
  | beyondCharacters
  /-- A factor beyond all floating point numbers. -/
  | beyondFloats
  /-- A text that is to be a boolean and is no word for one. -/
  | notBoolean (s : Text)
  /-- A text that is to be a time and has not the shape of one. -/
  | notTime
  /-- An empty text that is to be a number. -/
  | emptyNumber
  deriving DecidableEq

namespace ReadError

/-- Integers are read and written up to this many digits. -/
def digitLimit : Nat := 4300

def message (name : Text) : ReadError → Text
  | malformed complaint => complaint.text name
  | tooManyDigits count =>
    "Exceeds the limit (".toList ++ Text.ofNat digitLimit
      ++ " digits) for integer string conversion: value has ".toList ++ Text.ofNat count
      ++ " digits; use sys.set_int_max_str_digits() to increase the limit".toList
  | invalid reason => reason
  | beyondCharacters => "Python int too large to convert to C int".toList
  | beyondFloats => "int too large to convert to float".toList
  | notBoolean s => Text.literal s
  | notTime => "'NoneType' object has no attribute 'groupdict'".toList
  | emptyNumber => "string index out of range".toList

end ReadError

end NoteQuery
