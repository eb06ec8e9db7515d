import NoteQuery.Text.Basic
import NoteQuery.Text.Case

/-!
# Tags

Tags form a hierarchy whose levels stand between separators. They are compared in a
normal form without the sign in front, without blanks and separators around it, and
without case; a tag lies below its ancestors and below itself.
-/
namespace NoteQuery.Tag

/-- The separator of the levels where none is asked for. -/
def slash : Text := ['/']

def dropSign : Text → Text
  | [] => []
  | c :: rest => if c == '#' then rest else c :: rest

/-- The normal form of a tag; every character of the separator is removed at the ends. -/
def normalizeBy (sep tag : Text) : Text :=
  Text.foldCase (Text.stripChars sep (dropSign (Text.trim tag)))

/-- Whether a tag is an ancestor or one of its descendants; a tag with an empty normal
form is neither. -/
def isBelowBy (sep tag ancestor : Text) : Bool :=
  let t := normalizeBy sep tag
  let a := normalizeBy sep ancestor
  !t.isEmpty && !a.isEmpty && (t == a || (a ++ sep).isPrefixOf t)

def normalize (tag : Text) : Text := normalizeBy slash tag

def isBelow (tag ancestor : Text) : Bool := isBelowBy slash tag ancestor

end NoteQuery.Tag
