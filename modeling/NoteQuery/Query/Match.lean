import NoteQuery.Folder
import NoteQuery.Note.Basic
import NoteQuery.Query.Node
import NoteQuery.Tag

/-!
# Matching notes

Whether a note meets a query tree. Names, tags, property keys, folders and extensions
are compared without case, property values exactly. Connectives and conjunctions stop
at the first part that decides, so an error behind it does not arise.
-/
namespace NoteQuery

inductive MatchError where
  /-- A value that is no query was reached. -/
  | unknownNode (e : UnknownNode)
  /-- A timestamp of the note has no local time. -/
  | outOfCalendar (e : OutOfCalendar)

namespace MatchError

def message : MatchError → Text
  | unknownNode e => e.message
  | outOfCalendar e => e.message

end MatchError

namespace Value

mutual

/-- Whether a value says anything: blanks and lists of blanks do not. -/
def hasContent : Value → Bool
  | null => false
  | list items => anyHasContent items
  | v => !(Text.trim v.toText).isEmpty

def anyHasContent : List Value → Bool
  | [] => false
  | v :: rest => hasContent v || anyHasContent rest

end

mutual

/-- Whether a value is a text, or a list that holds it at any depth. -/
def holdsText (expected : Text) : Value → Bool
  | text s => s == expected
  | list items => anyHoldsText expected items
  | _ => false

def anyHoldsText (expected : Text) : List Value → Bool
  | [] => false
  | v :: rest => holdsText expected v || anyHoldsText expected rest

end

end Value

namespace Note

/-- The values under a key, case aside. -/
def valuesOf (n : Note) (key : Text) : List Value :=
  (n.properties.filter fun (k, _) => Text.foldCase k == Text.foldCase key).map (·.2)

def timestamp (n : Note) : DateField → Option Moment
  | .created => n.created
  | .modified => n.modified

end Note

namespace Criterion

/-- Whether a note is what a criterion asks for. -/
def holds : Criterion → Note → Except OutOfCalendar Bool
  | name text, n => .ok (Text.isRunOf (Text.foldCase text) (Text.foldCase n.filename))
  | tag none, n => .ok (n.tags.any fun t => !(Tag.normalize t).isEmpty)
  | tag (some path), n => .ok (n.tags.any fun t => Tag.isBelow t path)
  | property key none, n => .ok ((n.valuesOf key).any Value.hasContent)
  | property key (some value), n => .ok ((n.valuesOf key).any (Value.holdsText value))
  | task, n => .ok n.hasOpenTask
  | folder path true, n => .ok (Folder.normalize n.folder == Folder.normalize path)
  | folder path false, n => .ok (Folder.holdsRun n.folder (Folder.segments path))
  | extension ext, n => .ok (Extension.normalize n.extension == Extension.normalize ext)
  | date field range, n => range.contains (n.timestamp field)

end Criterion

def Term.holds (t : Term) (n : Note) : Except OutOfCalendar Bool :=
  (t.criterion.holds n).map (· != t.negated)

namespace Node

mutual

def holds : Node → Note → Except MatchError Bool
  | term t, n => (t.holds n).mapError .outOfCalendar
  | connector .and left right, n => do
    if ← holds left n then holds right n else return false
  | connector .or left right, n => do
    if ← holds left n then return true else holds right n
  | all terms, n => allHold terms n
  | foreign v, _ => .error (.unknownNode ⟨v⟩)

/-- Whether a note meets every tree of a list. -/
def allHold : List Node → Note → Except MatchError Bool
  | [], _ => .ok true
  | m :: rest, n => do
    if ← holds m n then allHold rest n else return false

end

/-- The notes that meet a tree, in order. -/
def select (root : Node) : List Note → Except MatchError (List Note)
  | [] => .ok []
  | n :: rest => do
    if ← root.holds n then return n :: (← select root rest) else select root rest

/-- The notes at some paths that meet a tree, in order. -/
def selectAmong (paths : List Text) (root : Node) (notes : List Note) :
    Except MatchError (List Note) :=
  root.select (notes.filter fun n => paths.contains n.path)

end Node

end NoteQuery
