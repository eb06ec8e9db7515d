import NoteQuery.Text.Case

/-!
# Folders and extensions

A folder path is a list of segments between separators, of which the empty ones do not
count, so that the root has none. A folder holds a run of segments if they follow each
other somewhere in it, case aside. Extensions are compared without blanks around them,
without the dots in front and without case.
-/
namespace NoteQuery.Folder

/-- A path cannot be split at a separator without characters. -/
structure EmptySeparator where
  deriving DecidableEq, Repr

def EmptySeparator.message (_ : EmptySeparator) : Text := "empty separator".toList

def slash : Text := ['/']

def segmentsBy (sep path : Text) : List Text :=
  if path.isEmpty then [] else (Text.splitOn sep path).filter (!·.isEmpty)

/-- The segments of a path, or an error where the separator cuts nothing. -/
def splitBy (sep path : Text) : Except EmptySeparator (List Text) :=
  if sep.isEmpty && !path.isEmpty then .error {} else .ok (segmentsBy sep path)

/-- The form in which whole paths are compared. -/
def normalizeBy (sep path : Text) : Except EmptySeparator Text :=
  (splitBy sep path).map fun parts => Text.foldCase (Text.join sep parts)

def segments (path : Text) : List Text := segmentsBy slash path

def normalize (path : Text) : Text := Text.foldCase (Text.join slash (segments path))

/-- Whether segments follow each other somewhere in a folder; no segments never do. -/
def holdsRun (folder : Text) (run : List Text) : Bool :=
  !run.isEmpty && Text.isRunOf (run.map Text.foldCase) ((segments folder).map Text.foldCase)

end NoteQuery.Folder

namespace NoteQuery.Extension

def normalize (ext : Text) : Text := Text.foldCase ((Text.trim ext).dropWhile (· == '.'))

end NoteQuery.Extension
