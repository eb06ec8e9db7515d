import NoteQuery.Console
import NoteQuery.Display.Wrap

/-!
# Outlines

Trees of labels drawn with guide lines that lead from a label to the labels below it. A
label is wrapped in the room that its guide lines leave.
-/
namespace NoteQuery

namespace Outline

/-- The cells that guide lines take for each step down. -/
def indent : Nat := 4

def labelLines (room : Nat) (first further : Text) (label : Text) : List Text :=
  match Wrap.lines .fold .ragged room label with
  | [] => []
  | l :: rest => (first ++ l) :: rest.map (further ++ ·)

mutual

/-- The lines of a tree whose label stands behind `first` and the rest behind `further`, in
the room that is left. -/
def linesFrom (room : Nat) (first further : Text) : Outline → List Text
  | node label below => labelLines room first further label ++ branchLines room further below

def branchLines (room : Nat) (lead : Text) : List Outline → List Text
  | [] => []
  | o :: rest =>
    if rest.isEmpty then
      linesFrom (room - indent) (lead ++ "└── ".toList) (lead ++ "    ".toList) o
    else
      linesFrom (room - indent) (lead ++ "├── ".toList) (lead ++ "│   ".toList) o
        ++ branchLines room lead rest

end

def lines (room : Nat) (o : Outline) : List Text := linesFrom room [] [] o

end Outline

end NoteQuery
