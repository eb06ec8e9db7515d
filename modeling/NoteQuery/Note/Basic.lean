import NoteQuery.Value.Basic

/-!
# Notes

What is known of a note: its path, the parts of the path, its tags, its properties and
its timestamps. Properties keep their order.
-/
namespace NoteQuery

structure Note where
  path : Text
  filename : Text := []
  extension : Text := []
  folder : Text := []
  tags : List Text := []
  properties : List (Text × Value) := []
  created : Option Moment := none
  modified : Option Moment := none
  hasOpenTask : Bool := false

namespace Note

def afterLast (c : Char) (s : Text) : Text := (s.reverse.takeWhile (· != c)).reverse

/-- The text up to the last occurrence of a character, that one included. -/
def throughLast (c : Char) (s : Text) : Text := Text.dropEndWhile (· != c) s

/-- The last segment of a path that has no slashes around it. -/
def baseName (path : Text) : Text := afterLast '/' (Text.stripChars ['/'] path)

/-- What stands in front of the last segment, without slashes at the end. -/
def folderOf (path : Text) : Text :=
  Text.dropEndWhile (· == '/') (throughLast '/' (Text.stripChars ['/'] path))

/-- A file name without its extension. -/
def stem (base : Text) : Text := if base.contains '.' then (throughLast '.' base).dropLast else base

/-- The text behind the last dot of a file name. -/
def extensionOf (base : Text) : Text := if base.contains '.' then afterLast '.' base else []

/-- The note of a path, of which nothing else is known. -/
def ofPath (path : Text) : Note where
  path := path
  filename := stem (baseName path)
  extension := extensionOf (baseName path)
  folder := folderOf path

def timeValue (t : Option Moment) : Value :=
  match t with
  | some m => .text (m.toTextWith 'T')
  | none => .null

def toValue (n : Note) : Value :=
  let entry (name : String) (v : Value) : Value × Value := (.text name.toList, v)
  .dict
    [entry "path" (.text n.path), entry "filename" (.text n.filename),
      entry "extension" (.text n.extension), entry "folder_path" (.text n.folder),
      entry "tags" (.list (n.tags.map .text)),
      entry "properties" (.dict (n.properties.map fun (k, v) => (.text k, v))),
      entry "created_at" (timeValue n.created), entry "modified_at" (timeValue n.modified),
      entry "has_incomplete_task" (.bool n.hasOpenTask)]

def display (n : Note) : Text := "NoteRecord(".toList ++ Text.literal n.path ++ [')']

end Note

end NoteQuery
