import NoteQuery.Note.Basic
import NoteQuery.Note.Timestamp

/-!
# Notes from dictionaries

A snapshot describes each note by a dictionary, in one of two spellings of the keys.
Scalar properties become texts and lists become lists of texts, with booleans in lower
case and missing values empty. What the dictionary leaves out comes from the path.
-/
namespace NoteQuery.Note

inductive EntryError where
  /-- The entry does not say where the note is. -/
  | noPath (entries : List (Value × Value))
  | propertiesNotDictionary (v : Value)
  | timestamp (e : Timestamp.Error)
  /-- A text is to be made of a value that has no written form. -/
  | unwritable

namespace EntryError

def message : EntryError → Text
  | noPath entries => "Note entry has no path: ".toList ++ (Value.dict entries).literal
  | propertiesNotDictionary v => "Properties must be a mapping, got ".toList ++ v.kindName
  | timestamp e => e.message
  | unwritable => Value.Unwritable.message {}

end EntryError

/-! ## Keys of an entry -/

def keys (names : List String) : List Text := names.map String.toList

def filenameKeys : List Text := keys ["filename", "name", "basename"]

def extensionKeys : List Text := keys ["extension", "ext"]

def folderKeys : List Text := keys ["folder_path", "folderPath", "folder"]

def tagsKeys : List Text := keys ["tags"]

def propertiesKeys : List Text := keys ["properties", "frontmatter"]

def createdKeys : List Text := keys ["created_at", "createdAt", "created", "ctime"]

def modifiedKeys : List Text := keys ["modified_at", "modifiedAt", "modified", "mtime"]

def taskKeys : List Text := keys ["has_incomplete_task", "hasIncompleteTask", "has_task"]

/-! ## Values of an entry -/

def written (v : Value) : Except EntryError Value :=
  if v.isWritable then .ok v else .error .unwritable

def textOr (fallback : Text) : Value → Text
  | .null => fallback
  | v => v.toText

/-- Tags without the signs in front; a single value is a single tag. -/
def tagsOf (v : Value) : List Text :=
  let tag (v : Value) : Text := v.toText.dropWhile (· == '#')
  match v with
  | .list items => items.map tag
  | v => if v.isGiven then [tag v] else []

def scalarText : Value → Text
  | .null => []
  | .bool b => if b then "true".toList else "false".toList
  | v => v.toText

def propertyValue : Value → Value
  | .list items => .list (items.map fun v => .text (scalarText v))
  | v => .text (scalarText v)

/-- Sets a property; one that is there keeps its place. -/
def setProperty (key : Text) (v : Value) : List (Text × Value) → List (Text × Value)
  | [] => [(key, v)]
  | (k, w) :: rest => if k == key then (key, v) :: rest else (k, w) :: setProperty key v rest

def propertiesOf : Value → Except EntryError (List (Text × Value))
  | .dict entries => do
    let _ ← written (.dict entries)
    return entries.foldl (fun ps (k, v) => setProperty k.toText (propertyValue v) ps) []
  | v => if v.isGiven then .error (.propertiesNotDictionary v) else .ok []

def timeOf (zone : Zone) (v : Value) : Except EntryError (Option Moment) :=
  match Timestamp.ofValue zone v with
  | .ok t => .ok (t.map fun t => ⟨t, none⟩)
  | .error e => .error (.timestamp e)

/-- The note that a dictionary describes. -/
def ofEntries (zone : Zone) (entries : List (Value × Value)) : Except EntryError Note :=
  let pick (names : List Text) : Value := (Value.lookupFirst? names entries).getD .null
  match Value.lookup? "path".toList entries with
  | none =>
    .error (if (Value.dict entries).isWritable then .noPath entries else .unwritable)
  | some path => do
    let filename ← written (pick filenameKeys)
    let extension ← written (pick extensionKeys)
    let folder ← written (pick folderKeys)
    let tags ← written (pick tagsKeys)
    let properties ← propertiesOf (pick propertiesKeys)
    let created ← timeOf zone (pick createdKeys)
    let modified ← timeOf zone (pick modifiedKeys)
    let derived := ofPath (← written path).toText
    return { derived with
      filename := textOr derived.filename filename
      extension := textOr derived.extension extension
      folder := textOr derived.folder folder
      tags := tagsOf tags
      properties, created, modified
      hasOpenTask := (pick taskKeys).isGiven }

end NoteQuery.Note
