import NoteQuery.Files
import NoteQuery.Note.Entry
import NoteQuery.Text.Case
import NoteQuery.Text.Utf8
import NoteQuery.Value.Json
import NoteQuery.Value.Yaml.Document

/-!
# Snapshots

A snapshot file holds a list of note entries, or a dictionary with such a list under
`notes`. The name of a JSON file says so; all other files are YAML.
-/
namespace NoteQuery.Snapshot

inductive Error where
  | notFound (path : FilePath)
  | nameTooLong (path : FilePath)
  | isFolder (path : FilePath)
  /-- The bytes of the file are no text. -/
  | notText (path : FilePath) (fault : Utf8.Fault)
  | malformed (path : FilePath) (complaint : Complaint)
  /-- The text is well formed and writes something that does not exist. -/
  | impossible (path : FilePath) (e : ReadError)
  | notList (v : Value)
  | notEntry (v : Value)
  /-- The item to be shown as no entry has no written form. -/
  | unwritable
  | entry (e : Note.EntryError)

namespace Error

def message : Error → Text
  | notFound path => "Snapshot file not found: ".toList ++ path.toText
  | nameTooLong path =>
    "[Errno 36] File name too long: ".toList ++ Text.literal path.toText
  | isFolder path =>
    "Cannot read snapshot ".toList ++ path.toText ++ ": [Errno 21] Is a directory: ".toList
      ++ Text.literal path.toText
  | notText path fault =>
    "Cannot read snapshot ".toList ++ path.toText ++ [':', ' '] ++ fault.message
  | malformed path complaint =>
    "Cannot parse snapshot ".toList ++ path.toText ++ [':', ' '] ++ complaint.text path.toText
  | impossible path e => e.message path.toText
  | notList v => "Snapshot must contain a list of notes, got ".toList ++ v.kindName
  | notEntry v => "Invalid note entry: ".toList ++ v.literal
  | unwritable => Value.Unwritable.message {}
  | entry e => e.message

end Error

def isJson (path : FilePath) : Bool := Text.lower path.suffix == ".json".toList

/-- The text of the bytes in a file. JSON is read in one piece, YAML in several. -/
def textOf (path : FilePath) (bytes : ByteArray) : Except Error Text :=
  match decodeText? bytes with
  | some s => .ok (Text.unixLines s)
  | none =>
    let bytes := bytes.toList
    let fault := (Utf8.fault? bytes).getD ⟨.endOfBytes, bytes.length, 0, 0⟩
    .error (.notText path (if isJson path then fault else fault.inPieces bytes))

def read (path : FilePath) (s : Text) : Except Error Value :=
  match if isJson path then Json.read s else Yaml.read s with
  | .ok v => .ok v
  | .error (.malformed complaint) => .error (.malformed path complaint)
  | .error e => .error (.impossible path e)

def noteOf (zone : Zone) : Value → Except Error Note
  | .dict entries =>
    match Note.ofEntries zone entries with
    | .ok n => .ok n
    | .error e => .error (.entry e)
  | v => .error (if v.isWritable then .notEntry v else .unwritable)

def entriesOf (v : Value) : Except Error (List Value) :=
  let v := match v with
    | .dict entries => (Value.lookup? "notes".toList entries).getD .null
    | v => v
  match v with
  | .list items => .ok items
  | v => .error (.notList v)

def notesOf (zone : Zone) (v : Value) : Except Error (List Note) := do
  let items ← entriesOf v
  items.mapM (noteOf zone)

def load (zone : Zone) (find : FilePath → FileEntry) (path : FilePath) :
    Except Error (List Note) :=
  match find path with
  | .missing => .error (.notFound path)
  | .folder => .error (.isFolder path)
  | .nameTooLong => .error (.nameTooLong path)
  | .file bytes => do notesOf zone (← read path (← textOf path bytes))

end NoteQuery.Snapshot
