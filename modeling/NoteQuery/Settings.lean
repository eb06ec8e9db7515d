import NoteQuery.Files
import NoteQuery.Query.Criterion
import NoteQuery.Value.Toml.Document
import NoteQuery.Value.Toml.Writing

/-!
# Settings

Each setting has a value of its own. Settings start from defaults and are overridden, in
this order, by the user's file, the first local file, a file asked for and the
environment. A setting may get a value of any kind; only reading it as a date field or a
day order may fail.

The settings are the attributes of an object that has others, and what a file or a variable
names is assigned whichever it is. An operation that gets a value cannot be called any more, the
dictionary of all attributes can be exchanged for another one, and two attributes refuse any
value. The attributes that nothing asks for later are left out, and so are those that saving
alone asks for: settings are saved as they are, whatever has been put in the place of the
operation that saves them or of the list of their fields.
-/
namespace NoteQuery

inductive Setting where
  | defaultDateField
  | dateOrder
  | locale
  | outputFormat
  | colorOutput
  | logLevel
  deriving DecidableEq, Repr

namespace Setting

def all : List Setting :=
  [defaultDateField, dateOrder, locale, outputFormat, colorOutput, logLevel]

def name : Setting → Text
  | defaultDateField => "default_date_field".toList
  | dateOrder => "date_order".toList
  | locale => "locale".toList
  | outputFormat => "output_format".toList
  | colorOutput => "color_output".toList
  | logLevel => "log_level".toList

def ofName? (s : Text) : Option Setting := all.find? fun k => k.name == s

end Setting

/-- The operations of settings that are called after a source may have overwritten them. -/
inductive Operation where
  | merge
  | applyEnvironment
  | dateField
  | dayOrder
  deriving DecidableEq, Repr

namespace Operation

def all : List Operation := [merge, applyEnvironment, dateField, dayOrder]

def name : Operation → Text
  | merge => "_merge".toList
  | applyEnvironment => "_apply_env_vars".toList
  | dateField => "date_field".toList
  | dayOrder => "day_order".toList

end Operation

inductive Attribute where
  | setting (k : Setting)
  | operation (o : Operation)
  | dictionary
  /-- An attribute that cannot be set, to whatever value. -/
  | fixed (name : Text)
  deriving DecidableEq, Repr

def Attribute.ofName? (name : Text) : Option Attribute :=
  match Setting.ofName? name, Operation.all.find? fun o => o.name == name with
  | some k, _ => some (.setting k)
  | none, some o => some (.operation o)
  | none, none =>
    if name == "__dict__".toList then some .dictionary
    else if name == "__class__".toList || name == "__weakref__".toList then some (.fixed name)
    else none

/-- The settings, and the values of the operations that have been overwritten. -/
structure Settings where
  value : Setting → Value
  overwritten : Operation → Option Value

instance : CoeFun Settings fun _ => Setting → Value := ⟨Settings.value⟩

/-- Settings that cannot be loaded. -/
inductive SettingsError where
  | malformed
  /-- The text is well formed and writes a number that is not converted. -/
  | impossible (e : ReadError)
  | isFolder
  | notText
  | nameTooLong
  /-- There is no home directory to look for the user's settings in. -/
  | homeless
  | unassignable (a : Attribute)
  /-- An operation has become a value of this type. -/
  | notCallable (typeName : Text)
  deriving DecidableEq

/-- What the program finds around it: the files, the place of the user's settings if there is
a home directory, and the variables of the environment. -/
structure Surroundings where
  find : FilePath → FileEntry
  userFile : Option FilePath
  environment : List (Text × Text)

namespace Settings

def defaultValue : Setting → Value
  | .defaultDateField => .text "modified".toList
  | .dateOrder => .text "auto".toList
  | .locale => .text "en_GB".toList
  | .outputFormat => .text "table".toList
  | .colorOutput => .bool true
  | .logLevel => .text "WARNING".toList

def defaults : Settings := ⟨defaultValue, fun _ => none⟩

def set (s : Settings) (k : Setting) (v : Value) : Settings :=
  { s with value := fun j => if j = k then v else s j }

/-- Sets a setting by name; other names are passed over. -/
def setNamed (s : Settings) (name : Text) (v : Value) : Settings :=
  match Setting.ofName? name with
  | some k => s.set k v
  | none => s

def overwrite (s : Settings) (o : Operation) (v : Value) : Settings :=
  { s with overwritten := fun p => if p = o then some v else s.overwritten p }

/-- Settings whose attributes are the entries of a dictionary; those that it lacks are as they
were at first. -/
def ofEntries (entries : List (Value × Value)) : Settings where
  value k := (Value.lookup? k.name entries).getD (defaultValue k)
  overwritten o := Value.lookup? o.name entries

def assign (s : Settings) (a : Attribute) (v : Value) : Except SettingsError Settings :=
  match a, v with
  | .setting k, v => .ok (s.set k v)
  | .operation o, v => .ok (s.overwrite o v)
  | .dictionary, .dict entries => .ok (ofEntries entries)
  | a, _ => .error (.unassignable a)

/-- Gives the attribute of a name a value; names of no attribute are passed over. -/
def assignNamed (s : Settings) (name : Text) (v : Value) : Except SettingsError Settings :=
  match Attribute.ofName? name with
  | some a => s.assign a v
  | none => .ok s

def typeInPlace? (s : Settings) (o : Operation) : Option Text :=
  (s.overwritten o).map Value.typeName

/-- An operation has to be there to be called. -/
def call (s : Settings) (o : Operation) : Except SettingsError Unit :=
  match s.typeInPlace? o with
  | some typeName => .error (.notCallable typeName)
  | none => .ok ()

def merge (s : Settings) (entries : List (Value × Value)) : Except SettingsError Settings :=
  entries.foldlM (fun s (k, v) => s.assignNamed k.toText v) s

def variableStart : Text := "NOTEFILTER_".toList

def trueWords : List Text := ["true".toList, "1".toList, "yes".toList]

/-- The value that a variable gives to a setting: a boolean if it has been one. -/
def variableValue (current : Value) (s : Text) : Value :=
  match current with
  | .bool _ => .bool (trueWords.contains (Text.lower s))
  | _ => .text s

def current (s : Settings) : Attribute → Value
  | .setting k => s k
  | .operation o => (s.overwritten o).getD .null
  | _ => .null

/-- The attribute that a variable is named for, in letters of any case. -/
def attributeOf? (name : Text) : Option Attribute :=
  if variableStart.isPrefixOf name then
    Attribute.ofName? (Text.lower (name.drop variableStart.length))
  else none

def applyVariable (s : Settings) (name value : Text) : Except SettingsError Settings :=
  match attributeOf? name with
  | some a => s.assign a (variableValue (s.current a) value)
  | none => .ok s

def applyEnvironment (s : Settings) (environment : List (Text × Text)) :
    Except SettingsError Settings :=
  environment.foldlM (fun s (name, value) => s.applyVariable name value) s

/-! ## Loading and saving -/

def readFile (entry : FileEntry) : Except SettingsError (Option (List (Value × Value))) :=
  match entry with
  | .missing => .ok none
  | .folder => .error .isFolder
  | .nameTooLong => .error .nameTooLong
  | .file bytes =>
    match decodeText? bytes with
    | none => .error .notText
    | some s =>
      match Toml.read s with
      | .ok entries => .ok (some entries)
      | .error .malformed => .error .malformed
      | .error (.tooManyDigits count) => .error (.impossible (.tooManyDigits count))

/-- The settings under those of a file, which is read before it turns out whether they can be
merged. -/
def mergeFile (s : Settings) (entry : FileEntry) : Except SettingsError Settings := do
  match ← readFile entry with
  | none => return s
  | some entries =>
    s.call .merge
    s.merge entries

/-- The local files, of which the first one there counts. -/
def localFiles : List FilePath :=
  ["notefilter.toml".toList, ".notefilterrc".toList].map FilePath.ofText

def localEntry (find : FilePath → FileEntry) : List FilePath → FileEntry
  | [] => .missing
  | p :: rest =>
    match find p with
    | .missing => localEntry find rest
    | entry => entry

/-- The settings in force, with a file asked for or none. -/
def load (around : Surroundings) (file : Option FilePath) : Except SettingsError Settings :=
  match around.userFile with
  | none => .error .homeless
  | some userFile => do
    let s ← defaults.mergeFile (around.find userFile)
    let s ← s.mergeFile (localEntry around.find localFiles)
    let s ← s.mergeFile ((file.map around.find).getD .missing)
    s.call .applyEnvironment
    s.applyEnvironment around.environment

def entries (s : Settings) : List (Value × Value) :=
  Setting.all.map fun k => (.text k.name, s k)

/-- Why settings are not saved as a whole. -/
inductive SavingError where
  | file (e : FileFault)
  /-- A value cannot be written in a settings file. -/
  | unwritable
  /-- A text has no bytes. -/
  | notText
  deriving DecidableEq, Repr

/-- The bytes of some pieces, up to the first that has none. -/
def bytesOf (written : ByteArray) : Toml.Pieces → ByteArray × Option SavingError
  | [] => (written, none)
  | none :: _ => (written, some .unwritable)
  | some s :: rest =>
    match encodeText? s with
    | some bytes => bytesOf (written ++ bytes) rest
    | none => (written, some .notText)

/-- Writes settings into a file. What has been written stays in case of an error. -/
def save (s : Settings) (tree : FileTree) (path : FilePath) : FileTree × Option SavingError :=
  match tree.openNew path with
  | (tree, .error e) => (tree, some (.file e))
  | (tree, .ok place) =>
    let (bytes, fault) := bytesOf .empty (Toml.pieces s.entries)
    (tree.put place bytes, fault)

/-! ## Reading settings -/

inductive ReadingError where
  /-- The value of a setting is no text, so it has no operation of a name. -/
  | notText (v : Value) (operation : Text)
  /-- The operation has become a value of this type. -/
  | notCallable (typeName : Text)
  | unknownField (e : DateField.Unknown)
  | unknownOrder (order : Text)

namespace ReadingError

def message : ReadingError → Text
  | notText v operation =>
    ['\''] ++ v.typeName ++ "' object has no attribute '".toList ++ operation ++ ['\'']
  | notCallable typeName => ['\''] ++ typeName ++ "' object is not callable".toList
  | unknownField e => e.message
  | unknownOrder order =>
    "Unknown date order: ".toList ++ order ++ " (expected one of auto, dmy, mdy)".toList

end ReadingError

/-- What an operation reads, unless it has been overwritten. -/
def reading {α : Type} (s : Settings) (o : Operation) (x : Except ReadingError α) :
    Except ReadingError α :=
  match s.typeInPlace? o with
  | some typeName => .error (.notCallable typeName)
  | none => x

/-- The timestamp that a date filter applies to where it names none. -/
def dateField (s : Settings) : Except ReadingError DateField :=
  s.reading .dateField <|
    match s .defaultDateField with
    | .text t => (DateField.ofText t).mapError .unknownField
    | v => .error (.notText v "lower".toList)

def localeOrder (v : Value) : Except ReadingError DayOrder :=
  match v with
  | .text t => .ok (DayOrder.ofLocale t)
  | v => if v.isGiven then .error (.notText v "split".toList) else .ok .dayFirst

/-- The order of day and month, set outright or taken from the locale. -/
def dayOrder (s : Settings) : Except ReadingError DayOrder :=
  s.reading .dayOrder <|
    match s .dateOrder with
    | .text t =>
      let order := Text.trim (Text.lower t)
      if order == "dmy".toList then .ok .dayFirst
      else if order == "mdy".toList then .ok .monthFirst
      else if order == "auto".toList then localeOrder (s .locale)
      else .error (.unknownOrder t)
    | v => .error (.notText v "lower".toList)

def conventions (s : Settings) : Except ReadingError Conventions := do
  let field ← s.dateField
  let order ← s.dayOrder
  return { field, order }

end Settings

/-- The settings that the program has loaded, if it has. -/
structure ActiveSettings where
  current : Option Settings := none

namespace ActiveSettings

/-- The settings in force, loaded at the first use or on demand. A file that cannot be
read leaves everything as it was. -/
def get (a : ActiveSettings) (around : Surroundings) (reload : Bool) (file : Option FilePath) :
    Except SettingsError Settings × ActiveSettings :=
  match a.current, reload with
  | some s, false => (.ok s, a)
  | _, _ =>
    match Settings.load around file with
    | .ok s => (.ok s, ⟨some s⟩)
    | .error e => (.error e, a)

/-- Overrides settings by name; null values and the names of other attributes are passed over. -/
def override (s : Settings) (overrides : List (Text × Value)) : Settings :=
  overrides.foldl (fun s (name, v) =>
    match v with
    | .null => s
    | v => s.setNamed name v) s

/-- Overrides the settings in force, which are loaded if need be. -/
def init (a : ActiveSettings) (around : Surroundings) (overrides : List (Text × Value)) :
    Except SettingsError Settings × ActiveSettings :=
  match a.get around false none with
  | (.ok s, _) => (.ok (override s overrides), ⟨some (override s overrides)⟩)
  | (.error e, a) => (.error e, a)

end ActiveSettings

end NoteQuery
