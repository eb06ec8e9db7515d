import NoteQuery.CommandLine.Run
import NoteQuery.Display.Screen
import NoteQuery.Note.Timestamp
import Std.Time.Zoned.Database

/-!
# The program

Reads the files, the variables and the clock that an invocation needs, runs it and prints
what it answers. A file that is there and cannot be read for another reason than its kind ends
the program.
-/
namespace NoteQuery.CommandLine

def readEntry (path : FilePath) : IO FileEntry := do
  try
    return .file (← IO.FS.readBinFile (String.ofList path.toText))
  catch
    | .noFileOrDirectory .. => return .missing
    -- The code tells folders from files that stand where a folder is needed.
    | .inappropriateType _ code _ => return if code == 21 then .folder else .missing
    | .invalidArgument .. => return .nameTooLong
    | e => throw e

def pathsOf (args : List Text) : List FilePath :=
  match Invocation.ofArguments args with
  | .error _ => []
  | .ok i =>
    let notes := match i.command with
      | .search _ notes _ => [notes]
      | _ => []
    Settings.localFiles ++ (i.settingsFile.toList ++ notes).map FilePath.ofText

/-- The character that some bytes start with, and how many of them it takes. -/
def firstChar? (bytes : List UInt8) : Option (Char × Nat) :=
  [1, 2, 3, 4].findSome? fun n =>
    match decodeText? ⟨(bytes.take n).toArray⟩ with
    | some [c] => some (c, n)
    | _ => none

/-- The text of some bytes; a byte of no character stands as half of a surrogate pair. The first
argument bounds the number of characters. -/
def escapedText : Nat → List UInt8 → Text
  | 0, _ => []
  | _, [] => []
  | n + 1, b :: rest =>
    match firstChar? (b :: rest) with
    | some (c, size) => c :: escapedText n ((b :: rest).drop size)
    | none => Text.ofCodePoint (0xdc00 + b.toNat) :: escapedText n rest

def readVariables : IO (List (Text × Text)) := do
  let bytes ← IO.FS.readBinFile "/proc/self/environ"
  let entries := (Text.splitOn ['\x00'] (escapedText bytes.size bytes.toList)).filter (!·.isEmpty)
  return entries.map fun entry =>
    (Text.before '=' entry, entry.drop ((Text.before '=' entry).length + 1))

/-- The user's settings, unless no variable says where the home directory is, or it has only a
name with a tilde to say. The system's list of users is not asked. -/
def userFile? (environment : List (Text × Text)) : Option FilePath :=
  match environment.lookup "HOME".toList with
  | none => none
  | some ('~' :: _) => none
  | some home => some (.ofText (home ++ "/.config/notefilter/config.toml".toList))

def readSurroundings (args : List Text) : IO Surroundings := do
  let environment ← readVariables
  let userFile := userFile? environment
  let entries ← (userFile.toList ++ pathsOf args).mapM fun p => do return (p, ← readEntry p)
  return { find := fun p => (entries.lookup p).getD .missing, userFile, environment }

/-- Where local time stands, by the rules of the system. -/
def readZone : IO Zone := do
  let rules ← Std.Time.Database.defaultGetLocalZoneRules
  return fun ticks =>
    let sinceEpoch := ticks - Timestamp.epochDay * Instant.ticksPerDay
    let seconds := Std.Time.Second.Offset.ofInt (sinceEpoch.fdiv Instant.ticksPerSecond)
    let found := rules.findLocalTimeTypeForTimestamp (.ofSecondsSinceUnixEpoch seconds)
    found.gmtOffset.second.val * Instant.ticksPerSecond

def readClock (zone : Zone) : IO Moment := do
  let now ← Std.Time.Timestamp.now
  let micros := now.toNanosecondsSinceUnixEpoch.val / 1000
  let ticks : Int := Timestamp.epochDay * Instant.ticksPerDay + micros
  return ⟨(Instant.ofTicks? (ticks + zone ticks)).getD .first, none⟩

end NoteQuery.CommandLine

open NoteQuery NoteQuery.CommandLine in
def main (args : List String) : IO UInt32 := do
  let args := args.map String.toList
  let zone ← readZone
  match run (.screen zone) args (← readSurroundings args) (← readClock zone) with
  | .exited status output =>
    IO.print (String.ofList output)
    return status.toUInt32
  | .settingsFault _ =>
    IO.eprintln "The settings cannot be loaded."
    return 1
  | .logLevelFault e =>
    IO.eprintln (String.ofList e.message)
    return 1
  | .printFault _ =>
    IO.eprintln "The message cannot be printed."
    return 1
