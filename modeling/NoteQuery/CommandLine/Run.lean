import NoteQuery.Calendar.IsoText
import NoteQuery.CommandLine.Arguments
import NoteQuery.CommandLine.LogLevel
import NoteQuery.CommandLine.Report
import NoteQuery.Note.Snapshot
import NoteQuery.Session
import NoteQuery.Settings

/-!
# Running commands

The program as a function of its arguments and surroundings: what it prints and the
status it exits with. Wrong arguments exit with 2, an error in a command prints its
message and exits with 1. Settings that cannot be loaded, a log level that is none and
a message that cannot be printed end the program without an answer.
-/
namespace NoteQuery.CommandLine

inductive Failure where
  | snapshot (e : Snapshot.Error)
  /-- The reference time is no ISO text. -/
  | badNow (s : Text)
  | settings (e : Settings.ReadingError)
  | matching (e : MatchError)
  | printing (e : PrintFault)

namespace Failure

def message : Failure → Text
  | snapshot e => e.message
  | badNow s =>
    "Invalid --now value: ".toList ++ s ++ " (expected ISO 8601, e.g. 2026-02-04T12:00)".toList
  | settings e => e.message
  | matching e => e.message
  | printing e => e.message

end Failure

inductive Outcome where
  | exited (status : Nat) (output : Text)
  | settingsFault (e : SettingsError)
  | logLevelFault (e : LogLevel.Fault)
  | printFault (e : PrintFault)
  deriving DecidableEq

def referenceTime (zone : Zone) (clock : Moment) (now : Option Text) : Except Failure Moment :=
  match now with
  | none => .ok clock
  | some [] => .ok clock
  | some s =>
    match IsoText.stamp? s with
    | some stamp => .ok (stamp.moment zone)
    | none => .error (.badNow s)

def isFormat (settings : Settings) (name : String) : Bool :=
  match settings .outputFormat with
  | .text s => s == name.toList
  | _ => false

def conventionsOf (settings : Settings) : Except Failure Conventions :=
  settings.conventions.mapError .settings

section

variable (m : Machine)

def search (settings : Settings) (around : Surroundings) (clock : Moment) (query notes : Text)
    (now : Option Text) : Except Failure (List Print) := do
  let notes ← (Snapshot.load m.zone around.find (.ofText notes)).mapError .snapshot
  let clock ← referenceTime m.zone clock now
  let conventions ← conventionsOf settings
  let (found, _) := Session.filter { conventions, clock } query notes
  let found ← found.mapError .matching
  if isFormat settings "table" then
    if found.isEmpty then
      return [.block (.markup (styled "yellow" "No matching notes".toList))]
    else return notesAsTable m.console.escape query found
  else if isFormat settings "json" then return [.line (notesAsJson found)]
  else return notesAsLines found

def parse (settings : Settings) (clock : Moment) (query : Text) (now : Option Text) :
    Except Failure (List Print) := do
  let clock ← referenceTime m.zone clock now
  let conventions ← conventionsOf settings
  let q ← (Query.parseAt conventions clock query).mapError fun e => .matching (.outOfCalendar e)
  let unknown (e : UnknownNode) : Failure := .matching (.unknownNode e)
  if isFormat settings "json" then
    return [.line (queryAsJson q (← q.root.describe.mapError unknown))]
  else if isFormat settings "plain" then
    return [.line (queryAsLine q (← q.root.describe.mapError unknown))]
  else return [.block (.outline (← (queryAsOutline m.console.escape q).mapError unknown))]

def tokens (settings : Settings) (query : Text) : List Print :=
  let ts := Token.tokenize query
  if isFormat settings "json" then [.line (tokensAsJson ts)]
  else if isFormat settings "plain" then ts.map fun t => .line (tokenLine t)
  else [.block (.table (tokenTable m.console.escape ts))]

def prints (settings : Settings) (around : Surroundings) (clock : Moment) :
    Command → Except Failure (List Print)
  | .search query notes now => search m settings around clock query notes now
  | .parse query now => parse m settings clock query now
  | .tokens query => .ok (tokens m settings query)

end

def isColoured (settings : Settings) : Bool := (settings .colorOutput).isGiven

/-- Runs a command: the error that it ends with, if any, and what it has printed. -/
def runCommand (m : Machine) (settings : Settings) (around : Surroundings) (clock : Moment)
    (command : Command) : Option Failure × Printed m.console :=
  match prints m settings around clock command with
  | .error e => (some e, {})
  | .ok ps =>
    match m.printAll (isColoured settings) {} ps with
    | (fault, st) => (fault.map .printing, st)

/-- The settings of an invocation, from the files, the environment and the options. -/
def settingsOf (around : Surroundings) (i : Invocation) : Except SettingsError Settings := do
  let file := match i.settingsFile with
    | some [] => none
    | file => file.map FilePath.ofText
  let loaded ← Settings.load around file
  let option (s : Option Text) : Value := (s.map Value.text).getD .null
  return ActiveSettings.override loaded
    [(Setting.name .outputFormat, option i.output), (Setting.name .logLevel, option i.logLevel)]

/-- The text that a setting names a log level with; integers of too many digits have none. -/
def levelName (level : Value) : Except SettingsError Text :=
  if level.isWritable then .ok level.toText
  else .error (.impossible (.invalid (Value.Unwritable.message {})))

def errorLabel : Text := "Error: ".toList

/-- What an error prints; its message is markup as it stands. -/
def errorBlock (e : Failure) : Block := .markup (styled "red" (errorLabel ++ e.message))

/-- Prints an error behind what has been printed before. -/
def fail (m : Machine) (settings : Settings) (st : Printed m.console) (e : Failure) : Outcome :=
  match m.print (isColoured settings) st (.block (errorBlock e)) with
  | (none, st) => .exited 1 st.output
  | (some fault, _) => .printFault fault

def run (m : Machine) (args : List Text) (around : Surroundings) (clock : Moment) : Outcome :=
  match Invocation.ofArguments args with
  | .error _ => .exited 2 []
  | .ok i =>
    match settingsOf around i with
    | .error e => .settingsFault e
    | .ok settings =>
      match levelName (settings .logLevel) with
      | .error e => .settingsFault e
      | .ok name =>
        match LogLevel.check name with
        | .error e => .logLevelFault e
        | .ok () =>
          match runCommand m settings around clock i.command with
          | (none, st) => .exited 0 st.output
          | (some e, st) => fail m settings st e

end NoteQuery.CommandLine
