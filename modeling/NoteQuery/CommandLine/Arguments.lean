import NoteQuery.Text.Basic
import NoteQuery.Text.Digit

/-!
# Command line arguments

Options of the program, then the name of a command, then the options and the query of
that command, in any order. A long option may be shortened as long as it stays the only
one that it can mean, and an option's argument may be attached. What starts with a minus
is an option, unless it is a negative number or holds a space; behind two minus signs
nothing is an option.
-/
namespace NoteQuery.CommandLine

/-- The arguments are not those of any command. -/
structure UsageError where
  deriving DecidableEq, Repr

inductive Command where
  | search (query notes : Text) (now : Option Text)
  | parse (query : Text) (now : Option Text)
  | tokens (query : Text)
  deriving DecidableEq, Repr

structure Invocation where
  settingsFile : Option Text
  output : Option Text
  logLevel : Option Text
  command : Command
  deriving DecidableEq, Repr

/-! ## Kinds of arguments -/

inductive OptionName where
  | help
  | settingsFile
  | output
  | logLevel
  | notes
  | now
  deriving DecidableEq, Repr

abbrev Spellings := List (Text × OptionName)

def spellings (options : List (String × OptionName)) : Spellings :=
  options.map fun (s, o) => (s.toList, o)

def programOptions : Spellings :=
  spellings [("-h", .help), ("--help", .help), ("--config", .settingsFile), ("-o", .output),
    ("--output", .output), ("--log-level", .logLevel)]

def searchOptions : Spellings :=
  spellings [("-h", .help), ("--help", .help), ("--notes", .notes), ("--now", .now)]

def parseOptions : Spellings := spellings [("-h", .help), ("--help", .help), ("--now", .now)]

def tokensOptions : Spellings := spellings [("-h", .help), ("--help", .help)]

/-- What an argument is taken for. -/
inductive Kind where
  | operand
  | separator
  /-- An option, if it is a known one, with the argument attached to it. -/
  | option (name : Option OptionName) (attached : Option Text)
  deriving DecidableEq, Repr

/-- Digits, with at most one point in front of the last run of them. -/
def isNegativeNumber (s : Text) : Bool :=
  let body := if s.getLast? == some '\n' then s.dropLast else s
  match body with
  | '-' :: number =>
    let whole := number.takeWhile Text.isDigit
    match number.drop whole.length with
    | [] => !whole.isEmpty
    | '.' :: fraction => !fraction.isEmpty && fraction.all Text.isDigit
    | _ => false
  | _ => false

/-- The options that an argument may be short for, with the argument attached. -/
def candidates (options : Spellings) (s : Text) : List (OptionName × Option Text) :=
  if ['-', '-'].isPrefixOf s then
    let start := Text.before '=' s
    let attached := (Text.splitFirst? ['='] s).map (·.2)
    (options.filter fun (spelling, _) => start.isPrefixOf spelling).map fun (_, o) => (o, attached)
  else
    options.filterMap fun (spelling, o) =>
      if spelling == s.take 2 then some (o, some (s.drop 2))
      else if s.isPrefixOf spelling then some (o, none)
      else none

def kindOf (options : Spellings) (s : Text) : Except UsageError Kind :=
  if s.head? != some '-' then .ok .operand
  else if let some o := options.lookup s then .ok (.option (some o) none)
  else if s.length == 1 then .ok .operand
  else
    let exactly := (Text.splitFirst? ['='] s).bind fun (name, attached) =>
      (options.lookup name).map fun o => Kind.option (some o) (some attached)
    match exactly, candidates options s with
    | some k, _ => .ok k
    | none, [(o, attached)] => .ok (.option (some o) attached)
    | none, _ :: _ => .error {}
    | none, [] =>
      if isNegativeNumber s || s.contains ' ' then .ok .operand else .ok (.option none none)

/-- The kinds of all arguments; what follows the first separator is an operand. -/
def kinds (options : Spellings) : List Text → Except UsageError (List (Kind × Text))
  | [] => .ok []
  | s :: rest =>
    if s == ['-', '-'] then .ok ((.separator, s) :: rest.map fun t => (.operand, t))
    else do
      let k ← kindOf options s
      let others ← kinds options rest
      return (k, s) :: others

/-! ## Options with their arguments -/

/-- The options given so far, the latest first. -/
abbrev Given := List (OptionName × Text)

/-- The argument of an option: attached to it, or the operand behind it. The rest is what
follows. Asking for help is no invocation. -/
def argumentOf (name : OptionName) (attached : Option Text) (rest : List (Kind × Text)) :
    Except UsageError (Text × List (Kind × Text)) :=
  match name, attached, rest with
  | .help, _, _ => .error {}
  | _, some s, rest => .ok (s, rest)
  | _, none, (.operand, s) :: rest => .ok (s, rest)
  | _, none, _ => .error {}

/-- Reads the options in front of a command. The result is the options, the name of the
command and the arguments behind it. -/
def programPart (fuel : Nat) (given : Given) (args : List (Kind × Text)) :
    Except UsageError (Given × Text × List (Kind × Text)) :=
  match fuel, args with
  | _, (.operand, command) :: rest => .ok (given, command, rest)
  | fuel + 1, (.option (some name) attached, _) :: rest => do
    let (s, rest) ← argumentOf name attached rest
    programPart fuel ((name, s) :: given) rest
  | _, _ => .error {}

def commandPart (fuel : Nat) (given : Given) (query : Option Text) (args : List (Kind × Text)) :
    Except UsageError (Given × Text) :=
  match fuel, args, query with
  | _, [], some q => .ok (given, q)
  | fuel + 1, (.option (some name) attached, _) :: rest, query => do
    let (s, rest) ← argumentOf name attached rest
    commandPart fuel ((name, s) :: given) query rest
  | fuel + 1, (.operand, q) :: (.separator, _) :: rest, none => commandPart fuel given (some q) rest
  | fuel + 1, (.operand, q) :: rest, none => commandPart fuel given (some q) rest
  | fuel + 1, (.separator, _) :: (_, q) :: rest, none => commandPart fuel given (some q) rest
  | _, _, _ => .error {}

def commandArguments (options : Spellings) (args : List Text) :
    Except UsageError (Given × Text) := do
  let args ← kinds options args
  commandPart args.length [] none args

def formats : List Text := ["table", "json", "plain"].map String.toList

def commandOf (name : Text) (args : List Text) : Except UsageError Command :=
  if name == "search".toList then do
    let (given, query) ← commandArguments searchOptions args
    match given.lookup .notes with
    | some notes => return .search query notes (given.lookup .now)
    | none => throw {}
  else if name == "parse".toList then do
    let (given, query) ← commandArguments parseOptions args
    return .parse query (given.lookup .now)
  else if name == "tokens".toList then do
    let (_, query) ← commandArguments tokensOptions args
    return .tokens query
  else .error {}

def formatsKnown (given : Given) : Bool :=
  given.all fun (name, s) => name != .output || formats.contains s

def Invocation.ofArguments (args : List Text) : Except UsageError Invocation := do
  let sorted ← kinds programOptions args
  let (given, name, rest) ← programPart args.length [] sorted
  let command ← commandOf name (rest.map (·.2))
  if formatsKnown given then
    return {
      settingsFile := given.lookup .settingsFile
      output := given.lookup .output
      logLevel := given.lookup .logLevel
      command }
  else throw {}

end NoteQuery.CommandLine
