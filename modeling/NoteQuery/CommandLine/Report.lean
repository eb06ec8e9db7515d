import NoteQuery.Console
import NoteQuery.Note.Basic
import NoteQuery.Query.Parse
import NoteQuery.Value.Json

/-!
# Reports

What the commands print: JSON, plain lines, or a table or an outline for readers. Tables
and outlines are written in markup, with the texts of the user escaped.
-/
namespace NoteQuery.CommandLine

section

variable (escape : Text → Text)

/-! ## Notes -/

/-- The minute of a timestamp; years are not filled up. -/
def minuteText (m : Moment) : Text :=
  Text.ofNat m.wall.day.year ++ ['-'] ++ Text.ofNatPadded 2 m.wall.day.month ++ ['-']
    ++ Text.ofNatPadded 2 m.wall.day.dayOfMonth ++ [' '] ++ m.wall.clockText

/-- The characters of the tags that a table shows. -/
def tagsWidth : Nat := 40

def noteRow (n : Note) : List Text :=
  [escape n.path,
    escape ((Text.join [',', ' '] (n.tags.map ('#' :: ·))).take tagsWidth),
    (n.modified.map minuteText).getD [],
    if n.hasOpenTask then ['☐'] else []]

def noteTable (query : Text) (notes : List Note) : Table where
  title := "Notes matching '".toList ++ escape query ++ ['\'']
  columns := [⟨"Path".toList, "cyan".toList, false⟩, ⟨"Tags".toList, "yellow".toList, false⟩,
    ⟨"Modified".toList, "green".toList, false⟩, ⟨"Task".toList, "red".toList, false⟩]
  rows := notes.map (noteRow escape)

def notesAsTable (query : Text) (notes : List Note) : List Print :=
  [.block (.table (noteTable escape query notes)),
    .block (.markup (styled "dim" (Text.ofNat notes.length ++ " note(s)".toList)))]

def notesAsJson (notes : List Note) : Text := Json.indentedText (.list (notes.map Note.toValue))

def notesAsLines (notes : List Note) : List Print := notes.map fun n => .line n.path

/-! ## Queries -/

def queryAsJson (q : Query) (description : Text) : Text :=
  Json.indentedText (.dict
    [(.text "query".toList, .text q.raw), (.text "mode".toList, .text q.mode.word),
      (.text "ast".toList, .text description)])

def queryAsLine (q : Query) (description : Text) : Text :=
  q.mode.word ++ ['\t'] ++ description

mutual

def nodeOutline : Node → Except UnknownNode Outline
  | .term t => .ok (.node (styled "cyan" (escape t.describe)) [])
  | .connector op left right => do
    let l ← nodeOutline left
    let r ← nodeOutline right
    return .node (styled "bold magenta" op.word) [l, r]
  | .all terms => do
    let below ← nodeOutlines terms
    return .node
      (if below.isEmpty then styled "dim" "ALL (empty)".toList
        else styled "bold magenta" "ALL".toList) below
  | .foreign v => .error ⟨v⟩

def nodeOutlines : List Node → Except UnknownNode (List Outline)
  | [] => .ok []
  | n :: rest => do
    let first ← nodeOutline n
    let others ← nodeOutlines rest
    return first :: others

end

/-- The heading of a query: its text, or a word where it has none, and its mode. -/
def queryHeading (q : Query) : Text :=
  let raw := escape q.raw
  styled "bold" (if raw.isEmpty then "(empty)".toList else raw) ++ [' ', ' ']
    ++ styled (match q.mode with | .pure => "green" | .mixed => "yellow") q.mode.word

def queryAsOutline (q : Query) : Except UnknownNode Outline := do
  let tree ← nodeOutline escape q.root
  return .node (queryHeading escape q) [tree]

/-! ## Tokens -/

def tokenValue (t : Token) : Value :=
  .dict
    [(.text "kind".toList, .text t.kind.word), (.text "text".toList, .text t.text),
      (.text "start".toList, .int t.start), (.text "end".toList, .int t.stop)]

def tokensAsJson (tokens : List Token) : Text := Json.indentedText (.list (tokens.map tokenValue))

def tokenLine (t : Token) : Text :=
  t.kind.word ++ ['\t'] ++ t.text ++ ['\t'] ++ Text.ofNat t.start ++ ['\t'] ++ Text.ofNat t.stop

def tokenTable (tokens : List Token) : Table where
  title := "Tokens".toList
  columns := [⟨"Kind".toList, "magenta".toList, false⟩, ⟨"Text".toList, "cyan".toList, false⟩,
    ⟨"Start".toList, [], true⟩, ⟨"End".toList, [], true⟩]
  rows := tokens.map fun t =>
    [t.kind.word, escape t.text, Text.ofNat t.start, Text.ofNat t.stop]

end

end NoteQuery.CommandLine
