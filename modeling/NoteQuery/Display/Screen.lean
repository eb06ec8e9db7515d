import NoteQuery.Display.Markup
import NoteQuery.Display.Outline
import NoteQuery.Display.Table
import NoteQuery.Text.Surrogate

/-!
# The screen

A console without colours in lines of a fixed width, on an output of UTF-8. Lines that the
output has refused stay in front of everything that is printed later.
-/
namespace NoteQuery

def printLines (lines : List Text) : Text := lines.flatMap (· ++ ['\n'])

namespace Utf8

/-- Why a text has no bytes: its first halves of surrogate pairs in a row. -/
def refusal (s : Text) : Option PrintFault :=
  let start := (s.takeWhile fun c => !Text.isCarrier c).length
  match (s.drop start).takeWhile Text.isCarrier with
  | [] => none
  | c :: rest =>
    let place :=
      if rest.isEmpty then
        " '\\u".toList ++ Text.ofNatHex 4 (Text.codePoint c) ++ "' in position ".toList
          ++ Text.ofNat start
      else
        "s in position ".toList ++ Text.ofNat start ++ ['-'] ++ Text.ofNat (start + rest.length)
    some {
      kind := "UnicodeEncodeError".toList
      message := "'utf-8' codec can't encode character".toList ++ place
        ++ ": surrogates not allowed".toList }

end Utf8

namespace Screen

def width : Nat := 80

def markupLines (s : Text) : Except Markup.Fault (List Text) :=
  (Markup.render s).map (Wrap.lines .fold .ragged width)

def tableLines (t : Table) : Except Markup.Fault (List Text) := do
  let title ← Markup.render t.title
  let rows ← t.rows.mapM fun row => row.mapM Markup.render
  return ({ t with title, rows } : Table).lines width

mutual

def renderOutline : Outline → Except Markup.Fault Outline
  | .node label below => do
    let label ← Markup.render label
    let below ← renderOutlines below
    return .node label below

def renderOutlines : List Outline → Except Markup.Fault (List Outline)
  | [] => .ok []
  | o :: rest => do
    let first ← renderOutline o
    let others ← renderOutlines rest
    return first :: others

end

def blockLines : Block → Except Markup.Fault (List Text)
  | .markup s => markupLines s
  | .table t => tableLines t
  | .outline o => (renderOutline o).map (·.lines width)

/-- What the console adds to the message of an output that has refused a text. -/
def hint : Text :=
  "\n*** You may need to add PYTHONIOENCODING=utf-8 to your environment ***".toList

/-- The console on an output, with the lines that it has not got rid of. -/
def console (refusal : Text → Option PrintFault) : Console where
  State := List Text
  start := []
  escape := Markup.escape
  print _ held b :=
    match blockLines b with
    | .error e => (.error e.printFault, held)
    | .ok lines =>
      let s := printLines (held ++ lines)
      match refusal s with
      | some e => (.error { e with message := e.message ++ hint }, held ++ lines)
      | none => (.ok s, [])

end Screen

def Machine.screen (zone : Zone) : Machine := ⟨zone, Utf8.refusal, Screen.console Utf8.refusal⟩

end NoteQuery
