import NoteQuery.Calendar.Instant

/-!
# Printing

The program prints lines on standard output, and it has a console lay out markup, tables and
outlines for readers. Neither is its own: which characters the output takes, how the console
lays out what it is given and what it remembers between two prints are parameters. Printing
fails where a character cannot be encoded or markup makes no sense.
-/
namespace NoteQuery

/-! ## What is laid out -/

structure Column where
  title : Text
  style : Text := []
  flushRight : Bool := false
  deriving DecidableEq, Repr

/-- A table whose title and cells are markup. -/
structure Table where
  title : Text
  columns : List Column
  rows : List (List Text)
  deriving Repr

/-- A label in markup, and what stands below it. -/
inductive Outline where
  | node (label : Text) (below : List Outline)

inductive Block where
  | markup (s : Text)
  | table (t : Table)
  | outline (o : Outline)

/-- Puts markup into tags of a style. -/
def styled (style : String) (s : Text) : Text :=
  ['['] ++ style.toList ++ [']'] ++ s ++ ['[', '/'] ++ style.toList ++ [']']

/-! ## What prints -/

/-- An error in printing: the name of its class and its message. -/
structure PrintFault where
  kind : Text
  message : Text
  deriving DecidableEq, Repr

/-- A console and what it remembers. -/
structure Console where
  State : Type
  start : State
  /-- Markup that shows a text as it stands. -/
  escape : Text → Text
  /-- Prints a block, in colours or without, and answers what reaches the output. -/
  print : Bool → State → Block → Except PrintFault Text × State

/-- What the program runs on. -/
structure Machine where
  zone : Zone
  /-- Why the output does not take a text, if it does not. -/
  refusal : Text → Option PrintFault
  console : Console

inductive Print where
  | line (s : Text)
  | block (b : Block)

/-- What has reached the output, and what the console remembers. -/
structure Printed (c : Console) where
  output : Text := []
  state : c.State := c.start

namespace Machine

variable (m : Machine) (colour : Bool)

/-- Prints one thing; nothing of it reaches the output if that fails. -/
def print (st : Printed m.console) : Print → Option PrintFault × Printed m.console
  | .line s =>
    match m.refusal s with
    | some e => (some e, st)
    | none => (none, { st with output := st.output ++ s ++ ['\n'] })
  | .block b =>
    match m.console.print colour st.state b with
    | (.ok s, state) => (none, ⟨st.output ++ s, state⟩)
    | (.error e, state) => (some e, { st with state })

/-- Prints one thing after the other, up to the first that cannot be printed. -/
def printAll (st : Printed m.console) : List Print → Option PrintFault × Printed m.console
  | [] => (none, st)
  | p :: rest =>
    match m.print colour st p with
    | (none, st) => printAll st rest
    | (some e, st) => (some e, st)

end Machine

end NoteQuery
