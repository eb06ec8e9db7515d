import NoteQuery.Value.Toml.Scalar

/-!
# TOML: writing

The TOML text of a dictionary, in the pieces in which it is written. Tables stand behind the
other entries under headers of their own. An array of tables is written on one line if each
of its tables is short enough, and else under headers too. Null has no TOML text: where it is
met, writing ends.
-/
namespace NoteQuery.Toml

def escapeChar (c : Char) : Text :=
  let n := c.toNat
  if c == '"' then ['\\', '"']
  else if c == '\\' then ['\\', '\\']
  else if c == '\n' then ['\\', 'n']
  else if c == '\r' then ['\\', 'r']
  else if n == 8 then ['\\', 'b']
  else if n == 12 then ['\\', 'f']
  else if isControl c then ['\\', 'u'] ++ Text.ofNatHex 4 n
  else [c]

def stringText (s : Text) : Text := ['"'] ++ s.flatMap escapeChar ++ ['"']

def keyText (k : Text) : Text :=
  if !k.isEmpty && k.all isBareKeyChar then k else stringText k

/-- The spaces in front of an item, so many arrays deep. -/
def indent (depth : Nat) : Text := Text.padLeft ' ' (4 * depth) []

mutual

/-- A value behind an equals sign, `depth` arrays deep. A table starts anew on the left. -/
def valueText? (depth : Nat) : Value → Option Text
  | .null => none
  | .bool b => some (if b then "true".toList else "false".toList)
  | .int n => some (Text.ofInt n)
  | .float x => some x.toText
  | .text s => some (stringText s)
  | .date d => some d.toText
  | .moment m => some (m.toTextWith ' ')
  | .clock t => some t.timeText
  | .list [] => some ['[', ']']
  | .list items => do
    let items ← itemTexts? (depth + 1) items
    some (['[', '\n'] ++ items ++ indent depth ++ [']'])
  | .dict [] => some ['\x7b', '\x7d']
  | .dict entries => do
    let entries ← entryTexts? entries
    some (['\x7b', ' '] ++ Text.join [',', ' '] entries ++ [' ', '\x7d'])

def itemTexts? (depth : Nat) : List Value → Option Text
  | [] => some []
  | v :: rest => do
    let first ← valueText? depth v
    let others ← itemTexts? depth rest
    some (indent depth ++ first ++ [',', '\n'] ++ others)

def entryTexts? : List (Value × Value) → Option (List Text)
  | [] => some []
  | (k, v) :: rest => do
    let first ← valueText? 0 v
    let others ← entryTexts? rest
    some ((keyText k.toText ++ [' ', '=', ' '] ++ first) :: others)

end

/-! ## Tables -/

/-- Tables longer than this do not stand on one line. -/
def lineLimit : Nat := 100

def fitsLine (s : Text) : Bool :=
  (indent 1).length + s.length + 1 ≤ lineLimit && !s.contains '\n'

/-- Whether some table of an array does not fit on a line. What stands behind the first such
table is not looked at. -/
def needsHeaders? : List Value → Option Bool
  | [] => some false
  | v :: rest => do if fitsLine (← valueText? 0 v) then needsHeaders? rest else some true

def isTable : Value → Bool
  | .dict _ => true
  | _ => false

/-- How an entry is written. -/
inductive Place where
  | line
  | table
  | tables
  deriving DecidableEq, Repr

def placeOf? (v : Value) : Option Place :=
  match v with
  | .dict _ => some .table
  | .list items =>
    if !items.isEmpty && items.all isTable then
      (needsHeaders? items).map fun b => if b then .tables else .line
    else some .line
  | _ => some .line

/-- Pieces of text, each unless it cannot be written. -/
abbrev Pieces := List (Option Text)

def linePiece (k v : Value) : Option Text :=
  (valueText? 0 v).map fun s => keyText k.toText ++ [' ', '=', ' '] ++ s ++ ['\n']

def lines (entries : List (Value × Value)) : Pieces :=
  (entries.filter fun (_, v) => placeOf? v == some .line).map fun (k, v) => linePiece k v

def header (path : Text) (isItem : Bool) : Text :=
  if isItem then ['[', '['] ++ path ++ [']', ']', '\n'] else ['['] ++ path ++ [']', '\n']

/-- The lines of a table. The header is left out where the table holds only tables, and from
the whole text. -/
def ownPieces (path : Text) (isItem : Bool) (entries : List (Value × Value)) : Pieces :=
  let own := lines entries
  let headed := isItem || (!path.isEmpty && (!own.isEmpty || entries.isEmpty))
  (if headed then [some (header path isItem)] else []) ++ own

/-- An empty line between two tables. -/
def gap (needed : Bool) : Pieces := if needed then [some ['\n']] else []

def pathText (path : Text) (k : Value) : Text :=
  let name := keyText k.toText
  if path.isEmpty then name else path ++ ['.'] ++ name

mutual

/-- A table with the tables in it. -/
def tablePieces (path : Text) (isItem : Bool) : Value → Pieces
  | .dict entries =>
    if entries.any fun (_, v) => (placeOf? v).isNone then [none]
    else
      let own := ownPieces path isItem entries
      own ++ belowPieces path (!own.isEmpty) entries
  | _ => []

/-- The tables among entries; `begun` tells whether anything stands in front. -/
def belowPieces (path : Text) (begun : Bool) : List (Value × Value) → Pieces
  | [] => []
  | (k, v) :: rest =>
    match placeOf? v with
    | some .table =>
      gap begun ++ tablePieces (pathText path k) false v ++ belowPieces path true rest
    | some .tables =>
      (match v with
        | .list items => itemPieces (pathText path k) begun items
        | _ => [])
        ++ belowPieces path true rest
    | _ => belowPieces path begun rest

def itemPieces (path : Text) (begun : Bool) : List Value → Pieces
  | [] => []
  | v :: rest => gap begun ++ tablePieces path true v ++ itemPieces path true rest

end

def pieces (entries : List (Value × Value)) : Pieces := tablePieces [] false (.dict entries)

end NoteQuery.Toml
