import NoteQuery.Value.Toml.Scalar

/-!
# TOML: documents

Reading a whole TOML text. A key is set once. A table is opened by one header at most, and
not where keys with points have made it; a header in double brackets adds a table to an
array. Arrays and tables that are written in one piece stay as they are.
-/
namespace NoteQuery.Toml

abbrev Entries := List (Value × Value)

/-- The result of a reader that knows only one fault. -/
def orMalformed {α : Type} : Option α → Except Fault α
  | some a => .ok a
  | none => .error .malformed

/-! ## Tables under paths -/

/-- Changes the table under a path, tables being made on the way. If `throughArrays`, an array
stands for the last table in it. -/
def change? (throughArrays : Bool) (f : Entries → Option Entries) :
    List Text → Entries → Option Entries
  | [], entries => f entries
  | k :: path, entries =>
    match Value.lookup? k entries with
    | none => do some (entries ++ [(.text k, .dict (← change? throughArrays f path []))])
    | some (.dict inner) => do
      some (Value.setEntry (.text k) (.dict (← change? throughArrays f path inner)) entries)
    | some (.list items) =>
      match throughArrays, items.getLast? with
      | true, some (.dict inner) => do
        let last ← change? throughArrays f path inner
        some (Value.setEntry (.text k) (.list (items.dropLast ++ [.dict last])) entries)
      | _, _ => none
    | some _ => none

def addKey? (k : Text) (v : Value) (entries : Entries) : Option Entries :=
  if (Value.lookup? k entries).isSome then none else some (entries ++ [(.text k, v)])

/-- Adds an empty table to the array under a key, which is made if need be. -/
def addTable? (k : Text) (entries : Entries) : Option Entries :=
  match Value.lookup? k entries with
  | none => some (entries ++ [(.text k, .list [.dict []])])
  | some (.list items) => some (Value.setEntry (.text k) (.list (items ++ [.dict []])) entries)
  | some _ => none

/-- Sets the value under a path; a value that is there is not replaced. -/
def insert? (throughArrays : Bool) (path : List Text) (v : Value) (entries : Entries) :
    Option Entries :=
  match path.getLast? with
  | none => none
  | some k => change? throughArrays (addKey? k v) path.dropLast entries

/-- Whether a path lies at or under one of some paths. -/
def isWithin (paths : List (List Text)) (path : List Text) : Bool :=
  paths.any (·.isPrefixOf path)

/-! ## Values -/

/-- Arrays and tables: nothing is added to them behind their closing bracket. -/
def isClosed : Value → Bool
  | .list _ => true
  | .dict _ => true
  | _ => false

mutual

def value (fuel : Nat) (s : Text) : Except Fault (Value × Text) :=
  match fuel with
  | 0 => .error .malformed
  | fuel + 1 =>
    match s with
    | '"' :: _ => (orMalformed (string? s)).map fun (t, rest) => (.text t, rest)
    | '\'' :: _ => (orMalformed (string? s)).map fun (t, rest) => (.text t, rest)
    | '[' :: rest => (array fuel rest).map fun (vs, rest) => (.list vs, rest)
    | '\x7b' :: rest => (inline fuel [] [] rest).map fun (es, rest) => (.dict es, rest)
    | s =>
      if "true".toList.isPrefixOf s then .ok (.bool true, s.drop 4)
      else if "false".toList.isPrefixOf s then .ok (.bool false, s.drop 5)
      else (dateTime? s).getD (number s)

/-- The items of an array up to its closing bracket; a comma may stand behind the last. -/
def array (fuel : Nat) (s : Text) : Except Fault (List Value × Text) :=
  match fuel with
  | 0 => .error .malformed
  | fuel + 1 => do
    match ← orMalformed (skipLines? (s.length + 1) s) with
    | ']' :: rest => .ok ([], rest)
    | s =>
      let (v, rest) ← value fuel s
      match ← orMalformed (skipLines? (rest.length + 1) rest) with
      | ']' :: rest => .ok ([v], rest)
      | ',' :: rest =>
        let (vs, rest) ← array fuel rest
        .ok (v :: vs, rest)
      | _ => .error .malformed

/-- The entries of a table in braces up to the closing one, added to those before; a comma may
stand behind the last. `frozen` holds the paths of the closed values among them. -/
def inline (fuel : Nat) (seen : Entries) (frozen : List (List Text)) (s : Text) :
    Except Fault (Entries × Text) :=
  match fuel with
  | 0 => .error .malformed
  | fuel + 1 => do
    match ← orMalformed (skipLines? (s.length + 1) s) with
    | '\x7d' :: rest => .ok (seen, rest)
    | s =>
      let (path, rest) ← orMalformed (key? (s.length + 1) s)
      match rest with
      | '=' :: rest =>
        let (v, rest) ← value fuel (skipSpace rest)
        if isWithin frozen path then .error .malformed
        else
          let seen ← orMalformed (insert? false path v seen)
          match ← orMalformed (skipLines? (rest.length + 1) rest) with
          | '\x7d' :: rest => .ok (seen, rest)
          | ',' :: rest => inline fuel seen (if isClosed v then path :: frozen else frozen) rest
          | _ => .error .malformed
      | _ => .error .malformed

end

/-! ## Documents -/

/-- What has been read, and which paths are taken. -/
structure Document where
  entries : Entries := []
  /-- The table that keys go to. -/
  table : List Text := []
  /-- Tables that no header may open any more. -/
  opened : List (List Text) := []
  /-- Tables made by keys with points under the present header. -/
  dotted : List (List Text) := []
  /-- Arrays and tables that have been written in one piece. -/
  frozen : List (List Text) := []

namespace Document

/-- The document where a header stands. -/
def endTable (d : Document) : Document := { d with opened := d.dotted ++ d.opened, dotted := [] }

def openTable? (d : Document) (path : List Text) : Option Document := do
  if d.opened.contains path || isWithin d.frozen path then none
  else
    let entries ← change? true some path d.entries
    some { d with entries, table := path, opened := path :: d.opened }

/-- Opens a new table at the end of an array. Nothing is taken yet in the new table. -/
def openItem? (d : Document) (path : List Text) : Option Document := do
  if isWithin d.frozen path then none
  else
    let isOutside (p : List Text) : Bool := !path.isPrefixOf p
    let name ← path.getLast?
    let entries ← change? true (addTable? name) path.dropLast d.entries
    some { d with
      entries
      table := path
      opened := path :: d.opened.filter isOutside
      frozen := d.frozen.filter isOutside }

/-- The tables that a key passes through on the way to its last part. -/
def passed (table : List Text) : List Text → List (List Text)
  | k :: l :: path => (table ++ [k]) :: passed (table ++ [k]) (l :: path)
  | _ => []

/-- Sets a key of the present table. -/
def set? (d : Document) (path : List Text) (v : Value) : Option Document := do
  let whole := d.table ++ path
  let tables := passed d.table path
  if tables.any d.opened.contains || isWithin d.frozen whole.dropLast then none
  else
    let entries ← insert? true whole v d.entries
    some { d with
      entries
      dotted := tables ++ d.dotted
      frozen := if isClosed v then whole :: d.frozen else d.frozen }

end Document

/-- The path in a header, and what follows its closing brackets. -/
def header? (closing s : Text) : Option (List Text × Text) := do
  let (path, rest) ← key? (s.length + 1) (skipSpace s)
  if closing.isPrefixOf rest then some (path, rest.drop closing.length) else none

/-- One statement: a key with a value, a header, or nothing. -/
def statement (d : Document) (s : Text) : Except Fault (Document × Text) :=
  match skipSpace s with
  | [] => .ok (d, [])
  | '\n' :: rest => .ok (d, rest)
  | '#' :: rest => do .ok (d, ← orMalformed (lineEnd? ('#' :: rest)))
  | '[' :: '[' :: rest => orMalformed do
    let (path, rest) ← header? [']', ']'] rest
    some (← d.endTable.openItem? path, ← lineEnd? rest)
  | '[' :: rest => orMalformed do
    let (path, rest) ← header? [']'] rest
    some (← d.endTable.openTable? path, ← lineEnd? rest)
  | s => do
    let (path, rest) ← orMalformed (key? (s.length + 1) s)
    match rest with
    | '=' :: rest =>
      let (v, rest) ← value (rest.length + 1) (skipSpace rest)
      .ok (← orMalformed (d.set? path v), ← orMalformed (lineEnd? rest))
    | _ => .error .malformed

def statements : Nat → Document → Text → Except Fault Document
  | _, d, [] => .ok d
  | 0, _, _ => .error .malformed
  | fuel + 1, d, s => do
    let (d, rest) ← statement d s
    statements fuel d rest

/-- Carriage returns in front of line feeds do not count. -/
def unixLines : Text → Text
  | [] => []
  | '\r' :: '\n' :: rest => '\n' :: unixLines rest
  | c :: rest => c :: unixLines rest

def read (s : Text) : Except Fault Entries :=
  let s := unixLines s
  (statements (s.length + 1) {} s).map (·.entries)

end NoteQuery.Toml
