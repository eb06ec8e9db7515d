import NoteQuery.Console
import NoteQuery.Display.Emoji
import NoteQuery.Display.EventTag
import NoteQuery.Display.Style

/-!
# Markup

Text with style tags in square brackets, as printed on a terminal without colours. A tag
starts with a small letter, `#`, `/` or `@` behind the bracket and holds no other opening
bracket. Backslashes in front of a tag count in pairs, and an odd one makes the tag
ordinary text. A closing tag needs an open one of its style. Emoji codes are replaced in
each piece of text between two tags.
-/
namespace NoteQuery.Markup

def startsTag (c : Char) : Bool := ('a' ≤ c && c ≤ 'z') || c == '#' || c == '/' || c == '@'

/-- The inside of a tag at the start of a text that follows an opening bracket. -/
def tagBody? (s : Text) : Option Text :=
  let body := s.takeWhile fun c => c != '[' && c != ']'
  match body.head?, (s.drop body.length).head? with
  | some c, some ']' => if startsTag c then some body else none
  | _, _ => none

inductive Piece where
  | plain (s : Text)
  | tag (body : Text)
  deriving DecidableEq, Repr

def backslashes (n : Nat) : Text := List.replicate n '\\'

def plainPiece (s : Text) : List Piece := if s.isEmpty then [] else [.plain s]

/-- The pieces of a text. `skip` characters belong to the tag just met, `before` is read
backwards and belongs to the present piece, and `slashes` backslashes stand in front. -/
def piecesFrom : (skip : Nat) → (before : Text) → (slashes : Nat) → Text → List Piece
  | _, before, slashes, [] => plainPiece (before.reverse ++ backslashes slashes)
  | skip + 1, _, _, _ :: rest => piecesFrom skip [] 0 rest
  | 0, before, slashes, c :: rest =>
    if c == '\\' then piecesFrom 0 before (slashes + 1) rest
    else
      match if c == '[' then tagBody? rest else none with
      | some body =>
        plainPiece before.reverse ++ plainPiece (backslashes (slashes / 2))
          ++ [if slashes % 2 == 1 then .plain ('[' :: body ++ [']']) else .tag body]
          ++ piecesFrom (body.length + 1) [] 0 rest
      | none => piecesFrom 0 (c :: (backslashes slashes ++ before)) 0 rest

def pieces (s : Text) : List Piece := piecesFrom 0 [] 0 s

/-- Escapes the tags of a text; `skip` and `slashes` as before. -/
def escapeFrom : (skip : Nat) → (slashes : Nat) → Text → Text
  | _, slashes, [] => backslashes slashes
  | skip + 1, _, c :: rest => c :: escapeFrom skip 0 rest
  | 0, slashes, c :: rest =>
    if c == '\\' then escapeFrom 0 (slashes + 1) rest
    else
      let doubled := if c == '[' then (tagBody? rest).isSome else false
      backslashes (if doubled then 2 * slashes + 1 else slashes) ++ [c] ++ escapeFrom 0 0 rest

/-- Escapes a text, so that its tags are printed. A single backslash at the end is doubled
lest it escape what follows. -/
def escape (s : Text) : Text :=
  let t := escapeFrom 0 0 s
  match t.reverse with
  | ['\\'] => t ++ ['\\']
  | '\\' :: c :: _ => if c == '\\' then t else t ++ ['\\']
  | _ => t

/-! ## Tags -/

/-- Why a text cannot be printed as markup. -/
inductive Fault where
  /-- A closing tag has no open one of its style. -/
  | unmatched (body : Text)
  /-- A closing tag without a style stands where no tag is open. -/
  | nothingToClose
  /-- The parameter of an event tag is no handler and no literal. -/
  | badParameter (parameter : Text)
  | badColour (e : Colour.BadNumber)
  deriving DecidableEq, Repr

def Fault.message : Fault → Text
  | .unmatched body => "closing tag '[".toList ++ body ++ "]' doesn't match any open tag".toList
  | .nothingToClose => "closing tag '[/]' has nothing to close".toList
  | .badParameter parameter => "error parsing ".toList ++ parameter
  | .badColour e => e.message

def Fault.printFault (e : Fault) : PrintFault where
  kind := match e with
    | .badColour _ => "ValueError".toList
    | _ => "MarkupError".toList
  message := e.message

/-- An open tag: the normal form of its name, and what stands behind an equals sign. -/
structure OpenTag where
  name : Text
  parameter : Option Text
  deriving DecidableEq, Repr

namespace OpenTag

def isEvent (t : OpenTag) : Bool := t.name.head? == some '@'

def styleText (t : OpenTag) : Text :=
  match t.parameter with
  | some p => t.name ++ [' '] ++ p
  | none => t.name

/-- Events are looked into when their tag is closed. -/
def checkClosing (t : OpenTag) : Except Fault Unit :=
  match t.parameter with
  | some p =>
    if t.isEvent && !p.isEmpty && !EventTag.isParameter p then .error (.badParameter p) else .ok ()
  | none => .ok ()

/-- Styles are looked into when their text is printed. -/
def checkStyle (t : OpenTag) : Except Fault Unit :=
  if t.isEvent then .ok ()
  else ((Style.ofText? t.styleText).mapError .badColour).map fun _ => ()

end OpenTag

def take? (name : Text) : List OpenTag → Option (OpenTag × List OpenTag)
  | [] => none
  | t :: rest =>
    if t.name == name then some (t, rest)
    else (take? name rest).map fun (found, others) => (found, t :: others)

/-- The tag that a closing tag closes, and those that stay open. -/
def close (opened : List OpenTag) (body name : Text) :
    Except Fault (OpenTag × List OpenTag) := do
  if name.isEmpty then
    match opened with
    | [] => .error .nothingToClose
    | t :: rest => .ok (t, rest)
  else
    let name ← (Style.normalName name).mapError .badColour
    match take? name opened with
    | some found => .ok found
    | none => .error (.unmatched body)

/-- The tags that are open, the latest first, and all tags that have been opened so far. -/
structure Tags where
  opened : List OpenTag := []
  seen : List OpenTag := []

/-- The tags after one more. A closing tag without a name closes the latest. -/
def Tags.step (tags : Tags) (body : Text) : Except Fault Tags :=
  let name := Text.before '=' body
  match name with
  | '/' :: name => do
    let (closed, rest) ← close tags.opened body (Text.trim name)
    closed.checkClosing
    return { tags with opened := rest }
  | name => do
    let tag : OpenTag := {
      name := ← (Style.normalName name).mapError .badColour
      parameter := if body.contains '=' then some (body.drop (name.length + 1)) else none }
    return { opened := tag :: tags.opened, seen := tag :: tags.seen }

/-! ## Printing -/

/-- An opening bracket is printed without a backslash in front of it. -/
def unescapeBrackets : Text → Text
  | '\\' :: '[' :: rest => '[' :: unescapeBrackets rest
  | c :: rest => c :: unescapeBrackets rest
  | [] => []

/-- Control characters that a terminal is not sent. -/
def isDropped (c : Char) : Bool :=
  let n := c.toNat
  n == 7 || n == 8 || (11 ≤ n && n ≤ 13)

def plainText (s : Text) : Text := (Emoji.replace (unescapeBrackets s)).filter (!isDropped ·)

def renderPieces (tags : Tags) : List Piece → Except Fault Text
  | [] => do
    let _ ← tags.seen.reverse.mapM OpenTag.checkStyle
    return []
  | .plain s :: rest => (renderPieces tags rest).map (plainText s ++ ·)
  | .tag body :: rest => do
    let tags ← tags.step body
    renderPieces tags rest

def render (s : Text) : Except Fault Text := renderPieces {} (pieces s)

end NoteQuery.Markup
