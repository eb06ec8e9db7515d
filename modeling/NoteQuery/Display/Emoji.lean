import NoteQuery.Display.EmojiTable
import NoteQuery.Text.Basic
import NoteQuery.Text.Case

/-!
# Emoji codes

A name between two colons stands for the emoji of that name, whatever the case of its
letters. Behind the name, `-text` or `-emoji` asks for one of its two styles. A name that
is none is left as it is.
-/
namespace NoteQuery.Emoji

/-- The endings that ask for a style, with the character that selects it. -/
def variants : List (Text × Text) :=
  [("-emoji:".toList, [Char.ofNat 0xfe0f]), ("-text:".toList, [Char.ofNat 0xfe0e]), ([':'], [])]

/-- A code without its opening colon. -/
structure Code where
  name : Text
  selector : Text
  /-- How many characters the code has. -/
  size : Nat
  deriving DecidableEq, Repr

/-- The shortest code at the start of a text that follows a colon; a name holds no blank. -/
def code? : Text → Option Code
  | [] => none
  | c :: rest =>
    match variants.find? fun v => v.1.isPrefixOf (c :: rest) with
    | some (ending, selector) => some ⟨[], selector, ending.length⟩
    | none =>
      if Text.isBlank c then none
      else (code? rest).map fun k => { k with name := c :: k.name, size := k.size + 1 }

def Code.emoji? (k : Code) : Option Text :=
  (table.lookup (Text.lower k.name)).map (· ++ k.selector)

/-- A text with emoji for their codes; `skip` characters belong to the code just met, and
are printed if `shown`. -/
def replaceFrom : (skip : Nat) → (shown : Bool) → Text → Text
  | _, _, [] => []
  | skip + 1, shown, c :: rest =>
    (if shown then [c] else []) ++ replaceFrom skip shown rest
  | 0, _, c :: rest =>
    if c == ':' then
      match code? rest with
      | none => c :: replaceFrom 0 true rest
      | some k =>
        match k.emoji? with
        | some emoji => emoji ++ replaceFrom k.size false rest
        | none => c :: replaceFrom k.size true rest
    else c :: replaceFrom 0 true rest

def replace (s : Text) : Text := replaceFrom 0 true s

end NoteQuery.Emoji
