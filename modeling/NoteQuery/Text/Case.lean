import NoteQuery.Text.CaseTable
import NoteQuery.Text.Basic

/-!
# Lower case and case folding

Lower casing is for words of the language, folding for comparing what the user wrote
with what a note holds. Folding goes character by character and may lengthen a text;
lower casing looks around a capital sigma, which has a form of its own at the end of a
word.
-/
namespace NoteQuery.Text

def foldChar (c : Char) : Text :=
  if c.toNat < 0x80 then [c.toLower]
  else
    match caseImage? foldRuns c.toNat with
    | some n => [Char.ofNat n]
    | none =>
      match foldSequences.lookup c.toNat with
      | some ns => ns.map Char.ofNat
      | none => [c]

/-- Texts that differ only in case have one folded form. -/
def foldCase (s : Text) : Text := s.flatMap foldChar

def isCased (c : Char) : Bool :=
  if c.toNat < 0x80 then c.isAlpha else inRanges casedRanges c.toNat

/-- Characters that are passed over when looking for a neighbouring cased letter. -/
def isCaseIgnorable (c : Char) : Bool :=
  if c.toNat < 0x80 then
    c == '\'' || c == '.' || c == ':' || c == '^' || c.toNat == 0x60
  else inRanges caseIgnorableRanges c.toNat

/-- Whether the nearest character that counts is a cased letter. -/
def nextIsCased (s : Text) : Bool :=
  match s.dropWhile isCaseIgnorable with
  | [] => false
  | c :: _ => isCased c

/-- The lower-case form of one character away from the sigma rule. -/
def lowerChar (c : Char) : Text :=
  if c.toNat < 0x80 then [c.toLower]
  else if c.toNat == 0x130 then ['i', Char.ofNat 0x307]
  else
    match caseImage? lowerRuns c.toNat with
    | some n => [Char.ofNat n]
    | none => [c]

/-- Lower case of the rest of a text, `seen` being the characters before it in reverse. -/
def lowerFrom (seen : Text) : Text → Text
  | [] => []
  | c :: rest =>
    (if c.toNat == 0x3a3 then
      [Char.ofNat (if nextIsCased seen && !nextIsCased rest then 0x3c2 else 0x3c3)]
    else lowerChar c) ++ lowerFrom (c :: seen) rest

/-- Lower case; a capital sigma that ends a word becomes the final sigma. -/
def lower (s : Text) : Text := lowerFrom [] s

end NoteQuery.Text
