import NoteQuery.Query.Segment
import NoteQuery.Text.Case
import NoteQuery.Text.Literal

/-!
# Tokens

Each segment is a token, whose kind its first characters tell, except that a minus in
front of more characters is a token of its own. Keywords are recognised in any case;
the connectives `AND` and `OR` only in capitals.
-/
namespace NoteQuery

inductive TokenKind where
  | name
  | tag
  | property
  | date
  | task
  | folder
  | extension
  | connector
  | negation
  deriving DecidableEq, Repr

namespace TokenKind

def word : TokenKind → Text
  | name => "name".toList
  | tag => "tag".toList
  | property => "property".toList
  | date => "date".toList
  | task => "task".toList
  | folder => "folder".toList
  | extension => "extension".toList
  | connector => "connector".toList
  | negation => "negation".toList

def label (k : TokenKind) : Text := k.word.map Char.toUpper

end TokenKind

/-- A token with its raw text, quotes and escapes kept, and its offsets. -/
structure Token where
  kind : TokenKind
  text : Text
  start : Nat
  stop : Nat
  deriving DecidableEq, Repr

namespace Token

def taskKeyword : Text := "has:task".toList

def folderKeyword : Text := "folder:".toList

def extensionKeyword : Text := "ext:".toList

def isConnector (s : Text) : Bool := s == "AND".toList || s == "OR".toList

def classify (s : Text) : TokenKind :=
  if isConnector s then .connector
  else if s.head? == some '#' then .tag
  else if s.head? == some '.' && 1 < s.length then .property
  else if s.head? == some '@' then .date
  else if Text.lower s == taskKeyword then .task
  else if folderKeyword.isPrefixOf (Text.lower s) then .folder
  else if extensionKeyword.isPrefixOf (Text.lower s) then .extension
  else .name

/-- The kind of a text behind a minus, where the connectives are ordinary words. -/
def classifyNegated (s : Text) : TokenKind :=
  match classify s with
  | .connector => .name
  | k => k

def ofSegment (s : Segment) : List Token :=
  match s.text with
  | '-' :: c :: rest =>
    [⟨.negation, ['-'], s.start, s.start + 1⟩,
      ⟨classifyNegated (c :: rest), c :: rest, s.start + 1, s.stop⟩]
  | text => [⟨classify text, text, s.start, s.stop⟩]

def tokenize (raw : Text) : List Token := (Segment.split raw).flatMap ofSegment

def display (t : Token) : Text :=
  "Token(".toList ++ t.kind.label ++ [' '] ++ Text.literal t.text ++ [' ', '@']
    ++ Text.ofNat t.start ++ [':'] ++ Text.ofNat t.stop ++ [')']

end Token

end NoteQuery
