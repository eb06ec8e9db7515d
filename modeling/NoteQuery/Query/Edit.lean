import NoteQuery.Query.Criterion
import NoteQuery.Tag

/-!
# Editing query texts

Toggling a term of a query text: a term that is there is removed, another one is put at
the end. In an expression, which holds tags, properties and connectives only, a term is
added behind a connective, and removing one takes the connectives with it that would be
left without a term. Other texts lose or gain the term alone, the connectives being
ordinary words there.
-/
namespace NoteQuery

inductive EditAction where
  | added
  | removed
  | unchanged
  deriving DecidableEq, Repr

namespace EditAction

def word : EditAction → Text
  | added => "added".toList
  | removed => "removed".toList
  | unchanged => "unchanged".toList

end EditAction

structure QueryUpdate where
  query : Text
  action : EditAction
  changed : Bool
  deriving DecidableEq, Repr

namespace Edit

def isExpressionKind : TokenKind → Bool
  | .tag => true
  | .property => true
  | .connector => true
  | .negation => true
  | _ => false

/-- Whether a query text holds tags, properties and connectives only. -/
def isExpression (raw : Text) : Bool := (Token.tokenize raw).all fun t => isExpressionKind t.kind

def dropLastConnector (words : List Text) : List Text :=
  match words.getLast? with
  | some w => if Token.isConnector w then words.dropLast else words
  | none => words

/-- Keeps the first of several connectives in a row; `behind` says that the word before
was one. -/
def mergeConnectors (behind : Bool) : List Text → List Text
  | [] => []
  | w :: rest =>
    if behind && Token.isConnector w then mergeConnectors true rest
    else w :: mergeConnectors (Token.isConnector w) rest

/-- Words without the connectives that have no term on one side. -/
def pruneConnectors (words : List Text) : List Text :=
  dropLastConnector (mergeConnectors false (words.dropWhile Token.isConnector))

/-- The words around a word that was taken out. -/
def rejoin (expression : Bool) (front back : List Text) : List Text :=
  if expression then pruneConnectors (dropLastConnector front ++ back) else front ++ back

def append (expression : Bool) (operator : Operator) (formatted : Text) (words : List Text) :
    List Text :=
  if words.isEmpty then [formatted]
  else if expression then dropLastConnector words ++ [operator.word, formatted]
  else words ++ [formatted]

def unchanged (raw : Text) : QueryUpdate := ⟨Text.trim raw, .unchanged, false⟩

/-- Removes the first word that is the target, or adds a term in its written form. -/
def toggle (raw formatted : Text) (isTarget : Text → Bool) (operator : Operator) : QueryUpdate :=
  let trimmed := Text.trim raw
  let words := Segment.words trimmed
  let expression := isExpression trimmed
  let update (action : EditAction) (words : List Text) : QueryUpdate :=
    let query := Text.join [' '] words
    ⟨query, action, query != trimmed⟩
  match words.span (!isTarget ·) with
  | (front, _ :: back) => update .removed (rejoin expression front back)
  | (_, []) => update .added (append expression operator formatted words)

/-- A tag as a term; signs in front are left out. -/
def formatTag (tag : Text) : Text := '#' :: Quote.quote ((Text.trim tag).dropWhile (· == '#'))

/-- A property as a term; an empty value is none. -/
def formatProperty (key : Text) (value : Option Text) : Text :=
  match value.bind Text.nonEmpty? with
  | some v => '.' :: Quote.quote key ++ ['='] ++ Quote.quote v
  | none => '.' :: Quote.quote key

def isTag (target word : Text) : Bool :=
  Token.classify word == .tag && Tag.normalize (Quote.unquote (word.drop 1)) == target

/-- Whether a word asks for a property, keys being compared without case. -/
def isProperty (key : Text) (value : Option Text) (word : Text) : Bool :=
  let (k, v) := Criterion.keyAndValue (word.drop 1)
  Token.classify word == .property && Text.foldCase k == Text.foldCase key && v == value

/-- Toggles a tag; nothing happens if it has no normal form. -/
def toggleTag (raw tag : Text) (operator : Operator) : QueryUpdate :=
  let target := Tag.normalize tag
  if target.isEmpty then unchanged raw else toggle raw (formatTag tag) (isTag target) operator

/-- Toggles a property; nothing happens if its key is blank. -/
def toggleProperty (raw key : Text) (value : Option Text) (operator : Operator) : QueryUpdate :=
  let key := Text.trim key
  let value := value.bind Text.nonEmpty?
  if key.isEmpty then unchanged raw
  else toggle raw (formatProperty key value) (isProperty key value) operator

end Edit

end NoteQuery
