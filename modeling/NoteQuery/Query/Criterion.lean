import NoteQuery.Dates.Resolve
import NoteQuery.Folder
import NoteQuery.Query.Node
import NoteQuery.Query.Quote
import NoteQuery.Query.Token

/-!
# From tokens to criteria

What a single token asks for. A token whose rest makes no filter, such as a folder
without a path or a date that does not exist, is read as a part of the file name; an
unfinished relative date and an empty name ask for nothing.
-/
namespace NoteQuery

/-- How dates are read: the timestamp meant where none is named, and the order of
numbers. -/
structure Conventions where
  field : DateField := .modified
  order : DayOrder := .dayFirst
  deriving DecidableEq, Repr

/-- All that the meaning of a query text depends on. -/
structure Context where
  now : Instant
  conventions : Conventions
  deriving DecidableEq, Repr

namespace Criterion

def ofName? (s : Text) : Option Criterion := (Text.nonEmpty? (Quote.unquote s)).map .name

/-- The tag filter of a text behind the sign; nothing there asks for any tag. -/
def ofTag (s : Text) : Criterion :=
  .tag (Text.nonEmpty? (Text.stripChars ['/'] (Text.trim (Quote.unquote s))))

/-- The key and the value of a text behind the dot; an empty value is none. -/
def keyAndValue (s : Text) : Text × Option Text :=
  let (key, value) := Quote.splitUnquoted ['='] s
  (Text.trim (Quote.unquote key), value.bind fun v => Text.nonEmpty? (Quote.unquote v))

def ofProperty? (s : Text) : Option Criterion :=
  (Text.nonEmpty? (keyAndValue s).1).map fun key => .property key (keyAndValue s).2

/-- The folder filter of a path; a separator in front asks for exactly that folder. -/
def ofFolder? (s : Text) : Option Criterion :=
  (Text.nonEmpty? (Text.trim (Quote.unquote s))).map fun path =>
    .folder (Text.join Folder.slash (Folder.segments path)) (path.head? == some '/')

def ofExtension? (s : Text) : Option Criterion :=
  (Text.nonEmpty? (Extension.normalize (Quote.unquote s))).map .extension

def ofDate? (ctx : Context) (s : Text) : Option Criterion :=
  (DateExpr.resolve? ctx.conventions.order ctx.now (DateExpr.splitField s).2).map
    (.date ((DateExpr.splitField s).1.getD ctx.conventions.field))

def isUnfinishedDate (s : Text) : Bool := DateExpr.isUnfinished (DateExpr.splitField s).2

def ofToken? (ctx : Context) (t : Token) : Option Criterion :=
  let literally := Criterion.name t.text
  match t.kind with
  | .name => ofName? t.text
  | .tag => some (ofTag (t.text.drop 1))
  | .property => some ((ofProperty? (t.text.drop 1)).getD literally)
  | .date =>
    if isUnfinishedDate (t.text.drop 1) then none
    else some ((ofDate? ctx (t.text.drop 1)).getD literally)
  | .task => some .task
  | .folder => some ((ofFolder? (t.text.drop Token.folderKeyword.length)).getD literally)
  | .extension => some ((ofExtension? (t.text.drop Token.extensionKeyword.length)).getD literally)
  | .connector => some literally
  | .negation => some literally

end Criterion

/-- Whether the meaning of a token depends on the clock. -/
def Token.asksTime (t : Token) : Bool :=
  t.kind == .date && !Criterion.isUnfinishedDate (t.text.drop 1)

namespace Context

/-- The context at a clock reading. A reading outside the calendar is an error only if a
token asks for it; otherwise any time will do. -/
def forTokens (conventions : Conventions) (now : Moment) (tokens : List Token) :
    Except OutOfCalendar Context :=
  match now.local with
  | .ok t => .ok ⟨t, conventions⟩
  | .error e => if tokens.any Token.asksTime then .error e else .ok ⟨.first, conventions⟩

end Context

end NoteQuery
