import NoteQuery.Query.Criterion

/-!
# Parsing queries

A query of tags and properties only, with connectives in the right places, is pure: its
connectives are operators, a conjunction binding tighter than a disjunction, and terms
side by side are a conjunction. Any other query is mixed: it asks for all its terms at
once, and its connectives are ordinary words. A minus negates the next term.
-/
namespace NoteQuery

inductive QueryMode where
  | pure
  | mixed
  deriving DecidableEq, Repr

namespace QueryMode

def word : QueryMode → Text
  | pure => "pure".toList
  | mixed => "mixed".toList

/-- Whether tokens are terms of a pure query with connectives between them; `expecting`
says that a term has to come before a connective or the end. -/
def isPureFrom (expecting : Bool) : List Token → Bool
  | [] => !expecting
  | t :: rest =>
    match t.kind with
    | .negation => isPureFrom expecting rest
    | .connector => !expecting && isPureFrom true rest
    | .tag => isPureFrom false rest
    | .property => isPureFrom false rest
    | _ => false

def ofTokens (tokens : List Token) : QueryMode :=
  if isPureFrom true tokens then pure else mixed

end QueryMode

namespace Node

/-- Joins a term to a conjunction that is being built. -/
def conjoin (byWord : Bool) (sofar : Option Node) (t : Term) : Node :=
  match sofar with
  | none => .term t
  | some n =>
    if byWord then .connector .and n (.term t)
    else
      match n with
      | .all terms => .all (terms ++ [.term t])
      | n => .all [n, .term t]

/-- The conjunctions of a pure query. `negated` says that a minus waits for its term,
`byWord` that a connective joins the next term to the conjunction so far. -/
def conjunctions (ctx : Context) (negated byWord : Bool) (sofar : Option Node) :
    List Token → List Node
  | [] => sofar.toList
  | t :: rest =>
    match t.kind with
    | .negation => conjunctions ctx true byWord sofar rest
    | .connector =>
      if t.text == Operator.or.word then
        sofar.toList ++ conjunctions ctx negated byWord none rest
      else conjunctions ctx negated true sofar rest
    | _ =>
      match Criterion.ofToken? ctx t with
      | none => conjunctions ctx false byWord sofar rest
      | some c => conjunctions ctx false false (some (conjoin byWord sofar ⟨c, negated⟩)) rest

/-- The disjunction of some trees, nested to the left. -/
def disjoin : List Node → Node
  | [] => .all []
  | n :: rest => rest.foldl (.connector .or) n

def mixedTerms (ctx : Context) (negated : Bool) : List Token → List Term
  | [] => []
  | t :: rest =>
    if t.kind == .negation then mixedTerms ctx true rest
    else
      match Criterion.ofToken? ctx t with
      | none => mixedTerms ctx false rest
      | some c => ⟨c, negated⟩ :: mixedTerms ctx false rest

/-- The tree of a list of tokens. -/
def ofTokens (ctx : Context) (tokens : List Token) : Node :=
  match QueryMode.ofTokens tokens with
  | .pure => disjoin (conjunctions ctx false false none tokens)
  | .mixed => .all ((mixedTerms ctx false tokens).map .term)

/-- The tree of a list of tokens at a clock reading. -/
def ofTokensAt (conventions : Conventions) (now : Moment) (tokens : List Token) :
    Except OutOfCalendar Node :=
  (Context.forTokens conventions now tokens).map fun ctx => ofTokens ctx tokens

end Node

/-- A parsed query with the text it came from. -/
structure Query where
  raw : Text
  root : Node
  mode : QueryMode

namespace Query

def parse (ctx : Context) (raw : Text) : Query :=
  let tokens := Token.tokenize raw
  ⟨raw, Node.ofTokens ctx tokens, QueryMode.ofTokens tokens⟩

def parseAt (conventions : Conventions) (now : Moment) (raw : Text) :
    Except OutOfCalendar Query :=
  (Context.forTokens conventions now (Token.tokenize raw)).map fun ctx => parse ctx raw

/-- A query without terms matches every note. -/
def isEmpty (q : Query) : Bool := !q.root.isActive

def display (q : Query) : Text :=
  "Query(".toList ++ Text.literal q.raw ++ ", mode=".toList ++ q.mode.word ++ [')']

end Query

end NoteQuery
