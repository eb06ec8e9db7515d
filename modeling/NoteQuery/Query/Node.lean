import NoteQuery.Dates.Basic
import NoteQuery.Value.Basic

/-!
# Query trees

A parsed query is a tree of terms, each of which may be negated, joined by the
connectives or listed as a conjunction. A tree built by hand may also hold a value that
is no query at all; describing and evaluating such a tree fail where they meet it, and
listing its terms passes it over.
-/
namespace NoteQuery

inductive Operator where
  | and
  | or
  deriving DecidableEq, Repr

namespace Operator

def word : Operator → Text
  | and => "AND".toList
  | or => "OR".toList

end Operator

/-- What a single term asks of a note. -/
inductive Criterion where
  /-- The file name holds a text. -/
  | name (text : Text)
  /-- A tag of the note lies below a path, or the note has any tag. -/
  | tag (path : Option Text)
  /-- A property has a value, or any content. -/
  | property (key : Text) (value : Option Text)
  /-- A task is open. -/
  | task
  /-- The folder is a path, or holds its segments as a run. -/
  | folder (path : Text) (rooted : Bool)
  | extension (ext : Text)
  /-- A timestamp falls in a range. -/
  | date (field : DateField) (range : DateRange)
  deriving DecidableEq, Repr

structure Term where
  criterion : Criterion
  negated : Bool
  deriving DecidableEq, Repr

inductive Node where
  | term (t : Term)
  | connector (op : Operator) (left right : Node)
  | all (terms : List Node)
  /-- A value that is not a query. -/
  | foreign (v : Value)

/-- A value stands where a query is needed. -/
structure UnknownNode where
  value : Value

def UnknownNode.message (e : UnknownNode) : Text :=
  "Unknown query node: ".toList ++ e.value.literal

namespace Criterion

def describe : Criterion → Text
  | name text => Text.literal text
  | tag path => '#' :: path.getD []
  | property key none => '.' :: key
  | property key (some value) => '.' :: key ++ ['='] ++ Text.literal value
  | task => "has:task".toList
  | folder path rooted => "folder:".toList ++ (if rooted then ['/'] else []) ++ path
  | extension ext => "ext:".toList ++ ext
  | date field range =>
    '@' :: field.word ++ ['['] ++ range.start.toText ++ ['.', '.'] ++ range.stop.toText ++ [']']

def readsTags : Criterion → Bool
  | tag _ => true
  | _ => false

def readsProperties : Criterion → Bool
  | property _ _ => true
  | _ => false

end Criterion

def Term.describe (t : Term) : Text :=
  (if t.negated then ['-'] else []) ++ t.criterion.describe

namespace Node

instance : Inhabited Node := ⟨all []⟩

/-- The direct parts of a tree. -/
def children : Node → List Node
  | connector _ left right => [left, right]
  | all terms => terms
  | _ => []

mutual

/-- The terms of a tree from left to right. -/
def leaves : Node → List Term
  | term t => [t]
  | connector _ left right => leaves left ++ leaves right
  | all terms => leavesOfAll terms
  | foreign _ => []

def leavesOfAll : List Node → List Term
  | [] => []
  | n :: rest => leaves n ++ leavesOfAll rest

end

def isActive (n : Node) : Bool := !n.leaves.isEmpty

def needsTags (n : Node) : Bool := n.leaves.any (·.criterion.readsTags)

def needsProperties (n : Node) : Bool := n.leaves.any (·.criterion.readsProperties)

mutual

/-- A tree as compact text; fails at the leftmost value that is not a query. -/
def describe : Node → Except UnknownNode Text
  | term t => .ok t.describe
  | connector op left right => do
    let l ← describe left
    let r ← describe right
    return ['('] ++ l ++ [' '] ++ op.word ++ [' '] ++ r ++ [')']
  | all terms => do
    let parts ← describeAll terms
    return ['['] ++ Text.join [' ', '&', ' '] parts ++ [']']
  | foreign v => .error ⟨v⟩

def describeAll : List Node → Except UnknownNode (List Text)
  | [] => .ok []
  | n :: rest => do
    let first ← describe n
    let others ← describeAll rest
    return first :: others

end

end Node

end NoteQuery
