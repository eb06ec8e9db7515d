import NoteQuery.Proofs.Faults.Dates
import NoteQuery.Query.Parse

/-!
# Parsing with its faults

A query text is parsed here by the readings by position and by the dates with their faults.
Every text is parsed, to the same query as by `Query.parse`.
-/
namespace NoteQuery.Checked

def tokens (raw : Text) : Except Fault (List Token) :=
  (segments raw).map (·.flatMap Token.ofSegment)

/-! ## Criteria -/

/-- The key and the value of a property; an empty value is none. -/
def keyAndValue (s : Text) : Except Fault (Text × Option Text) := do
  let (key, value) ← sides s
  let key ← unquote key
  match value with
  | none => return (Text.trim key, none)
  | some value =>
    let value ← unquote value
    return (Text.trim key, Text.nonEmpty? value)

/-- The filter of a date, or the text itself; nothing while the date is being typed. -/
def dateCriterion (ctx : Context) (literally : Criterion) (s : Text) :
    Except Fault (Option Criterion) := do
  let (field, expression) := DateExpr.splitField s
  if DateExpr.isUnfinished expression then return none
  else
    let range ← resolve ctx.conventions.order ctx.now expression
    return some ((range.map (.date (field.getD ctx.conventions.field))).getD literally)

def criterion (ctx : Context) (t : Token) : Except Fault (Option Criterion) :=
  let literally := Criterion.name t.text
  match t.kind with
  | .name => do
    let name ← unquote t.text
    return (Text.nonEmpty? name).map .name
  | .tag => do
    let path ← unquote (t.text.drop 1)
    return some (.tag (Text.nonEmpty? (Text.stripChars ['/'] (Text.trim path))))
  | .property => do
    let (key, value) ← keyAndValue (t.text.drop 1)
    return some (((Text.nonEmpty? key).map fun key => .property key value).getD literally)
  | .date => dateCriterion ctx literally (t.text.drop 1)
  | .task => .ok (some .task)
  | .folder => do
    let value ← unquote (t.text.drop Token.folderKeyword.length)
    return some (((Text.nonEmpty? (Text.trim value)).map fun path =>
      .folder (Text.join Folder.slash (Folder.segments path))
        (path.head? == some '/')).getD literally)
  | .extension => do
    let value ← unquote (t.text.drop Token.extensionKeyword.length)
    return some (((Text.nonEmpty? (Extension.normalize value)).map .extension).getD literally)
  | .connector => .ok (some literally)
  | .negation => .ok (some literally)

theorem keyAndValue_eq (s : Text) : keyAndValue s = .ok (Criterion.keyAndValue s) := by
  rw [keyAndValue, Criterion.keyAndValue, sides_eq, ok_bind]
  cases hsides : Quote.splitUnquoted ['='] s with
  | mk key value =>
    simp only [unquote_eq, ok_bind]
    cases value <;> rfl

theorem dateCriterion_eq (ctx : Context) (literally : Criterion) (s : Text) :
    dateCriterion ctx literally s =
      .ok (if Criterion.isUnfinishedDate s then none
        else some ((Criterion.ofDate? ctx s).getD literally)) := by
  rw [dateCriterion, Criterion.isUnfinishedDate, Criterion.ofDate?]
  simp only [resolve_eq, ok_bind]
  split <;> rfl

theorem criterion_eq (ctx : Context) (t : Token) :
    criterion ctx t = .ok (Criterion.ofToken? ctx t) := by
  rw [criterion, Criterion.ofToken?]
  cases t.kind with
  | task => rfl
  | connector => rfl
  | negation => rfl
  | date => simp only [dateCriterion_eq]
  | property =>
    simp only [keyAndValue_eq, ok_bind]
    rfl
  | _ =>
    simp only [unquote_eq, ok_bind]
    rfl

/-! ## Trees -/

def conjunctions (ctx : Context) (negated byWord : Bool) (sofar : Option Node) :
    List Token → Except Fault (List Node)
  | [] => .ok sofar.toList
  | t :: rest =>
    match t.kind with
    | .negation => conjunctions ctx true byWord sofar rest
    | .connector =>
      if t.text == Operator.or.word then
        (conjunctions ctx negated byWord none rest).map (sofar.toList ++ ·)
      else conjunctions ctx negated true sofar rest
    | _ => do
      let c ← criterion ctx t
      match c with
      | none => conjunctions ctx false byWord sofar rest
      | some c => conjunctions ctx false false (some (Node.conjoin byWord sofar ⟨c, negated⟩)) rest

/-- The disjunction of trees; the first of them is looked up. -/
def disjoin (groups : List Node) : Except Fault Node :=
  if groups.isEmpty then .ok (.all [])
  else do
    let first ← item groups 0
    return (groups.drop 1).foldl (.connector .or) first

def mixedTerms (ctx : Context) (negated : Bool) : List Token → Except Fault (List Term)
  | [] => .ok []
  | t :: rest =>
    if t.kind == .negation then mixedTerms ctx true rest
    else do
      let c ← criterion ctx t
      match c with
      | none => mixedTerms ctx false rest
      | some c => (mixedTerms ctx false rest).map (⟨c, negated⟩ :: ·)

def root (ctx : Context) (ts : List Token) : Except Fault Node :=
  match QueryMode.ofTokens ts with
  | .pure => conjunctions ctx false false none ts >>= disjoin
  | .mixed => (mixedTerms ctx false ts).map fun terms => .all (terms.map .term)

def parse (ctx : Context) (raw : Text) : Except Fault Query := do
  let ts ← tokens raw
  let tree ← root ctx ts
  return ⟨raw, tree, QueryMode.ofTokens ts⟩

theorem conjunctions_eq (ctx : Context) (negated byWord : Bool) (sofar : Option Node)
    (ts : List Token) :
    conjunctions ctx negated byWord sofar ts =
      .ok (Node.conjunctions ctx negated byWord sofar ts) := by
  induction ts generalizing negated byWord sofar with
  | nil => rfl
  | cons t ts ih =>
    rw [conjunctions, Node.conjunctions]
    cases t.kind with
    | negation => exact ih true byWord sofar
    | connector =>
      simp only
      split
      · rw [ih]
        rfl
      · exact ih negated true sofar
    | _ =>
      simp only [criterion_eq, ok_bind]
      cases Criterion.ofToken? ctx t with
      | none => exact ih false byWord sofar
      | some c => exact ih false false _

theorem disjoin_eq (groups : List Node) : disjoin groups = .ok (Node.disjoin groups) := by
  cases groups <;> rfl

theorem mixedTerms_eq (ctx : Context) (negated : Bool) (ts : List Token) :
    mixedTerms ctx negated ts = .ok (Node.mixedTerms ctx negated ts) := by
  induction ts generalizing negated with
  | nil => rfl
  | cons t ts ih =>
    rw [mixedTerms, Node.mixedTerms]
    split
    · exact ih true
    · rw [criterion_eq, ok_bind]
      cases Criterion.ofToken? ctx t with
      | none => exact ih false
      | some c =>
        rw [ih]
        rfl

theorem root_eq (ctx : Context) (ts : List Token) : root ctx ts = .ok (Node.ofTokens ctx ts) := by
  rw [root, Node.ofTokens]
  cases QueryMode.ofTokens ts with
  | pure => rw [conjunctions_eq, ok_bind, disjoin_eq]
  | mixed =>
    rw [mixedTerms_eq]
    rfl

theorem tokens_eq (raw : Text) : tokens raw = .ok (Token.tokenize raw) := by
  rw [tokens, segments_eq]
  rfl

/-- Every text is parsed. -/
theorem parse_eq (ctx : Context) (raw : Text) : parse ctx raw = .ok (Query.parse ctx raw) := by
  rw [parse, tokens_eq, ok_bind, root_eq, ok_bind]
  rfl

end NoteQuery.Checked
