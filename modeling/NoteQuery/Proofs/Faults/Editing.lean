import Mathlib.Data.List.Chain
import Mathlib.Data.List.DropRight
import Mathlib.Data.List.TakeDrop
import NoteQuery.Proofs.Faults.Parsing
import NoteQuery.Query.Edit

/-!
# Editing with its faults

Words of a query text are looked up and removed here by their positions, where a position can
be outside. Connectives that have lost their term go in four loops: the one in front of the
removed word, those at the start, the second of two in a row, those at the end. No position is
outside, and the words that are left are those that `Edit` leaves.
-/
namespace NoteQuery.Checked

def last {α : Type} (xs : List α) : Except Fault α := demand .position xs.getLast?

/-! ## Removing connectives -/

def dropBefore (words : List Text) (removedAt : Nat) : Except Fault (List Text) :=
  if 0 < removedAt then do
    let w ← item words (removedAt - 1)
    if !Token.isConnector w then .ok words
    else if removedAt - 1 < words.length then .ok (words.eraseIdx (removedAt - 1))
    else .error .position
  else .ok words

def dropLeading (words : List Text) : Except Fault (List Text) :=
  if words.isEmpty then .ok words
  else do
    let w ← item words 0
    if !Token.isConnector w then .ok words
    else if 0 < words.length then dropLeading (words.eraseIdx 0)
    else .error .position
termination_by words.length

/-- Without the second of two connectives in a row, from a position on. -/
def mergeFrom (words : List Text) (i : Nat) : Except Fault (List Text) :=
  if i + 1 < words.length then do
    let a ← item words i
    let b ← item words (i + 1)
    if !(Token.isConnector a && Token.isConnector b) then mergeFrom words (i + 1)
    else if i + 1 < words.length then mergeFrom (words.eraseIdx (i + 1)) i
    else .error .position
  else .ok words
termination_by words.length - i
decreasing_by
  · omega
  · rw [List.length_eraseIdx_of_lt (by assumption)]
    omega

def dropTrailing (words : List Text) : Except Fault (List Text) :=
  if words.isEmpty then .ok words
  else do
    let w ← last words
    if !Token.isConnector w then .ok words
    else if 0 < words.length then dropTrailing words.dropLast
    else .error .position
termination_by words.length

/-- Words without the connectives that a word left behind when it was removed at a position. -/
def prune (words : List Text) (removedAt : Nat) : Except Fault (List Text) := do
  let words ← dropBefore words removedAt
  let words ← dropLeading words
  let words ← mergeFrom words 0
  dropTrailing words

theorem last_concat {α : Type} (front : List α) (a : α) : last (front ++ [a]) = .ok a := by
  rw [last, List.getLast?_concat]
  rfl

theorem dropBefore_eq (front back : List Text) :
    dropBefore (front ++ back) front.length = .ok (Edit.dropLastConnector front ++ back) := by
  rcases List.eq_nil_or_concat front with rfl | ⟨front, w, rfl⟩
  · rfl
  · have hlength : (front ++ [w]).length - 1 = front.length := by simp
    have hwords : (front ++ [w]) ++ back = front ++ w :: back := by simp
    rw [List.concat_eq_append, dropBefore, if_pos (by simp), hlength, hwords, item_append, ok_bind,
      Edit.dropLastConnector, List.getLast?_concat]
    cases hw : Token.isConnector w with
    | true => simp [List.eraseIdx_append_of_length_le, hw]
    | false => simp [hw]

theorem dropLeading_eq (words : List Text) :
    dropLeading words = .ok (words.dropWhile Token.isConnector) := by
  induction words with
  | nil => rw [dropLeading]; rfl
  | cons w words ih =>
    have hfirst : item (w :: words) 0 = .ok w := rfl
    rw [dropLeading, List.isEmpty_cons, if_neg Bool.false_ne_true, hfirst, ok_bind]
    cases hw : Token.isConnector w with
    | true =>
      rw [List.dropWhile_cons_of_pos hw, if_neg (by simp), if_pos (by simp),
        List.eraseIdx_cons_zero, ih]
    | false =>
      rw [List.dropWhile_cons_of_neg (by simp [hw]), if_pos (by simp)]

theorem mergeFrom_append (front : List Text) (w : Text) (rest : List Text) :
    mergeFrom (front ++ w :: rest) front.length =
      .ok (front ++ w :: Edit.mergeConnectors (Token.isConnector w) rest) := by
  induction rest generalizing front w with
  | nil =>
    rw [mergeFrom, if_neg (by simp)]
    rfl
  | cons v rest ih =>
    rw [mergeFrom, if_pos (by simp), item_append, ok_bind, item_append_next, ok_bind,
      Edit.mergeConnectors]
    cases hboth : Token.isConnector w && Token.isConnector v with
    | true =>
      have herase : (front ++ w :: v :: rest).eraseIdx (front.length + 1) = front ++ w :: rest := by
        simp [List.eraseIdx_append_of_length_le]
      rw [if_neg (by simp), if_pos (by simp), if_pos rfl, herase, ih,
        (Bool.and_eq_true_iff.mp hboth).1]
    | false =>
      have hnext := ih (front ++ [w]) v
      rw [List.append_assoc, List.length_append] at hnext
      rw [if_pos (by simp), if_neg Bool.false_ne_true]
      simpa using hnext

theorem mergeFrom_eq (words : List Text) :
    mergeFrom words 0 = .ok (Edit.mergeConnectors false words) := by
  cases words with
  | nil => rw [mergeFrom]; rfl
  | cons w words =>
    rw [Edit.mergeConnectors, Bool.false_and, if_neg Bool.false_ne_true]
    exact mergeFrom_append [] w words

theorem dropTrailing_eq (words : List Text) :
    dropTrailing words = .ok (words.rdropWhile Token.isConnector) := by
  induction words using List.reverseRecOn with
  | nil => rw [dropTrailing]; rfl
  | append_singleton words w ih =>
    rw [dropTrailing, if_neg (by simp), last_concat, ok_bind]
    cases hw : Token.isConnector w with
    | true =>
      rw [if_neg (by simp), if_pos (by simp), List.dropLast_concat, ih,
        List.rdropWhile_concat_pos _ _ _ hw]
    | false => rw [if_pos (by simp), List.rdropWhile_concat_neg _ _ _ (by simp [hw])]

def IsMerged (words : List Text) : Prop :=
  words.IsChain fun v w => ¬(Token.isConnector v = true ∧ Token.isConnector w = true)

theorem isMerged_mergeConnectors (behind : Bool) (words : List Text) :
    IsMerged (Edit.mergeConnectors behind words) ∧
      (behind = true → ∀ w ∈ (Edit.mergeConnectors behind words).head?,
        Token.isConnector w = false) := by
  induction words generalizing behind with
  | nil => exact ⟨.nil, fun _ w hw => nomatch hw⟩
  | cons w words ih =>
    rw [Edit.mergeConnectors]
    cases hboth : behind && Token.isConnector w with
    | true =>
      rw [if_pos rfl]
      exact ⟨(ih true).1, fun _ => (ih true).2 rfl⟩
    | false =>
      rw [if_neg Bool.false_ne_true]
      obtain ⟨hmerged, hhead⟩ := ih (Token.isConnector w)
      refine ⟨List.isChain_cons.mpr ⟨fun v hv hpair => ?_, hmerged⟩, ?_⟩
      · rw [hhead hpair.1 v hv] at hpair
        exact absurd hpair.2 Bool.false_ne_true
      · rintro rfl v hv
        cases hv
        rwa [Bool.true_and] at hboth

/-- Where no two connectives are in a row, at most one is at the end. -/
theorem rdropWhile_of_isMerged {words : List Text} (h : IsMerged words) :
    words.rdropWhile Token.isConnector = Edit.dropLastConnector words := by
  rcases List.eq_nil_or_concat words with rfl | ⟨front, w, rfl⟩
  · rfl
  · rw [List.concat_eq_append] at h ⊢
    rw [Edit.dropLastConnector, List.getLast?_concat]
    cases hw : Token.isConnector w with
    | false => rw [List.rdropWhile_concat_neg _ _ _ (by simp [hw])]; simp [hw]
    | true =>
      rw [List.rdropWhile_concat_pos _ _ _ hw]
      rcases List.eq_nil_or_concat front with rfl | ⟨front, v, rfl⟩
      · simp [hw]
      · rw [List.concat_eq_append] at h ⊢
        have hv : Token.isConnector v = false := by
          have hpair := (List.isChain_append.mp h).2.2 v (by simp) w (by simp)
          simpa [hw] using hpair
        rw [List.rdropWhile_concat_neg _ _ _ (by simp [hv])]
        simp [hw]

/-- The four loops leave the words that `Edit.rejoin` leaves. -/
theorem prune_eq (front back : List Text) :
    prune (front ++ back) front.length = .ok (Edit.rejoin true front back) := by
  have hmerged := (isMerged_mergeConnectors false
    ((Edit.dropLastConnector front ++ back).dropWhile Token.isConnector)).1
  rw [prune, dropBefore_eq, ok_bind, dropLeading_eq, ok_bind, mergeFrom_eq, ok_bind,
    dropTrailing_eq, rdropWhile_of_isMerged hmerged]
  rfl

/-! ## Toggling -/

def find (isTarget : Text → Except Fault Bool) : List Text → Except Fault (Option Nat)
  | [] => .ok none
  | w :: rest => do
    let found ← isTarget w
    if found then return some 0
    else
      let position ← find isTarget rest
      return position.map (· + 1)

/-- Words with a term at the end; in an expression the last word is looked at. -/
def append (expression : Bool) (operator : Operator) (formatted : Text) (words : List Text) :
    Except Fault (List Text) :=
  if words.isEmpty then .ok [formatted]
  else if !expression then .ok (words ++ [formatted])
  else do
    let w ← last words
    if Token.isConnector w then return words.dropLast ++ [operator.word, formatted]
    else return words ++ [operator.word, formatted]

def toggle (raw formatted : Text) (isTarget : Text → Except Fault Bool) (operator : Operator) :
    Except Fault QueryUpdate := do
  let trimmed := Text.trim raw
  let parts ← segments trimmed
  let ts ← tokens trimmed
  let words := parts.map (·.text)
  let expression := ts.all fun t => Edit.isExpressionKind t.kind
  let update (action : EditAction) (words : List Text) : QueryUpdate :=
    let query := Text.join [' '] words
    ⟨query, action, query != trimmed⟩
  let found ← find isTarget words
  match found with
  | some i =>
    let remaining := words.take i ++ words.drop (i + 1)
    let remaining ← if expression then prune remaining i else .ok remaining
    return update .removed remaining
  | none =>
    let words ← append expression operator formatted words
    return update .added words

def isTag (target word : Text) : Except Fault Bool :=
  if Token.classify word == .tag then do
    let path ← unquote (word.drop 1)
    return Tag.normalize path == target
  else .ok false

def isProperty (key : Text) (value : Option Text) (word : Text) : Except Fault Bool :=
  if Token.classify word == .property then do
    let (k, v) ← keyAndValue (word.drop 1)
    return Text.foldCase k == Text.foldCase key && v == value
  else .ok false

def toggleTag (raw tag : Text) (operator : Operator) : Except Fault QueryUpdate :=
  let target := Tag.normalize tag
  if target.isEmpty then .ok (Edit.unchanged raw)
  else toggle raw (Edit.formatTag tag) (isTag target) operator

def toggleProperty (raw key : Text) (value : Option Text) (operator : Operator) :
    Except Fault QueryUpdate :=
  let key := Text.trim key
  let value := value.bind Text.nonEmpty?
  if key.isEmpty then .ok (Edit.unchanged raw)
  else toggle raw (Edit.formatProperty key value) (isProperty key value) operator

variable {isTarget : Text → Except Fault Bool} {p : Text → Bool}

theorem find_eq (h : ∀ w, isTarget w = .ok (p w)) (words : List Text) :
    find isTarget words =
      .ok (if (words.dropWhile (!p ·)).isEmpty then none
        else some (words.takeWhile (!p ·)).length) := by
  induction words with
  | nil => rfl
  | cons w words ih =>
    rw [find, h, ok_bind]
    cases hw : p w with
    | true => simp [hw]; rfl
    | false =>
      rw [if_neg Bool.false_ne_true, ih, ok_bind, List.dropWhile_cons_of_pos (by simp [hw]),
        List.takeWhile_cons_of_pos (by simp [hw])]
      split <;> rfl

theorem append_eq (expression : Bool) (operator : Operator) (formatted : Text) (words : List Text) :
    append expression operator formatted words =
      .ok (Edit.append expression operator formatted words) := by
  rcases List.eq_nil_or_concat words with rfl | ⟨front, w, rfl⟩
  · rfl
  · rw [List.concat_eq_append, append, Edit.append, last_concat, Edit.dropLastConnector,
      List.getLast?_concat, ok_bind]
    cases expression <;> cases hw : Token.isConnector w <;> simp [hw] <;> rfl

theorem toggle_eq (h : ∀ w, isTarget w = .ok (p w)) (raw formatted : Text) (operator : Operator) :
    toggle raw formatted isTarget operator = .ok (Edit.toggle raw formatted p operator) := by
  rw [toggle, Edit.toggle, segments_eq, ok_bind, tokens_eq, ok_bind]
  simp only [find_eq h, ok_bind, List.span_eq_takeWhile_dropWhile]
  have hparts := List.takeWhile_append_dropWhile (p := (!p ·)) (l := Segment.words (Text.trim raw))
  have hwords : (Segment.split (Text.trim raw)).map (·.text) = Segment.words (Text.trim raw) := rfl
  rw [hwords]
  generalize (Segment.words (Text.trim raw)).takeWhile (!p ·) = front at hparts ⊢
  cases hback : (Segment.words (Text.trim raw)).dropWhile (!p ·) with
  | nil =>
    simp only [List.isEmpty_nil, if_true, append_eq, ok_bind]
    rfl
  | cons w back =>
    have hremaining : (Segment.words (Text.trim raw)).take front.length ++
        (Segment.words (Text.trim raw)).drop (front.length + 1) = front ++ back := by
      rw [← hparts, hback]
      simp
    simp only [List.isEmpty_cons, Bool.false_eq_true, if_false, hremaining, prune_eq,
      Edit.isExpression]
    cases (Token.tokenize (Text.trim raw)).all fun t => Edit.isExpressionKind t.kind <;> rfl

theorem isTag_eq (target word : Text) : isTag target word = .ok (Edit.isTag target word) := by
  rw [isTag, Edit.isTag]
  cases Token.classify word == .tag with
  | true => rw [if_pos rfl, unquote_eq]; rfl
  | false => rfl

theorem isProperty_eq (key : Text) (value : Option Text) (word : Text) :
    isProperty key value word = .ok (Edit.isProperty key value word) := by
  rw [isProperty, Edit.isProperty]
  cases Token.classify word == .property with
  | true => rw [if_pos rfl, keyAndValue_eq]; rfl
  | false => rfl

theorem toggleTag_eq (raw tag : Text) (operator : Operator) :
    toggleTag raw tag operator = .ok (Edit.toggleTag raw tag operator) := by
  rw [toggleTag, Edit.toggleTag]
  split
  · rfl
  · exact toggle_eq (isTag_eq _) raw _ operator

theorem toggleProperty_eq (raw key : Text) (value : Option Text) (operator : Operator) :
    toggleProperty raw key value operator = .ok (Edit.toggleProperty raw key value operator) := by
  rw [toggleProperty, Edit.toggleProperty]
  split
  · rfl
  · exact toggle_eq (isProperty_eq _ _) raw _ operator

end NoteQuery.Checked
