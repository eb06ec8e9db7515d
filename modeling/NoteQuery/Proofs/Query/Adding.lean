import NoteQuery.Proofs.Query.Content
import NoteQuery.Proofs.Query.Quoting

/-!
# Adding a term

A term that is added stands behind the words of the query text. If the text is complete,
the new text has the tokens of the old one and the token of the term, up to connectives.
If a quote is left open, or a backslash is left at the end, the blank in front of the
term does not cut: the last word runs on, and the tokens of the text do not survive.
-/
namespace NoteQuery

theorem Text.bind_nonEmpty?_bind (value : Option Text) :
    (value.bind nonEmpty?).bind nonEmpty? = value.bind nonEmpty? := by
  cases value with
  | none => rfl
  | some v => cases v <;> rfl

namespace Cursor

/-- Without quotes and backslashes nothing is left open. -/
theorem isBalanced_after {k : Cursor} (h : k.isBalanced) {s : Text}
    (hs : ∀ c ∈ s, c ≠ '"' ∧ c ≠ '\\') : (k.after s).isBalanced := by
  induction s generalizing k with
  | nil =>
    rw [after]
    exact h
  | cons c s ih =>
    have hrest : ∀ d ∈ s, d ≠ '"' ∧ d ≠ '\\' := fun d hd => hs d (List.mem_cons_of_mem c hd)
    obtain ⟨hquote, hslash⟩ := hs c List.mem_cons_self
    rw [after]
    refine ih ?_ hrest
    cases hc : k.cuts c with
    | true =>
      rw [step_of_cuts hc]
      rfl
    | false =>
      rw [step_of_not_cuts hc, (isBalanced_iff k).mp h]
      simp [isBalanced, hquote, hslash]

/-- A connective does not begin with an open word. -/
theorem not_isConnector_append {k : Cursor} (h : k.IsSound) (hopen : k.isBalanced = false)
    (s : Text) : Token.isConnector (k.word ++ s) = false := by
  cases hk : Token.isConnector (k.word ++ s) with
  | false => rfl
  | true =>
    have hall : (k.word ++ s).all fun c => c != '"' && c != '\\' := by
      rw [Token.isConnector, Bool.or_eq_true, beq_iff_eq, beq_iff_eq] at hk
      rcases hk with hk | hk <;> rw [hk] <;> decide
    have hplain : ∀ c ∈ k.word ++ s, c ≠ '"' ∧ c ≠ '\\' := by
      intro c hc
      have hc := List.all_eq_true.mp hall c hc
      rw [Bool.and_eq_true, bne_iff_ne, bne_iff_ne] at hc
      exact hc
    have hbalanced := isBalanced_after (k := start) rfl
      fun c hc => hplain c (List.mem_append_left s hc)
    rw [h.after_eq, hopen] at hbalanced
    cases hbalanced

/-- Behind an open word a space and the next character belong to the word. -/
theorem words_space {k : Cursor} (hopen : k.isBalanced = false) {c : Char}
    (hc : Text.isBlank c = false) (s : Text) :
    ∃ more others, k.words (' ' :: c :: s) = (k.word ++ ' ' :: c :: more) :: others := by
  have hspace : k.cuts ' ' = false := by
    cases hk : k.cuts ' ' with
    | false => rfl
    | true =>
      rw [isBalanced_of_cuts hk] at hopen
      cases hopen
  have hnext : (k.step ' ').cuts c = false := by simp [cuts, hc]
  have hword : ((k.step ' ').step c).word = k.word ++ [' ', c] := by
    rw [step_of_not_cuts hnext, step_of_not_cuts hspace]
    simp
  have hread := ((reads_singleton hspace).append (reads_singleton hnext)).words_eq s
  obtain ⟨more, others, hmore⟩ := words_of_ne_nil (k := (k.step ' ').step c) (by simp [hword]) s
  refine ⟨more, others, ?_⟩
  rw [hmore, hword] at hread
  simpa using hread

end Cursor

namespace Edit

open Token (content wordContent tokenize isConnector)

theorem toggle_of_added {raw formatted : Text} {isTarget : Text → Bool} {operator : Operator}
    (h : (toggle raw formatted isTarget operator).action = .added) :
    (toggle raw formatted isTarget operator).query =
      Text.join [' '] (append (isExpression (Text.trim raw)) operator formatted
        (Segment.words (Text.trim raw))) := by
  simp only [toggle] at h ⊢
  generalize (Segment.words (Text.trim raw)).span (!isTarget ·) = parts at h ⊢
  obtain ⟨front, _ | ⟨word, back⟩⟩ := parts
  · rfl
  · cases h

/-- A connective at the end adds nothing to the content. -/
theorem content_dropLastConnector (words : List Text) :
    (dropLastConnector words).flatMap wordContent = words.flatMap wordContent := by
  rcases List.eq_nil_or_concat words with rfl | ⟨front, w, rfl⟩
  · rfl
  · rw [List.concat_eq_append, dropLastConnector, List.getLast?_concat]
    by_cases hw : isConnector w
    · simp only [if_pos hw, List.dropLast_concat, List.flatMap_append, List.flatMap_cons,
        Token.wordContent_of_isConnector hw, List.flatMap_nil, List.append_nil]
    · simp only [if_neg hw]

theorem isConnector_operator (operator : Operator) : isConnector operator.word := by
  cases operator <;> rfl

/-- The words of a changed text are those of the text and the term, up to connectives. -/
theorem content_append (expression : Bool) (operator : Operator) (formatted : Text)
    (words : List Text) :
    (append expression operator formatted words).flatMap wordContent =
      words.flatMap wordContent ++ wordContent formatted := by
  have hoperator := Token.wordContent_of_isConnector (isConnector_operator operator)
  rw [append]
  split
  · rename_i h
    rw [List.isEmpty_iff.mp h]
    simp
  · split
    · simp [content_dropLastConnector, hoperator]
    · simp

theorem isWord_operator (operator : Operator) : Text.IsWord operator.word := by
  cases operator
  · exact ⟨by decide, by decide, by decide⟩
  · exact ⟨by decide, by decide, by decide⟩

theorem mem_dropLastConnector {words : List Text} {w : Text} (h : w ∈ dropLastConnector words) :
    w ∈ words := by
  rw [dropLastConnector] at h
  split at h
  · split at h
    · exact (List.dropLast_sublist words).subset h
    · exact h
  · exact h

/-- With a term at the end there are the words, an operator and the term. -/
theorem mem_append {expression : Bool} {operator : Operator} {formatted w : Text}
    {words : List Text} (hw : w ∈ append expression operator formatted words) :
    w ∈ words ∨ w = operator.word ∨ w = formatted := by
  rw [append] at hw
  split at hw
  · exact Or.inr (Or.inr (List.mem_singleton.mp hw))
  · split at hw
    · rcases List.mem_append.mp hw with hw | hw
      · exact Or.inl (mem_dropLastConnector hw)
      · rcases List.mem_cons.mp hw with hw | hw
        · exact Or.inr (Or.inl hw)
        · exact Or.inr (Or.inr (List.mem_singleton.mp hw))
    · rcases List.mem_append.mp hw with hw | hw
      · exact Or.inl hw
      · exact Or.inr (Or.inr (List.mem_singleton.mp hw))

theorem isWord_of_mem_append {expression : Bool} {operator : Operator} {formatted : Text}
    {words : List Text} (hwords : ∀ w ∈ words, Text.IsWord w) (hf : Text.IsWord formatted)
    {w : Text} (hw : w ∈ append expression operator formatted words) : Text.IsWord w := by
  rcases mem_append hw with hw | rfl | rfl
  · exact hwords w hw
  · exact isWord_operator operator
  · exact hf

/-- The words put behind a last word that is no connective. -/
def tail (expression : Bool) (operator : Operator) (formatted : Text) : List Text :=
  if expression then [operator.word, formatted] else [formatted]

theorem tail_ne_nil (expression : Bool) (operator : Operator) (formatted : Text) :
    tail expression operator formatted ≠ [] := by
  cases expression <;> simp [tail]

theorem dropLastConnector_concat (front : List Text) {w : Text} (hw : isConnector w = false) :
    dropLastConnector (front ++ [w]) = front ++ [w] := by
  rw [dropLastConnector, List.getLast?_concat]
  simp [hw]

theorem append_concat (expression : Bool) (operator : Operator) (formatted : Text)
    (front : List Text) {w : Text} (hw : isConnector w = false) :
    append expression operator formatted (front ++ [w]) =
      front ++ w :: tail expression operator formatted := by
  rw [append, dropLastConnector_concat front hw, tail]
  cases expression <;> simp

/-- The text put behind the last word begins with a character that is not blank. -/
theorem exists_join_tail (expression : Bool) (operator : Operator) {c : Char}
    (h : Text.isBlank c = false) (rest : Text) :
    ∃ d more, Text.join [' '] (tail expression operator (c :: rest)) = d :: more ∧
      Text.isBlank d = false := by
  cases expression with
  | false => exact ⟨c, rest, by simp [tail, Text.join, List.intercalate], h⟩
  | true =>
    cases operator with
    | and => exact ⟨'A', _, rfl, rfl⟩
    | or => exact ⟨'O', _, rfl, rfl⟩

/-- Behind a complete text the term is a token of its own. -/
theorem content_of_complete {raw formatted : Text} {isTarget : Text → Bool} {operator : Operator}
    (h : (toggle raw formatted isTarget operator).action = .added)
    (hf : Text.IsWord formatted) (hraw : Text.isComplete (Text.trim raw)) :
    content (tokenize (toggle raw formatted isTarget operator).query) =
      content (tokenize raw) ++ content (tokenize formatted) := by
  have hwords : ∀ w ∈ Segment.words (Text.trim raw), Text.IsWord w :=
    fun w hw => Text.isWord_of_isComplete hraw hw
  rw [toggle_of_added h, Token.content_tokenize, Token.content_tokenize, Token.content_tokenize,
    Text.words_join fun w hw => isWord_of_mem_append hwords hf hw, content_append,
    Text.words_trim hraw, hf.words_eq]
  simp

/-- Behind a text that is not complete the last word runs on: blanks that stood there lengthen it
in the text, and a space and what is put behind it in the new text. -/
theorem words_of_open {raw : Text} {c : Char} {rest : Text} {isTarget : Text → Bool}
    {operator : Operator} (h : (toggle raw (c :: rest) isTarget operator).action = .added)
    (hc : Text.isBlank c = false) (hraw : Text.isComplete (Text.trim raw) = false) :
    ∃ front w, (∀ s, isConnector (w ++ s) = false) ∧
      Segment.words (Text.trim raw) = front ++ [w] ∧
      (∃ blanks, (∀ b ∈ blanks, Text.isBlank b) ∧ Segment.words raw = front ++ [w ++ blanks]) ∧
      ∃ d more others, Text.isBlank d = false ∧
        Segment.words (toggle raw (c :: rest) isTarget operator).query =
          front ++ (w ++ ' ' :: d :: more) :: others := by
  obtain ⟨front, k, hfront, hsound, hword, hopen, hrun⟩ := Text.exists_open_word hraw
  have hconnector := Cursor.not_isConnector_append hsound hopen
  obtain ⟨hwords, blanks, hblanks, hold⟩ := Text.words_of_open_trim hword hrun
  obtain ⟨d, tailText, htail, hd⟩ :=
    exists_join_tail (isExpression (Text.trim raw)) operator hc rest
  obtain ⟨more, others, hlast⟩ := Cursor.words_space hopen hd tailText
  have hk : isConnector k.word = false := by simpa using hconnector []
  refine ⟨front, k.word, hconnector, hwords, ⟨blanks, hblanks, hold⟩, d, more, others, hd, ?_⟩
  rw [toggle_of_added h, hwords, append_concat _ _ _ _ hk,
    Text.words_join_append hfront (by simp), Text.join_cons _ (tail_ne_nil _ _ _),
    htail, Segment.words_eq, Cursor.Reads.words_eq hsound, hlast]

/-- Behind a text that is not complete the last word is lost. -/
theorem content_of_open {raw : Text} {c : Char} {rest : Text} {isTarget : Text → Bool}
    {operator : Operator} (h : (toggle raw (c :: rest) isTarget operator).action = .added)
    (hc : Text.isBlank c = false) (hraw : Text.isComplete (Text.trim raw) = false) :
    content (tokenize (toggle raw (c :: rest) isTarget operator).query) ≠
      content (tokenize raw) ++ content (tokenize (c :: rest)) := by
  obtain ⟨front, w, hconnector, -, ⟨blanks, hblanks, hold⟩, d, more, others, hd, hnew⟩ :=
    words_of_open h hc hraw
  rw [Token.content_tokenize, Token.content_tokenize, hnew, hold]
  intro heq
  simp only [List.flatMap_append, List.flatMap_cons, List.flatMap_nil, List.append_nil,
    List.append_assoc, List.append_cancel_left_eq] at heq
  have hsame := Token.eq_of_wordContent_append (hconnector _) (hconnector _) heq
  rw [List.append_cancel_left_eq] at hsame
  have hblank := hblanks d (by rw [← hsame]; simp)
  rw [hd] at hblank
  cases hblank

/-- A term that an update adds or removes. -/
inductive Change where
  | tag (tag : Text)
  | property (key : Text) (value : Option Text)

namespace Change

def update (raw : Text) (operator : Operator) : Change → QueryUpdate
  | tag t => toggleTag raw t operator
  | property key value => toggleProperty raw key value operator

def formatted : Change → Text
  | tag t => formatTag t
  | property key value => formatProperty (Text.trim key) value

def kind : Change → TokenKind
  | tag _ => .tag
  | property .. => .property

theorem formatProperty_nonEmpty (key : Text) (value : Option Text) :
    formatProperty key (value.bind Text.nonEmpty?) = formatProperty key value := by
  rw [formatProperty, formatProperty, Text.bind_nonEmpty?_bind]

/-- An update that adds a term is a toggle. -/
theorem update_of_added {change : Change} {raw : Text} {operator : Operator}
    (h : (change.update raw operator).action = .added) :
    ∃ isTarget, change.update raw operator = toggle raw change.formatted isTarget operator ∧
      ∃ c rest, change.formatted = c :: rest ∧ Token.classify (c :: rest) = change.kind ∧
        Text.isBlank c = false ∧ c ≠ '-' := by
  cases change with
  | tag t =>
    simp only [update, toggleTag] at h ⊢
    split at h
    · cases h
    · rename_i hempty
      exact ⟨isTag (Tag.normalize t), by rw [if_neg hempty, formatted], '#', _, rfl,
        Token.classify_hash _, rfl, by decide⟩
  | property key value =>
    simp only [update, toggleProperty] at h ⊢
    split at h
    · cases h
    · rename_i hempty
      have hkey : Quote.quote (Text.trim key) ≠ [] :=
        Quote.quote_ne_nil fun hnil => hempty (by rw [hnil]; rfl)
      obtain ⟨c, rest, hquote⟩ := List.exists_cons_of_ne_nil hkey
      refine ⟨isProperty (Text.trim key) (value.bind Text.nonEmpty?), ?_, ?_⟩
      · rw [if_neg hempty, formatted, formatProperty_nonEmpty]
      · rw [formatted, formatProperty, hquote]
        cases value.bind Text.nonEmpty? with
        | none => exact ⟨'.', _, rfl, Token.classify_dot c _, rfl, by decide⟩
        | some v => exact ⟨'.', _, rfl, Token.classify_dot c _, rfl, by decide⟩

theorem isWord_formatted (change : Change) : Text.IsWord change.formatted := by
  cases change with
  | tag t => exact isWord_formatTag t
  | property key value => exact isWord_formatProperty _ value

/-- An added term is one token, and the other tokens stay what they are, up to
connectives, exactly if the text it is added to is complete. -/
theorem content_update_iff (change : Change) (raw : Text) (operator : Operator)
    (h : (change.update raw operator).action = .added) :
    content (tokenize change.formatted) = [(change.kind, change.formatted)] ∧
      (content (tokenize (change.update raw operator).query) =
          content (tokenize raw) ++ content (tokenize change.formatted) ↔
        Text.isComplete (Text.trim raw)) := by
  obtain ⟨isTarget, hupdate, c, rest, hf, hkind, hc, hsign⟩ := update_of_added h
  rw [hupdate] at h ⊢
  constructor
  · have hconnector : isConnector change.formatted = false := by
      cases hw : isConnector change.formatted with
      | false => rfl
      | true =>
        rw [← Token.classify_eq_connector_iff, hf, hkind] at hw
        cases change <;> cases hw
    rw [Token.content_tokenize, (isWord_formatted change).words_eq, List.flatMap_singleton]
    rcases Token.ofSegment_cases change.formatted with ⟨d, more, hd⟩ | htoken
    · rw [hf] at hd
      exact absurd (List.cons.inj hd).1 hsign
    · rw [Token.wordContent_of_ofSegment htoken hconnector, ← hkind, hf]
  · constructor
    · intro heq
      cases hraw : Text.isComplete (Text.trim raw) with
      | true => rfl
      | false =>
        rw [hf] at h heq
        exact absurd heq (content_of_open h hc hraw)
    · exact content_of_complete h (isWord_formatted change)

/-- `#b` is a token of what becomes of `#a`. -/
theorem content_update_tag :
    ((tag "b".toList).update "#a".toList .and).action = .added ∧
      content (tokenize ((tag "b".toList).update "#a".toList .and).query) =
        content (tokenize "#a".toList) ++ content (tokenize (tag "b".toList).formatted) := by
  have hadded : ((tag "b".toList).update "#a".toList .and).action = .added := by decide
  exact ⟨hadded, (content_update_iff (tag "b".toList) "#a".toList .and hadded).2.mpr (by decide)⟩

/-- Behind an open quote `#b` becomes a part of the quoted word. -/
theorem content_update_open_quote :
    ((tag "b".toList).update "#a \"".toList .and).action = .added ∧
      ((tag "b".toList).update "#a \"".toList .and).query = "#a \" #b".toList ∧
      content (tokenize ((tag "b".toList).update "#a \"".toList .and).query) ≠
        content (tokenize "#a \"".toList) ++ content (tokenize (tag "b".toList).formatted) := by
  decide

end Change

end Edit

end NoteQuery
