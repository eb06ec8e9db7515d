import NoteQuery.Proofs.Query.Extending

/-!
# What an added term asks for

Under a disjunction a term that is added to a pure query is a group of its own, so that notes are
only gained; under a conjunction it joins the last group, so that notes are only lost. This needs
the trimmed text to be complete: an escaped blank at its end is trimmed away, and the backslash
then takes the blank in front of the operator.
-/
namespace NoteQuery

open Token (isConnector isOperandWord tokenize)

namespace Reading

/-- Groups with a term at the end, behind an operator. -/
def extend (front : List (List Term)) (last : List Term) (x : Term) :
    Operator → List (List Term)
  | .and => front ++ [last ++ [x]]
  | .or => front ++ [last] ++ [[x]]

theorem meets_append (groups others : List (List Term)) (n : Note) :
    Meets (groups ++ others) n ↔ Meets groups n ∨ Meets others n := by
  simp only [Meets, List.mem_append, or_and_right, exists_or]

theorem meets_singleton (g : List Term) (n : Note) :
    Meets [g] n ↔ ∀ x ∈ g, (Node.term x).holds n = .ok true := by
  simp [Meets]

theorem meets_extend_or (front : List (List Term)) (last : List Term) (x : Term) (n : Note) :
    Meets (extend front last x .or) n ↔
      Meets (front ++ [last]) n ∨ (Node.term x).holds n = .ok true := by
  rw [extend, meets_append _ [[x]], meets_singleton [x], List.forall_mem_singleton]

theorem meets_extend_and (front : List (List Term)) (last : List Term) (x : Term) (n : Note) :
    Meets (extend front last x .and) n ↔
      Meets front n ∨ Meets [last] n ∧ (Node.term x).holds n = .ok true := by
  rw [extend, meets_append, meets_singleton, meets_singleton, List.forall_mem_append,
    List.forall_mem_singleton]

/-- A conjunction with a term is stronger. -/
theorem meets_of_meets_extend_and {front : List (List Term)} {last : List Term} {x : Term}
    {n : Note} (h : Meets (extend front last x .and) n) : Meets (front ++ [last]) n := by
  rw [meets_append]
  exact ((meets_extend_and front last x n).mp h).imp_right And.left

theorem blocks_append_term {ctx : Context} {ws : List Text} {w : Text} {x : Term}
    {front : List (List Term)} {last : List Term} (hws : blocks ctx ws = front ++ [last])
    (hw : isOperandWord w) (hx : Term.ofOperand? ctx w = some x) (operator : Operator) :
    blocks ctx (ws ++ [operator.word, w]) = extend front last x operator := by
  have hne : w ≠ Operator.or.word := by
    rintro rfl
    cases hw
  have hword : blocks ctx [w] = [[x]] := by
    rw [blocks_cons ctx hne, blocks_nil, hx]
    rfl
  cases operator with
  | and =>
    have hand : blocks ctx [Operator.and.word, w] = [[x]] :=
      (blocks_connector_cons ctx rfl (by decide) [w]).trans hword
    exact blocks_append ctx hws hand
  | or => rw [blocks_append_or, hws, hword, extend]

end Reading

/-- The term of an operand decides on every note. -/
theorem Term.decides_of_ofOperand? {ctx : Context} {w : Text} {x : Term} (hw : isOperandWord w)
    (hx : ofOperand? ctx w = some x) (n : Note) : (Node.term x).Decides n := by
  obtain ⟨c, hc, rfl⟩ := exists_criterion_of_ofOperand? hw hx
  rw [isOperandWord, TokenKind.isOperand_iff] at hw
  exact Node.decides_term_of_timeless (Criterion.isTimeless_of_kind hw hc) n

/-- A single operand, with a minus or without one, is its term. -/
theorem Node.ofTokens_operand {ctx : Context} {t : Token} {c : Criterion}
    (ht : t.kind.isOperand) (hc : Criterion.ofToken? ctx t = some c) (negated : Bool) :
    ofTokens ctx ((if negated then [⟨.negation, ['-'], 0, 0⟩] else []) ++ [t]) =
      .term ⟨c, negated⟩ := by
  rw [TokenKind.isOperand_iff] at ht
  cases negated <;> rcases ht with hk | hk <;>
    simp [ofTokens, QueryMode.ofTokens, QueryMode.isPureFrom, conjunctions, conjoin, disjoin,
      hk, hc]

namespace Query

theorem ofTokens_tokenize_word {w : Text} (hwords : Segment.words w = [w]) :
    QueryMode.ofTokens (tokenize w) = .pure ↔ isOperandWord w := by
  rw [QueryMode.ofTokens_tokenize_eq_pure_iff, hwords, QueryMode.isPureWords_cons]
  by_cases hw : isConnector w
  · simp [hw, Token.not_isOperandWord_of_isConnector hw]
  · simp [hw, QueryMode.isPureWords_nil]

/-- An operand that is a query of its own is its term. -/
theorem parse_operand {ctx : Context} {w : Text} {x : Term} (hw : isOperandWord w)
    (hwords : Segment.words w = [w]) (hx : Term.ofOperand? ctx w = some x) :
    parse ctx w = ⟨w, .term x, .pure⟩ := by
  have hmode : (parse ctx w).mode = .pure := (ofTokens_tokenize_word hwords).mpr hw
  have hroot : (parse ctx w).root = .term x := by
    obtain ⟨c, hc, rfl⟩ := Term.exists_criterion_of_ofOperand? hw hx
    have hkind : (Token.operand ⟨0, 0, w⟩).bare.kind.isOperand := hw
    rw [parse_eq, hwords, List.flatMap_singleton, Token.ofWord_eq]
    exact Node.ofTokens_operand hkind hc (Token.isNegated w)
  rw [← hroot, ← hmode]
  rfl

theorem parseAt_operand {w : Text} {x : Term} (hw : isOperandWord w)
    (hwords : Segment.words w = [w]) (hx : ∀ ctx, Term.ofOperand? ctx w = some x)
    (conventions : Conventions) (now : Moment) :
    parseAt conventions now w = .ok ⟨w, .term x, .pure⟩ := by
  have hsorts : ∀ v ∈ Segment.words w, isConnector v ∨ isOperandWord v := by
    rw [hwords, List.forall_mem_singleton]
    exact Or.inr hw
  rw [parseAt_of_operands hsorts conventions now, parse_operand hw hwords (hx _)]

end Query

namespace Edit

open Reading (Meets blocks extend)

namespace Change

/-- The words of a text are kept in front of the term exactly if the trimmed text is complete. -/
theorem words_update_iff {change : Change} {raw : Text} {operator : Operator}
    (hpure : QueryMode.isPureWords true (Segment.words raw))
    (h : (change.update raw operator).action = .added) :
    Segment.words (change.update raw operator).query =
        Segment.words raw ++ [operator.word, change.formatted] ↔
      Text.isComplete (Text.trim raw) := by
  have hform := (QueryMode.isPureWords_iff _).mp hpure
  constructor
  · intro hwords
    cases htrim : Text.isComplete (Text.trim raw) with
    | true => rfl
    | false =>
      obtain ⟨isTarget, hupdate, c, rest, hf, -, hc, -⟩ := update_of_added h
      have hcontent : Token.content (tokenize (change.update raw operator).query) =
          Token.content (tokenize raw) ++ Token.content (tokenize change.formatted) := by
        rw [Token.content_tokenize, Token.content_tokenize, Token.content_tokenize, hwords,
          (isWord_formatted change).words_eq, List.flatMap_append, List.flatMap_cons,
          Token.wordContent_of_isConnector (isConnector_operator operator), List.nil_append]
      rw [hupdate, hf] at h hcontent
      exact absurd hcontent (content_of_open h hc htrim)
  · intro htrim
    rw [words_update_of_added h htrim, isExpression_trim hform.2.1]
    rcases List.eq_nil_or_concat (Segment.words raw) with hnil | ⟨front, w, hconcat⟩
    · exact absurd hnil hform.1
    · rw [List.concat_eq_append] at hconcat
      have hlast : isConnector w = false := hform.2.2.2.1 w (by simp [hconcat])
      rw [hconcat, append_concat _ _ _ _ hlast]
      simp [tail]

/-- A term that is added to a pure query asks for what it asks for alone. If the trimmed text is
complete, the term is a group of its own under a disjunction, which loses no note, and
strengthens the last group under a conjunction, which gains no note; otherwise the last word of
the text is lost. -/
theorem added_extends (change : Change) (raw : Text) (operator : Operator)
    (hpure : QueryMode.ofTokens (tokenize raw) = .pure)
    (h : (change.update raw operator).action = .added) :
    ∃ x : Term,
      (∀ conventions now, Query.parseAt conventions now change.formatted =
        .ok ⟨change.formatted, .term x, .pure⟩) ∧
      (∀ n, (Node.term x).Decides n) ∧
      (Segment.words (change.update raw operator).query =
          Segment.words raw ++ [operator.word, change.formatted] ↔
        Text.isComplete (Text.trim raw)) ∧
      (Text.isComplete (Text.trim raw) →
        ∃ front last,
          (∀ ctx, Reading.pure.groups ctx (tokenize raw) = front ++ [last] ∧
            Reading.pure.groups ctx (tokenize (change.update raw operator).query) =
              extend front last x operator) ∧
          ∀ conventions now, ∃ p q,
            Query.parseAt conventions now raw = .ok p ∧ p.IsPureOf (front ++ [last]) ∧
            Query.parseAt conventions now (change.update raw operator).query = .ok q ∧
            q.IsPureOf (extend front last x operator) ∧
            ∀ n,
              (operator = .or →
                (q.root.holds n = .ok true ↔
                  p.root.holds n = .ok true ∨ (Node.term x).holds n = .ok true) ∧
                (p.root.holds n = .ok true → q.root.holds n = .ok true)) ∧
              (operator = .and →
                (q.root.holds n = .ok true ↔
                  Meets front n ∨ Meets [last] n ∧ (Node.term x).holds n = .ok true) ∧
                (q.root.holds n = .ok true → p.root.holds n = .ok true))) := by
  have hwords := (QueryMode.ofTokens_tokenize_eq_pure_iff raw).mp hpure
  have hf := isOperandWord_formatted h
  have hterm := (isWord_formatted change).words_eq
  obtain ⟨x, hx⟩ := Term.exists_ofOperand? hf
  have hparse := Query.parseAt_operand hf hterm hx
  refine ⟨x, hparse, ?_, words_update_iff hwords h, fun htrim => ?_⟩
  · exact Term.decides_of_ofOperand? hf (hx ⟨.first, {}⟩)
  · have hnew := (words_update_iff hwords h).mpr htrim
    obtain ⟨front, last, hblocks⟩ :=
      Reading.exists_blocks_concat ((QueryMode.isPureWords_iff _).mp hwords).2.1
    have hextended : ∀ ctx, blocks ctx (Segment.words (change.update raw operator).query) =
        extend front last x operator := by
      intro ctx
      rw [hnew]
      exact Reading.blocks_append_term (hblocks ctx) hf (hx ctx) operator
    have hboth : QueryMode.isPureWords true
        (Segment.words (change.update raw operator).query) := by
      rw [hnew, QueryMode.isPureWords_append_connector true _ (isConnector_operator operator),
        hwords, QueryMode.isPureWords_operand_cons hf]
      rfl
    refine ⟨front, last, fun ctx => ⟨?_, ?_⟩, fun conventions now => ?_⟩
    · rw [Reading.groups_tokenize, hblocks]
    · rw [Reading.groups_tokenize, hextended]
    · obtain ⟨p, hp, hpgroups⟩ :=
        Query.exists_parseAt_of_isPureWords hwords hblocks conventions now
      obtain ⟨q, hq, hqgroups⟩ :=
        Query.exists_parseAt_of_isPureWords hboth hextended conventions now
      refine ⟨p, q, hp, hpgroups, hq, hqgroups, fun n => ⟨?_, ?_⟩⟩
      · rintro rfl
        rw [hpgroups.holds_iff, hqgroups.holds_iff, Reading.meets_extend_or]
        exact ⟨Iff.rfl, Or.inl⟩
      · rintro rfl
        rw [hpgroups.holds_iff, hqgroups.holds_iff]
        exact ⟨Reading.meets_extend_and front last x n, Reading.meets_of_meets_extend_and⟩

theorem added_extends_property :
    QueryMode.ofTokens (tokenize " #a OR -#b .k ".toList) = .pure ∧
      ((property "k".toList "v w".toList).update " #a OR -#b .k ".toList .and).action = .added ∧
      Segment.words ((property "k".toList "v w".toList).update " #a OR -#b .k ".toList .and).query =
        Segment.words " #a OR -#b .k ".toList ++
          [Operator.and.word, (property "k".toList "v w".toList).formatted] := by
  have hpure : QueryMode.ofTokens (tokenize " #a OR -#b .k ".toList) = .pure := by decide
  have hadded : ((property "k".toList "v w".toList).update
      " #a OR -#b .k ".toList .and).action = .added := by decide
  obtain ⟨x, -, -, hwords, -⟩ :=
    added_extends (property "k".toList "v w".toList) " #a OR -#b .k ".toList .and hpure hadded
  exact ⟨hpure, hadded, hwords.mpr (by decide)⟩

/-- The last word of `#a\ ` is complete, but behind it without its blank the operator is read as
a part of the word, and what has the tags `a` and `b` is not found. -/
theorem added_runs_on :
    QueryMode.ofTokens (tokenize "#a\\ ".toList) = .pure ∧ Text.isComplete "#a\\ ".toList ∧
      ((tag "b".toList).update "#a\\ ".toList .and).action = .added ∧
      ((tag "b".toList).update "#a\\ ".toList .and).query = "#a\\ AND #b".toList ∧
      ∃ n : Note, ∀ conventions now, ∃ p t q,
        Query.parseAt conventions now "#a\\ ".toList = .ok p ∧
        Query.parseAt conventions now (tag "b".toList).formatted = .ok t ∧
        Query.parseAt conventions now
          ((tag "b".toList).update "#a\\ ".toList .and).query = .ok q ∧
        p.root.holds n = .ok true ∧ t.root.holds n = .ok true ∧ q.root.holds n = .ok false := by
  have hquery : ((tag "b".toList).update "#a\\ ".toList .and).query = "#a\\ AND #b".toList := by
    decide
  refine ⟨by decide, by decide, by decide, hquery, { path := [], tags := [['a'], ['b']] },
    fun conventions now => ?_⟩
  have hraw : (tokenize "#a\\ ".toList).any Token.asksTime = false := by decide
  have hterm : (tokenize (tag "b".toList).formatted).any Token.asksTime = false := by decide
  have hnew : (tokenize "#a\\ AND #b".toList).any Token.asksTime = false := by decide
  rw [hquery]
  exact ⟨_, _, _, Query.parseAt_of_not_asksTime conventions now hraw,
    Query.parseAt_of_not_asksTime conventions now hterm,
    Query.parseAt_of_not_asksTime conventions now hnew, rfl, rfl, rfl⟩

end Change

end Edit

end NoteQuery
