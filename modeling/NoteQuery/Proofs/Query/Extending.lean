import NoteQuery.Proofs.Query.Removing

/-!
# Putting a term behind an expression

A term is put behind an expression with a connective in between, which stands in place of one at
its end. A connective at the start, and two in a row, are not taken out, so that with one of them
the new text is no pure query, and all its connectives are taken literally.
-/
namespace NoteQuery

open Token (isConnector isOperandWord tokenize)

namespace Cursor

theorem after_start_blanks {s : Text} (h : ∀ c ∈ s, Text.isBlank c) : start.after s = start := by
  induction s with
  | nil => rfl
  | cons c s ih =>
    rw [List.forall_mem_cons] at h
    have hc : start.cuts c := by rw [cuts_of_isBalanced rfl, h.1]
    rw [after, step_of_cuts hc]
    exact ih h.2

/-- Blanks do not close a quote. -/
theorem quoted_after_blanks {k : Cursor} (h : k.quoted) {s : Text}
    (hs : ∀ c ∈ s, Text.isBlank c) : (k.after s).quoted := by
  induction s generalizing k with
  | nil => exact h
  | cons c s ih =>
    rw [List.forall_mem_cons] at hs
    have hcuts : k.cuts c = false := by simp [cuts, h]
    have hquote : c ≠ '"' := by
      rintro rfl
      cases hs.1
    rw [after]
    refine ih ?_ hs.2
    rw [step_of_not_cuts hcuts]
    simp [h, hquote]

theorem reads_operator (w : Text) (operator : Operator) :
    Reads ⟨false, false, w⟩ operator.word ⟨false, false, w ++ operator.word⟩ := by
  have hall : operator.word.all fun c => !Text.isBlank c && (c != '"' && c != '\\') := by
    cases operator <;> rfl
  refine reads_plain w fun c hc => ?_
  simpa using List.all_eq_true.mp hall c hc

/-- Behind a word that ends in an escaped blank an operator is read as a part of the word. -/
theorem words_of_escaped (w : Text) (operator : Operator) (s : Text) :
    words ⟨false, true, w⟩ (' ' :: (operator.word ++ ' ' :: s)) =
      (w ++ ' ' :: operator.word) :: start.words s := by
  have hspace : (Cursor.mk false true w).cuts ' ' = false := rfl
  have hstep : (Cursor.mk false true w).step ' ' = ⟨false, false, w ++ [' ']⟩ := rfl
  have hcut : (Cursor.mk false false (w ++ [' '] ++ operator.word)).cuts ' ' := rfl
  have hword : w ++ [' '] ++ operator.word ≠ [] := by simp
  rw [words_cons, hspace, if_neg Bool.false_ne_true, List.nil_append, hstep,
    (reads_operator (w ++ [' ']) operator).words_eq, words_cons, if_pos hcut, step_of_cuts hcut,
    flush_of_ne_nil hword, List.append_assoc]
  rfl

end Cursor

namespace Text

/-- A complete text whose trimmed text is not complete ends in a word with an escaped blank. -/
theorem exists_escaped_word {s : Text} (h : isComplete s) (htrim : isComplete (trim s) = false) :
    ∃ front w more, (∀ v ∈ front, IsWord v) ∧ w ≠ [] ∧ Cursor.IsSound ⟨false, true, w⟩ ∧
      Segment.words (trim s) = front ++ [w] ∧ Segment.words s = front ++ [w ++ more] := by
  obtain ⟨lead, back, hs, hlead, hback⟩ := exists_trim s
  have hsound : (Cursor.start.after (trim s)).IsSound := Cursor.isSound_start.after _
  have hrun : ∀ rest, Segment.words (trim s ++ rest) =
      Cursor.start.closed (trim s) ++ (Cursor.start.after (trim s)).words rest := by
    intro rest
    rw [Segment.words_eq, Cursor.words_append]
  have hfront : ∀ v ∈ Cursor.start.closed (trim s), IsWord v :=
    fun v hv => isWord_of_mem_closed Cursor.isSound_start hv
  have hclosed : ((Cursor.start.after (trim s)).after back).isBalanced := by
    rw [isComplete, hs, Cursor.after_append, Cursor.after_start_blanks hlead,
      Cursor.after_append] at h
    exact h
  rw [isComplete] at htrim
  generalize Cursor.start.after (trim s) = k at hsound hrun hclosed htrim
  generalize Cursor.start.closed (trim s) = front at hrun hfront
  obtain ⟨c, hc, -⟩ := Cursor.exists_mark hsound htrim
  have hword : k.word ≠ [] := List.ne_nil_of_mem hc
  obtain ⟨htrimmed, more, -, hmore⟩ := words_of_open_trim hword hrun
  -- A quote would stay open behind the blanks, so it is a backslash that waits.
  have hquoted : k.quoted = false := by
    cases hq : k.quoted with
    | false => rfl
    | true =>
      rw [Cursor.isBalanced, Cursor.quoted_after_blanks hq hback] at hclosed
      cases hclosed
  have hescaped : k.escaped = true := by simpa [Cursor.isBalanced, hquoted] using htrim
  have hk : k = ⟨false, true, k.word⟩ := by rw [← hquoted, ← hescaped]
  exact ⟨front, k.word, more, hfront, hword, hk ▸ hsound, htrimmed, hmore⟩

end Text

namespace QueryMode

/-- Every connective among the words has an operand in front of it. -/
def IsStarted (ws : List Text) : Prop :=
  (∀ w ∈ ws.head?, isConnector w = false) ∧ Checked.IsMerged ws

instance (ws : List Text) : Decidable (IsStarted ws) :=
  inferInstanceAs (Decidable ((∀ w ∈ ws.head?, isConnector w = false) ∧
    ws.IsChain fun v w => ¬(isConnector v = true ∧ isConnector w = true)))

variable {us : List Text}

/-- Words that end in an operand are pure if they are started. -/
theorem isPureWords_concat_iff {u : Text} (hu : isConnector u = false)
    (hsorts : ∀ w ∈ us ++ [u], isConnector w ∨ isOperandWord w) :
    isPureWords true (us ++ [u]) ↔ IsStarted (us ++ [u]) := by
  rw [isPureWords_iff, IsStarted]
  constructor
  · rintro ⟨-, -, hfirst, -, hmerged⟩
    exact ⟨hfirst, hmerged⟩
  · rintro ⟨hfirst, hmerged⟩
    refine ⟨by simp, hsorts, hfirst, fun w hw => ?_, hmerged⟩
    rw [List.getLast?_concat] at hw
    cases hw
    exact hu

/-- Words with one connective behind them are started if they are pure. -/
theorem isPureWords_iff_concat {c : Text} (hc : isConnector c)
    (hsorts : ∀ w ∈ us, isConnector w ∨ isOperandWord w) :
    isPureWords true us ↔ IsStarted (us ++ [c]) := by
  rw [IsStarted, Checked.IsMerged, List.isChain_append]
  constructor
  · intro hpure
    obtain ⟨hne, -, hfirst, hlast, hmerged⟩ := (isPureWords_iff us).mp hpure
    refine ⟨fun w hw => ?_, hmerged, List.isChain_singleton c, fun v hv w _ hpair => ?_⟩
    · rw [List.head?_append_of_ne_nil _ hne] at hw
      exact hfirst w hw
    · rw [hlast v hv] at hpair
      exact Bool.false_ne_true hpair.1
  · rintro ⟨hfirst, hmerged, -, hjoint⟩
    have hne : us ≠ [] := by
      rintro rfl
      rw [hfirst c rfl] at hc
      cases hc
    refine (isPureWords_iff us).mpr ⟨hne, hsorts, fun w hw => hfirst w ?_, fun w hw => ?_, hmerged⟩
    · rwa [List.head?_append_of_ne_nil _ hne]
    · exact Bool.eq_false_iff.mpr fun hw' => hjoint w hw c rfl ⟨hw', hc⟩

end QueryMode

namespace Edit

open QueryMode (isPureWords IsStarted)

/-- A term behind an expression makes it pure exactly if its words are started. -/
theorem isPureWords_append_term_iff {ws : List Text} {f : Text} (hf : isOperandWord f)
    (operator : Operator) (hsorts : ∀ w ∈ ws, isConnector w ∨ isOperandWord w) :
    isPureWords true (append true operator f ws) ↔ IsStarted ws := by
  have hterm : isPureWords true [f] = true := QueryMode.isPureWords_operand_cons hf true []
  have hbehind : ∀ us, isPureWords true (us ++ [operator.word, f]) = isPureWords true us := by
    intro us
    rw [QueryMode.isPureWords_append_connector true us (isConnector_operator operator), hterm,
      Bool.and_true]
  rcases List.eq_nil_or_concat ws with rfl | ⟨us, u, rfl⟩
  · refine iff_of_true hterm ⟨nofun, List.isChain_nil⟩
  · rw [List.concat_eq_append] at hsorts ⊢
    by_cases hu : isConnector u
    · have happend : append true operator f (us ++ [u]) = us ++ [operator.word, f] := by
        simp [append, dropLastConnector, hu]
      rw [happend, hbehind]
      exact QueryMode.isPureWords_iff_concat hu fun w hw =>
        hsorts w (List.mem_append_left [u] hw)
    · have hlast : isConnector u = false := Bool.eq_false_iff.mpr hu
      have happend : append true operator f (us ++ [u]) = (us ++ [u]) ++ [operator.word, f] := by
        rw [append_concat _ _ _ _ hlast]
        simp [tail]
      rw [happend, hbehind]
      exact QueryMode.isPureWords_concat_iff hlast hsorts

/-- An operand in front of a term may run on, as long as it stays an operand. -/
theorem isPureWords_concat_term_iff {front : List Text} {u v f : Text}
    (hu : isConnector u = false) (hsort : Token.SameSort u v) (hf : isOperandWord f)
    (hsorts : ∀ w ∈ front ++ [u], isConnector w ∨ isOperandWord w) :
    isPureWords true (front ++ [v, f]) ↔ IsStarted (front ++ [u]) := by
  have hv : isConnector v = false := hsort.1 ▸ hu
  have hterm : isPureWords false [f] = true := QueryMode.isPureWords_operand_cons hf false []
  have hsame : isPureWords true (front ++ [u]) = isPureWords true (front ++ [v]) := by
    apply QueryMode.isPureWords_eq
    apply List.rel_append
    · exact List.forall₂_same.mpr fun w _ => ⟨rfl, rfl⟩
    · exact .cons hsort .nil
  rw [QueryMode.isPureWords_append_operand true front hv, hterm, Bool.and_true, ← hsame]
  exact QueryMode.isPureWords_concat_iff hu hsorts

namespace Change

theorem isOperandWord_formatted {change : Change} {raw : Text} {operator : Operator}
    (h : (change.update raw operator).action = .added) : isOperandWord change.formatted := by
  obtain ⟨-, -, c, rest, hf, hkind, -, -⟩ := update_of_added h
  refine Token.isOperandWord_of_classify ?_
  rw [hf, hkind]
  cases change <;> rfl

/-- The words of a text to which a term was added. -/
theorem words_update_of_added {change : Change} {raw : Text} {operator : Operator}
    (h : (change.update raw operator).action = .added) (hraw : Text.isComplete (Text.trim raw)) :
    Segment.words (change.update raw operator).query =
      append (isExpression (Text.trim raw)) operator change.formatted (Segment.words raw) := by
  have hwords : ∀ w ∈ Segment.words (Text.trim raw), Text.IsWord w :=
    fun w hw => Text.isWord_of_isComplete hraw hw
  obtain ⟨isTarget, hupdate, -⟩ := update_of_added h
  rw [hupdate] at h ⊢
  rw [toggle_of_added h, Text.words_trim hraw]
  exact Text.words_join fun w hw => isWord_of_mem_append hwords (isWord_formatted change) hw

/-- Behind an escaped blank at the end the operator is read as a part of the last word, which
stays of its sort. -/
theorem words_update_of_escaped {change : Change} {raw : Text} {operator : Operator}
    (h : (change.update raw operator).action = .added) (hexpression : isExpression (Text.trim raw))
    (hraw : Text.isComplete raw) (htrim : Text.isComplete (Text.trim raw) = false) :
    ∃ front u v, isConnector u = false ∧ Segment.words raw = front ++ [u] ∧
      Segment.words (change.update raw operator).query = front ++ [v, change.formatted] ∧
      Token.SameSort u v := by
  obtain ⟨front, w, more, hfront, hw, hsound, htrimmed, hwords⟩ :=
    Text.exists_escaped_word hraw htrim
  have hconnector := Cursor.not_isConnector_append hsound rfl
  have hoperand := Token.isOperandWord_append (Cursor.exists_mark hsound rfl)
  obtain ⟨isTarget, hupdate, -⟩ := update_of_added h
  refine ⟨front, w ++ more, w ++ ' ' :: operator.word, hconnector more, hwords, ?_, ?_, ?_⟩
  · rw [hupdate] at h ⊢
    have hlast : isConnector w = false := by simpa using hconnector []
    have hread : Segment.words (w ++ ' ' :: (operator.word ++ ' ' :: change.formatted)) =
        [w ++ ' ' :: operator.word, change.formatted] := by
      rw [Segment.words_eq, Cursor.Reads.words_eq hsound, Cursor.words_of_escaped,
        ← Segment.words_eq, (isWord_formatted change).words_eq]
    rw [toggle_of_added h, htrimmed, append_concat _ _ _ _ hlast, hexpression,
      Text.words_join_append hfront (List.cons_ne_nil _ _), ← hread]
    simp [tail, Text.join, List.intercalate]
  · rw [hconnector, hconnector]
  · rw [hoperand, hoperand]

/-- A term that is added to an expression makes another expression, which is pure exactly if
the words of the first one are started. -/
theorem words_update_of_expression {change : Change} {raw : Text} {operator : Operator}
    (hsorts : ∀ w ∈ Segment.words raw, isConnector w ∨ isOperandWord w)
    (hraw : Text.isComplete raw) (h : (change.update raw operator).action = .added) :
    change.formatted ∈ Segment.words (change.update raw operator).query ∧
      (∀ w ∈ Segment.words (change.update raw operator).query,
        isConnector w ∨ isOperandWord w) ∧
      (isPureWords true (Segment.words (change.update raw operator).query) ↔
        IsStarted (Segment.words raw)) := by
  have hexpression := isExpression_trim hsorts
  have hf := isOperandWord_formatted h
  cases htrim : Text.isComplete (Text.trim raw) with
  | true =>
    rw [words_update_of_added h htrim, hexpression]
    refine ⟨?_, fun w hw => ?_, isPureWords_append_term_iff hf operator hsorts⟩
    · rw [append]
      split <;> simp
    · rcases mem_append hw with hw | rfl | rfl
      · exact hsorts w hw
      · exact Or.inl (isConnector_operator operator)
      · exact Or.inr hf
  | false =>
    obtain ⟨front, u, v, hu, hwords, hnew, hsort⟩ :=
      words_update_of_escaped h hexpression hraw htrim
    rw [hwords] at hsorts ⊢
    rw [hnew]
    obtain ⟨hfront, hlast⟩ := List.forall_mem_append.mp hsorts
    have hoperand : isOperandWord v := by
      rw [← hsort.2]
      exact (hlast u (List.mem_singleton_self u)).resolve_left (Bool.eq_false_iff.mp hu)
    refine ⟨by simp, ?_, isPureWords_concat_term_iff hu hsort hf hsorts⟩
    rw [List.forall_mem_append, List.forall_mem_cons, List.forall_mem_singleton]
    exact ⟨hfront, Or.inr hoperand, Or.inr hf⟩

end Change

end Edit

/-! ## Connectives that are taken literally -/

theorem Token.isConnector_text_operand {s : Segment} (h : (operand s).kind.isOperand) :
    isConnector (operand s).text = false := by
  refine Bool.eq_false_iff.mpr fun hconnector => ?_
  rw [operand] at h hconnector
  cases hs : isNegated s.text with
  | true =>
    rw [hs, if_pos rfl] at h hconnector
    simp only [classifyNegated, (classify_eq_connector_iff _).mpr hconnector] at h
    cases h
  | false =>
    rw [hs, if_neg Bool.false_ne_true] at h hconnector
    simp only [(classify_eq_connector_iff _).mpr hconnector] at h
    cases h

namespace Term

/-- Where connectives are no operators they are names. -/
theorem ofWord?_of_isConnector (ctx : Context) {w : Text} (h : isConnector w) :
    ofWord? ctx w = some ⟨.name w, false⟩ := by
  rw [ofWord?_eq, Token.isNegated_of_isConnector h]
  rw [isConnector, Bool.or_eq_true, beq_iff_eq, beq_iff_eq] at h
  rcases h with rfl | rfl <;> rfl

/-- No operand asks for a connective as a name. -/
theorem ne_name_of_ofOperand? {ctx : Context} {v : Text} (h : isOperandWord v) {x : Term}
    (hx : ofOperand? ctx v = some x) {w : Text} (hw : isConnector w) : x.criterion ≠ .name w := by
  obtain ⟨c, hc, rfl⟩ := exists_criterion_of_ofOperand? h hx
  rintro rfl
  have htext := Token.isConnector_text_operand h
  rw [isOperandWord, TokenKind.isOperand_iff] at h
  rcases h with hkind | hkind <;> rw [Criterion.ofToken?, hkind, Option.some.injEq] at hc
  · cases hc
  · cases hp : Criterion.ofProperty? ((Token.operand ⟨0, 0, v⟩).text.drop 1) with
    | none =>
      rw [hp] at hc
      cases hc
      rw [htext] at hw
      cases hw
    | some c =>
      rw [hp] at hc
      obtain ⟨key, -, rfl⟩ := Option.map_eq_some_iff.mp hp
      cases hc

end Term

namespace Query

/-- The terms of a pure query are those of its operands. -/
theorem leaves_parse_of_pure (ctx : Context) {raw : Text} (h : (parse ctx raw).mode = .pure) :
    (parse ctx raw).root.leaves = (Segment.words raw).filterMap (Term.ofOperand? ctx) := by
  have hsegment : ∀ s : Segment, (Reading.ofMode .pure).termOf? ctx s =
      Term.ofOperand? ctx s.text := by
    intro s
    rw [Term.ofOperand?]
    cases hs : isConnector s.text with
    | true =>
      have hkind : (Token.operand s).kind = .connector :=
        (Token.operand_kind_eq_connector_iff s).mpr hs
      have hterm : (Reading.ofMode .pure).isTerm (Token.operand s) = false := by
        show Reading.pure.isTerm (Token.operand s) = false
        rw [Reading.pure_isTerm, hkind]
        rfl
      rw [Reading.termOf?, hterm]
      rfl
    | false => exact Reading.termOf?_eq_ofWord? .pure ctx hs
  rw [leaves_parse, h, Segment.words, List.filterMap_map]
  congr 1
  funext s
  exact hsegment s

/-- Of connectives and operands a pure query takes no word literally, a mixed one every
connective. -/
theorem mode_parse_eq_pure_iff (ctx : Context) {raw : Text}
    (hsorts : ∀ w ∈ Segment.words raw, isConnector w ∨ isOperandWord w)
    (hne : Segment.words raw ≠ []) :
    (parse ctx raw).mode = .pure ↔
      ∀ w, isConnector w → ⟨.name w, false⟩ ∉ (parse ctx raw).root.leaves := by
  constructor
  · intro hpure w hw hmem
    rw [leaves_parse_of_pure ctx hpure, List.mem_filterMap] at hmem
    obtain ⟨v, hv, hterm⟩ := hmem
    rcases hsorts v hv with hconnector | hoperand
    · rw [Term.ofOperand?_of_isConnector ctx hconnector] at hterm
      cases hterm
    · exact Term.ne_name_of_ofOperand? hoperand hterm hw rfl
  · intro hnone
    cases hmode : (parse ctx raw).mode with
    | pure => rfl
    | mixed =>
      have hoperands : ∀ w ∈ Segment.words raw, isConnector w = false := by
        intro w hw
        refine Bool.eq_false_iff.mpr fun hconnector => hnone w hconnector ?_
        rw [leaves_parse_of_mixed ctx hmode, List.mem_filterMap]
        exact ⟨w, hw, Term.ofWord?_of_isConnector ctx hconnector⟩
      have hpure : QueryMode.isPureWords true (Segment.words raw) := by
        refine (QueryMode.isPureWords_iff _).mpr ⟨hne, hsorts, ?_, ?_, ?_⟩
        · exact fun w hw => hoperands w (List.mem_of_mem_head? hw)
        · exact fun w hw => hoperands w (List.mem_of_mem_getLast? hw)
        · refine (List.pairwise_of_forall_mem_list fun v hv w hw hpair => ?_).isChain
          rw [hoperands v hv] at hpair
          exact Bool.false_ne_true hpair.1
      have hquery := (QueryMode.ofTokens_tokenize_eq_pure_iff raw).mpr hpure
      exact hmode.symm.trans hquery

end Query

namespace Edit

open QueryMode (IsStarted)

namespace Change

/-- A term that is added to an expression, the last word of which is complete, makes a pure query
exactly if every connective of the expression has an operand in front of it. Otherwise the new
text is a mixed query, in which every connective is taken literally. -/
theorem added_isPure_iff (change : Change) (raw : Text) (operator : Operator)
    (hkinds : ∀ t ∈ tokenize raw, t.kind ∈ [TokenKind.tag, .property, .connector, .negation])
    (hraw : Text.isComplete raw) (h : (change.update raw operator).action = .added) :
    ∀ conventions now,
      ∃ q, Query.parseAt conventions now (change.update raw operator).query = .ok q ∧
        (q.mode = .pure ↔ IsStarted (Segment.words raw)) ∧
        (q.mode = .pure ↔ ∀ w, isConnector w → ⟨.name w, false⟩ ∉ q.root.leaves) := by
  intro conventions now
  have hsorts : ∀ w ∈ Segment.words raw, isConnector w ∨ isOperandWord w := by
    rw [← isExpression_iff]
    exact List.all_eq_true.mpr fun t ht => (isExpressionKind_iff t.kind).mpr (hkinds t ht)
  obtain ⟨hmem, hnew, hpure⟩ := words_update_of_expression hsorts hraw h
  refine ⟨_, Query.parseAt_of_operands hnew conventions now, ?_, ?_⟩
  · rw [← hpure]
    exact QueryMode.ofTokens_tokenize_eq_pure_iff _
  · exact Query.mode_parse_eq_pure_iff _ hnew (List.ne_nil_of_mem hmem)

/-- A connective at the end is replaced. -/
theorem added_isPure_trailing :
    (∀ t ∈ tokenize "-#a .k AND".toList,
        t.kind ∈ [TokenKind.tag, .property, .connector, .negation]) ∧
      Text.isComplete "-#a .k AND".toList ∧
      ((tag "b".toList).update "-#a .k AND".toList .or).action = .added ∧
      ∀ conventions now, ∃ q, Query.parseAt conventions now
          ((tag "b".toList).update "-#a .k AND".toList .or).query = .ok q ∧ q.mode = .pure := by
  have hkinds : ∀ t ∈ tokenize "-#a .k AND".toList,
      t.kind ∈ [TokenKind.tag, .property, .connector, .negation] := by decide
  have hadded : ((tag "b".toList).update "-#a .k AND".toList .or).action = .added := by decide
  refine ⟨hkinds, by decide, hadded, fun conventions now => ?_⟩
  obtain ⟨q, hq, hpure, -⟩ := added_isPure_iff (tag "b".toList) "-#a .k AND".toList .or hkinds
    (by decide) hadded conventions now
  exact ⟨q, hq, hpure.mpr (by decide)⟩

/-- Behind a connective at the start nothing is pure: of `OR #a` with `#b` all words are asked
for, the connectives among them. -/
theorem added_not_isPure :
    (∀ t ∈ tokenize "OR #a".toList,
        t.kind ∈ [TokenKind.tag, .property, .connector, .negation]) ∧
      Text.isComplete "OR #a".toList ∧
      ((tag "b".toList).update "OR #a".toList .and).action = .added ∧
      ((tag "b".toList).update "OR #a".toList .and).query = "OR #a AND #b".toList ∧
      ∀ conventions now, ∃ q, Query.parseAt conventions now
          ((tag "b".toList).update "OR #a".toList .and).query = .ok q ∧ q.mode = .mixed ∧
        q.root.leaves = [⟨.name "OR".toList, false⟩, ⟨.tag (some "a".toList), false⟩,
          ⟨.name "AND".toList, false⟩, ⟨.tag (some "b".toList), false⟩] := by
  have hquery : ((tag "b".toList).update "OR #a".toList .and).query = "OR #a AND #b".toList := by
    decide
  have hask : (tokenize "OR #a AND #b".toList).any Token.asksTime = false := by decide
  refine ⟨by decide, by decide, by decide, hquery, fun conventions now => ?_⟩
  rw [hquery]
  exact ⟨_, Query.parseAt_of_not_asksTime conventions now hask, rfl, rfl⟩

end Change

end Edit

end NoteQuery
