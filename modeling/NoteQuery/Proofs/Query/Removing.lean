import NoteQuery.Proofs.Query.WordForm

/-!
# Removing a term

An update that removes takes the first word out that is the term. In an expression the
connectives that are left without a term go with it, so that what is left is empty or a pure
query; in any other text all other words stay. The words that stay are cut apart again in the
new text, even if the last of them is not complete.
-/
namespace NoteQuery

namespace Edit

open Token (isConnector isOperandWord tokenize)

/-- A toggle that removes takes out the first target. -/
theorem toggle_of_removed {raw formatted : Text} {isTarget : Text → Bool} {operator : Operator}
    (h : (toggle raw formatted isTarget operator).action = .removed) :
    ∃ front w back, Segment.words (Text.trim raw) = front ++ w :: back ∧
      (∀ v ∈ front, isTarget v = false) ∧ isTarget w ∧
      (toggle raw formatted isTarget operator).query =
        Text.join [' '] (rejoin (isExpression (Text.trim raw)) front back) := by
  simp only [toggle] at h ⊢
  cases hspan : (Segment.words (Text.trim raw)).span (!isTarget ·) with
  | mk front rest =>
    rw [hspan] at h
    rw [List.span_eq_takeWhile_dropWhile, Prod.mk.injEq] at hspan
    obtain ⟨hfront, hrest⟩ := hspan
    cases rest with
    | nil => cases h
    | cons w back =>
      refine ⟨front, w, back, ?_, fun v hv => ?_, ?_, rfl⟩
      · rw [← hfront, ← hrest, List.takeWhile_append_dropWhile]
      · rw [← hfront] at hv
        simpa using List.mem_takeWhile_imp hv
      · have hhead := List.head?_dropWhile_not (!isTarget ·) (Segment.words (Text.trim raw))
        rw [hrest] at hhead
        simpa using hhead

/-! ## The words that stay -/

theorem dropLastConnector_sublist (ws : List Text) : (dropLastConnector ws).Sublist ws := by
  rw [dropLastConnector]
  split
  · split
    · exact List.dropLast_sublist ws
    · exact List.Sublist.refl ws
  · exact List.Sublist.refl ws

theorem mergeConnectors_sublist (behind : Bool) (ws : List Text) :
    (mergeConnectors behind ws).Sublist ws := by
  induction ws generalizing behind with
  | nil => exact List.Sublist.refl []
  | cons w ws ih =>
    rw [mergeConnectors]
    split
    · exact (ih true).cons w
    · exact (ih _).cons_cons w

theorem pruneConnectors_sublist (ws : List Text) : (pruneConnectors ws).Sublist ws :=
  (dropLastConnector_sublist _).trans
    ((mergeConnectors_sublist false _).trans (List.dropWhile_sublist _))

theorem rejoin_sublist (expression : Bool) (front back : List Text) :
    (rejoin expression front back).Sublist (front ++ back) := by
  rw [rejoin]
  split
  · exact (pruneConnectors_sublist _).trans
      (List.Sublist.append_right (dropLastConnector_sublist front) back)
  · exact List.Sublist.refl _

theorem filter_dropLastConnector (ws : List Text) :
    (dropLastConnector ws).filter (!isConnector ·) = ws.filter (!isConnector ·) := by
  rcases List.eq_nil_or_concat ws with rfl | ⟨front, w, rfl⟩
  · rfl
  · rw [List.concat_eq_append, dropLastConnector, List.getLast?_concat]
    by_cases hw : isConnector w
    · simp [hw]
    · simp [hw]

theorem filter_mergeConnectors (behind : Bool) (ws : List Text) :
    (mergeConnectors behind ws).filter (!isConnector ·) = ws.filter (!isConnector ·) := by
  induction ws generalizing behind with
  | nil => rfl
  | cons w ws ih =>
    rw [mergeConnectors]
    split
    · rename_i h
      rw [ih, List.filter_cons, (Bool.and_eq_true_iff.mp h).2]
      rfl
    · rw [List.filter_cons, List.filter_cons, ih]

theorem filter_dropWhile (ws : List Text) :
    (ws.dropWhile isConnector).filter (!isConnector ·) = ws.filter (!isConnector ·) := by
  induction ws with
  | nil => rfl
  | cons w ws ih =>
    rw [List.dropWhile_cons]
    split
    · rename_i h
      rw [ih, List.filter_cons, h]
      rfl
    · rfl

/-- Only connectives are lost besides the word that is taken out. -/
theorem filter_rejoin (expression : Bool) (front back : List Text) :
    (rejoin expression front back).filter (!isConnector ·) =
      (front ++ back).filter (!isConnector ·) := by
  rw [rejoin]
  split
  · rw [pruneConnectors, filter_dropLastConnector, filter_mergeConnectors, filter_dropWhile,
      List.filter_append, filter_dropLastConnector, List.filter_append]
  · rfl

theorem head?_mergeConnectors (ws : List Text) : (mergeConnectors false ws).head? = ws.head? := by
  cases ws with
  | nil => rfl
  | cons w ws => rfl

/-- What is left of an expression has no connective at an end and no two in a row. -/
theorem isPureWords_pruneConnectors {ws : List Text}
    (h : ∀ w ∈ ws, isConnector w ∨ isOperandWord w) (hne : pruneConnectors ws ≠ []) :
    QueryMode.isPureWords true (pruneConnectors ws) := by
  have hmerged := (Checked.isMerged_mergeConnectors false (ws.dropWhile isConnector)).1
  have heq : pruneConnectors ws =
      (mergeConnectors false (ws.dropWhile isConnector)).rdropWhile isConnector := by
    rw [pruneConnectors, Checked.rdropWhile_of_isMerged hmerged]
  have hprefix : pruneConnectors ws <+: mergeConnectors false (ws.dropWhile isConnector) := by
    rw [heq]
    exact List.rdropWhile_prefix isConnector _
  refine (QueryMode.isPureWords_iff _).mpr ⟨hne, ?_, ?_, ?_, hmerged.prefix hprefix⟩
  · exact fun w hw => h w ((pruneConnectors_sublist ws).subset hw)
  · intro w hw
    have hhead := List.head?_dropWhile_not isConnector ws
    obtain ⟨rest, hrest⟩ := hprefix
    obtain ⟨v, vs, hv⟩ := List.exists_cons_of_ne_nil hne
    rw [hv] at hw hrest
    cases hw
    rw [← head?_mergeConnectors, ← hrest] at hhead
    exact hhead
  · intro w hw
    have hlast : ¬isConnector ((pruneConnectors ws).getLast hne) := by
      have hnot := List.rdropWhile_last_not isConnector
        (mergeConnectors false (ws.dropWhile isConnector)) (heq ▸ hne)
      simpa only [heq] using hnot
    rw [List.getLast?_eq_some_getLast hne] at hw
    cases hw
    exact Bool.eq_false_iff.mpr hlast

theorem isExpressionKind_iff (k : TokenKind) :
    isExpressionKind k ↔ k ∈ [TokenKind.tag, .property, .connector, .negation] := by
  cases k <;> decide

/-- The words of an expression are connectives and operands. -/
theorem isExpression_iff (raw : Text) :
    isExpression raw ↔ ∀ w ∈ Segment.words raw, isConnector w ∨ isOperandWord w := by
  have hbare : isExpression raw =
      ((Segment.words raw).flatMap Token.ofWord).all fun t => isExpressionKind t.kind := by
    rw [← Token.map_bare_tokenize, List.all_map]
    rfl
  have hword : ∀ w : Text, (Token.ofWord w).all (fun t => isExpressionKind t.kind) =
      isExpressionKind (Token.operand ⟨0, 0, w⟩).kind := by
    intro w
    have hoperand : (Token.operand ⟨0, 0, w⟩).bare.kind = (Token.operand ⟨0, 0, w⟩).kind := rfl
    rw [Token.ofWord_eq]
    cases Token.isNegated w <;> simp [isExpressionKind, hoperand]
  have hcases : ∀ k : TokenKind, k ≠ .negation →
      (isExpressionKind k ↔ k = .connector ∨ k.isOperand) := by
    intro k hk
    cases k with
    | negation => exact absurd rfl hk
    | _ => decide
  have hkind : ∀ w : Text, isExpressionKind (Token.operand ⟨0, 0, w⟩).kind ↔
      isConnector w ∨ isOperandWord w := by
    intro w
    rw [← Token.operand_kind_eq_connector_iff ⟨0, 0, w⟩, isOperandWord]
    exact hcases _ (Token.operand_kind_ne_negation ⟨0, 0, w⟩)
  rw [hbare, List.all_flatMap, List.all_eq_true]
  simp only [hword, hkind]

/-- Blanks around an expression do not change that it is one. -/
theorem isExpression_trim {raw : Text}
    (h : ∀ w ∈ Segment.words raw, isConnector w ∨ isOperandWord w) :
    isExpression (Text.trim raw) :=
  (isExpression_iff _).mpr (Token.isConnector_or_isOperandWord (Text.forall₂_words_trim raw) h)

/-- A text that is no expression is a mixed query. -/
theorem ofTokens_eq_mixed {raw : Text} (h : isExpression raw = false) :
    QueryMode.ofTokens (tokenize raw) = .mixed := by
  cases hmode : QueryMode.ofTokens (tokenize raw) with
  | mixed => rfl
  | pure =>
    have hwords := (QueryMode.isPureWords_iff _).mp
      ((QueryMode.ofTokens_tokenize_eq_pure_iff raw).mp hmode)
    rw [(isExpression_iff raw).mpr hwords.2.1] at h
    cases h

end Edit

/-! ## The parse of what is left -/

namespace Query

/-- All words of a mixed query count, connectives being names. -/
theorem leaves_parse_of_mixed (ctx : Context) {raw : Text} (h : (parse ctx raw).mode = .mixed) :
    (parse ctx raw).root.leaves = (Segment.words raw).filterMap (Term.ofWord? ctx) := by
  have hsegment : ∀ s : Segment, (Reading.ofMode .mixed).termOf? ctx s =
      Term.ofWord? ctx s.text := by
    intro s
    have hterm := Reading.isTerm_ofMode .mixed (Token.operand_kind_ne_negation s)
    have hcriterion : Criterion.ofToken? ctx (Token.operand s) =
        Criterion.ofToken? ctx (Token.operand ⟨0, 0, s.text⟩) := by
      show Criterion.ofToken? ctx (Token.operand s).bare = _
      rw [Token.bare_operand s]
      rfl
    rw [Term.ofWord?_eq, ← hcriterion]
    exact if_pos hterm
  rw [leaves_parse, h, Segment.words, List.filterMap_map]
  congr 1
  funext s
  exact hsegment s

/-- Texts of which both or neither ask for the time are parsed in one context. -/
theorem exists_context_of_parseAt {conventions : Conventions} {now : Moment} {raw other : Text}
    {p : Query} (h : parseAt conventions now raw = .ok p)
    (hask : (Token.tokenize other).any Token.asksTime = (Token.tokenize raw).any Token.asksTime) :
    ∃ ctx, p = parse ctx raw ∧ parseAt conventions now other = .ok (parse ctx other) := by
  rw [parseAt] at h ⊢
  rw [Context.forTokens] at h ⊢
  rw [hask]
  cases hlocal : now.local with
  | ok time =>
    rw [hlocal] at h
    cases h
    exact ⟨_, rfl, rfl⟩
  | error e =>
    rw [hlocal] at h
    cases hany : (Token.tokenize raw).any Token.asksTime with
    | true =>
      simp only [hany, if_true] at h
      cases h
    | false =>
      simp only [hany] at h ⊢
      cases h
      exact ⟨_, rfl, rfl⟩

end Query

namespace Edit

open Token (isConnector isOperandWord tokenize)

namespace Change

def isTarget : Change → Text → Bool
  | tag t => isTag (Tag.normalize t)
  | property key value => isProperty (Text.trim key) (value.bind Text.nonEmpty?)

/-- An update that does anything is a toggle. -/
theorem update_of_ne_unchanged {change : Change} {raw : Text} {operator : Operator}
    (h : (change.update raw operator).action ≠ .unchanged) :
    change.update raw operator = toggle raw change.formatted change.isTarget operator := by
  cases change with
  | tag t =>
    simp only [update, toggleTag] at h ⊢
    split at h
    · exact absurd rfl h
    · rename_i hempty
      rw [if_neg hempty]
      rfl
  | property key value =>
    simp only [update, toggleProperty] at h ⊢
    split at h
    · exact absurd rfl h
    · rename_i hempty
      rw [if_neg hempty, formatted, formatProperty_nonEmpty, isTarget]

theorem isOperandWord_of_isTarget {change : Change} {w : Text} (h : change.isTarget w) :
    isOperandWord w := by
  refine Token.isOperandWord_of_classify ?_
  cases change with
  | tag t =>
    simp only [isTarget, isTag, Bool.and_eq_true, beq_iff_eq] at h
    rw [h.1]
    rfl
  | property key value =>
    simp only [isTarget, isProperty, Bool.and_eq_true, beq_iff_eq] at h
    rw [h.1.1]
    rfl

/-- The words of a text from which a term was removed. -/
theorem words_update_of_removed {change : Change} {raw : Text} {operator : Operator}
    (h : (change.update raw operator).action = .removed) :
    ∃ front w back, Segment.words (Text.trim raw) = front ++ w :: back ∧
      (∀ v ∈ front, change.isTarget v = false) ∧ change.isTarget w ∧
      Segment.words (change.update raw operator).query =
        rejoin (isExpression (Text.trim raw)) front back ∧
      (change.update raw operator).query =
        Text.join [' '] (rejoin (isExpression (Text.trim raw)) front back) := by
  have hupdate := update_of_ne_unchanged (by rw [h]; nofun)
  rw [hupdate] at h ⊢
  obtain ⟨front, w, back, hwords, hfront, hw, hquery⟩ := toggle_of_removed h
  refine ⟨front, w, back, hwords, hfront, hw, ?_, hquery⟩
  have hapart : Text.StayApart (front ++ w :: back) := hwords ▸ Text.stayApart_words _
  rw [hquery]
  refine (hapart.of_sublist ?_).words_join
  exact (rejoin_sublist _ front back).trans
    ((List.sublist_cons_self w back).append_left front)

/-- A removal from a text that is no expression loses the word and its term only. -/
theorem parseAt_of_removed_mixed {front back : List Text} {w raw new : Text}
    (hwords : Segment.words raw = front ++ w :: back) (hw : isOperandWord w)
    (hnew : Segment.words new = front ++ back) (hraw : isExpression raw = false)
    {conventions : Conventions} {now : Moment} {p : Query}
    (hp : Query.parseAt conventions now raw = .ok p) :
    ∃ ctx q x, p = Query.parse ctx raw ∧ Query.parseAt conventions now new = .ok q ∧
      p.mode = .mixed ∧ q.mode = .mixed ∧ Term.ofWord? ctx w = some x ∧
      p.root.leaves = front.filterMap (Term.ofWord? ctx) ++
        x :: back.filterMap (Term.ofWord? ctx) ∧
      q.root.leaves = front.filterMap (Term.ofWord? ctx) ++
        back.filterMap (Term.ofWord? ctx) := by
  have hask : (tokenize new).any Token.asksTime = (tokenize raw).any Token.asksTime := by
    rw [Token.any_asksTime_tokenize, Token.any_asksTime_tokenize, hnew, hwords, List.any_append,
      List.any_append, List.any_cons, Token.not_wordAsksTime (Or.inr hw), Bool.false_or]
  obtain ⟨ctx, rfl, hq⟩ := Query.exists_context_of_parseAt hp hask
  obtain ⟨x, hx⟩ := Term.exists_ofWord? hw
  have hother : isExpression new = false := by
    rw [← Bool.not_eq_true] at hraw ⊢
    intro hall
    rw [isExpression_iff, hnew, List.forall_mem_append] at hall
    refine hraw ((isExpression_iff raw).mpr ?_)
    rw [hwords, List.forall_mem_append, List.forall_mem_cons]
    exact ⟨hall.1, Or.inr hw, hall.2⟩
  have hpmode : (Query.parse ctx raw).mode = .mixed := ofTokens_eq_mixed hraw
  have hqmode : (Query.parse ctx new).mode = .mixed := ofTokens_eq_mixed hother
  refine ⟨ctx, _, x, rfl, hq, hpmode, hqmode, hx ctx, ?_, ?_⟩
  · rw [Query.leaves_parse_of_mixed ctx hpmode, hwords, List.filterMap_append,
      List.filterMap_cons, hx ctx]
  · rw [Query.leaves_parse_of_mixed ctx hqmode, hnew, List.filterMap_append]

/-- What is left of an expression is empty or a pure query. -/
theorem parseAt_of_removed_expression {front back : List Text} {w raw new : Text}
    (hwords : Segment.words raw = front ++ w :: back) (hraw : isExpression raw)
    (hnew : Segment.words new = rejoin true front back) (conventions : Conventions)
    (now : Moment) :
    ∃ q, Query.parseAt conventions now new = .ok q ∧ (Segment.words new = [] ∨ q.mode = .pure) := by
  have hall : ∀ v ∈ dropLastConnector front ++ back, isConnector v ∨ isOperandWord v := by
    intro v hv
    refine (isExpression_iff raw).mp hraw v ?_
    rw [hwords]
    rcases List.mem_append.mp hv with hv | hv
    · exact List.mem_append_left _ (mem_dropLastConnector hv)
    · exact List.mem_append_right _ (List.mem_cons_of_mem w hv)
  rw [rejoin, if_pos rfl] at hnew
  have hkept : ∀ v ∈ Segment.words new, isConnector v ∨ isOperandWord v := by
    rw [hnew]
    exact fun v hv => hall v ((pruneConnectors_sublist _).subset hv)
  refine ⟨_, Query.parseAt_of_operands hkept conventions now, ?_⟩
  by_cases hne : pruneConnectors (dropLastConnector front ++ back) = []
  · exact Or.inl (hnew.trans hne)
  · refine Or.inr ((QueryMode.ofTokens_tokenize_eq_pure_iff new).mpr ?_)
    rw [hnew]
    exact isPureWords_pruneConnectors hall hne

/-- A removal takes the first word out that is the term. A text with a word that is neither an
operand nor a connective keeps all its other words and their terms, and stays mixed. Any other
text keeps all its other words up to connectives, and is empty or pure. -/
theorem removed_keeps_others (change : Change) (raw : Text) (operator : Operator)
    (h : (change.update raw operator).action = .removed) :
    ∃ front w back, Segment.words (Text.trim raw) = front ++ w :: back ∧
      (∀ v ∈ front, change.isTarget v = false) ∧ change.isTarget w ∧
      ((∃ t ∈ tokenize (Text.trim raw),
          t.kind ∉ [TokenKind.tag, .property, .connector, .negation]) →
        Segment.words (change.update raw operator).query = front ++ back ∧
        ∀ conventions now p, Query.parseAt conventions now (Text.trim raw) = .ok p →
          ∃ ctx q x, p = Query.parse ctx (Text.trim raw) ∧
            Query.parseAt conventions now (change.update raw operator).query = .ok q ∧
            p.mode = .mixed ∧ q.mode = .mixed ∧ Term.ofWord? ctx w = some x ∧
            p.root.leaves = front.filterMap (Term.ofWord? ctx) ++
              x :: back.filterMap (Term.ofWord? ctx) ∧
            q.root.leaves = front.filterMap (Term.ofWord? ctx) ++
              back.filterMap (Term.ofWord? ctx)) ∧
      ((∀ t ∈ tokenize (Text.trim raw),
          t.kind ∈ [TokenKind.tag, .property, .connector, .negation]) →
        (Segment.words (change.update raw operator).query).filter (!isConnector ·) =
          (front ++ back).filter (!isConnector ·) ∧
        ∀ conventions now,
          ∃ q, Query.parseAt conventions now (change.update raw operator).query = .ok q ∧
            ((change.update raw operator).query = [] ∨ q.mode = .pure)) := by
  obtain ⟨front, w, back, hwords, hfront, hw, hnew, hquery⟩ := words_update_of_removed h
  refine ⟨front, w, back, hwords, hfront, hw, ?_, ?_⟩
  · rintro ⟨t, ht, hkind⟩
    have hexpression : isExpression (Text.trim raw) = false := by
      rw [isExpression, List.all_eq_false]
      exact ⟨t, ht, mt (isExpressionKind_iff t.kind).mp hkind⟩
    rw [hexpression] at hnew
    exact ⟨hnew, fun conventions now p hp =>
      parseAt_of_removed_mixed hwords (isOperandWord_of_isTarget hw) hnew hexpression hp⟩
  · intro hkinds
    have hexpression : isExpression (Text.trim raw) :=
      List.all_eq_true.mpr fun t ht => (isExpressionKind_iff t.kind).mpr (hkinds t ht)
    rw [hexpression] at hnew
    refine ⟨by rw [hnew, filter_rejoin], fun conventions now => ?_⟩
    obtain ⟨q, hq, hmode⟩ :=
      parseAt_of_removed_expression hwords hexpression hnew conventions now
    refine ⟨q, hq, hmode.imp_left fun hnil => ?_⟩
    rw [hquery, hexpression, ← hnew, hnil]
    rfl

theorem removed_keeps_others_open_quote :
    ((Change.tag "B".toList).update " x OR #b  \"c d".toList .and).action = .removed ∧
      ∃ front w back,
        Segment.words (Text.trim " x OR #b  \"c d".toList) = front ++ w :: back ∧
        (Change.tag "B".toList).isTarget w ∧
        Segment.words ((Change.tag "B".toList).update " x OR #b  \"c d".toList .and).query =
          front ++ back := by
  have haction : ((Change.tag "B".toList).update " x OR #b  \"c d".toList .and).action =
      .removed := by decide
  obtain ⟨front, w, back, hwords, -, hw, hmixed, -⟩ :=
    removed_keeps_others (.tag "B".toList) " x OR #b  \"c d".toList .and haction
  exact ⟨haction, front, w, back, hwords, hw, (hmixed (by decide)).1⟩

end Change

end Edit

end NoteQuery
