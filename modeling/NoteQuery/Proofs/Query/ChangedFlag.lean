import NoteQuery.Proofs.Query.Extending

/-!
# Whether an update changes the text

An update that adds or removes a term gives a text of other words than the trimmed text, so it
gives another text. Its flag says just that.
-/
namespace NoteQuery

namespace Edit

theorem toggle_changed (raw formatted : Text) (isTarget : Text → Bool) (operator : Operator) :
    (toggle raw formatted isTarget operator).changed =
      ((toggle raw formatted isTarget operator).query != Text.trim raw) := by
  simp only [toggle]
  split <;> rfl

theorem toggle_action_ne_unchanged (raw formatted : Text) (isTarget : Text → Bool)
    (operator : Operator) : (toggle raw formatted isTarget operator).action ≠ .unchanged := by
  have hremoved : EditAction.removed ≠ .unchanged := by decide
  have hadded : EditAction.added ≠ .unchanged := by decide
  simp only [toggle]
  split
  · exact hremoved
  · exact hadded

theorem length_le_dropLastConnector (words : List Text) :
    words.length ≤ (dropLastConnector words).length + 1 := by
  rcases List.eq_nil_or_concat words with rfl | ⟨front, w, rfl⟩
  · exact Nat.zero_le _
  · by_cases hw : Token.isConnector w
    · simp [dropLastConnector, hw]
    · simp [dropLastConnector, hw]

/-- A term makes words more, also where its operator replaces a connective. -/
theorem length_lt_append (expression : Bool) (operator : Operator) (formatted : Text)
    (words : List Text) :
    words.length < (append expression operator formatted words).length := by
  have hkept := length_le_dropLastConnector words
  rw [append]
  split
  · rename_i hempty
    simp [List.isEmpty_iff.mp hempty]
  · split
    · simp only [List.length_append, List.length_cons, List.length_nil]
      omega
    · simp

namespace Change

variable {change : Change} {raw : Text} {operator : Operator}

theorem words_ne_of_removed (h : (change.update raw operator).action = .removed) :
    Segment.words (change.update raw operator).query ≠ Segment.words (Text.trim raw) := by
  obtain ⟨front, w, back, hwords, -, -, hnew, -⟩ := words_update_of_removed h
  intro hsame
  have hle := (rejoin_sublist (isExpression (Text.trim raw)) front back).length_le
  rw [← hnew, hsame, hwords] at hle
  simp only [List.length_append, List.length_cons] at hle
  omega

/-- Behind a complete text there are more words, and otherwise the last word is longer. -/
theorem words_ne_of_added (h : (change.update raw operator).action = .added) :
    Segment.words (change.update raw operator).query ≠ Segment.words (Text.trim raw) := by
  intro hsame
  cases hraw : Text.isComplete (Text.trim raw) with
  | true =>
    have hnew := words_update_of_added h hraw
    rw [hsame, Text.words_trim hraw] at hnew
    have hlt := length_lt_append (isExpression (Text.trim raw)) operator change.formatted
      (Segment.words (Text.trim raw))
    rw [← hnew] at hlt
    omega
  | false =>
    obtain ⟨isTarget, hupdate, c, rest, hf, -, hc, -⟩ := update_of_added h
    rw [hupdate, hf] at h hsame
    obtain ⟨front, w, -, hwords, -, d, more, others, -, hnew⟩ := words_of_open h hc hraw
    rw [hnew, hwords, List.append_cancel_left_eq, List.cons.injEq] at hsame
    have hlength := congrArg List.length hsame.1
    simp at hlength

/-- An update that does nothing gives the trimmed text. -/
theorem update_of_unchanged (h : (change.update raw operator).action = .unchanged) :
    change.update raw operator = unchanged raw := by
  cases change with
  | tag t =>
    simp only [update, toggleTag] at h ⊢
    split at h
    · rename_i hempty
      rw [if_pos hempty]
    · exact absurd h (toggle_action_ne_unchanged _ _ _ _)
  | property key value =>
    simp only [update, toggleProperty] at h ⊢
    split at h
    · rename_i hempty
      rw [if_pos hempty]
    · exact absurd h (toggle_action_ne_unchanged _ _ _ _)

/-- An update changes the trimmed text exactly if it adds or removes a term, and says so. -/
theorem changed_update_iff (change : Change) (raw : Text) (operator : Operator) :
    ((change.update raw operator).changed = true ↔
        (change.update raw operator).action ≠ .unchanged) ∧
      ((change.update raw operator).changed = true ↔
        (change.update raw operator).query ≠ Text.trim raw) := by
  by_cases h : (change.update raw operator).action = .unchanged
  · have hupdate := update_of_unchanged h
    rw [hupdate]
    simp [unchanged]
  · have hquery : (change.update raw operator).query ≠ Text.trim raw := by
      intro hsame
      cases haction : (change.update raw operator).action with
      | added => exact words_ne_of_added haction (congrArg Segment.words hsame)
      | removed => exact words_ne_of_removed haction (congrArg Segment.words hsame)
      | unchanged => exact h haction
    have hchanged : (change.update raw operator).changed = true := by
      have htoggle := toggle_changed raw change.formatted change.isTarget operator
      rw [← update_of_ne_unchanged h] at htoggle
      rw [htoggle]
      exact bne_iff_ne.mpr hquery
    exact ⟨iff_of_true hchanged h, iff_of_true hchanged hquery⟩

end Change

end Edit

end NoteQuery
