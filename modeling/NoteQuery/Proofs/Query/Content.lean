import NoteQuery.Query.Token

/-!
# The content of a query text

What a query asks for is said by its tokens other than connectives, wherever they stand.
Each word of a text contributes its own part of that content, a connective nothing, and
the content of any other word tells which word it is.
-/
namespace NoteQuery

namespace Token

def content (tokens : List Token) : List (TokenKind × Text) :=
  (tokens.filter fun t => t.kind != .connector).map fun t => (t.kind, t.text)

theorem content_append (ts us : List Token) : content (ts ++ us) = content ts ++ content us := by
  rw [content, List.filter_append, List.map_append]
  rfl

theorem classify_eq_connector_iff (w : Text) : classify w = .connector ↔ isConnector w := by
  constructor
  · intro h
    cases hw : isConnector w with
    | true => rfl
    | false =>
      rw [classify, hw] at h
      repeat' split at h
      all_goals contradiction
  · intro h
    rw [classify, if_pos h]

theorem classify_ne_negation (w : Text) : classify w ≠ .negation := by
  intro h
  rw [classify] at h
  repeat' split at h
  all_goals contradiction

theorem classifyNegated_ne_connector (w : Text) : classifyNegated w ≠ .connector := by
  rw [classifyNegated]
  split
  · simp
  · assumption

theorem classifyNegated_ne_negation (w : Text) : classifyNegated w ≠ .negation := by
  rw [classifyNegated]
  split
  · simp
  · exact classify_ne_negation w

theorem classify_hash (rest : Text) : classify ('#' :: rest) = .tag := by
  simp [classify, isConnector]

theorem classify_dot (c : Char) (rest : Text) : classify ('.' :: c :: rest) = .property := by
  simp [classify, isConnector]

theorem classify_eq_property_iff (w : Text) :
    classify w = .property ↔ ∃ c rest, w = '.' :: c :: rest := by
  constructor
  · intro h
    rw [classify] at h
    repeat' split at h
    all_goals first | contradiction | skip
    rename_i hdot
    rw [Bool.and_eq_true, beq_iff_eq, decide_eq_true_eq] at hdot
    match w, hdot with
    | c :: d :: rest, hdot =>
      cases hdot.1
      exact ⟨d, rest, rfl⟩
  · rintro ⟨c, rest, rfl⟩
    exact classify_dot c rest

theorem classify_eq_date_iff (w : Text) : classify w = .date ↔ w.head? = some '@' := by
  constructor
  · intro h
    by_cases hat : w.head? = some '@'
    · exact hat
    · rw [classify, if_neg (mt beq_iff_eq.mp hat)] at h
      repeat' split at h
      all_goals contradiction
  · intro h
    obtain ⟨rest, rfl⟩ := List.head?_eq_some_iff.mp h
    simp [classify, isConnector]

def wordContent (w : Text) : List (TokenKind × Text) := content (ofSegment ⟨0, 0, w⟩)

/-- A word is a minus with its term, or a token as it stands. -/
theorem ofSegment_cases (w : Text) :
    (∃ c rest, w = '-' :: c :: rest) ∨
      ∀ start stop, ofSegment ⟨start, stop, w⟩ = [⟨classify w, w, start, stop⟩] := by
  by_cases h : ∃ c rest, w = '-' :: c :: rest
  · exact Or.inl h
  · refine Or.inr fun start stop => ?_
    rw [ofSegment]
    split
    · rename_i c rest hw
      exact absurd ⟨c, rest, hw⟩ h
    · rfl

/-- Whether a word is a minus in front of more characters. -/
def isNegated (w : Text) : Bool := w.head? == some '-' && decide (1 < w.length)

def operand (s : Segment) : Token :=
  if isNegated s.text then
    ⟨classifyNegated (s.text.drop 1), s.text.drop 1, s.start + 1, s.stop⟩
  else ⟨classify s.text, s.text, s.start, s.stop⟩

theorem isNegated_iff (w : Text) : isNegated w ↔ ∃ c rest, w = '-' :: c :: rest := by
  rw [isNegated, Bool.and_eq_true, beq_iff_eq, decide_eq_true_eq]
  constructor
  · rintro ⟨hhead, hlength⟩
    obtain ⟨more, rfl⟩ := List.head?_eq_some_iff.mp hhead
    cases more with
    | nil => simp at hlength
    | cons c rest => exact ⟨c, rest, rfl⟩
  · rintro ⟨c, rest, rfl⟩
    exact ⟨rfl, by simp⟩

theorem ofSegment_of_isNegated {s : Segment} (h : isNegated s.text) :
    ofSegment s = [⟨.negation, ['-'], s.start, s.start + 1⟩, operand s] := by
  rw [operand, if_pos h]
  obtain ⟨start, stop, w⟩ := s
  obtain ⟨c, rest, rfl⟩ := (isNegated_iff w).mp h
  rfl

theorem ofSegment_of_not_isNegated {s : Segment} (h : isNegated s.text = false) :
    ofSegment s = [operand s] := by
  rw [operand, h]
  rcases ofSegment_cases s.text with hw | hw
  · rw [(isNegated_iff s.text).mpr hw] at h
    cases h
  · exact hw s.start s.stop

theorem operand_kind_ne_negation (s : Segment) : (operand s).kind ≠ .negation := by
  rw [operand]
  split
  · exact classifyNegated_ne_negation _
  · exact classify_ne_negation _

theorem operand_kind_eq_date_iff (s : Segment) :
    (operand s).kind = .date ↔ (operand s).text.head? = some '@' := by
  rw [operand]
  split
  · rw [← classify_eq_date_iff, classifyNegated]
    cases classify (s.text.drop 1) <;> simp
  · exact classify_eq_date_iff s.text

/-- Only the minus of a segment is another token than its operand. -/
theorem eq_operand_of_mem {t : Token} {s : Segment} (ht : t ∈ ofSegment s)
    (hkind : t.kind ≠ .negation) : t = operand s := by
  cases h : isNegated s.text with
  | true =>
    rw [ofSegment_of_isNegated h] at ht
    rcases List.mem_cons.mp ht with rfl | ht
    · exact absurd rfl hkind
    · exact List.mem_singleton.mp ht
  | false =>
    rw [ofSegment_of_not_isNegated h] at ht
    exact List.mem_singleton.mp ht

theorem operand_kind_eq_connector_iff (s : Segment) :
    (operand s).kind = .connector ↔ isConnector s.text := by
  rw [operand]
  cases h : isNegated s.text with
  | true =>
    obtain ⟨c, rest, hw⟩ := (isNegated_iff s.text).mp h
    rw [hw]
    exact iff_of_false (classifyNegated_ne_connector _) (by simp [isConnector])
  | false => exact classify_eq_connector_iff s.text

theorem content_signed (start stop : Nat) (c : Char) (rest : Text) :
    content (ofSegment ⟨start, stop, '-' :: c :: rest⟩) =
      [(.negation, ['-']), (classifyNegated (c :: rest), c :: rest)] := by
  have hkind := bne_iff_ne.mpr (classifyNegated_ne_connector (c :: rest))
  have htokens : ofSegment ⟨start, stop, '-' :: c :: rest⟩ =
      [⟨.negation, ['-'], start, start + 1⟩,
        ⟨classifyNegated (c :: rest), c :: rest, start + 1, stop⟩] := rfl
  rw [htokens, content, List.filter_cons, List.filter_cons, hkind]
  rfl

theorem content_unsigned {w : Text}
    (h : ∀ start stop, ofSegment ⟨start, stop, w⟩ = [⟨classify w, w, start, stop⟩])
    (start stop : Nat) :
    content (ofSegment ⟨start, stop, w⟩) = if isConnector w then [] else [(classify w, w)] := by
  rw [h, content, List.filter_cons]
  by_cases hw : isConnector w
  · rw [if_pos hw, (classify_eq_connector_iff w).mpr hw]
    rfl
  · have hkind := bne_iff_ne.mpr fun hk => hw ((classify_eq_connector_iff w).mp hk)
    rw [if_neg hw, hkind]
    rfl

theorem wordContent_of_ofSegment {w : Text}
    (h : ∀ start stop, ofSegment ⟨start, stop, w⟩ = [⟨classify w, w, start, stop⟩])
    (hw : isConnector w = false) : wordContent w = [(classify w, w)] := by
  rw [wordContent, content_unsigned h, hw]
  rfl

theorem content_ofSegment (s : Segment) : content (ofSegment s) = wordContent s.text := by
  obtain ⟨start, stop, w⟩ := s
  rw [wordContent]
  rcases ofSegment_cases w with ⟨c, rest, rfl⟩ | h
  · rw [content_signed, content_signed]
  · rw [content_unsigned h, content_unsigned h]

theorem content_tokenize (raw : Text) :
    content (tokenize raw) = (Segment.words raw).flatMap wordContent := by
  rw [tokenize, Segment.words]
  induction Segment.split raw with
  | nil => rfl
  | cons s rest ih =>
    rw [List.flatMap_cons, content_append, content_ofSegment, ih, List.map_cons,
      List.flatMap_cons]

theorem wordContent_of_isConnector {w : Text} (h : isConnector w) : wordContent w = [] := by
  rw [isConnector, Bool.or_eq_true, beq_iff_eq, beq_iff_eq] at h
  rcases h with rfl | rfl <;> rfl

/-- Words that are no connectives are told apart by the first token. -/
theorem eq_of_wordContent_append {v w : Text} (hv : isConnector v = false)
    (hw : isConnector w = false) {xs ys : List (TokenKind × Text)}
    (h : wordContent v ++ xs = wordContent w ++ ys) : v = w := by
  rcases ofSegment_cases v with ⟨c, rest, rfl⟩ | hv'
  · rcases ofSegment_cases w with ⟨d, more, rfl⟩ | hw'
    · rw [wordContent, wordContent, content_signed, content_signed] at h
      simp only [List.cons_append, List.cons.injEq, Prod.mk.injEq] at h
      rw [h.2.1.2.1, h.2.1.2.2]
    · rw [wordContent, content_signed, wordContent_of_ofSegment hw' hw] at h
      simp only [List.cons_append, List.cons.injEq, Prod.mk.injEq] at h
      exact absurd h.1.1.symm (classify_ne_negation w)
  · rw [wordContent_of_ofSegment hv' hv] at h
    rcases ofSegment_cases w with ⟨d, more, rfl⟩ | hw'
    · rw [wordContent, content_signed] at h
      simp only [List.cons_append, List.cons.injEq, Prod.mk.injEq] at h
      exact absurd h.1.1 (classify_ne_negation v)
    · rw [wordContent_of_ofSegment hw' hw] at h
      simp only [List.cons_append, List.cons.injEq, Prod.mk.injEq] at h
      exact h.1.2

end Token

end NoteQuery
