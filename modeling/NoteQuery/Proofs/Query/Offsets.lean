import NoteQuery.Proofs.Query.Content
import NoteQuery.Proofs.Query.Separators

/-!
# Where tokens stand

Tokens tell where they stand in the text that they were read from. Together they hold all
of it but the separators: nothing is lost, nothing is read twice, and two segments have
a separator between them.
-/
namespace NoteQuery.Token

/-- A token stands in a text: it holds what the text has between its offsets. -/
structure StandsIn (t : Token) (raw : Text) : Prop where
  lt : t.start < t.stop
  le : t.stop ≤ raw.length
  text_eq : t.text = raw.extract t.start t.stop

def Holds (t : Token) (i : Nat) : Prop := t.start ≤ i ∧ i < t.stop

theorem StandsIn.length_text {t : Token} {raw : Text} (h : t.StandsIn raw) :
    t.text.length = t.stop - t.start := by
  have := h.le
  rw [h.text_eq, List.extract_eq_take_drop, List.length_take, List.length_drop]
  omega

theorem StandsIn.text_ne_nil {t : Token} {raw : Text} (h : t.StandsIn raw) : t.text ≠ [] := by
  have := h.lt
  have := h.length_text
  rw [← List.length_pos_iff]
  omega

variable {raw : Text} {i : Nat} {segments : List Segment} {g : Segment}

/-- A segment with a minus has a second character. -/
theorem start_succ_lt (hg : g.text = raw.extract g.start g.stop) (h : isNegated g.text) :
    g.start + 1 < g.stop := by
  rw [isNegated, Bool.and_eq_true, decide_eq_true_eq] at h
  have hlength := h.2
  rw [hg, List.extract_eq_take_drop, List.length_take] at hlength
  omega

/-- The minus of a segment and what stands behind it are next to each other. -/
theorem standsIn_of_isNegated (hle : g.stop ≤ raw.length)
    (hg : g.text = raw.extract g.start g.stop) (h : isNegated g.text) :
    (Token.mk .negation ['-'] g.start (g.start + 1)).StandsIn raw ∧
      (operand g).StandsIn raw ∧
      (operand g).start = g.start + 1 ∧ (operand g).stop = g.stop := by
  have hlt := start_succ_lt hg h
  have hoperand : operand g =
      ⟨classifyNegated (g.text.drop 1), g.text.drop 1, g.start + 1, g.stop⟩ := if_pos h
  refine ⟨⟨by simp, by simp; omega, ?_⟩, ?_, by rw [hoperand], by rw [hoperand]⟩
  · rw [isNegated, Bool.and_eq_true, beq_iff_eq, hg, List.extract_eq_take_drop] at h
    have hhead := h.1
    rw [List.head?_eq_getElem?, List.getElem?_take_of_lt (by omega), List.getElem?_drop,
      Nat.add_zero] at hhead
    show ['-'] = raw.extract g.start (g.start + 1)
    rw [List.extract_eq_take_drop, Nat.add_sub_cancel_left, List.take_one,
      List.head?_eq_getElem?, List.getElem?_drop, Nat.add_zero, hhead]
    rfl
  · rw [hoperand]
    refine ⟨hlt, hle, ?_⟩
    show g.text.drop 1 = raw.extract (g.start + 1) g.stop
    rw [hg, List.extract_eq_take_drop, List.extract_eq_take_drop, List.drop_take, List.drop_drop,
      Nat.sub_sub]

/-- The tokens of a segment stand in it one behind the other and hold all its places. -/
theorem ofSegment_spec (hlt : g.start < g.stop) (hle : g.stop ≤ raw.length)
    (hg : g.text = raw.extract g.start g.stop) :
    (∀ t ∈ ofSegment g, t.StandsIn raw ∧ g.start ≤ t.start ∧ t.stop ≤ g.stop) ∧
      (∀ p, (∃ t ∈ ofSegment g, t.Holds p) ↔ g.start ≤ p ∧ p < g.stop) ∧
      (ofSegment g).Pairwise fun t u => t.stop ≤ u.start := by
  cases h : isNegated g.text with
  | true =>
    have hsucc := start_succ_lt hg h
    obtain ⟨hminus, hoperand, hstart, hstop⟩ := standsIn_of_isNegated hle hg h
    rw [ofSegment_of_isNegated h]
    refine ⟨?_, fun p => ?_, ?_⟩
    · rw [List.forall_mem_cons, List.forall_mem_singleton, hstart, hstop]
      exact ⟨⟨hminus, Nat.le_refl _, Nat.le_of_lt hsucc⟩, hoperand, Nat.le_succ _, Nat.le_refl _⟩
    · simp only [List.mem_cons, List.not_mem_nil, or_false, exists_eq_or_imp, exists_eq_left,
        Holds, hstart, hstop]
      omega
    · exact List.pairwise_pair.mpr (Nat.le_of_eq hstart.symm)
  | false =>
    have hoperand : operand g = ⟨classify g.text, g.text, g.start, g.stop⟩ := by
      rw [operand, h]
      rfl
    rw [ofSegment_of_not_isNegated h, hoperand]
    refine ⟨?_, fun p => ?_, List.pairwise_singleton _ _⟩
    · rw [List.forall_mem_singleton]
      exact ⟨⟨hlt, hle, hg⟩, Nat.le_refl _, Nat.le_refl _⟩
    · simp only [List.mem_singleton, exists_eq_left, Holds]

/-- A minus has the token that it negates right behind it. -/
theorem negation_next (hsegments : ∀ g ∈ segments, g.stop ≤ raw.length ∧
      g.text = raw.extract g.start g.stop) {t : Token}
    (ht : (segments.flatMap ofSegment)[i]? = some t) (hkind : t.kind = .negation) :
    t.text = ['-'] ∧ ∃ u, (segments.flatMap ofSegment)[i + 1]? = some u ∧
      u.start = t.stop ∧ u.kind ≠ .negation ∧ u.kind ≠ .connector := by
  induction segments generalizing i with
  | nil => cases ht
  | cons g segments ih =>
    rw [List.forall_mem_cons] at hsegments
    obtain ⟨⟨hle, hg⟩, hrest⟩ := hsegments
    rw [List.flatMap_cons] at ht ⊢
    cases h : isNegated g.text with
    | true =>
      rw [ofSegment_of_isNegated h] at ht ⊢
      rcases i with _ | _ | i
      · cases ht
        obtain ⟨-, -, hstart, -⟩ := standsIn_of_isNegated hle hg h
        have hconnector : (operand g).kind ≠ .connector := by
          rw [operand, if_pos h]
          exact classifyNegated_ne_connector _
        exact ⟨rfl, operand g, rfl, hstart, operand_kind_ne_negation g, hconnector⟩
      · cases ht
        exact absurd hkind (operand_kind_ne_negation g)
      · exact ih hrest ht
    | false =>
      rw [ofSegment_of_not_isNegated h] at ht ⊢
      cases i with
      | zero =>
        cases ht
        exact absurd hkind (operand_kind_ne_negation g)
      | succ i => exact ih hrest ht

/-! ## The tokens of a text -/

theorem ofSegment_spec_of_mem (hg : g ∈ Segment.split raw) :
    (∀ t ∈ ofSegment g, t.StandsIn raw ∧ g.start ≤ t.start ∧ t.stop ≤ g.stop) ∧
      (∀ p, (∃ t ∈ ofSegment g, t.Holds p) ↔ g.start ≤ p ∧ p < g.stop) ∧
      (ofSegment g).Pairwise fun t u => t.stop ≤ u.start := by
  obtain ⟨-, hlt, hle, htext⟩ := (Segment.isCutting_split raw).of_mem hg
  exact ofSegment_spec hlt hle htext

theorem standsIn_of_mem {t : Token} (ht : t ∈ tokenize raw) : t.StandsIn raw := by
  obtain ⟨g, hg, ht⟩ := List.mem_flatMap.mp ht
  exact ((ofSegment_spec_of_mem hg).1 t ht).1

/-- Between the tokens of two segments stands a separator. -/
theorem pairwise_separated (raw : Text) :
    (Segment.split raw).Pairwise fun g h => ∀ t ∈ ofSegment g, ∀ u ∈ ofSegment h,
      ∃ i, t.stop ≤ i ∧ i < u.start ∧ raw.IsSeparator i := by
  refine (Segment.isCutting_split raw).pairwise.imp_of_mem fun {g h} hg hh hsep t ht u hu => ?_
  have hstop := ((ofSegment_spec_of_mem hg).1 t ht).2.2
  have hstart := ((ofSegment_spec_of_mem hh).1 u hu).2.1
  exact ⟨g.stop, hstop, by omega, hsep.1⟩

theorem pairwise_tokenize (raw : Text) :
    (tokenize raw).Pairwise fun t u => t.start < u.start ∧ t.stop ≤ u.start := by
  have hordered : (tokenize raw).Pairwise fun t u => t.stop ≤ u.start := by
    refine List.pairwise_flatMap.mpr ⟨fun g hg => (ofSegment_spec_of_mem hg).2.2, ?_⟩
    refine (pairwise_separated raw).imp fun hgh t ht u hu => ?_
    obtain ⟨i, hi, hlt, -⟩ := hgh t ht u hu
    omega
  refine hordered.imp_of_mem fun {t u} ht _ hle => ?_
  have := (standsIn_of_mem ht).lt
  exact ⟨by omega, hle⟩

theorem outside_iff_isSeparator (hi : i < raw.length) :
    (∀ t ∈ tokenize raw, ¬ t.Holds i) ↔ raw.IsSeparator i := by
  rw [← (Segment.isCutting_split raw).outside_iff (Nat.zero_le i) hi]
  constructor
  · intro hno g hg hin
    obtain ⟨t, ht, hholds⟩ := ((ofSegment_spec_of_mem hg).2.1 i).mpr hin
    exact hno t (List.mem_flatMap.mpr ⟨g, hg, ht⟩) hholds
  · intro hno t ht hholds
    obtain ⟨g, hg, ht⟩ := List.mem_flatMap.mp ht
    exact hno g hg (((ofSegment_spec_of_mem hg).2.1 i).mp ⟨t, ht, hholds⟩)

/-- The tokens of a text hold all of it but the separators, in order. -/
theorem tokenize_lossless (raw : Text) :
    (∀ t ∈ tokenize raw, t.StandsIn raw ∧ t.text ≠ []) ∧
      (tokenize raw).Pairwise (fun t u => t.start < u.start ∧ t.stop ≤ u.start) ∧
      (∀ i < raw.length, (∀ t ∈ tokenize raw, ¬ t.Holds i) ↔ raw.IsSeparator i) ∧
      (Segment.split raw).Pairwise (fun g h => ∀ t ∈ ofSegment g, ∀ u ∈ ofSegment h,
        ∃ i, t.stop ≤ i ∧ i < u.start ∧ raw.IsSeparator i) ∧
      ∀ i t, (tokenize raw)[i]? = some t → t.kind = .negation →
        t.text = ['-'] ∧ ∃ u, (tokenize raw)[i + 1]? = some u ∧
          u.start = t.stop ∧ u.kind ≠ .negation ∧ u.kind ≠ .connector := by
  refine ⟨fun t ht => ?_, pairwise_tokenize raw, fun i hi => outside_iff_isSeparator hi,
    pairwise_separated raw, fun i t ht hkind => ?_⟩
  · have hstands := standsIn_of_mem ht
    exact ⟨hstands, hstands.text_ne_nil⟩
  · have hsegments : ∀ g ∈ Segment.split raw, g.stop ≤ raw.length ∧
        g.text = raw.extract g.start g.stop :=
      fun g hg => ((Segment.isCutting_split raw).of_mem hg).2.2
    exact negation_next hsegments ht hkind

end NoteQuery.Token
