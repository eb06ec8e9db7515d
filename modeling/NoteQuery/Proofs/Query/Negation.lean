import NoteQuery.Proofs.Query.Closed
import NoteQuery.Proofs.Query.Strengthening

/-!
# A minus in front of a word

A word without a minus asks for the opposite once a minus is put in front of it. The minus joins
the word, so that the two texts are read in the same mode. Behind it a connective is an ordinary
name, and a word by itself asks for a connective as a name anyway. So the two queries have one term
each, of the same criterion, and between them they select each note once.
-/
namespace NoteQuery

open Token (isConnector isOperandWord isNegated operand classify classifyNegated)

/-! ## The word with its minus -/

namespace Cursor

/-- Characters in front of an open word run on in the next word that ends. -/
theorem words_append_word (front : Text) {k : Cursor} (h : k.word ≠ []) (s : Text) :
    (Cursor.mk k.quoted k.escaped (front ++ k.word)).words s =
      (k.words s).modifyHead (front ++ ·) := by
  have hfront : front ++ k.word ≠ [] := fun hnil => h (List.append_eq_nil_iff.mp hnil).2
  induction s generalizing k with
  | nil =>
    rw [words_nil, words_nil, flush_of_ne_nil h, flush_of_ne_nil hfront]
    rfl
  | cons c s ih =>
    have hcuts : (Cursor.mk k.quoted k.escaped (front ++ k.word)).cuts c = k.cuts c := rfl
    rw [words_cons, words_cons, hcuts]
    cases hc : k.cuts c with
    | true =>
      rw [step_of_cuts hc, step_of_cuts (hcuts.trans hc), flush_of_ne_nil h,
        flush_of_ne_nil hfront]
      rfl
    | false =>
      have hword : (k.step c).word ≠ [] := by simp [step_of_not_cuts hc]
      have hrest := ih hword (by simp [step_of_not_cuts hc])
      rw [step_of_not_cuts hc] at hrest ⊢
      rw [step_of_not_cuts (hcuts.trans hc), List.append_assoc]
      exact hrest

end Cursor

namespace Text

theorem words_minus {w : Text} (h : Segment.words w = [w]) :
    Segment.words ('-' :: w) = ['-' :: w] := by
  obtain ⟨hne, -⟩ := exists_reads h
  obtain ⟨c, s, rfl⟩ := List.exists_cons_of_ne_nil hne
  have hc : Cursor.start.cuts c = false := by
    rw [Cursor.cuts_of_isBalanced rfl]
    exact not_isBlank_of_words_eq h
  have hminus : (Cursor.mk false false ['-']).cuts c = false := hc
  have hfirst : (Cursor.start.step c).words s = [c :: s] := by
    rw [Segment.words_eq, Cursor.words_cons, hc] at h
    exact h
  have hword : (Cursor.start.step c).word ≠ [] := by simp [Cursor.step_of_not_cuts hc]
  have hrest := Cursor.words_append_word ['-'] hword s
  rw [hfirst, Cursor.step_of_not_cuts hc] at hrest
  calc Segment.words ('-' :: c :: s)
      = (Cursor.mk false false ['-']).words (c :: s) := Segment.words_eq _
    _ = ((Cursor.mk false false ['-']).step c).words s := by
        rw [Cursor.words_cons, hminus]
        rfl
    _ = ['-' :: c :: s] := by
        rw [Cursor.step_of_not_cuts hminus]
        exact hrest

end Text

/-- The term that asks for the opposite. -/
def Term.opposite (x : Term) : Term := ⟨x.criterion, !x.negated⟩

section Minus

variable {w : Text} (hne : w ≠ []) (hplain : w.head? ≠ some '-')

include hplain in
theorem Token.isNegated_of_head : isNegated w = false := by
  rw [isNegated, beq_eq_false_iff_ne.mpr hplain, Bool.false_and]

include hne in
theorem Token.isNegated_minus : isNegated ('-' :: w) := by
  obtain ⟨c, s, rfl⟩ := List.exists_cons_of_ne_nil hne
  exact (Token.isNegated_iff _).mpr ⟨c, s, rfl⟩

include hne hplain in
theorem Token.isOperandWord_minus : isOperandWord ('-' :: w) = isOperandWord w := by
  rw [Token.isOperandWord_eq, Token.isOperandWord_eq, if_pos (Token.isNegated_minus hne),
    Token.isNegated_of_head hplain]
  rfl

/-- Behind a minus a connective is a name, and a name it is by itself as well. -/
theorem Criterion.ofToken?_classifyNegated (ctx : Context) (w : Text) (i j k l : Nat) :
    ofToken? ctx ⟨classifyNegated w, w, i, j⟩ = ofToken? ctx ⟨classify w, w, k, l⟩ := by
  by_cases hw : isConnector w
  · rw [isConnector, Bool.or_eq_true, beq_iff_eq, beq_iff_eq] at hw
    rcases hw with rfl | rfl <;> rfl
  · have hkind : classifyNegated w = classify w := by
      have hconnector := mt (Token.classify_eq_connector_iff w).mp hw
      rw [classifyNegated]
      cases hk : classify w with
      | connector => exact absurd hk hconnector
      | _ => rfl
    rw [hkind]
    rfl

include hne hplain in
theorem Term.ofWord?_minus (ctx : Context) :
    ofWord? ctx ('-' :: w) = (ofWord? ctx w).map opposite := by
  have hminus := Token.isNegated_minus hne
  have hword := Token.isNegated_of_head hplain
  have hcriterion : Criterion.ofToken? ctx (operand ⟨0, 0, '-' :: w⟩) =
      Criterion.ofToken? ctx (operand ⟨0, 0, w⟩) := by
    rw [operand, operand, if_pos hminus, hword]
    exact Criterion.ofToken?_classifyNegated ctx w _ _ _ _
  rw [ofWord?_eq, ofWord?_eq, hcriterion, hminus, hword, Option.map_map]
  rfl

end Minus

/-! ## A word by itself -/

def QueryMode.ofWord (w : Text) : QueryMode := if isOperandWord w then .pure else .mixed

namespace Node

def single : QueryMode → Term → Node
  | .pure, x => .term x
  | .mixed, x => .all [.term x]

theorem leaves_single (mode : QueryMode) (x : Term) : (single mode x).leaves = [x] := by
  cases mode <;> rfl

theorem holds_single (mode : QueryMode) (x : Term) (n : Note) :
    (single mode x).holds n = (term x).holds n := by
  cases mode with
  | pure => rfl
  | mixed =>
    rw [single, holds_all, allHold_cons]
    cases (term x).holds n with
    | error e => rfl
    | ok b => cases b <;> rfl

theorem mixedTerms_ofWord (ctx : Context) (w : Text) :
    mixedTerms ctx false (Token.ofWord w) = (Term.ofWord? ctx w).toList := by
  have hkind : ((operand ⟨0, 0, w⟩).bare.kind == .negation) = false :=
    beq_eq_false_iff_ne.mpr (Token.operand_kind_ne_negation ⟨0, 0, w⟩)
  have hoperand : ∀ negated, mixedTerms ctx negated [(operand ⟨0, 0, w⟩).bare] =
      ((Criterion.ofToken? ctx (operand ⟨0, 0, w⟩)).map (Term.mk · negated)).toList := by
    intro negated
    rw [mixedTerms, hkind, if_neg Bool.false_ne_true, Token.ofToken?_bare]
    cases Criterion.ofToken? ctx (operand ⟨0, 0, w⟩) <;> rfl
  rw [Token.ofWord_eq, Term.ofWord?_eq]
  cases isNegated w with
  | true => exact hoperand true
  | false => exact hoperand false

end Node

namespace Query

/-- A word that is no operand makes a mixed query, of one term at most. -/
theorem parse_of_not_isOperandWord (ctx : Context) {w : Text} (hwords : Segment.words w = [w])
    (hw : isOperandWord w = false) :
    parse ctx w = ⟨w, .all ((Term.ofWord? ctx w).toList.map .term), .mixed⟩ := by
  have hmode : QueryMode.ofTokens (Token.ofWord w) = .mixed := by
    have hpure := mt (ofTokens_tokenize_word hwords).mp (by simp [hw])
    rw [← QueryMode.ofTokens_map_bare, Token.map_bare_tokenize, hwords,
      List.flatMap_singleton] at hpure
    cases hmode : QueryMode.ofTokens (Token.ofWord w) with
    | pure => exact absurd hmode hpure
    | mixed => rfl
  rw [parse_eq, hwords, List.flatMap_singleton, Node.ofTokens, hmode, Node.mixedTerms_ofWord]

theorem parse_word {ctx : Context} {w : Text} {x : Term} (hwords : Segment.words w = [w])
    (hx : Term.ofWord? ctx w = some x) :
    parse ctx w = ⟨w, .single (.ofWord w) x, .ofWord w⟩ := by
  rw [QueryMode.ofWord]
  cases hw : isOperandWord w with
  | true => exact parse_operand hw hwords ((Term.ofOperand?_of_isOperandWord ctx hw).trans hx)
  | false =>
    rw [parse_of_not_isOperandWord ctx hwords hw, hx]
    rfl

theorem exists_ofWord?_of_leaves {ctx : Context} {w : Text} (hwords : Segment.words w = [w])
    (h : (parse ctx w).root.leaves ≠ []) : ∃ x, Term.ofWord? ctx w = some x := by
  cases hw : isOperandWord w with
  | true =>
    obtain ⟨x, hx⟩ := Term.exists_ofWord? hw
    exact ⟨x, hx ctx⟩
  | false =>
    rw [parse_of_not_isOperandWord ctx hwords hw] at h
    cases hx : Term.ofWord? ctx w with
    | none =>
      rw [hx] at h
      exact absurd rfl h
    | some x => exact ⟨x, rfl⟩

end Query

/-! ## Opposite trees -/

/-- Two lists of notes that have no note in common and hold each note of a third once. -/
structure Note.Parts (yes no notes : List Note) : Prop where
  disjoint : yes.Disjoint no
  perm : (yes ++ no).Perm notes

namespace Node

/-- Two trees give opposite answers on a note, or none on a note with a timestamp outside the
calendar. -/
def Opposed (m k : Node) (n : Note) : Prop :=
  (∃ b, m.holds n = .ok b ∧ k.holds n = .ok !b) ∨
    ¬ n.HasLocalTimes ∧ ∃ e, m.holds n = .error e ∧ k.holds n = .error e

theorem opposed_term {x : Term} (hx : x.negated = false) (n : Note) :
    (term x).Opposed (term x.opposite) n := by
  obtain ⟨c, negated⟩ := x
  obtain rfl : negated = false := hx
  cases hc : c.holds n with
  | ok b =>
    refine Or.inl ⟨b, holds_term_of_ok hc, ?_⟩
    rw [holds_term, Term.holds, Term.opposite, hc]
    cases b <;> rfl
  | error e =>
    have herror : ∀ negated, (term ⟨c, negated⟩).holds n = .error (.outOfCalendar e) := by
      intro negated
      rw [holds_term, Term.holds, hc]
      rfl
    refine Or.inr ⟨fun hn => ?_, _, herror false, herror true⟩
    obtain ⟨b, hb⟩ := decides_term_of_local hn ⟨c, false⟩
    rw [herror false] at hb
    cases hb

theorem opposed_single (mode : QueryMode) {x : Term} (hx : x.negated = false) (n : Note) :
    (single mode x).Opposed (single mode x.opposite) n := by
  rw [Opposed, holds_single, holds_single]
  exact opposed_term hx n

variable {m k : Node} {notes : List Note}

/-- Where opposed trees decide, the second one takes what the first one leaves. -/
theorem Opposed.accepts_eq {n : Note} (h : m.Opposed k n) (hn : m.Decides n) :
    k.Decides n ∧ k.accepts n = !m.accepts n := by
  obtain ⟨b, hm, hk⟩ | ⟨-, e, hm, -⟩ := h
  · exact ⟨⟨!b, hk⟩, by rw [accepts_of_decides hm, accepts_of_decides hk]⟩
  · obtain ⟨b, hb⟩ := hn
    rw [hm] at hb
    cases hb

theorem parts_of_opposed (h : ∀ n ∈ notes, m.Opposed k n) (hdecides : ∀ n ∈ notes, m.Decides n) :
    ∃ yes no, m.select notes = .ok yes ∧ k.select notes = .ok no ∧ Note.Parts yes no notes := by
  have hopposite := fun n hn => (h n hn).accepts_eq (hdecides n hn)
  refine ⟨_, _, select_of_decides hdecides, select_of_decides fun n hn => (hopposite n hn).1, ?_⟩
  rw [List.filter_congr fun n hn => (hopposite n hn).2]
  constructor
  · intro n hyes hno
    rw [List.mem_filter] at hyes hno
    rw [hyes.2] at hno
    cases hno.2
  · exact List.filter_append_perm m.accepts notes

/-- A selection fails at the first note on which its tree does. -/
theorem exists_error_of_opposed (h : ∀ n ∈ notes, m.Opposed k n)
    (hfails : ∃ n ∈ notes, ¬ m.Decides n) :
    (∃ n ∈ notes, ¬ n.HasLocalTimes) ∧
      ∃ e, m.select notes = .error e ∧ k.select notes = .error e := by
  induction notes with
  | nil => simp at hfails
  | cons n rest ih =>
    rw [List.forall_mem_cons] at h
    rcases h.1 with ⟨b, hm, hk⟩ | ⟨hn, e, hm, hk⟩
    · rw [List.exists_mem_cons_iff] at hfails ⊢
      obtain ⟨hlocal, e, hmrest, hkrest⟩ := ih h.2 (hfails.resolve_left fun hno => hno ⟨b, hm⟩)
      refine ⟨Or.inr hlocal, e, ?_, ?_⟩
      · rw [select, hm, hmrest]
        cases b <;> rfl
      · rw [select, hk, hkrest]
        cases b <;> rfl
    · refine ⟨⟨n, List.mem_cons_self, hn⟩, e, ?_, ?_⟩
      · rw [select, hm]
        rfl
      · rw [select, hk]
        rfl

end Node

namespace Query

/-- Two queries of one term with opposite signs: they give opposite answers on every note, and
split every list of notes, unless both fail at a timestamp outside the calendar. -/
structure Opposed (q p : Query) : Prop where
  mode : p.mode = q.mode
  leaves : ∃ c, q.root.leaves = [⟨c, false⟩] ∧ p.root.leaves = [⟨c, true⟩]
  holds : ∀ n, q.root.Opposed p.root n
  select : ∀ notes,
    (∃ yes no, q.root.select notes = .ok yes ∧ p.root.select notes = .ok no ∧
      Note.Parts yes no notes) ∨
    (∃ n ∈ notes, ¬ n.HasLocalTimes) ∧
      ∃ e, q.root.select notes = .error e ∧ p.root.select notes = .error e

/-- A minus in front of a word that asks for something makes the opposite query, whatever the word
asks for. -/
theorem parseAt_minus (conventions : Conventions) {now : Moment} {time : Instant}
    (hnow : now.local = .ok time) {w : Text} (hword : Segment.words w = [w])
    (hplain : w.head? ≠ some '-') (hterm : (parse ⟨time, conventions⟩ w).root.leaves ≠ []) :
    ∃ q p, parseAt conventions now w = .ok q ∧ parseAt conventions now ('-' :: w) = .ok p ∧
      q.Opposed p := by
  obtain ⟨x, hx⟩ := exists_ofWord?_of_leaves hword hterm
  have hne : w ≠ [] := (Text.exists_reads hword).1
  have hsign : x.negated = false := by
    rw [Term.ofWord?_eq, Token.isNegated_of_head hplain, Option.map_eq_some_iff] at hx
    obtain ⟨c, -, rfl⟩ := hx
    rfl
  have hminus : Term.ofWord? ⟨time, conventions⟩ ('-' :: w) = some x.opposite := by
    rw [Term.ofWord?_minus hne hplain, hx, Option.map_some]
  have hmode : QueryMode.ofWord ('-' :: w) = .ofWord w := by
    rw [QueryMode.ofWord, QueryMode.ofWord, Token.isOperandWord_minus hne hplain]
  have hopposed := fun n => Node.opposed_single (.ofWord w) hsign n
  refine ⟨_, _, parseAt_of_local conventions hnow w, parseAt_of_local conventions hnow _, ?_⟩
  rw [parse_word hword hx, parse_word (Text.words_minus hword) hminus, hmode]
  constructor
  · rfl
  · refine ⟨x.criterion, ?_, ?_⟩
    · rw [Node.leaves_single, ← hsign]
    · rw [Node.leaves_single, Term.opposite, hsign]
      rfl
  · exact hopposed
  · intro notes
    by_cases hdecides : ∀ n ∈ notes, (Node.single (.ofWord w) x).Decides n
    · exact Or.inl (Node.parts_of_opposed (fun n _ => hopposed n) hdecides)
    · push Not at hdecides
      exact Or.inr (Node.exists_error_of_opposed (fun n _ => hopposed n) hdecides)

/-- A folder without a path is asked for as a name, quotes and all, and so is its opposite. -/
theorem parseAt_minus_blank_folder :
    (Moment.mk ⟨7200000000, by decide⟩ (some ⟨3600000000, 0⟩)).local = .ok ⟨3600000000, by decide⟩ ∧
      Segment.words "folder:\" \"".toList = ["folder:\" \"".toList] ∧
      "folder:\" \"".toList.head? ≠ some '-' ∧
      (parse ⟨⟨3600000000, by decide⟩, {}⟩ "folder:\" \"".toList).root.leaves ≠ [] ∧
      ∃ q p,
        parseAt {} ⟨⟨7200000000, by decide⟩, some ⟨3600000000, 0⟩⟩ "folder:\" \"".toList = .ok q ∧
        parseAt {} ⟨⟨7200000000, by decide⟩, some ⟨3600000000, 0⟩⟩ "-folder:\" \"".toList = .ok p ∧
        q.Opposed p ∧ q.root.leaves = [⟨.name "folder:\" \"".toList, false⟩] := by
  have hnow : (Moment.mk ⟨7200000000, by decide⟩ (some ⟨3600000000, 0⟩)).local =
      .ok ⟨3600000000, by decide⟩ := by decide
  have hword : Segment.words "folder:\" \"".toList = ["folder:\" \"".toList] := by decide
  have hplain : "folder:\" \"".toList.head? ≠ some '-' := by decide
  have hleaves : (parse ⟨⟨3600000000, by decide⟩, {}⟩ "folder:\" \"".toList).root.leaves =
      [⟨.name "folder:\" \"".toList, false⟩] := by decide
  have hterm := hleaves.trans_ne (List.cons_ne_nil _ _)
  obtain ⟨q, p, hq, hp, hopposed⟩ := parseAt_minus {} hnow hword hplain hterm
  have hparse := Except.ok.inj ((parseAt_of_local {} hnow _).symm.trans hq)
  exact ⟨hnow, hword, hplain, hterm, q, p, hq, hp, hopposed, hparse ▸ hleaves⟩

/-- A connective by itself is a name, with a minus and without one. -/
example : (parse ⟨.first, {}⟩ "OR".toList).root.leaves = [⟨.name "OR".toList, false⟩] ∧
    (parse ⟨.first, {}⟩ "-OR".toList).root.leaves = [⟨.name "OR".toList, true⟩] := by decide

end Query

end NoteQuery
