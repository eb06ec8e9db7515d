import NoteQuery.Proofs.Faults.Editing
import NoteQuery.Proofs.Query.Adding
import NoteQuery.Proofs.Query.PureForm
import NoteQuery.Proofs.Query.Spacing
import NoteQuery.Proofs.Text.Splitting

/-!
# Pure queries by their words

Whether a text is a pure query, and which groups of terms it has, is read off its words. A
word is a connective, an operand, which is a tag or a property with a minus or without one, or
neither. The words of a pure query are operands with single connectives between them, and its
groups are the terms of the words between two disjunctions.
-/
namespace NoteQuery

open Token (isConnector)

namespace Token

/-- Whether a word is a tag or a property, with a minus or without one. -/
def isOperandWord (w : Text) : Bool := (operand ⟨0, 0, w⟩).kind.isOperand

theorem ofWord_eq (w : Text) :
    ofWord w = (if isNegated w then [⟨.negation, ['-'], 0, 0⟩] else []) ++
      [(operand ⟨0, 0, w⟩).bare] := by
  rw [ofWord]
  cases h : isNegated w with
  | true =>
    rw [ofSegment_of_isNegated h]
    rfl
  | false =>
    rw [ofSegment_of_not_isNegated h]
    rfl

theorem isNegated_of_isConnector {w : Text} (h : isConnector w) : isNegated w = false := by
  rw [isConnector, Bool.or_eq_true, beq_iff_eq, beq_iff_eq] at h
  rcases h with rfl | rfl <;> rfl

theorem ofWord_of_isConnector {w : Text} (h : isConnector w) :
    ofWord w = [⟨.connector, w, 0, 0⟩] := by
  rw [ofWord_eq, isNegated_of_isConnector h, operand, isNegated_of_isConnector h,
    if_neg Bool.false_ne_true, (classify_eq_connector_iff w).mpr h]
  rfl

theorem not_isOperandWord_of_isConnector {w : Text} (h : isConnector w) :
    isOperandWord w = false := by
  rw [isOperandWord, (operand_kind_eq_connector_iff ⟨0, 0, w⟩).mpr h]
  rfl

theorem isConnector_of_isOperandWord {w : Text} (h : isOperandWord w) : isConnector w = false := by
  cases hw : isConnector w with
  | false => rfl
  | true =>
    rw [not_isOperandWord_of_isConnector hw] at h
    cases h

/-- The kinds of words, minuses left out. -/
theorem kinds_flatMap_ofWord (ws : List Text) :
    kinds (ws.flatMap ofWord) = ws.map fun w => (operand ⟨0, 0, w⟩).kind := by
  induction ws with
  | nil => rfl
  | cons w ws ih =>
    have hkind := operand_kind_ne_negation ⟨0, 0, w⟩
    have hoperand : ∀ rest, kinds ((operand ⟨0, 0, w⟩).bare :: rest) =
        (operand ⟨0, 0, w⟩).kind :: kinds rest := by
      intro rest
      rw [kinds_cons]
      exact if_neg hkind
    rw [List.flatMap_cons, ofWord_eq, List.map_cons, ← ih]
    cases isNegated w with
    | true => exact hoperand _
    | false => exact hoperand _

theorem isOperand_classify (w : Text) :
    (classify w).isOperand =
      (w.head? == some '#' || (w.head? == some '.' && decide (1 < w.length))) := by
  rw [classify]
  by_cases hw : isConnector w
  · rw [if_pos hw]
    rw [isConnector, Bool.or_eq_true, beq_iff_eq, beq_iff_eq] at hw
    rcases hw with rfl | rfl <;> rfl
  · rw [if_neg hw]
    by_cases htag : w.head? = some '#'
    · simp [htag, TokenKind.isOperand]
    · by_cases hproperty : (w.head? == some '.' && decide (1 < w.length)) = true
      · rw [hproperty, Bool.or_true, if_neg (by simpa using htag), if_pos rfl]
        rfl
      · rw [Bool.not_eq_true] at hproperty
        rw [hproperty, Bool.or_false, beq_eq_false_iff_ne.mpr htag, if_neg Bool.false_ne_true,
          if_neg Bool.false_ne_true]
        repeat' split
        all_goals rfl

theorem isOperandWord_eq (w : Text) :
    isOperandWord w = (classify (if isNegated w then w.drop 1 else w)).isOperand := by
  rw [isOperandWord, operand]
  cases isNegated w with
  | true =>
    show (classifyNegated (w.drop 1)).isOperand = (classify (w.drop 1)).isOperand
    rw [classifyNegated]
    cases classify (w.drop 1) <;> rfl
  | false => rfl

theorem isOperandWord_of_classify {w : Text} (h : (classify w).isOperand) : isOperandWord w := by
  rw [isOperandWord_eq]
  cases hw : isNegated w with
  | false => exact h
  | true =>
    obtain ⟨c, rest, rfl⟩ := (isNegated_iff w).mp hw
    rw [isOperand_classify] at h
    cases h

/-- What is put behind a quote or a backslash does not change whether a word is an operand. -/
theorem isOperandWord_append {w : Text} (h : ∃ c ∈ w, c = '"' ∨ c = '\\') (s : Text) :
    isOperandWord (w ++ s) = isOperandWord w := by
  have hclassify : ∀ v : Text, (∃ c ∈ v, c = '"' ∨ c = '\\') →
      (classify (v ++ s)).isOperand = (classify v).isOperand := by
    rintro v ⟨c, hc, hmark⟩
    rw [isOperand_classify, isOperand_classify]
    match v, hc with
    | [d], hc =>
      rw [List.mem_singleton.mp hc] at hmark
      rcases hmark with rfl | rfl <;> rfl
    | d :: e :: v, hc => simp
  obtain ⟨c, hc, hmark⟩ := h
  rw [isOperandWord_eq, isOperandWord_eq]
  match w, hc with
  | [d], hc =>
    rw [List.mem_singleton.mp hc] at hmark
    have hd : ∀ u : Text, isNegated (d :: u) = false := by
      intro u
      rcases hmark with rfl | rfl <;> rfl
    rw [List.singleton_append, hd, hd]
    exact hclassify [d] ⟨d, List.mem_singleton_self d, hmark⟩
  | d :: e :: w, hc =>
    have hsame : isNegated (d :: e :: w ++ s) = isNegated (d :: e :: w) := by simp [isNegated]
    rw [hsame]
    by_cases hd : isNegated (d :: e :: w)
    · obtain ⟨_, _, hcons⟩ := (isNegated_iff _).mp hd
      have hne : c ≠ d := by
        rintro rfl
        rw [(List.cons.inj hcons).1] at hmark
        revert hmark
        decide
      rw [if_pos hd, if_pos hd]
      exact hclassify (e :: w) ⟨c, (List.mem_cons.mp hc).resolve_left hne, hmark⟩
    · rw [if_neg hd, if_neg hd]
      exact hclassify _ ⟨c, hc, hmark⟩

/-- Neither connectives nor operands ask for the time. -/
theorem not_wordAsksTime {w : Text} (h : isConnector w ∨ isOperandWord w) :
    wordAsksTime w = false := by
  have hkind : (operand ⟨0, 0, w⟩).kind ≠ .date := by
    rcases h with h | h
    · rw [(operand_kind_eq_connector_iff ⟨0, 0, w⟩).mpr h]
      nofun
    · rw [isOperandWord, TokenKind.isOperand_iff] at h
      rcases h with h | h <;> rw [h] <;> nofun
  have hoperand : (operand ⟨0, 0, w⟩).bare.asksTime = false := by
    show ((operand ⟨0, 0, w⟩).kind == .date && _) = false
    rw [beq_eq_false_iff_ne.mpr hkind, Bool.false_and]
  rw [wordAsksTime, ofWord_eq, List.any_append, List.any_cons, hoperand]
  cases isNegated w <;> rfl

/-- How many operands a text has can be read off its words. -/
theorem countP_isOperand_tokenize (raw : Text) :
    (tokenize raw).countP (·.kind.isOperand) = (Segment.words raw).countP isOperandWord := by
  have hbare : (tokenize raw).countP (·.kind.isOperand) =
      ((Segment.words raw).flatMap ofWord).countP (·.kind.isOperand) := by
    rw [← map_bare_tokenize, List.countP_map]
    rfl
  rw [hbare]
  induction Segment.words raw with
  | nil => rfl
  | cons w ws ih =>
    have hword : (ofWord w).countP (·.kind.isOperand) = if isOperandWord w then 1 else 0 := by
      have hoperand : [(operand ⟨0, 0, w⟩).bare].countP (·.kind.isOperand) =
          if isOperandWord w then 1 else 0 := List.countP_singleton
      rw [ofWord_eq, List.countP_append, hoperand]
      cases isNegated w with
      | true => exact Nat.zero_add _
      | false => exact Nat.zero_add _
    rw [List.flatMap_cons, List.countP_append, hword, ih, List.countP_cons, Nat.add_comm]

/-- Words that are both connectives or not, and both operands or not. -/
def SameSort (u v : Text) : Prop :=
  isConnector u = isConnector v ∧ isOperandWord u = isOperandWord v

theorem isConnector_or_isOperandWord {us vs : List Text} (h : List.Forall₂ SameSort us vs)
    (hus : ∀ w ∈ us, isConnector w ∨ isOperandWord w) :
    ∀ w ∈ vs, isConnector w ∨ isOperandWord w := by
  induction h with
  | nil => nofun
  | cons hsort _ ih =>
    rw [List.forall_mem_cons] at hus ⊢
    rw [← hsort.1, ← hsort.2]
    exact ⟨hus.1, ih hus.2⟩

theorem countP_isOperandWord_eq {us vs : List Text} (h : List.Forall₂ SameSort us vs) :
    us.countP isOperandWord = vs.countP isOperandWord := by
  induction h with
  | nil => rfl
  | cons hsort _ ih => rw [List.countP_cons, List.countP_cons, ih, hsort.2]

end Token

/-- An open word has a quote or a backslash. -/
theorem Cursor.exists_mark {k : Cursor} (h : k.IsSound) (hopen : k.isBalanced = false) :
    ∃ c ∈ k.word, c = '"' ∨ c = '\\' := by
  by_contra hnone
  have hplain : ∀ c ∈ k.word, c ≠ '"' ∧ c ≠ '\\' :=
    fun c hc => not_or.mp fun hmark => hnone ⟨c, hc, hmark⟩
  have hbalanced := isBalanced_after (k := start) rfl hplain
  rw [h.after_eq, hopen] at hbalanced
  cases hbalanced

/-- A text that is not complete without the blanks around it loses at most blanks in its last word
with them. -/
theorem Text.exists_last_word {s : Text} (h : isComplete (trim s) = false) :
    ∃ front w more, (∃ c ∈ w, c = '"' ∨ c = '\\') ∧ (∀ t, isConnector (w ++ t) = false) ∧
      (∀ c ∈ more, isBlank c) ∧ Segment.words (trim s) = front ++ [w] ∧
      Segment.words s = front ++ [w ++ more] := by
  obtain ⟨front, k, -, hsound, hword, hopen, hrun⟩ := exists_open_word h
  obtain ⟨hshort, more, hmore, hlong⟩ := words_of_open_trim hword hrun
  exact ⟨front, k.word, more, Cursor.exists_mark hsound hopen,
    Cursor.not_isConnector_append hsound hopen, hmore, hshort, hlong⟩

/-- Blanks around a text at most lengthen its last word, which stays of its sort. -/
theorem Text.forall₂_words_trim (raw : Text) :
    List.Forall₂ Token.SameSort (Segment.words raw) (Segment.words (trim raw)) := by
  have hrefl : ∀ ws : List Text, List.Forall₂ Token.SameSort ws ws :=
    fun ws => List.forall₂_same.mpr fun w _ => ⟨rfl, rfl⟩
  cases htrim : isComplete (trim raw) with
  | true =>
    rw [words_trim htrim]
    exact hrefl _
  | false =>
    obtain ⟨front, w, more, hmark, hconnector, -, hshort, hlong⟩ := exists_last_word htrim
    have hw : isConnector w = false := by simpa using hconnector []
    rw [hlong, hshort]
    refine List.rel_append (hrefl front) (.cons ⟨?_, ?_⟩ .nil)
    · rw [hconnector, hw]
    · exact Token.isOperandWord_append hmark more

/-! ## Texts that are put together from words -/

namespace Text

/-- Words that are cut apart again when they are joined: only the last may be incomplete. -/
structure StayApart (ws : List Text) : Prop where
  words_eq : ∀ w ∈ ws, Segment.words w = [w]
  isWord : ∀ w ∈ ws.dropLast, IsWord w

theorem StayApart.words_join {ws : List Text} (h : StayApart ws) :
    Segment.words (join [' '] ws) = ws := by
  rcases List.eq_nil_or_concat ws with rfl | ⟨front, w, rfl⟩
  · rfl
  · rw [List.concat_eq_append] at h ⊢
    have hfront : ∀ v ∈ front, IsWord v := by
      have := h.isWord
      rwa [List.dropLast_concat] at this
    rw [words_join_append hfront (List.cons_ne_nil w []), join_singleton, h.words_eq w (by simp)]

theorem StayApart.of_sublist {us ws : List Text} (h : StayApart ws) (hsub : us.Sublist ws) :
    StayApart us := by
  refine ⟨fun w hw => h.words_eq w (hsub.subset hw), fun w hw => h.isWord w ?_⟩
  have htail : us.dropLast.Sublist ws.dropLast := by
    have hreverse := hsub.reverse.tail
    rwa [List.tail_reverse, List.tail_reverse, List.reverse_sublist] at hreverse
  exact htail.subset hw

/-- The words of a text stay apart, whether it is complete or not. -/
theorem stayApart_words (s : Text) : StayApart (Segment.words s) := by
  have hsound := Cursor.isSound_start.after s
  have hclosed : ∀ w ∈ Cursor.start.closed s, IsWord w :=
    fun w hw => isWord_of_mem_closed Cursor.isSound_start hw
  rw [Segment.words_eq, Cursor.words]
  by_cases hword : (Cursor.start.after s).word = []
  · have hflush : (Cursor.start.after s).flush = [] := by
      rw [Cursor.flush, hword]
      rfl
    rw [hflush, List.append_nil]
    exact ⟨fun w hw => (hclosed w hw).words_eq,
      fun w hw => hclosed w (List.dropLast_subset _ hw)⟩
  · rw [Cursor.flush_of_ne_nil hword]
    refine ⟨fun w hw => ?_, fun w hw => ?_⟩
    · rcases List.mem_append.mp hw with hw | hw
      · exact (hclosed w hw).words_eq
      · have hread := Cursor.Reads.words_eq hsound []
        rw [List.append_nil, Cursor.words_nil, Cursor.flush_of_ne_nil hword] at hread
        rw [List.mem_singleton.mp hw, Segment.words_eq, hread]
    · rw [List.dropLast_concat] at hw
      exact hclosed w hw

end Text

/-! ## The form of a pure query -/

namespace QueryMode

open Token (ofWord operand isOperandWord)

/-- Whether words are operands with connectives between them; `expecting` says that an operand
has to come before a connective or the end. -/
def isPureWords (expecting : Bool) (ws : List Text) : Bool :=
  isPureFrom expecting (ws.flatMap ofWord)

theorem isPureWords_nil (expecting : Bool) : isPureWords expecting [] = !expecting := rfl

theorem isPureWords_cons (expecting : Bool) (w : Text) (ws : List Text) :
    isPureWords expecting (w :: ws) =
      if isConnector w then !expecting && isPureWords true ws
      else isOperandWord w && isPureWords false ws := by
  have hsign : isPureWords expecting (w :: ws) =
      isPureFrom expecting ((operand ⟨0, 0, w⟩).bare :: ws.flatMap ofWord) := by
    rw [isPureWords, List.flatMap_cons, Token.ofWord_eq]
    cases Token.isNegated w <;> rfl
  have hkind : (operand ⟨0, 0, w⟩).bare.kind = (operand ⟨0, 0, w⟩).kind := rfl
  rw [hsign, isPureFrom, hkind, isOperandWord]
  by_cases hw : isConnector w
  · rw [if_pos hw, (Token.operand_kind_eq_connector_iff ⟨0, 0, w⟩).mpr hw]
    rfl
  · have hnegation := Token.operand_kind_ne_negation ⟨0, 0, w⟩
    have hconnector := mt (Token.operand_kind_eq_connector_iff ⟨0, 0, w⟩).mp hw
    rw [if_neg hw]
    cases hk : (operand ⟨0, 0, w⟩).kind with
    | negation => exact absurd hk hnegation
    | connector => exact absurd hk hconnector
    | tag | property => rfl
    | _ => rfl

theorem ofTokens_tokenize_eq_pure_iff (raw : Text) :
    ofTokens (Token.tokenize raw) = .pure ↔ isPureWords true (Segment.words raw) := by
  rw [ofTokens_eq_pure_iff, ← isPureFrom_map_bare, Token.map_bare_tokenize, isPureWords]

theorem isPureWords_eq {us vs : List Text} (h : List.Forall₂ Token.SameSort us vs)
    (expecting : Bool) : isPureWords expecting us = isPureWords expecting vs := by
  induction h generalizing expecting with
  | nil => rfl
  | cons hsort _ ih => rw [isPureWords_cons, isPureWords_cons, hsort.1, hsort.2, ih, ih]

/-- Blanks around a text do not change whether it is pure. -/
theorem ofTokens_tokenize_trim (raw : Text) :
    ofTokens (Token.tokenize (Text.trim raw)) = .pure ↔ ofTokens (Token.tokenize raw) = .pure := by
  rw [ofTokens_tokenize_eq_pure_iff, ofTokens_tokenize_eq_pure_iff,
    isPureWords_eq (Text.forall₂_words_trim raw)]

theorem isPureWords_operand_cons {w : Text} (hw : isOperandWord w) (expecting : Bool)
    (ws : List Text) : isPureWords expecting (w :: ws) = isPureWords false ws := by
  rw [isPureWords_cons, Token.isConnector_of_isOperandWord hw, if_neg Bool.false_ne_true, hw,
    Bool.true_and]

/-- A connective parts words into two that are pure on their own. -/
theorem isPureWords_append_connector (expecting : Bool) (us : List Text) {c : Text}
    (hc : isConnector c) (vs : List Text) :
    isPureWords expecting (us ++ c :: vs) =
      (isPureWords expecting us && isPureWords true vs) := by
  induction us generalizing expecting with
  | nil => rw [List.nil_append, isPureWords_cons, if_pos hc, isPureWords_nil]
  | cons u us ih =>
    rw [List.cons_append, isPureWords_cons, isPureWords_cons, ih, ih]
    split <;> rw [Bool.and_assoc]

/-- Behind an operand any words may stand that may stand behind any other operand. -/
theorem isPureWords_append_operand (expecting : Bool) (us : List Text) {w : Text}
    (hw : isConnector w = false) (vs : List Text) :
    isPureWords expecting (us ++ w :: vs) =
      (isPureWords expecting (us ++ [w]) && isPureWords false vs) := by
  induction us generalizing expecting with
  | nil =>
    rw [List.nil_append, List.nil_append, isPureWords_cons, isPureWords_cons, hw,
      if_neg Bool.false_ne_true, if_neg Bool.false_ne_true, isPureWords_nil, Bool.not_false,
      Bool.and_true]
  | cons u us ih =>
    rw [List.cons_append, List.cons_append, isPureWords_cons, isPureWords_cons, ih, ih]
    split <;> rw [Bool.and_assoc]

/-- The words of a pure query are connectives and operands, with a connective neither at an
end nor next to another one. -/
theorem isPureWords_iff (ws : List Text) :
    isPureWords true ws ↔
      ws ≠ [] ∧ (∀ w ∈ ws, isConnector w ∨ isOperandWord w) ∧
        (∀ w ∈ ws.head?, isConnector w = false) ∧ (∀ w ∈ ws.getLast?, isConnector w = false) ∧
        Checked.IsMerged ws := by
  have hconnector : ∀ w : Text, (operand ⟨0, 0, w⟩).kind = .connector ↔ isConnector w :=
    fun w => Token.operand_kind_eq_connector_iff ⟨0, 0, w⟩
  have hend : ∀ o : Option Text, (o.map fun w => (operand ⟨0, 0, w⟩).kind) ≠ some .connector ↔
      ∀ w ∈ o, isConnector w = false := by
    intro o
    cases o with
    | none => simp
    | some w => simp [hconnector]
  have happart : (ws.map fun w => (operand ⟨0, 0, w⟩).kind).IsChain
      (fun j k => ¬(j = .connector ∧ k = .connector)) ↔ Checked.IsMerged ws := by
    rw [List.isChain_map, Checked.IsMerged]
    simp only [hconnector]
  rw [isPureWords, isPureFrom_iff_isPlaced, Token.kinds_flatMap_ofWord, ← happart, ← hend, ← hend,
    ← List.head?_map, ← List.getLast?_map]
  constructor
  · intro h
    refine ⟨fun hnil => h.ne_nil (by rw [hnil]; rfl), fun w hw => ?_, h.first, h.last, h.apart⟩
    rw [← hconnector]
    exact (h.kind _ (List.mem_map_of_mem hw)).symm
  · rintro ⟨hne, hkind, hfirst, hlast, hchain⟩
    refine ⟨by simpa using hne, fun k hk => ?_, hfirst, hlast, hchain⟩
    obtain ⟨w, hw, rfl⟩ := List.mem_map.mp hk
    rw [hconnector]
    exact (hkind w hw).symm

/-- Behind pure words anything may stand that may stand behind an operand. -/
theorem isPureWords_append {us vs : List Text} (hus : isPureWords true us)
    (hvs : isPureWords false vs) : isPureWords true (us ++ vs) := by
  obtain ⟨hne, -, -, hlast, -⟩ := (isPureWords_iff us).mp hus
  rcases List.eq_nil_or_concat us with rfl | ⟨front, u, rfl⟩
  · exact absurd rfl hne
  · rw [List.concat_eq_append] at hus hlast ⊢
    rw [List.append_assoc, List.singleton_append,
      isPureWords_append_operand true front (hlast u (by simp)), hus, hvs]
    rfl

end QueryMode

/-! ## The groups of a pure query -/

namespace Term

theorem ofWord?_eq (ctx : Context) (w : Text) :
    ofWord? ctx w = (Criterion.ofToken? ctx (Token.operand ⟨0, 0, w⟩)).map
      (Term.mk · (Token.isNegated w)) :=
  if_pos (Reading.isTerm_ofMode .mixed (Token.operand_kind_ne_negation ⟨0, 0, w⟩))

/-- An operand is one and the same term in every context. -/
theorem exists_ofWord? {w : Text} (h : Token.isOperandWord w) :
    ∃ x, ∀ ctx, ofWord? ctx w = some x := by
  simp only [ofWord?_eq, Criterion.ofToken?]
  rw [Token.isOperandWord, TokenKind.isOperand_iff] at h
  rcases h with hkind | hkind <;> rw [hkind] <;> exact ⟨_, fun _ => rfl⟩

def ofOperand? (ctx : Context) (w : Text) : Option Term :=
  if isConnector w then none else ofWord? ctx w

theorem ofOperand?_of_isConnector (ctx : Context) {w : Text} (h : isConnector w) :
    ofOperand? ctx w = none := if_pos h

theorem ofOperand?_of_isOperandWord (ctx : Context) {w : Text} (h : Token.isOperandWord w) :
    ofOperand? ctx w = ofWord? ctx w := by
  rw [ofOperand?, Token.isConnector_of_isOperandWord h, if_neg Bool.false_ne_true]

theorem exists_criterion_of_ofOperand? {ctx : Context} {w : Text} {x : Term}
    (h : Token.isOperandWord w) (hx : ofOperand? ctx w = some x) :
    ∃ c, Criterion.ofToken? ctx (Token.operand ⟨0, 0, w⟩) = some c ∧
      x = ⟨c, Token.isNegated w⟩ := by
  rw [ofOperand?_of_isOperandWord ctx h, ofWord?_eq, Option.map_eq_some_iff] at hx
  obtain ⟨c, hc, rfl⟩ := hx
  exact ⟨c, hc, rfl⟩

theorem exists_ofOperand? {w : Text} (h : Token.isOperandWord w) :
    ∃ x, ∀ ctx, ofOperand? ctx w = some x := by
  obtain ⟨x, hx⟩ := exists_ofWord? h
  exact ⟨x, fun ctx => (ofOperand?_of_isOperandWord ctx h).trans (hx ctx)⟩

end Term

namespace Reading

open Token (ofWord operand)

def blocks (ctx : Context) (ws : List Text) : List (List Term) :=
  (ws.splitOn Operator.or.word).map (·.filterMap (Term.ofOperand? ctx))

theorem blocks_nil (ctx : Context) : blocks ctx [] = [[]] := rfl

theorem blocks_append_or (ctx : Context) (us vs : List Text) :
    blocks ctx (us ++ Operator.or.word :: vs) = blocks ctx us ++ blocks ctx vs := by
  rw [blocks, List.splitOn_append_cons_self, List.map_append]
  rfl

theorem blocks_or_cons (ctx : Context) (ws : List Text) :
    blocks ctx (Operator.or.word :: ws) = [] :: blocks ctx ws := blocks_append_or ctx [] ws

theorem blocks_cons (ctx : Context) {w : Text} (hw : w ≠ Operator.or.word) (ws : List Text) :
    blocks ctx (w :: ws) =
      (blocks ctx ws).modifyHead ((Term.ofOperand? ctx w).toList ++ ·) := by
  rw [blocks, List.splitOn_cons_eq_if_modifyHead, beq_eq_false_iff_ne.mpr hw,
    if_neg Bool.false_ne_true, blocks]
  cases ws.splitOn Operator.or.word with
  | nil => rfl
  | cons g gs =>
    rw [List.modifyHead_cons, List.map_cons, List.map_cons, List.modifyHead_cons,
      List.filterMap_cons]
    cases Term.ofOperand? ctx w <;> rfl

/-- A conjunction closes no group. -/
theorem blocks_connector_cons (ctx : Context) {c : Text} (hc : isConnector c)
    (hor : c ≠ Operator.or.word) (ws : List Text) : blocks ctx (c :: ws) = blocks ctx ws := by
  rw [blocks_cons ctx hor, Term.ofOperand?_of_isConnector ctx hc]
  cases blocks ctx ws with
  | nil => rfl
  | cons g gs => rfl

/-- The last group of the words in front is read on. -/
theorem exists_blocks_append (ctx : Context) (us : List Text) :
    ∃ front left, blocks ctx us = front ++ [left] ∧
      ∀ vs, blocks ctx (us ++ vs) = front ++ (blocks ctx vs).modifyHead (left ++ ·) := by
  induction us with
  | nil =>
    refine ⟨[], [], rfl, fun vs => ?_⟩
    cases h : blocks ctx vs <;> simp [h]
  | cons u us ih =>
    obtain ⟨front, left, hfront, hrest⟩ := ih
    by_cases hu : u = Operator.or.word
    · subst hu
      refine ⟨[] :: front, left, by rw [blocks_or_cons, hfront, List.cons_append], fun vs => ?_⟩
      rw [List.cons_append, blocks_or_cons, hrest, List.cons_append]
    · cases front with
      | nil =>
        refine ⟨[], (Term.ofOperand? ctx u).toList ++ left, ?_, fun vs => ?_⟩
        · rw [blocks_cons ctx hu, hfront]
          rfl
        · rw [List.cons_append, blocks_cons ctx hu, hrest]
          cases blocks ctx vs <;> simp
      | cons g front =>
        refine ⟨((Term.ofOperand? ctx u).toList ++ g) :: front, left, ?_, fun vs => ?_⟩
        · rw [blocks_cons ctx hu, hfront]
          rfl
        · rw [List.cons_append, blocks_cons ctx hu, hrest]
          rfl

/-- The last group of the words in front and the first group of the words behind are one. -/
theorem blocks_append (ctx : Context) {us vs : List Text} {front back : List (List Term)}
    {left right : List Term} (hu : blocks ctx us = front ++ [left])
    (hv : blocks ctx vs = right :: back) :
    blocks ctx (us ++ vs) = front ++ (left ++ right) :: back := by
  obtain ⟨front', left', hfront, hrest⟩ := exists_blocks_append ctx us
  obtain ⟨rfl, hleft⟩ := List.append_inj' (hu.symm.trans hfront) rfl
  cases hleft
  rw [hrest, hv, List.modifyHead_cons]

/-- Connectives and operands have the same groups in every context. -/
theorem exists_blocks {ws : List Text} (h : ∀ w ∈ ws, isConnector w ∨ Token.isOperandWord w) :
    ∃ first others, ∀ ctx, blocks ctx ws = first :: others := by
  induction ws with
  | nil => exact ⟨[], [], blocks_nil⟩
  | cons w ws ih =>
    rw [List.forall_mem_cons] at h
    obtain ⟨first, others, hrest⟩ := ih h.2
    by_cases hw : w = Operator.or.word
    · subst hw
      exact ⟨[], first :: others, fun ctx => by rw [blocks_or_cons, hrest]⟩
    · have hterm : ∃ x, ∀ ctx, Term.ofOperand? ctx w = x := by
        rcases h.1 with hconnector | hoperand
        · exact ⟨none, fun ctx => Term.ofOperand?_of_isConnector ctx hconnector⟩
        · obtain ⟨x, hx⟩ := Term.exists_ofOperand? hoperand
          exact ⟨some x, hx⟩
      obtain ⟨x, hx⟩ := hterm
      refine ⟨x.toList ++ first, others, fun ctx => ?_⟩
      rw [blocks_cons ctx hw, hrest, hx, List.modifyHead_cons]

theorem exists_blocks_concat {ws : List Text}
    (h : ∀ w ∈ ws, isConnector w ∨ Token.isOperandWord w) :
    ∃ front last, ∀ ctx, blocks ctx ws = front ++ [last] := by
  obtain ⟨first, others, hblocks⟩ := exists_blocks h
  refine ⟨(first :: others).dropLast, (first :: others).getLast (List.cons_ne_nil _ _),
    fun ctx => ?_⟩
  rw [List.dropLast_append_getLast]
  exact hblocks ctx

theorem groupsFrom_map_bare (ctx : Context) (negated : Bool) (sofar : List Term)
    (tokens : List Token) :
    pure.groupsFrom ctx negated sofar (tokens.map Token.bare) =
      pure.groupsFrom ctx negated sofar tokens := by
  induction tokens generalizing negated sofar with
  | nil => rfl
  | cons t rest ih =>
    rw [List.map_cons, groupsFrom, groupsFrom]
    simp only [ih]
    rfl

/-- Reading a word closes the group so far, or adds the term of the word to it. -/
theorem groupsFrom_ofWord (ctx : Context) (sofar : List Term) (w : Text) (rest : List Token) :
    pure.groupsFrom ctx false sofar (ofWord w ++ rest) =
      if w = Operator.or.word then sofar :: pure.groupsFrom ctx false [] rest
      else pure.groupsFrom ctx false (sofar ++ (Term.ofOperand? ctx w).toList) rest := by
  by_cases hw : isConnector w
  · rw [Token.ofWord_of_isConnector hw, List.singleton_append, groupsFrom, Term.ofOperand?,
      if_pos hw]
    by_cases hor : w = Operator.or.word
    · simp [Token.isOr, hor]
    · simp [Token.isOr, hor]
      rfl
  · have hor : w ≠ Operator.or.word := by
      rintro rfl
      exact hw rfl
    have hterm : pure.isTerm (operand ⟨0, 0, w⟩).bare := by
      have hnegation := Token.operand_kind_ne_negation ⟨0, 0, w⟩
      have hconnector := mt (Token.operand_kind_eq_connector_iff ⟨0, 0, w⟩).mp hw
      have hkind : (operand ⟨0, 0, w⟩).bare.kind = (operand ⟨0, 0, w⟩).kind := rfl
      rw [pure_isTerm, hkind, bne_iff_ne.mpr hnegation, bne_iff_ne.mpr hconnector]
      rfl
    have hcut : pure.isCut (operand ⟨0, 0, w⟩).bare = false := by
      cases hc : pure.isCut (operand ⟨0, 0, w⟩).bare with
      | false => rfl
      | true =>
        rw [pure.term_of_cut _ hc] at hterm
        cases hterm
    have hword : Term.ofOperand? ctx w =
        (Criterion.ofToken? ctx (operand ⟨0, 0, w⟩)).map (Term.mk · (Token.isNegated w)) := by
      rw [Term.ofOperand?, if_neg hw, Term.ofWord?_eq]
    have hstep : ∀ negated, pure.groupsFrom ctx negated sofar ((operand ⟨0, 0, w⟩).bare :: rest) =
        pure.groupsFrom ctx false (sofar ++ ((Criterion.ofToken? ctx (operand ⟨0, 0, w⟩)).map
          (Term.mk · negated)).toList) rest := by
      intro negated
      rw [groupsFrom, hcut, if_neg Bool.false_ne_true, if_pos hterm, Token.ofToken?_bare]
      cases Criterion.ofToken? ctx (operand ⟨0, 0, w⟩) with
      | none => simp
      | some c => rfl
    rw [if_neg hor, hword, Token.ofWord_eq]
    cases Token.isNegated w with
    | true => exact hstep true
    | false => exact hstep false

theorem groupsFrom_flatMap_ofWord (ctx : Context) (sofar : List Term) (ws : List Text) :
    pure.groupsFrom ctx false sofar (ws.flatMap ofWord) =
      (blocks ctx ws).modifyHead (sofar ++ ·) := by
  induction ws generalizing sofar with
  | nil => simp [groupsFrom, blocks_nil]
  | cons w ws ih =>
    rw [List.flatMap_cons, groupsFrom_ofWord]
    by_cases hw : w = Operator.or.word
    · subst hw
      rw [if_pos rfl, ih, blocks_or_cons]
      cases blocks ctx ws <;> simp
    · rw [if_neg hw, ih, blocks_cons ctx hw]
      cases blocks ctx ws <;> simp

theorem groupsFrom_ofWords (ctx : Context) (ws : List Text) :
    pure.groupsFrom ctx false [] (ws.flatMap ofWord) = blocks ctx ws := by
  rw [groupsFrom_flatMap_ofWord]
  cases blocks ctx ws <;> rfl

/-- No group of the words of a pure query is empty. -/
theorem ne_nil_of_mem_blocks {ctx : Context} {ws : List Text}
    (h : QueryMode.isPureWords true ws) {g : List Term} (hg : g ∈ blocks ctx ws) : g ≠ [] := by
  rw [← groupsFrom_ofWords] at hg
  exact Node.groupsFrom_ne_nil ctx true false [] _ h nofun g hg

/-- The groups of a query that is read as pure are the blocks of its words. -/
theorem groups_tokenize (ctx : Context) (raw : Text) :
    pure.groups ctx (Token.tokenize raw) = blocks ctx (Segment.words raw) := by
  rw [groups, ← groupsFrom_map_bare, Token.map_bare_tokenize, groupsFrom_ofWords]

def Meets (groups : List (List Term)) (n : Note) : Prop :=
  ∃ g ∈ groups, ∀ x ∈ g, (Node.term x).holds n = .ok true

end Reading

namespace Query

/-- A pure query with these groups: it decides on every note, and matches where one group
holds. -/
structure IsPureOf (q : Query) (groups : List (List Term)) : Prop where
  mode : q.mode = .pure
  decides : ∀ n, q.root.Decides n
  holds_iff : ∀ n, q.root.holds n = .ok true ↔ Reading.Meets groups n

/-- Connectives and operands are parsed whatever the clock reads. -/
theorem parseAt_of_operands {raw : Text}
    (h : ∀ w ∈ Segment.words raw, isConnector w ∨ Token.isOperandWord w)
    (conventions : Conventions) (now : Moment) :
    parseAt conventions now raw = .ok (parse ⟨.first, conventions⟩ raw) := by
  refine parseAt_of_not_asksTime conventions now ?_
  rw [Token.any_asksTime_tokenize, List.any_eq_false]
  intro w hw
  rw [Token.not_wordAsksTime (h w hw)]
  exact Bool.false_ne_true

/-- Pure words have the groups of their blocks. -/
theorem exists_parseAt_of_isPureWords {raw : Text} {groups : List (List Term)}
    (hpure : QueryMode.isPureWords true (Segment.words raw))
    (hgroups : ∀ ctx, Reading.blocks ctx (Segment.words raw) = groups) (conventions : Conventions)
    (now : Moment) : ∃ q, parseAt conventions now raw = .ok q ∧ q.IsPureOf groups := by
  have hmode := (QueryMode.ofTokens_tokenize_eq_pure_iff raw).mpr hpure
  have hsorts := ((QueryMode.isPureWords_iff _).mp hpure).2.1
  refine ⟨_, parseAt_of_operands hsorts conventions now, hmode, fun n => ?_, fun n => ?_⟩
  · exact (Node.holds_pure_iff _ hmode n).1
  · rw [← hgroups ⟨.first, conventions⟩, ← Reading.groups_tokenize]
    exact (Node.holds_pure_iff _ hmode n).2

end Query

end NoteQuery
