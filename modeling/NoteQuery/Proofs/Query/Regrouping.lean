import NoteQuery.Proofs.Query.Removing

/-!
# The groups after a removal

A pure query is a disjunction of groups of terms. Where a term is removed that is the first one
of a group but not of the query, the disjunction in front of it goes with it, so that the rest
of its group is joined to the group before. Everywhere else the term is deleted from its group.
-/
namespace NoteQuery

open Token (isConnector isOperandWord tokenize)

namespace Reading

/-- A term in the groups of a pure query, with what stands around it. -/
structure Site where
  before : List (List Term)
  left : List Term
  term : Term
  right : List Term
  after : List (List Term)

namespace Site

def groups (p : Site) : List (List Term) := p.before ++ (p.left ++ p.term :: p.right) :: p.after

/-- The groups without the term, and without its group if no other term is in it. -/
def deleted (p : Site) : List (List Term) :=
  p.before ++ (if (p.left ++ p.right).isEmpty then [] else [p.left ++ p.right]) ++ p.after

/-- The groups without the term, what stands behind it being put to the group before. -/
def joined (p : Site) : List (List Term) :=
  p.before.dropLast ++ (p.before.getLast?.getD [] ++ p.right) :: p.after

def opensGroup (p : Site) : Bool := !p.before.isEmpty && p.left.isEmpty

def remaining (p : Site) : List (List Term) := if p.opensGroup then p.joined else p.deleted

theorem remaining_of_left_ne_nil {p : Site} (h : p.left ≠ []) :
    p.remaining = p.before ++ (p.left ++ p.right) :: p.after := by
  simp [remaining, opensGroup, deleted, h]

theorem remaining_of_before_eq_nil {p : Site} (hbefore : p.before = []) (hleft : p.left = []) :
    p.remaining = (if p.right.isEmpty then [] else [p.right]) ++ p.after := by
  simp [remaining, opensGroup, deleted, hbefore, hleft]

theorem remaining_of_opensGroup {p : Site} {front : List (List Term)} {last : List Term}
    (hbefore : p.before = front ++ [last]) (hleft : p.left = []) :
    p.remaining = front ++ (last ++ p.right) :: p.after := by
  simp [remaining, opensGroup, joined, hbefore, hleft]

/-- Joining is deleting exactly where nothing is left to be joined. -/
theorem remaining_eq_deleted_iff (p : Site) :
    p.remaining = p.deleted ↔ ¬(p.opensGroup ∧ p.right ≠ []) := by
  obtain ⟨before, left, term, right, after⟩ := p
  rcases List.eq_nil_or_concat before with rfl | ⟨front, g, rfl⟩
  · simp [remaining, opensGroup]
  · cases left with
    | cons x left => simp [remaining, opensGroup]
    | nil =>
      cases right with
      | nil => simp [remaining, opensGroup, joined, deleted]
      | cons x right =>
        have hlength : ∀ l l' : List (List Term), l.length ≠ l'.length → l ≠ l' :=
          fun l l' hne heq => hne (by rw [heq])
        have hne := hlength (joined ⟨front ++ [g], [], term, x :: right, after⟩)
          (deleted ⟨front ++ [g], [], term, x :: right, after⟩)
          (by simp [joined, deleted])
        simpa [remaining, opensGroup] using hne

end Site

theorem last_ne_nil_of_blocks {ctx : Context} {us : List Text} {before : List (List Term)}
    {left : List Term} (h : QueryMode.isPureWords true us)
    (hus : blocks ctx us = before ++ [left]) : left ≠ [] := by
  have hmem : left ∈ blocks ctx us := by
    rw [hus]
    exact List.mem_concat_self
  exact ne_nil_of_mem_blocks h hmem

/-- An operand of a pure query has a place in its groups, whatever the context. -/
theorem exists_site {front back : List Text} {w : Text}
    (h : ∀ v ∈ front ++ w :: back, isConnector v ∨ isOperandWord v) (hw : isOperandWord w) :
    ∃ p : Site, ∀ ctx, Term.ofOperand? ctx w = some p.term ∧
      blocks ctx front = p.before ++ [p.left] ∧ blocks ctx back = p.right :: p.after := by
  rw [List.forall_mem_append, List.forall_mem_cons] at h
  obtain ⟨before, left, hfront⟩ := exists_blocks_concat h.1
  obtain ⟨right, after, hback⟩ := exists_blocks h.2.2
  obtain ⟨x, hx⟩ := Term.exists_ofOperand? hw
  exact ⟨⟨before, left, x, right, after⟩, fun ctx => ⟨hx ctx, hfront ctx, hback ctx⟩⟩

theorem blocks_of_site {ctx : Context} {front back : List Text} {w : Text} {p : Site}
    (hw : isOperandWord w) (hterm : Term.ofOperand? ctx w = some p.term)
    (hfront : blocks ctx front = p.before ++ [p.left])
    (hback : blocks ctx back = p.right :: p.after) :
    blocks ctx (front ++ w :: back) = p.groups := by
  have hor : w ≠ Operator.or.word := by
    rintro rfl
    cases hw
  refine blocks_append ctx hfront ?_
  rw [blocks_cons ctx hor, hback, hterm]
  rfl

end Reading

namespace Edit

open Reading (Site blocks)

/-! ## Pure words lose no connective -/

theorem mergeConnectors_of_isMerged {behind : Bool} {ws : List Text} (h : Checked.IsMerged ws)
    (hbehind : behind → ∀ w ∈ ws.head?, isConnector w = false) :
    mergeConnectors behind ws = ws := by
  induction ws generalizing behind with
  | nil => rfl
  | cons w ws ih =>
    have hkeep : (behind && isConnector w) = false := by
      cases behind with
      | false => rfl
      | true => rw [hbehind rfl w rfl, Bool.and_false]
    have hrest := List.isChain_cons.mp h
    have hhead : isConnector w → ∀ v ∈ ws.head?, isConnector v = false :=
      fun hw v hv => Bool.eq_false_iff.mpr fun hconnector => hrest.1 v hv ⟨hw, hconnector⟩
    rw [mergeConnectors, hkeep, if_neg Bool.false_ne_true, ih hrest.2 hhead]

theorem pruneConnectors_of_isPureWords {ws : List Text} (h : QueryMode.isPureWords true ws) :
    pruneConnectors ws = ws := by
  obtain ⟨hne, -, hfirst, hlast, hmerged⟩ := (QueryMode.isPureWords_iff ws).mp h
  obtain ⟨w, rest, rfl⟩ := List.exists_cons_of_ne_nil hne
  have hw : ¬isConnector w := Bool.eq_false_iff.mp (hfirst w rfl)
  have hkept : mergeConnectors false (w :: rest) = w :: rest :=
    mergeConnectors_of_isMerged hmerged fun hbehind => absurd hbehind Bool.false_ne_true
  rw [pruneConnectors, List.dropWhile_cons_of_neg hw, hkept]
  rcases List.eq_nil_or_concat (w :: rest) with hnil | ⟨front, v, hv⟩
  · cases hnil
  · rw [hv, List.concat_eq_append] at hlast ⊢
    exact dropLastConnector_concat front (hlast v (by simp))

/-! ## What a removal leaves of the groups -/

variable {ctx : Context} {front back : List Text} {w : Text} {p : Site}

/-- Behind a first operand the connective in front of the rest is dropped. -/
theorem blocks_rejoin_first (hpure : QueryMode.isPureWords false back) (hne : back ≠ [])
    (hbefore : p.before = []) (hleft : p.left = [])
    (hback : blocks ctx back = p.right :: p.after) :
    QueryMode.isPureWords true (rejoin true [] back) ∧
      blocks ctx (rejoin true [] back) = p.remaining := by
  obtain ⟨v, rest, rfl⟩ := List.exists_cons_of_ne_nil hne
  rw [QueryMode.isPureWords_cons] at hpure
  rw [Site.remaining_of_before_eq_nil hbefore hleft, rejoin, if_pos rfl]
  show QueryMode.isPureWords true (pruneConnectors (v :: rest)) ∧
    blocks ctx (pruneConnectors (v :: rest)) = _
  by_cases hv : isConnector v
  · rw [if_pos hv, Bool.not_false, Bool.true_and] at hpure
    have hprune : pruneConnectors (v :: rest) = rest := by
      rw [pruneConnectors, List.dropWhile_cons_of_pos hv]
      exact pruneConnectors_of_isPureWords hpure
    rw [hprune]
    refine ⟨hpure, ?_⟩
    -- Behind a disjunction the operand was alone in its group, behind a conjunction it was not.
    by_cases hor : v = Operator.or.word
    · rw [hor, Reading.blocks_or_cons, List.cons.injEq] at hback
      rw [← hback.1, hback.2]
      rfl
    · rw [Reading.blocks_connector_cons ctx hv hor] at hback
      have hright : p.right ≠ [] :=
        Reading.ne_nil_of_mem_blocks hpure (hback ▸ List.mem_cons_self)
      rw [hback]
      simp [hright]
  · rw [if_neg hv] at hpure
    have hwhole : QueryMode.isPureWords true (v :: rest) := by
      rw [QueryMode.isPureWords_cons, if_neg hv]
      exact hpure
    have hright : p.right ≠ [] :=
      Reading.ne_nil_of_mem_blocks hwhole (hback ▸ List.mem_cons_self)
    rw [pruneConnectors_of_isPureWords hwhole, hback]
    simp [hwhole, hright]

/-- Nothing is pruned where what is kept of the words in front is pure. -/
theorem rejoin_of_isPureWords {us : List Text} (hdrop : dropLastConnector front = us)
    (hus : QueryMode.isPureWords true us) (hback : QueryMode.isPureWords false back) :
    QueryMode.isPureWords true (rejoin true front back) ∧ rejoin true front back = us ++ back := by
  have hboth := QueryMode.isPureWords_append hus hback
  have hrejoin : rejoin true front back = us ++ back := by
    rw [rejoin, if_pos rfl, hdrop, pruneConnectors_of_isPureWords hboth]
  exact ⟨hrejoin ▸ hboth, hrejoin⟩

/-- Behind another operand the operand is deleted from its group. -/
theorem blocks_rejoin_behind_operand {us : List Text} {u : Text} (hu : isConnector u = false)
    (hpure : QueryMode.isPureWords true (us ++ u :: w :: back)) (hw : isOperandWord w)
    (hfront : blocks ctx (us ++ [u]) = p.before ++ [p.left])
    (hback : blocks ctx back = p.right :: p.after) :
    QueryMode.isPureWords true (rejoin true (us ++ [u]) back) ∧
      blocks ctx (rejoin true (us ++ [u]) back) = p.remaining := by
  rw [QueryMode.isPureWords_append_operand true us hu, QueryMode.isPureWords_operand_cons hw,
    Bool.and_eq_true] at hpure
  obtain ⟨hkept, hrejoin⟩ :=
    rejoin_of_isPureWords (dropLastConnector_concat us hu) hpure.1 hpure.2
  have hleft : p.left ≠ [] := Reading.last_ne_nil_of_blocks hpure.1 hfront
  refine ⟨hkept, ?_⟩
  rw [hrejoin, Reading.blocks_append ctx hfront hback, Site.remaining_of_left_ne_nil hleft]

/-- Behind a connective that goes with it the operand leaves the words behind it to the group
in front of the connective. -/
theorem blocks_rejoin_behind_connector {us : List Text} {c : Text} (hc : isConnector c)
    (hpure : QueryMode.isPureWords true (us ++ c :: w :: back)) (hw : isOperandWord w)
    (hfront : blocks ctx (us ++ [c]) = p.before ++ [p.left])
    (hback : blocks ctx back = p.right :: p.after) :
    QueryMode.isPureWords true (rejoin true (us ++ [c]) back) ∧
      blocks ctx (rejoin true (us ++ [c]) back) = p.remaining := by
  rw [QueryMode.isPureWords_append_connector true us hc, QueryMode.isPureWords_operand_cons hw,
    Bool.and_eq_true] at hpure
  have hdrop : dropLastConnector (us ++ [c]) = us := by
    rw [dropLastConnector, List.getLast?_concat]
    simp [hc]
  obtain ⟨hkept, hrejoin⟩ := rejoin_of_isPureWords hdrop hpure.1 hpure.2
  obtain ⟨before, left, hus, -⟩ := Reading.exists_blocks_append ctx us
  refine ⟨hkept, ?_⟩
  rw [hrejoin, Reading.blocks_append ctx hus hback]
  -- Only a disjunction has closed a group, which its removal opens again.
  by_cases hor : c = Operator.or.word
  · rw [hor, Reading.blocks_append_or, Reading.blocks_nil] at hfront
    obtain ⟨hbefore, hempty⟩ := List.append_inj' hfront rfl
    rw [Site.remaining_of_opensGroup (hbefore.symm.trans hus) (List.cons.inj hempty).1.symm]
  · have hand : blocks ctx [c] = [[]] := Reading.blocks_connector_cons ctx hc hor []
    rw [Reading.blocks_append ctx hus hand, List.append_nil] at hfront
    obtain ⟨rfl, hsame⟩ := List.append_inj' hfront rfl
    have hleft : p.left ≠ [] := by
      rw [← (List.cons.inj hsame).1]
      exact Reading.last_ne_nil_of_blocks hpure.1 hus
    rw [Site.remaining_of_left_ne_nil hleft, (List.cons.inj hsame).1]

/-- The words that a removal leaves of a pure query are pure, and their groups those that
remain. -/
theorem blocks_rejoin (hpure : QueryMode.isPureWords true (front ++ w :: back))
    (hw : isOperandWord w) (hothers : front ++ back ≠ [])
    (hfront : blocks ctx front = p.before ++ [p.left])
    (hback : blocks ctx back = p.right :: p.after) :
    QueryMode.isPureWords true (rejoin true front back) ∧
      blocks ctx (rejoin true front back) = p.remaining := by
  rcases List.eq_nil_or_concat front with rfl | ⟨us, u, rfl⟩
  · rw [List.nil_append, QueryMode.isPureWords_operand_cons hw] at hpure
    have hempty : ([] : List (List Term)) ++ [[]] = p.before ++ [p.left] := hfront
    obtain ⟨hbefore, hleft⟩ := List.append_inj' hempty rfl
    exact blocks_rejoin_first hpure hothers hbefore.symm (List.cons.inj hleft).1.symm hback
  · rw [List.concat_eq_append] at *
    rw [List.append_assoc, List.singleton_append] at hpure
    by_cases hu : isConnector u
    · exact blocks_rejoin_behind_connector hu hpure hw hfront hback
    · exact blocks_rejoin_behind_operand (Bool.eq_false_iff.mpr hu) hpure hw hfront hback

namespace Change

/-- A removal from a pure query that has another operand deletes the first target from its
group, the group going with it if it is empty, unless the target opens a group behind a
disjunction and is not alone in it. There the rest of the group is joined to the group before.
The groups are those of the trimmed text, which has the groups of the text itself if it is
complete. -/
theorem removed_regroups (change : Change) (raw : Text) (operator : Operator)
    (hpure : QueryMode.ofTokens (tokenize raw) = .pure)
    (h : (change.update raw operator).action = .removed)
    (hothers : 1 < (tokenize raw).countP (·.kind.isOperand)) :
    ∃ front w back, ∃ p : Site,
      Segment.words (Text.trim raw) = front ++ w :: back ∧
      (∀ v ∈ front, change.isTarget v = false) ∧ change.isTarget w ∧
      (∀ ctx,
        Term.ofOperand? ctx w = some p.term ∧
        blocks ctx front = p.before ++ [p.left] ∧ blocks ctx back = p.right :: p.after ∧
        Reading.pure.groups ctx (tokenize (Text.trim raw)) = p.groups ∧
        (Text.isComplete (Text.trim raw) → Reading.pure.groups ctx (tokenize raw) = p.groups) ∧
        Reading.pure.groups ctx (tokenize (change.update raw operator).query) = p.remaining) ∧
      (p.remaining = p.deleted ↔ ¬(p.opensGroup ∧ p.right ≠ [])) ∧
      ∀ conventions now,
        ∃ q, Query.parseAt conventions now (change.update raw operator).query = .ok q ∧
          q.IsPureOf p.remaining := by
  obtain ⟨front, w, back, hwords, htargets, htarget, hnew, -⟩ := words_update_of_removed h
  have hw := isOperandWord_of_isTarget htarget
  have hwhole : QueryMode.isPureWords true (front ++ w :: back) := by
    rw [← hwords, ← QueryMode.ofTokens_tokenize_eq_pure_iff, QueryMode.ofTokens_tokenize_trim]
    exact hpure
  have hsorts := ((QueryMode.isPureWords_iff _).mp hwhole).2.1
  have hexpression : isExpression (Text.trim raw) := by
    rw [isExpression_iff, hwords]
    exact hsorts
  have hne : front ++ back ≠ [] := by
    intro hnil
    rw [Token.countP_isOperand_tokenize,
      Token.countP_isOperandWord_eq (Text.forall₂_words_trim raw), hwords,
      (List.append_eq_nil_iff.mp hnil).1, (List.append_eq_nil_iff.mp hnil).2, List.nil_append,
      List.countP_singleton, if_pos hw] at hothers
    exact absurd hothers (Nat.lt_irrefl 1)
  obtain ⟨p, hp⟩ := Reading.exists_site hsorts hw
  rw [hexpression] at hnew
  have hleft : ∀ ctx, QueryMode.isPureWords true (rejoin true front back) ∧
      blocks ctx (rejoin true front back) = p.remaining :=
    fun ctx => blocks_rejoin hwhole hw hne (hp ctx).2.1 (hp ctx).2.2
  refine ⟨front, w, back, p, hwords, htargets, htarget, fun ctx => ?_,
    p.remaining_eq_deleted_iff, fun conventions now => ?_⟩
  · obtain ⟨hterm, hfront, hback⟩ := hp ctx
    have hgroups := Reading.blocks_of_site hw hterm hfront hback
    refine ⟨hterm, hfront, hback, ?_, fun hcomplete => ?_, ?_⟩
    · rw [Reading.groups_tokenize, hwords, hgroups]
    · rw [Reading.groups_tokenize, Text.words_trim hcomplete, hwords, hgroups]
    · rw [Reading.groups_tokenize, hnew, (hleft ctx).2]
  · refine Query.exists_parseAt_of_isPureWords ?_ (fun ctx => ?_) conventions now
    · rw [hnew]
      exact (hleft ⟨.first, conventions⟩).1
    · rw [hnew, (hleft ctx).2]

theorem removed_regroups_property :
    QueryMode.ofTokens (tokenize "#a .k=v OR -#b .K=v".toList) = .pure ∧
      ((property " K".toList "v".toList).update "#a .k=v OR -#b .K=v".toList .or).action =
        .removed ∧
      1 < (tokenize "#a .k=v OR -#b .K=v".toList).countP (·.kind.isOperand) ∧
      ∃ p : Site,
        (∀ ctx, Reading.pure.groups ctx (tokenize "#a .k=v OR -#b .K=v".toList) = p.groups) ∧
        ∀ conventions now, ∃ q, Query.parseAt conventions now
            ((property " K".toList "v".toList).update "#a .k=v OR -#b .K=v".toList .or).query =
            .ok q ∧ q.IsPureOf p.remaining := by
  have hpure : QueryMode.ofTokens (tokenize "#a .k=v OR -#b .K=v".toList) = .pure := by decide
  have hremoved : ((property " K".toList "v".toList).update
      "#a .k=v OR -#b .K=v".toList .or).action = .removed := by decide
  have hothers : 1 < (tokenize "#a .k=v OR -#b .K=v".toList).countP (·.kind.isOperand) := by
    decide
  obtain ⟨front, w, back, p, -, -, -, hp, -, hq⟩ :=
    removed_regroups (property " K".toList "v".toList) _ .or hpure hremoved hothers
  refine ⟨hpure, hremoved, hothers, p, fun ctx => ?_, hq⟩
  obtain ⟨-, -, -, -, hgroups, -⟩ := hp ctx
  exact hgroups (by decide)

/-- Of `#a OR #b #c` without `#b` the groups `#a` and `#c` would remain, which a note with the
tag `a` meets; but the query that remains is `#a #c`. -/
theorem removed_joins_groups :
    QueryMode.ofTokens (tokenize "#a OR #b #c".toList) = .pure ∧
      ((tag "b".toList).update "#a OR #b #c".toList .and).action = .removed ∧
      ((tag "b".toList).update "#a OR #b #c".toList .and).query = "#a #c".toList ∧
      ∃ p : Site, ∃ n : Note,
        (∀ ctx, Reading.pure.groups ctx (tokenize "#a OR #b #c".toList) = p.groups) ∧
        p.term = ⟨.tag (some "b".toList), false⟩ ∧ Reading.Meets p.deleted n ∧
        ∀ conventions now, ∃ q, Query.parseAt conventions now
            ((tag "b".toList).update "#a OR #b #c".toList .and).query = .ok q ∧
          q.root.holds n = .ok false := by
  have hquery : ((tag "b".toList).update "#a OR #b #c".toList .and).query = "#a #c".toList := by
    decide
  have hask : (tokenize "#a #c".toList).any Token.asksTime = false := by decide
  refine ⟨by decide, by decide, hquery,
    ⟨[[⟨.tag (some ['a']), false⟩]], [], ⟨.tag (some ['b']), false⟩,
      [⟨.tag (some ['c']), false⟩], []⟩,
    { path := [], tags := [['a']] }, fun ctx => rfl, rfl,
    ⟨[⟨.tag (some ['a']), false⟩], List.mem_cons_self, fun x hx => ?_⟩,
    fun conventions now => ?_⟩
  · rw [List.mem_singleton.mp hx]
    rfl
  · rw [hquery]
    exact ⟨_, Query.parseAt_of_not_asksTime conventions now hask, rfl⟩

end Change

end Edit

end NoteQuery
