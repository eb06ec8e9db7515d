import Mathlib.Order.Bounds.Defs
import NoteQuery.Proofs.Query.TrailingBlanks

/-!
# Dividing a text

A text is divided at the first place where the dividing character is neither escaped nor between
quotes, and which places these are can be told from the characters in front of each of them.
Nothing is said of a quote or a backslash as the dividing character: neither ever divides.
-/
namespace NoteQuery

/-- The dividing character stands at a place, neither escaped nor between quotes. Backslashes are
paired from the left with what stands behind them, as `Text.isEscapedAt_succ` says. -/
def Text.Divides (sep : Char) (s : Text) (i : Nat) : Prop :=
  s[i]? = some sep ∧ s.isEscapedAt i = false ∧ s.quotesBefore i % 2 = 0

instance (sep : Char) (s : Text) (i : Nat) : Decidable (s.Divides sep i) :=
  inferInstanceAs (Decidable (_ ∧ _))

namespace Quote

/-- Reading a text from the left has come to a place that is not escaped, with `rest` still to be
read. -/
structure IsAt (s : Text) (i : Nat) (quoted : Bool) (rest : Text) : Prop where
  drop_eq : s.drop i = rest
  unescaped : s.isEscapedAt i = false
  quoted_eq : (s.quotesBefore i % 2 == 1) = quoted

variable {sep c : Char} {s rest : Text} {i : Nat} {quoted : Bool}

theorem isAt_start (s : Text) : IsAt s 0 false s := ⟨rfl, rfl, rfl⟩

namespace IsAt

theorem getElem?_add (h : IsAt s i quoted rest) (j : Nat) : s[i + j]? = rest[j]? := by
  rw [← h.drop_eq, List.getElem?_drop]

theorem getElem? (h : IsAt s i quoted (c :: rest)) : s[i]? = some c := h.getElem?_add 0

theorem divides_iff (h : IsAt s i quoted (c :: rest)) :
    s.Divides sep i ↔ c = sep ∧ quoted = false := by
  have hquoted := h.quoted_eq
  rw [Text.Divides, h.getElem?, Option.some.injEq]
  constructor
  · rintro ⟨hc, -, heven⟩
    refine ⟨hc, ?_⟩
    rw [← hquoted, heven]
    rfl
  · rintro ⟨hc, rfl⟩
    rw [beq_eq_false_iff_ne] at hquoted
    exact ⟨hc, h.unescaped, by omega⟩

/-- A plain character leads to the next place, and a quote changes sides. -/
theorem char (h : IsAt s i quoted (c :: rest)) (hc : c ≠ '\\') :
    IsAt s (i + 1) (quoted != (c == '"')) rest := by
  have hslash : (c == '\\') = false := beq_eq_false_iff_ne.mpr hc
  constructor
  · rw [← List.drop_drop, h.drop_eq, List.drop_one, List.tail_cons]
  · rw [Text.isEscapedAt_succ h.getElem?, hslash, Bool.false_and]
  · rw [Text.quotesBefore_succ h.getElem?, h.unescaped, Bool.not_false, Bool.and_true,
      ← h.quoted_eq]
    generalize s.quotesBefore i = n
    rcases Nat.mod_two_eq_zero_or_one n with hn | hn
    · cases c == '"' <;> simp [Nat.add_mod, hn]
    · cases c == '"' <;> simp [Nat.add_mod, hn]

/-- Behind a backslash stands a character that is escaped, whatever it is, -/
theorem isEscapedAt_succ (h : IsAt s i quoted ('\\' :: rest)) : s.isEscapedAt (i + 1) = true := by
  rw [Text.isEscapedAt_succ h.getElem?, h.unescaped]
  rfl

/-- and reading goes on behind the two of them. -/
theorem pair (h : IsAt s i quoted ('\\' :: c :: rest)) : IsAt s (i + 2) quoted rest := by
  have hnext : s[i + 1]? = some c := h.getElem?_add 1
  constructor
  · rw [← List.drop_drop, h.drop_eq]
    rfl
  · rw [Text.isEscapedAt_succ hnext, h.isEscapedAt_succ, Bool.not_true, Bool.and_false]
  · rw [Text.quotesBefore_succ hnext, h.isEscapedAt_succ, Bool.not_true, Bool.and_false,
      Text.quotesBefore_succ h.getElem?, ← h.quoted_eq]
    rfl

end IsAt

/-- What is found from a place on: the parts around the first place that divides, or nothing if
none does. -/
def FindsFrom (sep : Char) (s : Text) (i : Nat) : Option (Text × Text) → Prop
  | some (front, back) =>
    s.drop i = front ++ sep :: back ∧ s.Divides sep (i + front.length) ∧
      ∀ j, i ≤ j → j < i + front.length → ¬ s.Divides sep j
  | none => ∀ j, i ≤ j → ¬ s.Divides sep j

/-- A place that does not divide is passed over. -/
theorem FindsFrom.step {found : Option (Text × Text)} (h : FindsFrom sep s (i + 1) found)
    (hget : s[i]? = some c) (hi : ¬ s.Divides sep i) : FindsFrom sep s i (prepend [c] found) := by
  cases found with
  | none =>
    intro j hj
    by_cases heq : j = i
    · exact heq ▸ hi
    · exact h j (by omega)
  | some p =>
    obtain ⟨front, back⟩ := p
    obtain ⟨hdrop, hfound, hbefore⟩ := h
    have hlength : i + ([c] ++ front).length = i + 1 + front.length := by
      rw [List.length_append, List.length_singleton, Nat.add_assoc]
    refine ⟨?_, hlength ▸ hfound, ?_⟩
    · obtain ⟨hlt, rfl⟩ := List.getElem?_eq_some_iff.mp hget
      rw [List.drop_eq_getElem_cons hlt, hdrop]
      rfl
    · intro j hj hlt
      by_cases heq : j = i
      · exact heq ▸ hi
      · exact hbefore j (by omega) (hlength ▸ hlt)

theorem findsFrom_splitFrom? (hquote : sep ≠ '"') (hslash : sep ≠ '\\')
    (h : IsAt s i quoted rest) : FindsFrom sep s i (splitFrom? [sep] quoted rest) := by
  fun_induction splitFrom? [sep] quoted rest generalizing i with
  | case1 quoted =>
    intro j hj hdivides
    obtain ⟨k, rfl⟩ := Nat.exists_eq_add_of_le hj
    have hget := hdivides.1
    rw [h.getElem?_add] at hget
    cases hget
  | case2 quoted =>
    intro j hj hdivides
    obtain ⟨k, rfl⟩ := Nat.exists_eq_add_of_le hj
    have hget := hdivides.1
    rw [h.getElem?_add] at hget
    cases k with
    | zero => exact hslash (Option.some.inj hget).symm
    | succ k => cases hget
  | case3 quoted c rest ih =>
    have hfirst : ¬ s.Divides sep i := fun hdivides => hslash (h.divides_iff.mp hdivides).1.symm
    have hsecond : ¬ s.Divides sep (i + 1) := by
      intro hdivides
      have hescaped := hdivides.2.1
      rw [h.isEscapedAt_succ] at hescaped
      cases hescaped
    have hfound := ((ih h.pair).step (h.getElem?_add 1) hsecond).step h.getElem? hfirst
    rwa [← prepend_append] at hfound
  | case4 quoted c rest hlast hpair hc ih =>
    have hnext := h.char (ne_backslash_of_cons hlast hpair)
    rw [hc, Bool.bne_true] at hnext
    apply (ih hnext).step h.getElem?
    intro hdivides
    exact hquote ((h.divides_iff.mp hdivides).1.symm.trans (beq_iff_eq.mp hc))
  | case5 quoted c rest hlast hpair hc hsep =>
    simp only [Bool.and_eq_true, beq_iff_eq, List.cons.injEq, and_true, Bool.not_eq_true'] at hsep
    refine ⟨hsep.1 ▸ h.drop_eq, h.divides_iff.mpr hsep, ?_⟩
    intro j hj hlt
    rw [List.length_nil] at hlt
    omega
  | case6 quoted c rest hlast hpair hc hsep ih =>
    have hnext := h.char (ne_backslash_of_cons hlast hpair)
    rw [Bool.eq_false_iff.mpr hc, Bool.bne_false] at hnext
    apply (ih hnext).step h.getElem?
    intro hdivides
    simp only [Bool.and_eq_true, beq_iff_eq, List.cons.injEq, and_true, Bool.not_eq_true'] at hsep
    exact hsep (h.divides_iff.mp hdivides)

theorem findsFrom_start (s : Text) (hquote : sep ≠ '"') (hslash : sep ≠ '\\') :
    FindsFrom sep s 0 (splitFrom? [sep] false s) :=
  findsFrom_splitFrom? hquote hslash (isAt_start s)

/-- The first place that divides parts the text, and a text without such a place stays whole. -/
theorem splitFrom?_cases (s : Text) (hquote : sep ≠ '"') (hslash : sep ≠ '\\') :
    (∃ i, IsLeast {j | s.Divides sep j} i ∧ s = s.take i ++ sep :: s.drop (i + 1) ∧
      splitFrom? [sep] false s = some (s.take i, s.drop (i + 1))) ∨
    (∀ i, ¬ s.Divides sep i) ∧ splitFrom? [sep] false s = none := by
  have hfound := findsFrom_start s hquote hslash
  cases hsplit : splitFrom? [sep] false s with
  | none =>
    rw [hsplit] at hfound
    exact Or.inr ⟨fun i => hfound i (Nat.zero_le i), rfl⟩
  | some p =>
    obtain ⟨front, back⟩ := p
    rw [hsplit] at hfound
    obtain ⟨hs, hdivides, hbefore⟩ := hfound
    rw [Nat.zero_add] at hdivides hbefore
    rw [List.drop_zero] at hs
    have hfront : s.take front.length = front := by rw [hs, List.take_left]
    have hback : s.drop (front.length + 1) = back := by
      rw [← List.drop_drop, hs, List.drop_left]
      rfl
    refine Or.inl ⟨front.length, ⟨hdivides, ?_⟩, ?_, ?_⟩
    · intro j hj
      by_contra hlt
      exact hbefore j (Nat.zero_le j) (Nat.lt_of_not_le hlt) hj
    · rwa [hfront, hback]
    · rw [hfront, hback]

/-- The part in front of the first place that divides is not divided again. -/
theorem splitFrom?_front (hquote : sep ≠ '"') (hslash : sep ≠ '\\') {front back : Text}
    (hs : s = front ++ sep :: back) (h : splitFrom? [sep] false s = some (front, back)) :
    splitFrom? [sep] false front = none := by
  rcases splitFrom?_cases front hquote hslash with ⟨i, hi, -, hsplit⟩ | ⟨-, hsplit⟩
  · -- The same place would divide the whole text, further to the left.
    have hwhole := splitFrom?_append_of_some hsplit (sep :: back)
    rw [← hs, h, Option.some.injEq, Prod.mk.injEq] at hwhole
    have hlength := congrArg List.length hwhole.1
    have hlt : i < front.length := (List.getElem?_eq_some_iff.mp hi.1.1).1
    rw [List.length_take] at hlength
    omega
  · exact hsplit

/-- A text is divided at the first place that divides, and stays whole if no place does. What is
put in front is not divided again, and the parts with the dividing character between them are the
text. -/
theorem splitUnquoted_first (s : Text) (hquote : sep ≠ '"') (hslash : sep ≠ '\\') :
    ((∃ i, s.Divides sep i) → ∃ i, IsLeast {j | s.Divides sep j} i ∧
      splitUnquoted [sep] s = (s.take i, some (s.drop (i + 1)))) ∧
    ((∀ i, ¬ s.Divides sep i) → splitUnquoted [sep] s = (s, none)) ∧
    ∀ front back?, splitUnquoted [sep] s = (front, back?) →
      splitUnquoted [sep] front = (front, none) ∧
        ∀ back, back? = some back → front ++ sep :: back = s := by
  rcases splitFrom?_cases s hquote hslash with ⟨i, hi, hs, hsplit⟩ | ⟨hnone, hsplit⟩
  · have hfound : splitUnquoted [sep] s = (s.take i, some (s.drop (i + 1))) := by
      rw [splitUnquoted, hsplit]
    refine ⟨fun _ => ⟨i, hi, hfound⟩, fun hno => absurd hi.1 (hno i), ?_⟩
    intro front back? hparts
    rw [hfound, Prod.mk.injEq] at hparts
    obtain ⟨rfl, rfl⟩ := hparts
    constructor
    · rw [splitUnquoted, splitFrom?_front hquote hslash hs hsplit]
    · rintro back ⟨⟩
      exact hs.symm
  · have hwhole : splitUnquoted [sep] s = (s, none) := by rw [splitUnquoted, hsplit]
    refine ⟨?_, fun _ => hwhole, ?_⟩
    · rintro ⟨i, hi⟩
      exact absurd hi (hnone i)
    · intro front back? hparts
      rw [hwhole, Prod.mk.injEq] at hparts
      obtain ⟨rfl, rfl⟩ := hparts
      refine ⟨hwhole, ?_⟩
      intro back hback
      cases hback

/-- Escaped quotes do not close the quotes around the second equals sign; the first one is escaped
itself, and a backslash stands at the end. -/
theorem splitUnquoted_first_marks :
    '=' ≠ '"' ∧ '=' ≠ '\\' ∧ Text.Divides '=' "a\\=b\"=c\\\"=\"=d=e\\".toList 11 ∧
      splitUnquoted ['='] "a\\=b\"=c\\\"=\"=d=e\\".toList =
        ("a\\=b\"=c\\\"=\"".toList, some "d=e\\".toList) ∧
      splitUnquoted ['='] "a\\=b\"=c\\\"=\"".toList = ("a\\=b\"=c\\\"=\"".toList, none) ∧
      (∀ i, ¬ Text.Divides '=' "\"=\\".toList i) ∧
      splitUnquoted ['='] "\"=\\".toList = ("\"=\\".toList, none) := by
  have hquote : '=' ≠ '"' := by decide
  have hslash : '=' ≠ '\\' := by decide
  have hdivides : Text.Divides '=' "a\\=b\"=c\\\"=\"=d=e\\".toList 11 := by decide
  have hbefore : ∀ j < 11, ¬ Text.Divides '=' "a\\=b\"=c\\\"=\"=d=e\\".toList j := by decide
  have hnone : ∀ i, ¬ Text.Divides '=' "\"=\\".toList i := by
    intro i hi
    have hlt := (List.getElem?_eq_some_iff.mp hi.1).1
    have hall : ∀ j < 3, ¬ Text.Divides '=' "\"=\\".toList j := by decide
    exact hall i hlt hi
  obtain ⟨hsome, -, hparts⟩ :=
    splitUnquoted_first "a\\=b\"=c\\\"=\"=d=e\\".toList hquote hslash
  obtain ⟨i, hi, hsplit⟩ := hsome ⟨11, hdivides⟩
  have hle : i ≤ 11 := hi.2 hdivides
  obtain rfl : i = 11 := by
    by_contra hne
    exact hbefore i (by omega) hi.1
  exact ⟨hquote, hslash, hdivides, hsplit, (hparts _ _ hsplit).1, hnone,
    (splitUnquoted_first _ hquote hslash).2.1 hnone⟩

end Quote

end NoteQuery
