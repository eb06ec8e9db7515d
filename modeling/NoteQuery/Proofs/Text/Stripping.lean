import Mathlib.Data.List.TakeWhile
import NoteQuery.Text.Basic

/-!
# Texts that are stripped at both ends

Stripping takes characters of a class off both ends of a text and leaves a text alone that
has none of them there.
-/
namespace NoteQuery.Text

/-- No character of a class stands at either end of a text. -/
def IsBare (p : Char → Bool) (s : Text) : Prop :=
  (∀ c ∈ s.head?, p c = false) ∧ ∀ c ∈ s.getLast?, p c = false

theorem isBare_iff (p : Char → Bool) (s : Text) :
    s.head?.all (!p ·) && s.getLast?.all (!p ·) ↔ IsBare p s := by
  simp [IsBare, Option.all_eq_true]

instance (p : Char → Bool) (s : Text) : Decidable (IsBare p s) :=
  decidable_of_iff _ (isBare_iff p s)

theorem dropWhile_eq_self {p : Char → Bool} {s : Text} (h : ∀ c ∈ s.head?, p c = false) :
    s.dropWhile p = s := by
  cases s with
  | nil => rfl
  | cons c s => rw [List.dropWhile_cons, h c rfl, if_neg Bool.false_ne_true]

theorem stripWhere_eq_self {p : Char → Bool} {s : Text} (h : IsBare p s) :
    stripWhere p s = s := by
  have hback : s.reverse.dropWhile p = s.reverse := by
    refine dropWhile_eq_self ?_
    rw [List.head?_reverse]
    exact h.2
  rw [stripWhere, dropEndWhile, dropWhile_eq_self h.1, hback, List.reverse_reverse]

theorem isBare_of_forall {p : Char → Bool} {s : Text} (h : ∀ c ∈ s, p c = false) :
    IsBare p s :=
  ⟨fun c hc => h c (List.mem_of_mem_head? hc), fun c hc => h c (List.mem_of_getLast? hc)⟩

theorem trim_eq_self {s : Text} (h : ∀ c ∈ s, isBlank c = false) : trim s = s :=
  stripWhere_eq_self (isBare_of_forall h)

/-- A character that is kept ends the dropping. -/
theorem dropWhile_append_cons {p : Char → Bool} {c : Char} (hc : p c = false) (u v : Text) :
    (u ++ c :: v).dropWhile p = u.dropWhile p ++ c :: v := by
  induction u with
  | nil => exact dropWhile_eq_self (by rintro d ⟨⟩; exact hc)
  | cons d u ih =>
    rw [List.cons_append, List.dropWhile_cons, List.dropWhile_cons]
    cases p d with
    | true => exact ih
    | false => rfl

theorem dropEndWhile_append_cons {p : Char → Bool} {c : Char} (hc : p c = false) (u v : Text) :
    dropEndWhile p (u ++ c :: v) = u ++ c :: dropEndWhile p v := by
  have hreverse : (u ++ c :: v).reverse = v.reverse ++ c :: u.reverse := by simp
  rw [dropEndWhile, hreverse, dropWhile_append_cons hc, dropEndWhile]
  simp

theorem dropEndWhile_append {p : Char → Bool} {back : Text} (h : ∀ c ∈ back, p c) (s : Text) :
    dropEndWhile p (s ++ back) = dropEndWhile p s := by
  have hback : ∀ c ∈ back.reverse, p c := fun c hc => h c (List.mem_reverse.mp hc)
  rw [dropEndWhile, dropEndWhile, List.reverse_append, List.dropWhile_append_of_pos hback]

theorem not_of_mem_head?_dropWhile {p : Char → Bool} {s : Text} {c : Char}
    (h : c ∈ (s.dropWhile p).head?) : p c = false := by
  induction s with
  | nil => cases h
  | cons d s ih =>
    rw [List.dropWhile_cons] at h
    cases hd : p d with
    | true =>
      rw [if_pos hd] at h
      exact ih h
    | false =>
      rw [hd] at h
      cases h
      exact hd

/-- Characters of the class are all that is dropped at the end, and none is left there. -/
theorem exists_dropEndWhile (p : Char → Bool) (s : Text) :
    ∃ back, s = dropEndWhile p s ++ back ∧ (∀ c ∈ back, p c) ∧
      ∀ c ∈ (dropEndWhile p s).getLast?, p c = false := by
  refine ⟨(s.reverse.takeWhile p).reverse, ?_, ?_, ?_⟩
  · rw [dropEndWhile, ← List.reverse_append, List.takeWhile_append_dropWhile, List.reverse_reverse]
  · exact fun c hc => List.all_eq_true.mp List.all_takeWhile c (List.mem_reverse.mp hc)
  · intro c hc
    rw [dropEndWhile, List.getLast?_reverse] at hc
    exact not_of_mem_head?_dropWhile hc

theorem isBare_stripWhere (p : Char → Bool) (s : Text) : IsBare p (stripWhere p s) := by
  obtain ⟨back, hback, -, hend⟩ := exists_dropEndWhile p (s.dropWhile p)
  constructor
  · intro c hc
    have hhead : (dropEndWhile p (s.dropWhile p)).head? = some c := hc
    apply not_of_mem_head?_dropWhile (s := s)
    rw [hback, List.head?_append, hhead]
    rfl
  · exact hend

/-- A character that is kept parts what is stripped in front from what is stripped behind. -/
theorem stripWhere_append_cons {p : Char → Bool} {c : Char} (hc : p c = false) (u v : Text) :
    stripWhere p (u ++ c :: v) = u.dropWhile p ++ c :: dropEndWhile p v := by
  rw [stripWhere, dropWhile_append_cons hc, dropEndWhile_append_cons hc]

theorem stripWhere_append_left {p : Char → Bool} {front : Text} (h : ∀ c ∈ front, p c)
    (s : Text) : stripWhere p (front ++ s) = stripWhere p s := by
  rw [stripWhere, List.dropWhile_append_of_pos h, stripWhere]

theorem stripWhere_append_right {p : Char → Bool} {back : Text} (h : ∀ c ∈ back, p c)
    (s : Text) : stripWhere p (s ++ back) = stripWhere p s := by
  rw [stripWhere, stripWhere, List.dropWhile_append]
  cases hs : s.dropWhile p with
  | nil =>
    have hback : back.dropWhile p = [] := List.dropWhile_eq_nil_iff.mpr h
    rw [List.isEmpty_nil, if_pos rfl, hback]
  | cons c u =>
    rw [List.isEmpty_cons, if_neg Bool.false_ne_true]
    exact dropEndWhile_append h (c :: u)

theorem stripWhere_dropWhile (p : Char → Bool) (s : Text) :
    stripWhere p (s.dropWhile p) = stripWhere p s := by
  have hfront : ∀ c ∈ s.takeWhile p, p c := List.all_eq_true.mp List.all_takeWhile
  have hwhole := stripWhere_append_left hfront (s.dropWhile p)
  rw [List.takeWhile_append_dropWhile] at hwhole
  exact hwhole.symm

theorem stripWhere_dropEndWhile (p : Char → Bool) (s : Text) :
    stripWhere p (dropEndWhile p s) = stripWhere p s := by
  obtain ⟨back, hs, hback, -⟩ := exists_dropEndWhile p s
  have hwhole := stripWhere_append_right hback (dropEndWhile p s)
  rw [← hs] at hwhole
  exact hwhole.symm

theorem trim_trim (s : Text) : trim (trim s) = trim s :=
  stripWhere_eq_self (isBare_stripWhere isBlank s)

/-- Stripping takes characters of the class off both ends. -/
theorem exists_stripWhere (p : Char → Bool) (s : Text) :
    ∃ front back, s = front ++ (stripWhere p s ++ back) ∧ (∀ c ∈ front, p c) ∧
      ∀ c ∈ back, p c := by
  obtain ⟨back, hs, hback, -⟩ := exists_dropEndWhile p (s.dropWhile p)
  refine ⟨s.takeWhile p, back, ?_, ?_, hback⟩
  · rw [stripWhere, ← hs, List.takeWhile_append_dropWhile]
  · exact fun c hc => List.all_eq_true.mp List.all_takeWhile c hc

/-- Trimming takes blanks off both ends. -/
theorem exists_trim (s : Text) :
    ∃ front back, s = front ++ (trim s ++ back) ∧ (∀ c ∈ front, isBlank c) ∧
      ∀ c ∈ back, isBlank c := exists_stripWhere isBlank s

theorem trim_ne_nil {s : Text} (h : ∃ c ∈ s, isBlank c = false) : trim s ≠ [] := by
  obtain ⟨c, hc, hblank⟩ := h
  intro hnil
  obtain ⟨front, back, hs, hfront, hback⟩ := exists_trim s
  rw [hs, hnil, List.nil_append, List.mem_append] at hc
  rcases hc with hc | hc
  · rw [hfront c hc] at hblank
    cases hblank
  · rw [hback c hc] at hblank
    cases hblank

/-! ## What is left of a part -/

theorem infix_dropWhile (p : Char → Bool) {s t : Text} (h : s <:+: t) :
    s.dropWhile p <:+: t.dropWhile p := by
  obtain ⟨front, back, rfl⟩ := h
  have hback : s.dropWhile p <:+: (s ++ back).dropWhile p := by
    rw [List.dropWhile_append]
    split
    · rename_i hempty
      simp [List.isEmpty_iff.mp hempty]
    · exact (List.prefix_append _ _).isInfix
  rw [List.append_assoc, List.dropWhile_append]
  split
  · exact hback
  · have hsuffix := (List.dropWhile_suffix (l := s ++ back) p).isInfix
    exact hback.trans (hsuffix.trans (List.suffix_append _ _).isInfix)

theorem infix_dropEndWhile (p : Char → Bool) {s t : Text} (h : s <:+: t) :
    dropEndWhile p s <:+: dropEndWhile p t :=
  List.reverse_infix.mpr (infix_dropWhile p (List.reverse_infix.mpr h))

/-- A part of a text that is stripped is a part of the stripped text. -/
theorem infix_stripWhere (p : Char → Bool) {s t : Text} (h : s <:+: t) :
    stripWhere p s <:+: stripWhere p t :=
  infix_dropEndWhile p (infix_dropWhile p h)

theorem dropEndWhile_infix_self (p : Char → Bool) (s : Text) : dropEndWhile p s <:+: s := by
  rw [← List.reverse_infix, dropEndWhile, List.reverse_reverse]
  exact (List.dropWhile_suffix p).isInfix

theorem stripWhere_infix_self (p : Char → Bool) (s : Text) : stripWhere p s <:+: s :=
  (dropEndWhile_infix_self p _).trans (List.dropWhile_suffix p).isInfix

end NoteQuery.Text
