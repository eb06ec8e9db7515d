import NoteQuery.Query.Match
import NoteQuery.Query.Parse

/-!
# Evaluation of trees

What the value of a tree says about the values of its parts. A connective stops at the
first side that decides, so a true conjunction needs all its parts, while a true
disjunction says nothing of the sides behind the first true one. A tree decides on a
note if evaluating it gives an answer, whatever the answer is.
-/
namespace NoteQuery

/-- Criteria that read no timestamp. -/
def Criterion.IsTimeless : Criterion → Prop
  | .date _ _ => False
  | _ => True

namespace Node

/-- The tree of one term, a conjunction of such trees, or a list of such trees. -/
inductive IsConjunctive : Node → Prop where
  | term (t : Term) : IsConjunctive (.term t)
  | and {left right : Node} (hl : IsConjunctive left) (hr : IsConjunctive right) :
      IsConjunctive (.connector .and left right)
  | all {terms : List Node} (h : ∀ m ∈ terms, IsConjunctive m) : IsConjunctive (.all terms)

def Decides (m : Node) (n : Note) : Prop := ∃ b, m.holds n = .ok b

theorem holds_term (t : Term) (n : Note) :
    (term t).holds n = (t.holds n).mapError .outOfCalendar := rfl

theorem holds_term_of_ok {c : Criterion} {n : Note} {b : Bool} (h : c.holds n = .ok b) :
    (term ⟨c, false⟩).holds n = .ok b := by
  rw [holds_term, Term.holds, h]
  cases b <;> rfl

theorem holds_and (left right : Node) (n : Note) :
    (connector .and left right).holds n =
      left.holds n >>= fun b => if b then right.holds n else .ok false := rfl

theorem holds_or (left right : Node) (n : Note) :
    (connector .or left right).holds n =
      left.holds n >>= fun b => if b then .ok true else right.holds n := rfl

theorem holds_all (terms : List Node) (n : Note) : (all terms).holds n = allHold terms n := rfl

theorem allHold_cons (m : Node) (rest : List Node) (n : Note) :
    allHold (m :: rest) n = m.holds n >>= fun b => if b then allHold rest n else .ok false := rfl

theorem holds_and_iff (left right : Node) (n : Note) :
    (connector .and left right).holds n = .ok true ↔
      left.holds n = .ok true ∧ right.holds n = .ok true := by
  rw [holds_and]
  cases left.holds n with
  | error e => simp [bind, Except.bind]
  | ok b => cases b <;> simp [bind, Except.bind]

theorem holds_all_iff (terms : List Node) (n : Note) :
    (all terms).holds n = .ok true ↔ ∀ m ∈ terms, m.holds n = .ok true := by
  rw [holds_all]
  induction terms with
  | nil => exact iff_of_true rfl nofun
  | cons m rest ih =>
    rw [allHold_cons, List.forall_mem_cons, ← ih]
    cases m.holds n with
    | error e => simp [bind, Except.bind]
    | ok b => cases b <;> simp [bind, Except.bind]

theorem leavesOfAll_eq (terms : List Node) : leavesOfAll terms = terms.flatMap leaves := by
  induction terms with
  | nil => rfl
  | cons m rest ih => simp only [leavesOfAll, List.flatMap_cons, ih]

/-- A conjunctive tree holds where all its terms do, however they are nested. -/
theorem IsConjunctive.holds_iff {m : Node} (h : IsConjunctive m) (n : Note) :
    m.holds n = .ok true ↔ ∀ x ∈ m.leaves, (Node.term x).holds n = .ok true := by
  induction h with
  | term t => simp [leaves]
  | and _ _ ihl ihr =>
    rw [holds_and_iff, ihl, ihr, leaves]
    simp only [List.mem_append, or_imp, forall_and]
  | all _ ih =>
    rw [holds_all_iff, leaves, leavesOfAll_eq]
    simp only [List.mem_flatMap]
    constructor
    · rintro h x ⟨m, hm, hx⟩
      exact (ih m hm).mp (h m hm) x hx
    · intro h m hm
      exact (ih m hm).mpr fun x hx => h x ⟨m, hm, hx⟩

theorem decides_and {left right : Node} {n : Note} (hl : left.Decides n)
    (hr : right.Decides n) : (connector .and left right).Decides n := by
  obtain ⟨a, ha⟩ := hl
  obtain ⟨b, hb⟩ := hr
  rw [Decides, holds_and, ha, hb]
  cases a
  · exact ⟨false, rfl⟩
  · exact ⟨b, rfl⟩

theorem decides_all {terms : List Node} {n : Note} (h : ∀ m ∈ terms, m.Decides n) :
    (all terms).Decides n := by
  rw [Decides, holds_all]
  induction terms with
  | nil => exact ⟨true, rfl⟩
  | cons m rest ih =>
    obtain ⟨a, ha⟩ := h m List.mem_cons_self
    obtain ⟨b, hb⟩ := ih fun k hk => h k (List.mem_cons_of_mem m hk)
    rw [allHold_cons, ha, hb]
    cases a
    · exact ⟨false, rfl⟩
    · exact ⟨b, rfl⟩

theorem IsConjunctive.decides {m : Node} (h : IsConjunctive m) {n : Note}
    (hx : ∀ x ∈ m.leaves, (Node.term x).Decides n) : m.Decides n := by
  induction h with
  | term t => exact hx t (by simp [leaves])
  | and _ _ ihl ihr =>
    rw [leaves] at hx
    exact decides_and (ihl fun x h => hx x (List.mem_append_left _ h))
      (ihr fun x h => hx x (List.mem_append_right _ h))
  | all _ ih =>
    rw [leaves, leavesOfAll_eq] at hx
    exact decides_all fun m hm =>
      ih m hm fun x h => hx x (List.mem_flatMap.mpr ⟨m, hm, h⟩)

/-- Only a timestamp without a local time keeps a term from deciding. -/
theorem decides_term_of_timeless {x : Term} (h : x.criterion.IsTimeless) (n : Note) :
    (term x).Decides n := by
  obtain ⟨c, negated⟩ := x
  rw [Decides, holds_term, Term.holds]
  cases c with
  | date field range => exact h.elim
  | tag path => cases path <;> exact ⟨_, rfl⟩
  | property key value => cases value <;> exact ⟨_, rfl⟩
  | folder path rooted => cases rooted <;> exact ⟨_, rfl⟩
  | _ => exact ⟨_, rfl⟩

/-- On a note whose timestamps are in the calendar every term decides. -/
theorem decides_term_of_local {n : Note}
    (h : ∀ field m, n.timestamp field = some m → ∃ t, m.local = .ok t) (x : Term) :
    (term x).Decides n := by
  by_cases ht : x.criterion.IsTimeless
  · exact decides_term_of_timeless ht n
  · obtain ⟨c, negated⟩ := x
    cases c with
    | date field range =>
      rw [Decides, holds_term, Term.holds, Criterion.holds]
      cases hm : n.timestamp field with
      | none => exact ⟨_, rfl⟩
      | some m =>
        obtain ⟨t, ht⟩ := h field m hm
        simp only [DateRange.contains, ht]
        exact ⟨_, rfl⟩
    | _ => exact (ht trivial).elim

theorem holds_or_iff {left : Node} {n : Note} (hl : left.Decides n) (right : Node) :
    (connector .or left right).holds n = .ok true ↔
      left.holds n = .ok true ∨ right.holds n = .ok true := by
  obtain ⟨b, hb⟩ := hl
  rw [holds_or, hb]
  cases b <;> simp [bind, Except.bind]

theorem decides_or {left right : Node} {n : Note} (hl : left.Decides n)
    (hr : right.Decides n) : (connector .or left right).Decides n := by
  obtain ⟨a, ha⟩ := hl
  obtain ⟨b, hb⟩ := hr
  rw [Decides, holds_or, ha, hb]
  cases a
  · exact ⟨b, rfl⟩
  · exact ⟨true, rfl⟩

/-- A disjunction nested to the left, over trees that decide. -/
theorem holds_foldl_or_iff (n : Note) (nodes : List Node) (first : Node)
    (hf : first.Decides n) (h : ∀ m ∈ nodes, m.Decides n) :
    (nodes.foldl (.connector .or) first).Decides n ∧
      ((nodes.foldl (.connector .or) first).holds n = .ok true ↔
        first.holds n = .ok true ∨ ∃ m ∈ nodes, m.holds n = .ok true) := by
  induction nodes generalizing first with
  | nil => exact ⟨hf, by simp⟩
  | cons m rest ih =>
    have hm := h m List.mem_cons_self
    obtain ⟨hd, hv⟩ := ih (.connector .or first m) (decides_or hf hm)
      fun k hk => h k (List.mem_cons_of_mem m hk)
    refine ⟨hd, hv.trans ?_⟩
    rw [holds_or_iff hf]
    simp only [List.mem_cons, exists_eq_or_imp, or_assoc]

theorem holds_disjoin_iff {n : Note} {nodes : List Node} (hne : nodes ≠ [])
    (h : ∀ m ∈ nodes, m.Decides n) :
    (disjoin nodes).Decides n ∧
      ((disjoin nodes).holds n = .ok true ↔ ∃ m ∈ nodes, m.holds n = .ok true) := by
  cases nodes with
  | nil => exact (hne rfl).elim
  | cons m rest =>
    rw [List.forall_mem_cons] at h
    simp only [List.mem_cons, exists_eq_or_imp]
    exact holds_foldl_or_iff n rest m h.1 h.2

end Node

end NoteQuery
