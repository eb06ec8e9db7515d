import NoteQuery.Proofs.Query.Parts

/-!
# What evaluation reaches

Evaluating a tree takes its parts from left to right and stops at the first one that decides: a
conjunction at a part that does not hold, a disjunction at one that holds. Said in this way, apart
from the evaluator, evaluation either gives an answer or reaches a part that fails, and that
failure is the one of the whole tree. So a foreign value that is not reached does no harm, while
describing a tree always meets it and listing its terms passes it over.
-/
namespace NoteQuery.Node

/-- The answer of a part at which evaluating a tree goes on to the next part. -/
def passing : Node → Bool
  | connector .or _ _ => false
  | _ => true

/-- A tree gives an answer on a note: all its parts pass, or the first one that does not decides. -/
inductive Gives (n : Note) : Node → Bool → Prop where
  | term {t : Term} {b : Bool} (h : t.holds n = .ok b) : Gives n (.term t) b
  | passed {m : Node} (hm : m.isJoined) (h : ∀ k ∈ m.children, Gives n k m.passing) :
      Gives n m m.passing
  | stopped {m k : Node} {front back : List Node} (hk : m.children = front ++ k :: back)
      (hfront : ∀ c ∈ front, Gives n c m.passing) (h : Gives n k !m.passing) :
      Gives n m !m.passing

/-- Evaluating a tree on a note comes to a part at a position: all parts in front have passed. -/
inductive Reaches (n : Note) : Node → List Nat → Node → Prop where
  | here (m : Node) : Reaches n m [] m
  | further {m k x : Node} {front back : List Node} {p : List Nat}
      (hk : m.children = front ++ k :: back) (hfront : ∀ c ∈ front, Gives n c m.passing)
      (h : Reaches n k p x) : Reaches n m (front.length :: p) x

variable {m k x : Node} {n : Note} {front back : List Node} {b : Bool} {p : List Nat} {v : Value}

/-! ## The evaluator -/

/-- Where the left side of a connective passes, the right side decides, -/
theorem holds_connector_of_passed {op : Operator} {left : Node}
    (h : left.holds n = .ok (connector op left k).passing) :
    (connector op left k).holds n = k.holds n := by
  cases op with
  | and =>
    rw [holds_and, h]
    rfl
  | or =>
    rw [holds_or, h]
    rfl

/-- and otherwise the left side does. -/
theorem holds_connector_of_stopped {op : Operator} {right : Node}
    (h : k.holds n ≠ .ok (connector op k right).passing) :
    (connector op k right).holds n = k.holds n := by
  cases op with
  | and =>
    rw [holds_and]
    cases hk : k.holds n with
    | error e => rfl
    | ok b =>
      cases b with
      | true => exact absurd hk h
      | false => rfl
  | or =>
    rw [holds_or]
    cases hk : k.holds n with
    | error e => rfl
    | ok b =>
      cases b with
      | true => rfl
      | false => exact absurd hk h

theorem allHold_of_stopped (hfront : ∀ c ∈ front, c.holds n = .ok true)
    (h : k.holds n ≠ .ok true) (back : List Node) :
    allHold (front ++ k :: back) n = k.holds n := by
  induction front with
  | nil =>
    rw [List.nil_append, allHold_cons]
    cases hk : k.holds n with
    | error e => rfl
    | ok b =>
      cases b with
      | true => exact absurd hk h
      | false => rfl
  | cons c front ih =>
    rw [List.forall_mem_cons] at hfront
    rw [List.cons_append, allHold_cons, hfront.1]
    exact ih hfront.2

theorem holds_of_passed (hm : m.isJoined) (h : ∀ k ∈ m.children, k.holds n = .ok m.passing) :
    m.holds n = .ok m.passing := by
  cases m with
  | term t => cases hm
  | foreign v => cases hm
  | all terms => exact (holds_all_iff terms n).mpr h
  | connector op left right =>
    rw [children, List.forall_mem_cons, List.forall_mem_singleton] at h
    rw [holds_connector_of_passed h.1, h.2]

/-- The first part that does not pass decides, be it by an answer or by an error. -/
theorem holds_of_stopped (hk : m.children = front ++ k :: back)
    (hfront : ∀ c ∈ front, c.holds n = .ok m.passing) (h : k.holds n ≠ .ok m.passing) :
    m.holds n = k.holds n := by
  cases m with
  | term t => cases isJoined_of_children hk
  | foreign v => cases isJoined_of_children hk
  | all terms =>
    rw [children] at hk
    rw [holds_all, hk]
    exact allHold_of_stopped hfront h back
  | connector op left right =>
    rw [children] at hk
    rcases front with _ | ⟨c, _ | ⟨d, front⟩⟩
    · cases hk
      exact holds_connector_of_stopped h
    · cases hk
      exact holds_connector_of_passed (hfront left List.mem_cons_self)
    · simp at hk

/-! ## Answers and errors -/

theorem Gives.holds_eq (h : Gives n m b) : m.holds n = .ok b := by
  induction h with
  | term h =>
    rw [holds_term, h]
    rfl
  | passed hm _ ih => exact holds_of_passed hm ih
  | stopped hk _ _ ihfront ih =>
    rw [holds_of_stopped hk ihfront, ih]
    rw [ih, ne_eq, Except.ok.injEq]
    exact (Bool.not_eq_self _).mp

/-- An error at a part that is reached is the error of the tree. -/
theorem Reaches.holds_eq_error (h : Reaches n m p x) {e : MatchError}
    (hx : x.holds n = .error e) : m.holds n = .error e := by
  induction h with
  | here m => exact hx
  | further hk hfront _ ih =>
    have herror := ih hx
    rw [holds_of_stopped hk fun c hc => (hfront c hc).holds_eq, herror]
    rw [herror]
    exact nofun

/-- Evaluating a tree gives an answer, or it reaches a term or a foreign value that fails. -/
theorem gives_or_reaches (n : Note) (m : Node) :
    (∃ b, Gives n m b) ∨
      ∃ p x e, Reaches n m p x ∧ x.isJoined = false ∧ x.holds n = .error e := by
  induction m using of_children with
  | step m ih =>
    cases hm : m.isJoined with
    | true =>
      rcases forall_or_exists_first (fun k => Gives n k m.passing) m.children with
        hall | ⟨front, k, back, hk, hfront, hstops⟩
      · exact Or.inl ⟨_, .passed hm hall⟩
      · rw [hk, List.forall_mem_append, List.forall_mem_cons] at ih
        rcases ih.2.1 with ⟨b, hb⟩ | ⟨p, x, e, hreach, hx, he⟩
        · have hother : b = !m.passing := by
            rw [Bool.eq_not]
            rintro rfl
            exact hstops hb
          exact Or.inl ⟨_, .stopped hk hfront (hother ▸ hb)⟩
        · exact Or.inr ⟨_, x, e, .further hk hfront hreach, hx, he⟩
    | false =>
      rcases eq_of_not_isJoined hm with ⟨t, rfl⟩ | ⟨v, rfl⟩
      · cases ht : t.holds n with
        | ok b => exact Or.inl ⟨b, .term ht⟩
        | error e =>
          right
          refine ⟨[], _, .outOfCalendar e, .here _, hm, ?_⟩
          rw [holds_term, ht]
          rfl
      · exact Or.inr ⟨[], _, _, .here _, hm, rfl⟩

/-- What short-circuiting gives is what the evaluator answers. -/
theorem gives_iff : Gives n m b ↔ m.holds n = .ok b := by
  constructor
  · exact Gives.holds_eq
  · intro h
    rcases gives_or_reaches n m with ⟨c, hc⟩ | ⟨p, x, e, hreach, -, he⟩
    · rw [hc.holds_eq, Except.ok.injEq] at h
      exact h ▸ hc
    · rw [hreach.holds_eq_error he] at h
      cases h

theorem holds_eq_error_iff {e : MatchError} :
    m.holds n = .error e ↔
      ∃ p x, Reaches n m p x ∧ x.isJoined = false ∧ x.holds n = .error e := by
  constructor
  · intro h
    rcases gives_or_reaches n m with ⟨b, hb⟩ | ⟨p, x, e', hreach, hx, he⟩
    · rw [hb.holds_eq] at h
      cases h
    · rw [hreach.holds_eq_error he] at h
      cases h
      exact ⟨p, x, hreach, hx, he⟩
  · rintro ⟨p, x, hreach, -, he⟩
    exact hreach.holds_eq_error he

theorem holds_term_eq_error_iff {t : Term} {e : MatchError} :
    (term t).holds n = .error e ↔ ∃ o, e = .outOfCalendar o ∧ t.holds n = .error o := by
  rw [holds_term]
  cases t.holds n with
  | ok b => exact iff_of_false nofun nofun
  | error o =>
    constructor
    · rintro ⟨⟩
      exact ⟨o, rfl, rfl⟩
    · rintro ⟨o, rfl, ⟨⟩⟩
      rfl

theorem holds_eq_unknownNode_iff :
    m.holds n = .error (.unknownNode ⟨v⟩) ↔ ∃ p, Reaches n m p (.foreign v) := by
  rw [holds_eq_error_iff]
  constructor
  · rintro ⟨p, x, hreach, hx, he⟩
    rcases eq_of_not_isJoined hx with ⟨t, rfl⟩ | ⟨w, rfl⟩
    · obtain ⟨o, ho, -⟩ := holds_term_eq_error_iff.mp he
      cases ho
    · cases he
      exact ⟨p, hreach⟩
  · rintro ⟨p, hreach⟩
    exact ⟨p, _, hreach, rfl, rfl⟩

theorem holds_eq_outOfCalendar_iff {o : OutOfCalendar} :
    m.holds n = .error (.outOfCalendar o) ↔
      ∃ p t, Reaches n m p (.term t) ∧ t.holds n = .error o := by
  rw [holds_eq_error_iff]
  constructor
  · rintro ⟨p, x, hreach, hx, he⟩
    rcases eq_of_not_isJoined hx with ⟨t, rfl⟩ | ⟨w, rfl⟩
    · obtain ⟨o, ⟨⟩, ht⟩ := holds_term_eq_error_iff.mp he
      exact ⟨p, t, hreach, ht⟩
    · cases he
  · rintro ⟨p, t, hreach, ht⟩
    exact ⟨p, _, hreach, rfl, holds_term_eq_error_iff.mpr ⟨o, rfl, ht⟩⟩

/-! ## Places that are reached -/

theorem Reaches.part?_eq (h : Reaches n m p x) : m.part? p = some x := by
  induction h with
  | here m => rfl
  | further hk _ _ ih => rw [part?_child hk, ih]

/-- Two cuts of a list are the same, or one of them is further to the left. -/
theorem eq_or_mem_of_append_eq {front' back' : List Node} {k' : Node}
    (h : front ++ k :: back = front' ++ k' :: back') :
    front = front' ∧ k = k' ∨ k ∈ front' ∨ k' ∈ front := by
  rcases List.append_eq_append_iff.mp h with ⟨between, hfront, hback⟩ | ⟨between, hfront, hback⟩
  · cases between with
    | nil =>
      cases hback
      exact Or.inl ⟨hfront.symm ▸ (List.append_nil front).symm, rfl⟩
    | cons c between =>
      cases hback
      exact Or.inr (Or.inl (hfront ▸ List.mem_append_right _ List.mem_cons_self))
  · cases between with
    | nil =>
      cases hback
      exact Or.inl ⟨hfront.trans (List.append_nil front'), rfl⟩
    | cons c between =>
      cases hback
      exact Or.inr (Or.inr (hfront ▸ List.mem_append_right _ List.mem_cons_self))

theorem Reaches.not_gives (h : Reaches n m p (.foreign v)) : ¬ Gives n m b := by
  intro hb
  have herror := h.holds_eq_error rfl
  rw [hb.holds_eq] at herror
  cases herror

/-- Evaluation ends where it reaches a foreign value, so it does not reach a second one. -/
theorem Reaches.unique {w : Value} {q : List Nat} (hp : Reaches n m p (.foreign v))
    (hq : Reaches n m q (.foreign w)) : p = q := by
  generalize hx : foreign v = x at hp
  induction hp generalizing q with
  | here m =>
    subst hx
    cases hq with
    | here => rfl
    | further hk _ _ => cases isJoined_of_children hk
  | further hk hfront hreach ih =>
    subst hx
    cases hq with
    | here => cases isJoined_of_children hk
    | further hk' hfront' hreach' =>
      rcases eq_or_mem_of_append_eq (hk.symm.trans hk') with ⟨rfl, rfl⟩ | hmem | hmem
      · rw [ih hreach' rfl]
      · exact absurd (hfront' _ hmem) hreach.not_gives
      · exact absurd (hfront _ hmem) hreach'.not_gives

theorem holds_eq_unknownNode_iff_first :
    m.holds n = .error (.unknownNode ⟨v⟩) ↔ IsFirstForeign (Reaches n m) v := by
  rw [holds_eq_unknownNode_iff]
  constructor
  · rintro ⟨p, hp⟩
    refine ⟨p, ⟨⟨v, hp⟩, ?_⟩, hp⟩
    rintro q ⟨w, hq⟩
    exact le_of_eq (hp.unique hq)
  · rintro ⟨p, -, hp⟩
    exact ⟨p, hp⟩

/-- A tree that can be described fails only where it reaches a date that has no local time. -/
theorem exists_reaches_of_describe (hm : ∃ s, m.describe = .ok s) {e : MatchError}
    (he : m.holds n = .error e) :
    ∃ o p t, e = .outOfCalendar o ∧ Reaches n m p (.term t) ∧ t.holds n = .error o := by
  cases e with
  | outOfCalendar o =>
    obtain ⟨p, t, hreach, ht⟩ := holds_eq_outOfCalendar_iff.mp he
    exact ⟨o, p, t, rfl, hreach, ht⟩
  | unknownNode e =>
    obtain ⟨p, hreach⟩ := holds_eq_unknownNode_iff.mp he
    have hclosed := (exists_describe_eq_ok_iff m).mp hm
    exact absurd hreach.part?_eq ((isClosed_iff m).mp hclosed p e.value)

theorem decides_of_describe (hm : ∃ s, m.describe = .ok s) (hn : n.HasLocalTimes) :
    m.Decides n :=
  ((exists_describe_eq_ok_iff m).mp hm).decides fun x _ => decides_term_of_local hn x

/-- Evaluating a tree on a note fails with a foreign value exactly if it reaches one, and names the
first one reached. Describing it fails exactly if it has a foreign part anywhere, and names the one
furthest to the left. The terms that are listed are all that stand in the tree, from left to right.
So a tree that can be described never fails with a foreign value; it fails only where it reaches a
date for which the note has no local time. -/
theorem fails_iff_foreign (m : Node) :
    (∀ n, ((∃ v, m.holds n = .error (.unknownNode ⟨v⟩)) ↔ ∃ p v, Reaches n m p (.foreign v)) ∧
      ∀ v, m.holds n = .error (.unknownNode ⟨v⟩) ↔ IsFirstForeign (Reaches n m) v) ∧
    ((∃ e, m.describe = .error e) ↔ ∃ p v, m.part? p = some (.foreign v)) ∧
    (∀ v, m.describe = .error ⟨v⟩ ↔ IsFirstForeign (fun p k => m.part? p = some k) v) ∧
    (∀ v, (MatchError.unknownNode ⟨v⟩).message = "Unknown query node: ".toList ++ v.literal ∧
      (UnknownNode.mk v).message = "Unknown query node: ".toList ++ v.literal) ∧
    (∃ placed, m.IsPlacing placed) ∧
    ((∃ s, m.describe = .ok s) → ∀ n,
      (∀ e, m.holds n = .error e →
        ∃ o p t, e = .outOfCalendar o ∧ Reaches n m p (.term t) ∧ t.holds n = .error o) ∧
      (n.HasLocalTimes → m.Decides n)) := by
  refine ⟨?_, exists_describe_eq_error_iff m, describe_eq_error_iff m, fun v => ⟨rfl, rfl⟩,
    exists_isPlacing m, ?_⟩
  · intro n
    refine ⟨?_, fun v => holds_eq_unknownNode_iff_first⟩
    simp only [holds_eq_unknownNode_iff]
    exact exists_comm
  · intro hm n
    exact ⟨fun e he => exists_reaches_of_describe hm he, decides_of_describe hm⟩

def tagOrName (part : Node) (more : List Node) : Node :=
  .connector .or (.connector .and (.term ⟨.tag (some ['a']), false⟩) part)
    (.all (.term ⟨.name ['x'], false⟩ :: more))

/-- Any moment of the calendar as the day of creation. -/
def anyCreation : Node := .term ⟨.date .created ⟨.first, .last⟩, false⟩

/-- A note of the first midnight of the calendar, five hours further to the east. -/
def earlyNote : Note :=
  { path := "x.md".toList, filename := ['x'], created := some ⟨.first, some ⟨18000000000, 0⟩⟩ }

/-- Without a tag, the note does not get to the foreign value behind the tag, which describing the
tree names; it gets to the one behind its name. With dates in their places the tree is described,
and the note is let down by the second date only, where the same note with a local time is not. -/
theorem fails_iff_foreign_tagOrName :
    IsFirstForeign (Reaches earlyNote (tagOrName (.foreign (.int 7))
      [.foreign (.text ['n', 'o']), .foreign .null])) (.text ['n', 'o']) ∧
    IsFirstForeign (fun p k => (tagOrName (.foreign (.int 7))
      [.foreign (.text ['n', 'o']), .foreign .null]).part? p = some k) (.int 7) ∧
    (∃ s, (tagOrName anyCreation [anyCreation]).describe = .ok s) ∧
    (tagOrName anyCreation [anyCreation]).holds earlyNote = .error (.outOfCalendar {}) ∧
    (∃ p t, Reaches earlyNote (tagOrName anyCreation [anyCreation]) p (.term t) ∧
      t.holds earlyNote = .error {}) ∧
    (tagOrName anyCreation [anyCreation]).Decides
      { earlyNote with created := some ⟨.first, none⟩ } := by
  have hfails : (tagOrName anyCreation [anyCreation]).holds earlyNote =
      .error (.outOfCalendar {}) := rfl
  have hdescribe : ∃ s, (tagOrName anyCreation [anyCreation]).describe = .ok s := ⟨_, rfl⟩
  obtain ⟨hreached, -, hnamed, -⟩ := fails_iff_foreign
    (tagOrName (.foreign (.int 7)) [.foreign (.text ['n', 'o']), .foreign .null])
  obtain ⟨-, -, -, -, -, hdescribed⟩ := fails_iff_foreign (tagOrName anyCreation [anyCreation])
  obtain ⟨o, p, t, heq, hreach, ht⟩ := (hdescribed hdescribe earlyNote).1 _ hfails
  cases heq
  refine ⟨((hreached earlyNote).2 _).mp rfl, (hnamed _).mp rfl, hdescribe, hfails,
    ⟨p, t, hreach, ht⟩, (hdescribed hdescribe _).2 ?_⟩
  intro field m hm
  cases field with
  | created =>
    cases hm
    exact ⟨_, rfl⟩
  | modified => cases hm

/-- A tree that can be described may fail all the same, where a date has no local time. -/
theorem anyCreation_fails :
    (∃ s, anyCreation.describe = .ok s) ∧ ¬ anyCreation.Decides earlyNote := by
  refine ⟨⟨_, rfl⟩, ?_⟩
  rintro ⟨b, hb⟩
  have herror : anyCreation.holds earlyNote = .error (.outOfCalendar {}) := rfl
  rw [herror] at hb
  cases hb

end NoteQuery.Node
