import NoteQuery.Proofs.Query.Spacing

/-!
# Trees without foreign values

Parsing builds trees of terms, connectives and conjunctions only. Evaluating such a tree
fails at a term at most, so it decides wherever its terms do, and a tree without terms holds
on every note. A selection gives an answer exactly if the tree decides on all the notes.
-/
namespace NoteQuery

namespace Node

/-- No part of a tree is a value that is not a query. -/
inductive IsClosed : Node → Prop where
  | term (t : Term) : IsClosed (.term t)
  | connector (op : Operator) {left right : Node} (hl : IsClosed left) (hr : IsClosed right) :
      IsClosed (.connector op left right)
  | all {terms : List Node} (h : ∀ m ∈ terms, IsClosed m) : IsClosed (.all terms)

theorem IsConjunctive.isClosed {m : Node} (h : m.IsConjunctive) : m.IsClosed := by
  induction h with
  | term t => exact .term t
  | and _ _ ihl ihr => exact .connector .and ihl ihr
  | all _ ih => exact .all ih

theorem isClosed_foldl {op : Operator} {nodes : List Node} {first : Node}
    (hfirst : first.IsClosed) (h : ∀ m ∈ nodes, m.IsClosed) :
    (nodes.foldl (.connector op) first).IsClosed := by
  induction nodes generalizing first with
  | nil => exact hfirst
  | cons m rest ih =>
    rw [List.forall_mem_cons] at h
    exact ih (.connector op hfirst h.1) h.2

theorem isClosed_disjoin {nodes : List Node} (h : ∀ m ∈ nodes, m.IsClosed) :
    (disjoin nodes).IsClosed := by
  cases nodes with
  | nil => exact .all h
  | cons m rest =>
    rw [List.forall_mem_cons] at h
    exact isClosed_foldl h.1 h.2

theorem isClosed_ofTokens (ctx : Context) (tokens : List Token) :
    (ofTokens ctx tokens).IsClosed := by
  rw [ofTokens]
  cases QueryMode.ofTokens tokens with
  | pure =>
    refine isClosed_disjoin fun m hm => ?_
    exact (isConjunctive_of_mem_conjunctions ctx hm).isClosed
  | mixed =>
    refine .all fun m hm => ?_
    obtain ⟨t, -, rfl⟩ := List.mem_map.mp hm
    exact .term t

/-- A closed tree decides where all its terms do. -/
theorem IsClosed.decides {m : Node} (h : m.IsClosed) {n : Note}
    (hx : ∀ x ∈ m.leaves, (Node.term x).Decides n) : m.Decides n := by
  induction h with
  | term t => exact hx t (by simp [leaves])
  | connector op _ _ ihl ihr =>
    rw [leaves] at hx
    have hleft := ihl fun x h => hx x (List.mem_append_left _ h)
    have hright := ihr fun x h => hx x (List.mem_append_right _ h)
    cases op with
    | and => exact decides_and hleft hright
    | or => exact decides_or hleft hright
  | all _ ih =>
    rw [leaves, leavesOfAll_eq] at hx
    exact decides_all fun m hm =>
      ih m hm fun x h => hx x (List.mem_flatMap.mpr ⟨m, hm, h⟩)

/-- A closed tree without terms holds on every note. -/
theorem IsClosed.holds_of_leaves_eq_nil {m : Node} (h : m.IsClosed) (hnil : m.leaves = [])
    (n : Note) : m.holds n = .ok true := by
  induction h with
  | term t =>
    rw [leaves] at hnil
    cases hnil
  | connector op _ _ ihl ihr =>
    rw [leaves, List.append_eq_nil_iff] at hnil
    have hleft := ihl hnil.1
    cases op with
    | and => exact (holds_and_iff _ _ n).mpr ⟨hleft, ihr hnil.2⟩
    | or => exact (holds_or_iff ⟨true, hleft⟩ _).mpr (Or.inl hleft)
  | all _ ih =>
    rw [leaves, leavesOfAll_eq, List.flatMap_eq_nil_iff] at hnil
    exact (holds_all_iff _ n).mpr fun m hm => ih m hm (hnil m hm)

theorem accepts_of_decides {m : Node} {n : Note} {b : Bool} (h : m.holds n = .ok b) :
    m.accepts n = b := by
  rw [accepts, h]

/-- A selection answers exactly if the tree decides on all the notes. -/
theorem select_eq_ok_iff (root : Node) (notes found : List Note) :
    root.select notes = .ok found ↔
      (∀ n ∈ notes, root.Decides n) ∧ found = notes.filter root.accepts := by
  constructor
  · intro h
    have hdecides : ∀ n ∈ notes, root.Decides n := by
      induction notes generalizing found with
      | nil => exact nofun
      | cons n rest ih =>
        rw [select] at h
        rw [List.forall_mem_cons]
        cases hn : root.holds n with
        | error e =>
          rw [hn] at h
          cases h
        | ok b =>
          rw [hn] at h
          refine ⟨⟨b, hn⟩, ?_⟩
          cases b with
          | true =>
            cases hrest : root.select rest with
            | error e =>
              simp only [hrest] at h
              cases h
            | ok others => exact ih others hrest
          | false => exact ih found h
    rw [select_of_decides hdecides, Except.ok.injEq] at h
    exact ⟨hdecides, h.symm⟩
  · rintro ⟨hdecides, rfl⟩
    exact select_of_decides hdecides

end Node

def Note.HasLocalTimes (n : Note) : Prop :=
  ∀ field m, n.timestamp field = some m → ∃ t, m.local = .ok t

namespace Query

theorem isClosed_parse (ctx : Context) (raw : Text) : (parse ctx raw).root.IsClosed :=
  Node.isClosed_ofTokens ctx (Token.tokenize raw)

theorem isClosed_of_parseAt {conventions : Conventions} {now : Moment} {raw : Text} {q : Query}
    (h : parseAt conventions now raw = .ok q) : q.root.IsClosed := by
  rw [parseAt] at h
  cases hc : Context.forTokens conventions now (Token.tokenize raw) with
  | error e =>
    rw [hc] at h
    cases h
  | ok ctx =>
    rw [hc] at h
    cases h
    exact isClosed_parse ctx raw

theorem decides_of_hasLocalTimes {q : Query} (hq : q.root.IsClosed) {n : Note}
    (hn : n.HasLocalTimes) : q.root.Decides n :=
  hq.decides fun x _ => Node.decides_term_of_local hn x

/-- A query without terms selects all notes. -/
theorem select_of_isEmpty {q : Query} (hq : q.root.IsClosed) (h : q.isEmpty) (notes : List Note) :
    q.root.select notes = .ok notes := by
  have hnil : q.root.leaves = [] := by simpa [isEmpty, Node.isActive] using h
  have hholds := hq.holds_of_leaves_eq_nil hnil
  rw [Node.select_eq_ok_iff]
  refine ⟨fun n _ => ⟨true, hholds n⟩, (List.filter_eq_self.mpr fun n _ => ?_).symm⟩
  exact Node.accepts_of_decides (hholds n)

end Query

end NoteQuery
