import NoteQuery.Proofs.Query.Meaning

/-!
# The shape of query trees

The tree of a pure query is a disjunction nested to the left, of trees that grow by one term
at a time and hold no disjunction. The tree of a mixed query is one list of terms.
-/
namespace NoteQuery.Node

/-- A term, or such a tree with one more term behind a connective, or with one or more terms
in a list. No disjunction is in it, and a list has at least two parts. -/
inductive IsConjunct : Node → Prop where
  | term (t : Term) : IsConjunct (.term t)
  | and {left : Node} (h : IsConjunct left) (t : Term) :
      IsConjunct (.connector .and left (.term t))
  | all {first : Node} (h : IsConjunct first) {terms : List Term} (hne : terms ≠ []) :
      IsConjunct (.all (first :: terms.map .term))

/-- Trees without disjunctions, joined by disjunctions from the left on. -/
inductive IsDisjunction : Node → Prop where
  | conjunct {m : Node} (h : IsConjunct m) : IsDisjunction m
  | or {left right : Node} (hl : IsDisjunction left) (hr : IsConjunct right) :
      IsDisjunction (.connector .or left right)

theorem isConjunct_conjoin (byWord : Bool) {sofar : Option Node} (t : Term)
    (h : ∀ m, sofar = some m → m.IsConjunct) : (conjoin byWord sofar t).IsConjunct := by
  cases sofar with
  | none => exact .term t
  | some m =>
    have hm := h m rfl
    cases byWord with
    | true => exact .and hm t
    | false =>
      have hsingle : (all [m, .term t]).IsConjunct := .all hm (List.cons_ne_nil t [])
      cases hm with
      | term u => exact hsingle
      | and _ u => exact hsingle
      | @all first hfirst terms hne =>
        have hmore : (all (first :: (terms ++ [t]).map .term)).IsConjunct :=
          .all hfirst (by simp)
        rw [List.map_append] at hmore
        exact hmore

theorem isConjunct_of_none (m : Node) (h : none = some m) : m.IsConjunct := nomatch h

theorem isConjunct_of_mem_conjunctions (ctx : Context) {negated byWord : Bool}
    {sofar : Option Node} (hsofar : ∀ m, sofar = some m → m.IsConjunct) {tokens : List Token}
    {m : Node} (hm : m ∈ conjunctions ctx negated byWord sofar tokens) : m.IsConjunct := by
  induction tokens generalizing negated byWord sofar with
  | nil => exact hsofar m (Option.mem_toList.mp hm)
  | cons t rest ih =>
    rw [conjunctions_cons] at hm
    split at hm
    · rcases List.mem_append.mp hm with hm | hm
      · exact hsofar m (Option.mem_toList.mp hm)
      · exact ih isConjunct_of_none hm
    · split at hm
      · split at hm
        · exact ih hsofar hm
        · refine ih ?_ hm
          rintro n ⟨⟩
          exact isConjunct_conjoin byWord _ hsofar
      · exact ih hsofar hm

theorem isDisjunction_foldl {first : Node} (hfirst : first.IsDisjunction) {nodes : List Node}
    (h : ∀ m ∈ nodes, m.IsConjunct) : (nodes.foldl (.connector .or) first).IsDisjunction := by
  induction nodes generalizing first with
  | nil => exact hfirst
  | cons m rest ih =>
    rw [List.forall_mem_cons] at h
    exact ih (.or hfirst h.1) h.2

theorem isDisjunction_ofTokens (ctx : Context) {tokens : List Token}
    (h : QueryMode.ofTokens tokens = .pure) : (ofTokens ctx tokens).IsDisjunction := by
  have hall : ∀ m ∈ conjunctions ctx false false none tokens, m.IsConjunct :=
    fun m hm => isConjunct_of_mem_conjunctions ctx isConjunct_of_none hm
  obtain ⟨first, nodes, hnodes⟩ := List.exists_cons_of_ne_nil (conjunctions_ne_nil ctx h)
  rw [hnodes, List.forall_mem_cons] at hall
  have htree : ofTokens ctx tokens = nodes.foldl (.connector .or) first := by
    simp [ofTokens, h, hnodes, disjoin]
  rw [htree]
  exact isDisjunction_foldl (.conjunct hall.1) hall.2

theorem exists_terms_ofTokens (ctx : Context) {tokens : List Token}
    (h : QueryMode.ofTokens tokens = .mixed) :
    ∃ terms : List Term, ofTokens ctx tokens = .all (terms.map .term) :=
  ⟨mixedTerms ctx false tokens, by simp [ofTokens, h]⟩

end NoteQuery.Node
