import NoteQuery.Proofs.Query.Grammar

/-!
# The meaning of parsed queries

A pure query holds where all terms of one of its blocks hold, a block being what stands
between two disjunctions; a mixed query holds where all its terms do. The statements are
about arbitrary lists of tokens, not only those that a text is cut into.
-/
namespace NoteQuery

namespace QueryMode

theorem isPureFrom_of_ofTokens {tokens : List Token} (h : ofTokens tokens = .pure) :
    isPureFrom true tokens = true := by
  by_cases hp : isPureFrom true tokens = true
  · exact hp
  · simp [ofTokens, hp] at h

/-- The terms of a pure query are tags and properties. -/
theorem kind_of_isPureFrom {expecting : Bool} {tokens : List Token}
    (h : isPureFrom expecting tokens = true) :
    ∀ t ∈ tokens, Reading.pure.isTerm t = true → t.kind = .tag ∨ t.kind = .property := by
  induction tokens generalizing expecting with
  | nil => exact fun t ht => nomatch ht
  | cons u rest ih =>
    rw [isPureFrom] at h
    intro t ht hterm
    rcases List.mem_cons.mp ht with rfl | ht
    · rw [Reading.pure_isTerm] at hterm
      cases hk : t.kind with
      | tag => exact Or.inl rfl
      | property => exact Or.inr rfl
      | negation | connector =>
        rw [hk] at hterm
        cases hterm
      | _ =>
        rw [hk] at h
        cases h
    · cases hk : u.kind <;> simp only [hk, Bool.and_eq_true] at h
      · cases h
      · exact ih h t ht hterm
      · exact ih h t ht hterm
      · cases h
      · cases h
      · cases h
      · cases h
      · exact ih h.2 t ht hterm
      · exact ih h t ht hterm

end QueryMode

/-- A token that is a tag or a property asks for no timestamp. -/
theorem Criterion.isTimeless_of_kind {ctx : Context} {t : Token} {c : Criterion}
    (hk : t.kind = .tag ∨ t.kind = .property) (hc : Criterion.ofToken? ctx t = some c) :
    c.IsTimeless := by
  rcases hk with hk | hk <;> simp only [Criterion.ofToken?, hk, Option.some.injEq] at hc <;>
    subst hc
  · trivial
  · cases hp : Criterion.ofProperty? (t.text.drop 1) with
    | none => trivial
    | some c =>
      obtain ⟨key, -, rfl⟩ := Option.map_eq_some_iff.mp hp
      trivial

theorem Reading.timeless_of_pure {ctx : Context} {tokens : List Token} {k : Nat} {x : Term}
    (h : QueryMode.ofTokens tokens = .pure) (hx : Reading.pure.IsTermIn ctx tokens k x) :
    x.criterion.IsTimeless := by
  obtain ⟨front, t, back, rfl, -, hterm⟩ := hx
  have hkind := QueryMode.kind_of_isPureFrom (QueryMode.isPureFrom_of_ofTokens h) t
    (by simp) hterm.isTerm
  exact Criterion.isTimeless_of_kind hkind hterm.criterion

namespace Node

theorem isConjunctive_of_mem_conjunctions (ctx : Context) {tokens : List Token} {m : Node}
    (hm : m ∈ conjunctions ctx false false none tokens) : m.IsConjunctive :=
  (conjunctions_groups ctx false false none tokens nofun nofun).1 m hm

/-- No group of a pure query is empty: each is the terms of one conjunction. -/
theorem leaves_conjunctions (ctx : Context) {tokens : List Token}
    (h : QueryMode.ofTokens tokens = .pure) :
    (conjunctions ctx false false none tokens).map leaves = Reading.pure.groups ctx tokens := by
  obtain ⟨-, hmap⟩ := conjunctions_groups ctx false false none tokens nofun nofun
  have hfull : (Reading.pure.groups ctx tokens).filter (· ≠ []) =
      Reading.pure.groups ctx tokens := by
    refine List.filter_eq_self.mpr fun g hg => ?_
    simpa using groupsFrom_ne_nil ctx true false [] tokens
      (QueryMode.isPureFrom_of_ofTokens h) nofun g hg
  exact hmap.trans hfull

theorem conjunctions_ne_nil (ctx : Context) {tokens : List Token}
    (h : QueryMode.ofTokens tokens = .pure) : conjunctions ctx false false none tokens ≠ [] := by
  intro hnil
  have hlen := congrArg List.length (leaves_conjunctions ctx h)
  rw [hnil, Reading.length_groups] at hlen
  simp at hlen

/-- The tree of a pure query decides on every note, and holds where one group does. -/
theorem holds_pure_iff (ctx : Context) {tokens : List Token}
    (h : QueryMode.ofTokens tokens = .pure) (n : Note) :
    (ofTokens ctx tokens).Decides n ∧
      ((ofTokens ctx tokens).holds n = .ok true ↔
        ∃ g ∈ Reading.pure.groups ctx tokens, ∀ x ∈ g, (term x).holds n = .ok true) := by
  have htree : ofTokens ctx tokens = disjoin (conjunctions ctx false false none tokens) := by
    simp [ofTokens, h]
  have hconj : ∀ m ∈ conjunctions ctx false false none tokens, m.IsConjunctive :=
    fun m => isConjunctive_of_mem_conjunctions ctx
  have hleaves := leaves_conjunctions ctx h
  have hdec : ∀ m ∈ conjunctions ctx false false none tokens, m.Decides n := by
    intro m hm
    refine (hconj m hm).decides fun x hx => ?_
    have hg : m.leaves ∈ Reading.pure.groups ctx tokens := hleaves ▸ List.mem_map_of_mem hm
    obtain ⟨k, hk⟩ := List.mem_iff_getElem?.mp hg
    exact decides_term_of_timeless
      (Reading.timeless_of_pure h ((Reading.pure.mem_groups_iff ctx tokens k _ hk x).mp hx)) n
  obtain ⟨hd, hv⟩ := holds_disjoin_iff (conjunctions_ne_nil ctx h) hdec
  rw [htree]
  refine ⟨hd, hv.trans ?_⟩
  rw [← hleaves]
  constructor
  · rintro ⟨m, hm, hold⟩
    exact ⟨m.leaves, List.mem_map_of_mem hm, ((hconj m hm).holds_iff n).mp hold⟩
  · rintro ⟨g, hg, hold⟩
    obtain ⟨m, hm, rfl⟩ := List.mem_map.mp hg
    exact ⟨m, hm, ((hconj m hm).holds_iff n).mpr hold⟩

theorem holds_mixed_iff (ctx : Context) {tokens : List Token}
    (h : QueryMode.ofTokens tokens = .mixed) (n : Note) :
    (ofTokens ctx tokens).holds n = .ok true ↔
      ∀ x ∈ mixedTerms ctx false tokens, (term x).holds n = .ok true := by
  have htree : ofTokens ctx tokens = .all ((mixedTerms ctx false tokens).map .term) := by
    simp [ofTokens, h]
  rw [htree, holds_all_iff]
  simp

/-- Only a date without a local time keeps a mixed query from deciding. -/
theorem decides_mixed (ctx : Context) {tokens : List Token}
    (h : QueryMode.ofTokens tokens = .mixed) {n : Note}
    (hn : ∀ field m, n.timestamp field = some m → ∃ t, m.local = .ok t) :
    (ofTokens ctx tokens).Decides n := by
  have htree : ofTokens ctx tokens = .all ((mixedTerms ctx false tokens).map .term) := by
    simp [ofTokens, h]
  rw [htree]
  refine decides_all fun m hm => ?_
  obtain ⟨x, -, rfl⟩ := List.mem_map.mp hm
  exact decides_term_of_local hn x

theorem ofTokensAt_of_local (conventions : Conventions) {now : Moment} {time : Instant}
    (hnow : now.local = .ok time) (tokens : List Token) :
    ofTokensAt conventions now tokens = .ok (ofTokens ⟨time, conventions⟩ tokens) := by
  simp [ofTokensAt, Context.forTokens, hnow, Except.map]

/-- A pure query holds on a note where some block of its tokens between two disjunctions
has only terms that hold; it always decides. A mixed query holds where the terms of all
its tokens but the minuses do, connectives being names, and decides where the timestamps
of the note have a local time. -/
theorem ofTokensAt_meaning (conventions : Conventions) (now : Moment) (time : Instant)
    (hnow : now.local = .ok time) (tokens : List Token) (n : Note) :
    ∃ root, ofTokensAt conventions now tokens = .ok root ∧
      (QueryMode.ofTokens tokens = .pure →
        root.Decides n ∧
        (root.holds n = .ok true ↔
          ∃ k ≤ tokens.countP Token.isOr,
            ∀ x, Reading.pure.IsTermIn ⟨time, conventions⟩ tokens k x →
              (term x).holds n = .ok true)) ∧
      (QueryMode.ofTokens tokens = .mixed →
        ((∀ field m, n.timestamp field = some m → ∃ t, m.local = .ok t) → root.Decides n) ∧
        (∀ t ∈ tokens, t.kind = .connector →
          Criterion.ofToken? ⟨time, conventions⟩ t = some (.name t.text)) ∧
        (root.holds n = .ok true ↔
          ∀ k x, Reading.mixed.IsTermIn ⟨time, conventions⟩ tokens k x →
            (term x).holds n = .ok true)) := by
  refine ⟨_, ofTokensAt_of_local conventions hnow tokens, ?_, ?_⟩
  · intro h
    obtain ⟨hd, hv⟩ := holds_pure_iff ⟨time, conventions⟩ h n
    exact ⟨hd, hv.trans (Reading.pure.exists_group_iff _ tokens _)⟩
  · intro h
    refine ⟨decides_mixed _ h, fun t _ hk => by simp [Criterion.ofToken?, hk], ?_⟩
    rw [holds_mixed_iff _ h]
    simp only [Reading.mem_mixedTerms_iff, forall_exists_index]
    exact forall_comm

/-- At a clock reading an hour east of universal time: the first block holds. -/
theorem ofTokensAt_meaning_east :
    (Moment.mk ⟨7200000000, by decide⟩ (some ⟨3600000000, 0⟩)).local = .ok ⟨3600000000, by decide⟩ ∧
    ∃ root, ofTokensAt {} ⟨⟨7200000000, by decide⟩, some ⟨3600000000, 0⟩⟩
        [⟨.tag, ['#', 'a'], 0, 2⟩, ⟨.negation, ['-'], 3, 4⟩, ⟨.connector, ['O', 'R'], 5, 7⟩,
          ⟨.tag, ['#', 'b'], 8, 10⟩] = .ok root ∧
      root.holds { path := [], tags := [['a'], ['b']] } = .ok true := by
  have hlocal : (Moment.mk ⟨7200000000, by decide⟩ (some ⟨3600000000, 0⟩)).local =
      .ok ⟨3600000000, by decide⟩ := rfl
  refine ⟨hlocal, ?_⟩
  obtain ⟨root, hroot, hpure, -⟩ := ofTokensAt_meaning {} _ _ hlocal
    [⟨.tag, ['#', 'a'], 0, 2⟩, ⟨.negation, ['-'], 3, 4⟩, ⟨.connector, ['O', 'R'], 5, 7⟩,
      ⟨.tag, ['#', 'b'], 8, 10⟩] { path := [], tags := [['a'], ['b']] }
  refine ⟨root, hroot, (hpure (by decide)).2.mpr ⟨0, by decide, fun x hx => ?_⟩⟩
  have hmem := (Reading.pure.mem_groups_iff _ _ 0 [⟨.tag (some ['a']), false⟩] rfl x).mpr hx
  rw [List.mem_singleton.mp hmem]
  rfl

end Node

end NoteQuery
