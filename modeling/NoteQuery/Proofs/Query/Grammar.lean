import NoteQuery.Proofs.Query.Evaluation

/-!
# Groups of terms

Both grammars read tokens in one way: some tokens are terms, some cut the query into
conjunctions, and a minus waits for the next term. A reading fixes which tokens do
which, and its groups are the terms between the cuts. The tree of a pure query has one
conjunction for each group that is not empty.
-/
namespace NoteQuery

/-- Which tokens are terms and which ones end a conjunction. -/
structure Reading where
  isTerm : Token → Bool
  isCut : Token → Bool
  term_of_cut : ∀ t, isCut t = true → isTerm t = false
  of_negation : ∀ t, t.kind = .negation → isTerm t = false ∧ isCut t = false

def Token.isOr (t : Token) : Bool := t.kind == .connector && t.text == Operator.or.word

namespace Reading

def pure : Reading where
  isTerm t := t.kind != .negation && t.kind != .connector
  isCut := Token.isOr
  term_of_cut t h := by
    simp only [Token.isOr, Bool.and_eq_true, beq_iff_eq] at h
    simp [h.1]
  of_negation t h := by simp [Token.isOr, h]

def mixed : Reading where
  isTerm t := t.kind != .negation
  isCut _ := false
  term_of_cut _ h := nomatch h
  of_negation t h := by simp [h]

@[simp] theorem pure_isTerm (t : Token) :
    pure.isTerm t = (t.kind != .negation && t.kind != .connector) := rfl

@[simp] theorem pure_isCut (t : Token) : pure.isCut t = t.isOr := rfl

@[simp] theorem mixed_isTerm (t : Token) : mixed.isTerm t = (t.kind != .negation) := rfl

@[simp] theorem mixed_isCut (t : Token) : mixed.isCut t = false := rfl

/-- The terms between the cuts; `negated` says that a minus waits for its term. -/
def groupsFrom (r : Reading) (ctx : Context) (negated : Bool) (sofar : List Term) :
    List Token → List (List Term)
  | [] => [sofar]
  | t :: rest =>
    if r.isCut t then sofar :: groupsFrom r ctx negated [] rest
    else if r.isTerm t then
      match Criterion.ofToken? ctx t with
      | none => groupsFrom r ctx false sofar rest
      | some c => groupsFrom r ctx false (sofar ++ [⟨c, negated⟩]) rest
    else groupsFrom r ctx (negated || t.kind == .negation) sofar rest

def groups (r : Reading) (ctx : Context) (tokens : List Token) : List (List Term) :=
  r.groupsFrom ctx false [] tokens

theorem length_groupsFrom (r : Reading) (ctx : Context) (negated : Bool) (sofar : List Term)
    (tokens : List Token) :
    (r.groupsFrom ctx negated sofar tokens).length = tokens.countP r.isCut + 1 := by
  induction tokens generalizing negated sofar with
  | nil => rfl
  | cons t rest ih =>
    rw [groupsFrom, List.countP_cons]
    by_cases hc : r.isCut t
    · simp only [hc, if_true, List.length_cons, ih]
    · simp only [hc]
      by_cases ht : r.isTerm t
      · cases hk : Criterion.ofToken? ctx t <;> simp [ht, ih]
      · simp [ht, ih]

/-- A minus stands in `front` with no term behind it. -/
def MinusWaits (r : Reading) (front : List Token) : Prop :=
  ∃ a m b, front = a ++ m :: b ∧ m.kind = .negation ∧ ∀ t ∈ b, r.isTerm t = false

/-- The term that a token stands for behind the tokens of `front`. -/
structure IsTermOf (r : Reading) (ctx : Context) (front : List Token) (t : Token)
    (x : Term) : Prop where
  isTerm : r.isTerm t = true
  criterion : Criterion.ofToken? ctx t = some x.criterion
  negated : x.negated = true ↔ r.MinusWaits front

theorem not_minusWaits_nil (r : Reading) : ¬ r.MinusWaits [] := by
  rintro ⟨a, m, b, h, -, -⟩
  cases a <;> cases h

theorem minusWaits_concat (r : Reading) (front : List Token) (t : Token) :
    r.MinusWaits (front ++ [t]) ↔
      t.kind = .negation ∨ (r.isTerm t = false ∧ r.MinusWaits front) := by
  constructor
  · rintro ⟨a, m, b, h, hm, hb⟩
    rcases List.eq_nil_or_concat b with rfl | ⟨b, u, rfl⟩
    · have := List.append_inj_right' h rfl
      cases this
      exact Or.inl hm
    · have h : front ++ [t] = (a ++ m :: b) ++ [u] := by simpa using h
      have hfront := List.append_inj_left' h rfl
      have ht := List.append_inj_right' h rfl
      cases ht
      exact Or.inr ⟨hb t (by simp), a, m, b, hfront, hm, fun k hk => hb k (by simp [hk])⟩
  · rintro (ht | ⟨ht, a, m, b, rfl, hm, hb⟩)
    · exact ⟨front, t, [], rfl, ht, by simp⟩
    · refine ⟨a, m, b ++ [t], by simp, hm, fun k hk => ?_⟩
      rcases List.mem_append.mp hk with hk | hk
      · exact hb k hk
      · rw [List.mem_singleton.mp hk]
        exact ht

/-- The term `x` stands in `rest`, with `k` cuts of `rest` in front of it, the tokens
`seen` being read before. -/
def IsTermFrom (r : Reading) (ctx : Context) (seen rest : List Token) (k : Nat)
    (x : Term) : Prop :=
  ∃ front t back, rest = front ++ t :: back ∧ front.countP r.isCut = k ∧
    r.IsTermOf ctx (seen ++ front) t x

/-- The term `x` stands in block `k` of a list of tokens: with `k` cuts in front of it. -/
def IsTermIn (r : Reading) (ctx : Context) (tokens : List Token) (k : Nat) (x : Term) : Prop :=
  r.IsTermFrom ctx [] tokens k x

theorem not_isTermFrom_nil (r : Reading) (ctx : Context) (seen : List Token) (k : Nat)
    (x : Term) : ¬ r.IsTermFrom ctx seen [] k x := by
  rintro ⟨front, t, back, h, -⟩
  cases front <;> cases h

theorem isTermFrom_cons_iff (r : Reading) (ctx : Context) (seen : List Token) (t : Token)
    (rest : List Token) (k : Nat) (x : Term) :
    r.IsTermFrom ctx seen (t :: rest) k x ↔
      (k = 0 ∧ r.IsTermOf ctx seen t x) ∨
        ∃ j, j + (if r.isCut t then 1 else 0) = k ∧ r.IsTermFrom ctx (seen ++ [t]) rest j x := by
  have hseen : ∀ front, seen ++ t :: front = (seen ++ [t]) ++ front := fun front => by simp
  constructor
  · rintro ⟨front, u, back, h, hk, hx⟩
    cases front with
    | nil =>
      cases h
      rw [List.append_nil] at hx
      exact Or.inl ⟨hk.symm, hx⟩
    | cons v front =>
      cases h
      rw [List.countP_cons] at hk
      exact Or.inr ⟨_, hk, front, u, back, rfl, rfl, hseen front ▸ hx⟩
  · rintro (⟨rfl, hx⟩ | ⟨j, rfl, front, u, back, rfl, rfl, hx⟩)
    · exact ⟨[], t, rest, rfl, rfl, by rwa [List.append_nil]⟩
    · exact ⟨t :: front, u, back, rfl, List.countP_cons, hseen front ▸ hx⟩

/-- Only one term can stand for a token, its sign being read off the tokens before. -/
theorem isTermOf_iff_eq (r : Reading) {ctx : Context} {seen : List Token} {t : Token}
    {c : Criterion} {negated : Bool} (ht : r.isTerm t = true)
    (hc : Criterion.ofToken? ctx t = some c) (hn : negated = true ↔ r.MinusWaits seen)
    (x : Term) : r.IsTermOf ctx seen t x ↔ x = ⟨c, negated⟩ := by
  constructor
  · rintro ⟨-, hcx, hnx⟩
    obtain ⟨d, sign⟩ := x
    have hd : c = d := Option.some.inj (hc.symm.trans hcx)
    have hs : sign = negated := Bool.eq_iff_iff.mpr (hnx.trans hn.symm)
    rw [hd, hs]
  · rintro rfl
    exact ⟨ht, hc, hn⟩

/-- A group holds the terms of exactly the tokens with as many cuts in front of them as
there are groups before it. -/
theorem mem_groupsFrom_iff (r : Reading) (ctx : Context) (seen rest : List Token)
    (negated : Bool) (sofar : List Term) (hn : negated = true ↔ r.MinusWaits seen)
    (k : Nat) (g : List Term) (hg : (r.groupsFrom ctx negated sofar rest)[k]? = some g)
    (x : Term) :
    x ∈ g ↔ (k = 0 ∧ x ∈ sofar) ∨ r.IsTermFrom ctx seen rest k x := by
  induction rest generalizing seen negated sofar k with
  | nil =>
    have := r.not_isTermFrom_nil ctx seen k x
    cases k with
    | zero =>
      cases hg
      simp [this]
    | succ k => cases hg
  | cons t rest ih =>
    rw [isTermFrom_cons_iff]
    rw [groupsFrom] at hg
    have hstep := r.minusWaits_concat seen t
    by_cases hc : r.isCut t = true
    · have ht := r.term_of_cut t hc
      have hneg : t.kind ≠ .negation := fun h => by simp [(r.of_negation t h).2] at hc
      have hno : ¬ r.IsTermOf ctx seen t x := fun h => by simpa [ht] using h.isTerm
      have hn' : negated = true ↔ r.MinusWaits (seen ++ [t]) := by simp [hstep, hneg, ht, hn]
      simp only [hc, if_true] at hg ⊢
      cases k with
      | zero =>
        cases hg
        simp [hno]
      | succ k =>
        have := ih (seen ++ [t]) negated [] hn' k hg
        simp [this]
    · simp only [hc, Bool.false_eq_true, if_false, Nat.add_zero, exists_eq_left] at hg ⊢
      by_cases ht : r.isTerm t = true
      · have hneg : t.kind ≠ .negation := fun h => by simp [(r.of_negation t h).1] at ht
        have hn' : false = true ↔ r.MinusWaits (seen ++ [t]) := by simp [hstep, hneg, ht]
        cases hk : Criterion.ofToken? ctx t with
        | none =>
          have hno : ¬ r.IsTermOf ctx seen t x := fun h => by simpa [hk] using h.criterion
          simp only [ht, hk, if_true] at hg
          simpa [hno] using ih (seen ++ [t]) false sofar hn' k hg
        | some c =>
          simp only [ht, hk, if_true] at hg
          rw [ih (seen ++ [t]) false _ hn' k hg, r.isTermOf_iff_eq ht hk hn]
          simp only [List.mem_append, List.mem_singleton, and_or_left, or_assoc]
      · have hno : ¬ r.IsTermOf ctx seen t x := fun h => ht h.isTerm
        have hn' : (negated || t.kind == .negation) = true ↔ r.MinusWaits (seen ++ [t]) := by
          simp [hstep, ht, hn, or_comm]
        simp only [ht] at hg
        simpa [hno] using ih (seen ++ [t]) _ sofar hn' k hg

/-- The groups of a list of tokens are its blocks, one for each cut and one more. -/
theorem mem_groups_iff (r : Reading) (ctx : Context) (tokens : List Token) (k : Nat)
    (g : List Term) (hg : (r.groups ctx tokens)[k]? = some g) (x : Term) :
    x ∈ g ↔ r.IsTermIn ctx tokens k x := by
  have hn : false = true ↔ r.MinusWaits [] := by simp [r.not_minusWaits_nil]
  simpa [IsTermIn] using r.mem_groupsFrom_iff ctx [] tokens false [] hn k g hg x

theorem length_groups (r : Reading) (ctx : Context) (tokens : List Token) :
    (r.groups ctx tokens).length = tokens.countP r.isCut + 1 :=
  r.length_groupsFrom ctx false [] tokens

/-- Some group holds throughout exactly where some block does. -/
theorem exists_group_iff (r : Reading) (ctx : Context) (tokens : List Token)
    (P : Term → Prop) :
    (∃ g ∈ r.groups ctx tokens, ∀ x ∈ g, P x) ↔
      ∃ k ≤ tokens.countP r.isCut, ∀ x, r.IsTermIn ctx tokens k x → P x := by
  constructor
  · rintro ⟨g, hg, hp⟩
    obtain ⟨k, hk, rfl⟩ := List.mem_iff_getElem.mp hg
    have hblock := r.mem_groups_iff ctx tokens k _ (List.getElem?_eq_getElem hk)
    rw [length_groups] at hk
    exact ⟨k, by omega, fun x hx => hp x ((hblock x).mpr hx)⟩
  · rintro ⟨k, hk, hp⟩
    have hlt : k < (r.groups ctx tokens).length := by rw [length_groups]; omega
    have hblock := r.mem_groups_iff ctx tokens k _ (List.getElem?_eq_getElem hlt)
    exact ⟨_, List.getElem_mem hlt, fun x hx => hp x ((hblock x).mp hx)⟩

theorem groupsFrom_mixed (ctx : Context) (negated : Bool) (sofar : List Term)
    (tokens : List Token) :
    mixed.groupsFrom ctx negated sofar tokens = [sofar ++ Node.mixedTerms ctx negated tokens] := by
  induction tokens generalizing negated sofar with
  | nil => simp [groupsFrom, Node.mixedTerms]
  | cons t rest ih =>
    rw [groupsFrom, Node.mixedTerms]
    by_cases ht : t.kind = .negation
    · simp [ht, ih]
    · cases hk : Criterion.ofToken? ctx t <;> simp [ht, ih]

theorem groups_mixed (ctx : Context) (tokens : List Token) :
    mixed.groups ctx tokens = [Node.mixedTerms ctx false tokens] :=
  groupsFrom_mixed ctx false [] tokens

/-- A mixed query has no cuts, so that its terms stand in the first block. -/
theorem mem_mixedTerms_iff (ctx : Context) (tokens : List Token) (x : Term) :
    x ∈ Node.mixedTerms ctx false tokens ↔ ∃ k, mixed.IsTermIn ctx tokens k x := by
  have hmem := mixed.mem_groups_iff ctx tokens 0 _ (by rw [groups_mixed]; rfl) x
  constructor
  · exact fun hx => ⟨0, hmem.mp hx⟩
  · rintro ⟨k, front, t, back, htokens, hk, hx⟩
    have hzero : front.countP mixed.isCut = 0 := by simp
    exact hmem.mpr ⟨front, t, back, htokens, hzero, hx⟩

end Reading

namespace Node

def termsOf (sofar : Option Node) : List Term := (sofar.map leaves).getD []

theorem leaves_conjoin (byWord : Bool) (sofar : Option Node) (t : Term) :
    (conjoin byWord sofar t).leaves = termsOf sofar ++ [t] := by
  cases sofar with
  | none => rfl
  | some m =>
    cases byWord with
    | true => rfl
    | false =>
      cases m with
      | all terms => simp [conjoin, termsOf, leaves, leavesOfAll_eq]
      | _ => simp [conjoin, termsOf, leaves, leavesOfAll_eq]

theorem isConjunctive_conjoin (byWord : Bool) {sofar : Option Node} (t : Term)
    (h : ∀ m, sofar = some m → m.IsConjunctive) : (conjoin byWord sofar t).IsConjunctive := by
  cases sofar with
  | none => exact .term t
  | some m =>
    have hm := h m rfl
    have hlist : ∀ terms : List Node, (∀ k ∈ terms, k.IsConjunctive) →
        (all (terms ++ [.term t])).IsConjunctive := by
      intro terms hterms
      refine .all fun k hk => ?_
      rcases List.mem_append.mp hk with hk | hk
      · exact hterms k hk
      · rw [List.mem_singleton.mp hk]
        exact .term t
    cases byWord with
    | true => exact .and hm (.term t)
    | false =>
      cases m with
      | all terms =>
        cases hm with
        | all hterms => exact hlist terms hterms
      | _ => exact hlist [_] (by simpa using hm)

/-- One step of building conjunctions, in the words of the reading. -/
theorem conjunctions_cons (ctx : Context) (negated byWord : Bool) (sofar : Option Node)
    (t : Token) (rest : List Token) :
    conjunctions ctx negated byWord sofar (t :: rest) =
      if t.isOr then sofar.toList ++ conjunctions ctx negated byWord none rest
      else if Reading.pure.isTerm t then
        match Criterion.ofToken? ctx t with
        | none => conjunctions ctx false byWord sofar rest
        | some c => conjunctions ctx false false (some (conjoin byWord sofar ⟨c, negated⟩)) rest
      else
        conjunctions ctx (negated || t.kind == .negation) (byWord || t.kind == .connector)
          sofar rest := by
  rw [conjunctions]
  cases hk : t.kind with
  | negation => simp [Token.isOr, hk, Bool.beq_eq_decide_eq]
  | connector =>
    by_cases ho : t.text = Operator.or.word <;> simp [Token.isOr, hk, ho, Bool.beq_eq_decide_eq]
  | _ =>
    simp only [Token.isOr, Reading.pure_isTerm, hk]
    cases Criterion.ofToken? ctx t <;> rfl

/-- The conjunctions of a pure query are conjunctive, and their terms are the groups that
are not empty. The invariant speaks of the conjunction that is being built. -/
theorem conjunctions_groups (ctx : Context) (negated byWord : Bool) (sofar : Option Node)
    (tokens : List Token) (hc : ∀ m, sofar = some m → m.IsConjunctive)
    (hne : ∀ m, sofar = some m → m.leaves ≠ []) :
    (∀ m ∈ conjunctions ctx negated byWord sofar tokens, m.IsConjunctive) ∧
      (conjunctions ctx negated byWord sofar tokens).map leaves =
        (Reading.pure.groupsFrom ctx negated (termsOf sofar) tokens).filter (· ≠ []) := by
  induction tokens generalizing negated byWord sofar with
  | nil =>
    refine ⟨fun m hm => hc m (Option.mem_toList.mp hm), ?_⟩
    cases sofar with
    | none => rfl
    | some m => simp [conjunctions, Reading.groupsFrom, termsOf, hne m rfl]
  | cons t rest ih =>
    rw [conjunctions_cons, Reading.groupsFrom, Reading.pure_isCut]
    by_cases ho : t.isOr = true
    · simp only [ho, if_true]
      obtain ⟨hall, hmap⟩ := ih negated byWord none nofun nofun
      constructor
      · intro m hm
        rcases List.mem_append.mp hm with hm | hm
        · exact hc m (Option.mem_toList.mp hm)
        · exact hall m hm
      · rw [List.map_append, hmap]
        cases sofar with
        | none => simp [termsOf]
        | some m => simp [termsOf, hne m rfl]
    · by_cases ht : Reading.pure.isTerm t = true
      · cases hk : Criterion.ofToken? ctx t with
        | none =>
          simp only [ho, ht, if_true]
          exact ih false byWord sofar hc hne
        | some c =>
          have hc' : ∀ m, some (conjoin byWord sofar ⟨c, negated⟩) = some m →
              m.IsConjunctive := by
            rintro m ⟨⟩
            exact isConjunctive_conjoin byWord _ hc
          have hne' : ∀ m, some (conjoin byWord sofar ⟨c, negated⟩) = some m →
              m.leaves ≠ [] := by
            rintro m ⟨⟩
            simp [leaves_conjoin]
          have := ih false false _ hc' hne'
          simp only [ho, ht, if_true]
          rw [← leaves_conjoin byWord]
          exact this
      · simp only [ho, ht]
        exact ih _ _ sofar hc hne

/-- What a pure query needs for its blocks to have terms: no connective stands next to
another one or at an end. -/
theorem groupsFrom_ne_nil (ctx : Context) (expecting negated : Bool) (sofar : List Term)
    (tokens : List Token) (h : QueryMode.isPureFrom expecting tokens = true)
    (hs : expecting = false → sofar ≠ []) :
    ∀ g ∈ Reading.pure.groupsFrom ctx negated sofar tokens, g ≠ [] := by
  induction tokens generalizing expecting negated sofar with
  | nil =>
    rintro g hg
    rw [List.mem_singleton.mp hg]
    exact hs (by simpa [QueryMode.isPureFrom] using h)
  | cons t rest ih =>
    rw [Reading.groupsFrom, Reading.pure_isCut]
    rw [QueryMode.isPureFrom] at h
    cases hk : t.kind with
    | negation =>
      simp only [hk] at h
      simpa [Token.isOr, hk, Bool.beq_eq_decide_eq] using ih expecting true sofar h hs
    | connector =>
      simp only [hk, Bool.and_eq_true, Bool.not_eq_true'] at h
      have hsofar := hs h.1
      by_cases ho : t.text = Operator.or.word
      · simpa [Token.isOr, hk, ho, hsofar] using ih true negated [] h.2 nofun
      · simpa [Token.isOr, hk, ho, Bool.beq_eq_decide_eq] using ih true negated sofar h.2 nofun
    | tag | property =>
      simp only [hk] at h
      simpa [Token.isOr, hk, Criterion.ofToken?] using
        ih false false (sofar ++ [_]) h fun _ => by simp
    | _ => simp [hk] at h

end Node

end NoteQuery
