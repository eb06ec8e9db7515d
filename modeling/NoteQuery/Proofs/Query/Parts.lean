import Mathlib.Data.List.Lex
import Mathlib.Order.Bounds.Defs
import NoteQuery.Proofs.Query.Closed

/-!
# Parts of a tree

A part of a tree has a position: the numbers of the branches that lead to it from the root on. Of
two positions the one further to the left is the smaller one in the order of lists. Describing a
tree meets all its parts, so it fails exactly if a foreign value is among them, and names the one
furthest to the left. The terms of a tree are what stands at its positions, in the same order, with
foreign values left out.
-/
namespace NoteQuery.Node

mutual

/-- What holds of a tree whenever it holds of its direct parts holds of every tree. -/
theorem of_children {motive : Node → Prop}
    (step : ∀ m, (∀ k ∈ m.children, motive k) → motive m) : ∀ m, motive m
  | .term _ => step _ nofun
  | .connector op left right =>
    step (.connector op left right) (List.forall_mem_cons.mpr
      ⟨of_children step left, List.forall_mem_singleton.mpr (of_children step right)⟩)
  | .all terms => step (.all terms) (forall_mem_of_children step terms)
  | .foreign _ => step _ nofun

theorem forall_mem_of_children {motive : Node → Prop}
    (step : ∀ m, (∀ k ∈ m.children, motive k) → motive m) :
    ∀ nodes : List Node, ∀ k ∈ nodes, motive k
  | [] => nofun
  | m :: rest =>
    List.forall_mem_cons.mpr ⟨of_children step m, forall_mem_of_children step rest⟩

end

/-- All of some trees have a property, or there is a first one that has not. -/
theorem forall_or_exists_first (P : Node → Prop) (nodes : List Node) :
    (∀ k ∈ nodes, P k) ∨
      ∃ front k back, nodes = front ++ k :: back ∧ (∀ c ∈ front, P c) ∧ ¬ P k := by
  classical
  cases hfind : nodes.find? fun k => !decide (P k) with
  | none =>
    left
    simpa using hfind
  | some k =>
    right
    obtain ⟨hk, front, back, hnodes, hfront⟩ := List.find?_eq_some_iff_append.mp hfind
    exact ⟨front, k, back, hnodes, by simpa using hfront, by simpa using hk⟩

/-- Whether a tree is put together from parts, of which a list may have none. -/
def isJoined : Node → Bool
  | connector _ _ _ => true
  | all _ => true
  | _ => false

theorem eq_of_not_isJoined {m : Node} (h : m.isJoined = false) :
    (∃ t, m = .term t) ∨ ∃ v, m = .foreign v := by
  cases m with
  | term t => exact Or.inl ⟨t, rfl⟩
  | foreign v => exact Or.inr ⟨v, rfl⟩
  | connector op left right => cases h
  | all terms => cases h

theorem children_of_not_isJoined {m : Node} (h : m.isJoined = false) : m.children = [] := by
  rcases eq_of_not_isJoined h with ⟨t, rfl⟩ | ⟨v, rfl⟩ <;> rfl

theorem isJoined_of_children {m k : Node} {front back : List Node}
    (hk : m.children = front ++ k :: back) : m.isJoined := by
  cases hm : m.isJoined with
  | true => rfl
  | false =>
    have hnil : m.children = [] := children_of_not_isJoined hm
    rw [hnil] at hk
    cases front <;> cases hk

/-! ## Positions -/

/-- The part of a tree at a position. -/
def part? (m : Node) : List Nat → Option Node
  | [] => some m
  | i :: p => m.children[i]?.bind fun k => k.part? p

/-- Of the places where a foreign value stands, the first one holds this value. -/
def IsFirstForeign (stands : List Nat → Node → Prop) (v : Value) : Prop :=
  ∃ p, IsLeast {q | ∃ w, stands q (.foreign w)} p ∧ stands p (.foreign v)

variable {m k x : Node} {front back : List Node} {i : Nat} {p : List Nat} {v : Value}

theorem part?_cons_eq_some_iff :
    m.part? (i :: p) = some x ↔ ∃ k, m.children[i]? = some k ∧ k.part? p = some x :=
  Option.bind_eq_some_iff

/-- A tree that is not put together is its only part. -/
theorem part?_eq_some_of_not_isJoined (hm : m.isJoined = false) (hx : m.part? p = some x) :
    p = [] ∧ x = m := by
  cases p with
  | nil => exact ⟨rfl, (Option.some.inj hx).symm⟩
  | cons i p =>
    rw [part?, children_of_not_isJoined hm] at hx
    cases hx

theorem part?_child (hk : m.children = front ++ k :: back) (p : List Nat) :
    m.part? (front.length :: p) = k.part? p := by
  rw [part?, hk, List.getElem?_append_right (Nat.le_refl _), Nat.sub_self]
  rfl

theorem part?_ne_foreign_of_mem (h : ∀ p v, m.part? p ≠ some (.foreign v)) (hk : k ∈ m.children)
    (p : List Nat) (v : Value) : k.part? p ≠ some (.foreign v) := by
  intro hp
  obtain ⟨i, hi⟩ := List.mem_iff_getElem?.mp hk
  exact h (i :: p) v (part?_cons_eq_some_iff.mpr ⟨k, hi, hp⟩)

theorem IsClosed.of_children (hm : m.isJoined) (h : ∀ k ∈ m.children, k.IsClosed) :
    m.IsClosed := by
  cases m with
  | term t => cases hm
  | foreign v => cases hm
  | all terms => exact .all h
  | connector op left right =>
    rw [children, List.forall_mem_cons, List.forall_mem_singleton] at h
    exact .connector op h.1 h.2

theorem IsClosed.mem_children (h : m.IsClosed) (hk : k ∈ m.children) : k.IsClosed := by
  cases h with
  | term t => cases hk
  | all h => exact h k hk
  | connector op hl hr =>
    rcases List.mem_pair.mp hk with rfl | rfl
    · exact hl
    · exact hr

/-- The closed trees are those without a foreign part. -/
theorem isClosed_iff (m : Node) : m.IsClosed ↔ ∀ p v, m.part? p ≠ some (.foreign v) := by
  induction m using of_children with
  | step m ih =>
    cases hm : m.isJoined with
    | true =>
      constructor
      · rintro h (_ | ⟨i, p⟩) v hp
        · cases Option.some.inj hp
          cases hm
        · obtain ⟨k, hi, hk⟩ := part?_cons_eq_some_iff.mp hp
          have hmem := List.mem_of_getElem? hi
          exact (ih k hmem).mp (h.mem_children hmem) p v hk
      · intro h
        exact .of_children hm fun k hk => (ih k hk).mpr (part?_ne_foreign_of_mem h hk)
    | false =>
      rcases eq_of_not_isJoined hm with ⟨t, rfl⟩ | ⟨v, rfl⟩
      · refine iff_of_true (.term t) ?_
        intro p v hp
        cases (part?_eq_some_of_not_isJoined hm hp).2
      · exact iff_of_false nofun fun h => h [] v rfl

/-- Where no foreign value is in the parts in front, the first one of a part is the first one of
the whole tree. -/
theorem IsFirstForeign.of_child (hk : m.children = front ++ k :: back)
    (hfront : ∀ c ∈ front, c.IsClosed) (h : IsFirstForeign (fun p x => k.part? p = some x) v) :
    IsFirstForeign (fun p x => m.part? p = some x) v := by
  obtain ⟨p, ⟨-, hleast⟩, hp⟩ := h
  have hmp : m.part? (front.length :: p) = some (.foreign v) := (part?_child hk p).trans hp
  refine ⟨front.length :: p, ⟨⟨v, hmp⟩, ?_⟩, hmp⟩
  rintro (_ | ⟨i, q⟩) ⟨w, hq⟩
  · have hm := isJoined_of_children hk
    rw [Option.some.inj hq] at hm
    cases hm
  · rcases Nat.lt_trichotomy i front.length with hlt | rfl | hlt
    · -- Nothing foreign stands further to the left.
      obtain ⟨c, hc, hcq⟩ := part?_cons_eq_some_iff.mp hq
      rw [hk, List.getElem?_append_left hlt] at hc
      exact absurd hcq ((isClosed_iff c).mp (hfront c (List.mem_of_getElem? hc)) q w)
    · rw [part?_child hk] at hq
      exact List.cons_le_cons _ (hleast ⟨w, hq⟩)
    · exact le_of_lt (List.cons_lt_cons_iff.mpr (Or.inl hlt))

/-! ## Describing -/

theorem describeAll_of_forall {nodes : List Node} (h : ∀ k ∈ nodes, ∃ s, k.describe = .ok s) :
    ∃ ss, describeAll nodes = .ok ss := by
  induction nodes with
  | nil => exact ⟨[], rfl⟩
  | cons m rest ih =>
    rw [List.forall_mem_cons] at h
    obtain ⟨s, hs⟩ := h.1
    obtain ⟨ss, hss⟩ := ih h.2
    refine ⟨s :: ss, ?_⟩
    rw [describeAll, hs, hss]
    rfl

theorem describeAll_of_first {e : UnknownNode} (hfront : ∀ c ∈ front, ∃ s, c.describe = .ok s)
    (h : k.describe = .error e) (back : List Node) :
    describeAll (front ++ k :: back) = .error e := by
  induction front with
  | nil =>
    rw [List.nil_append, describeAll, h]
    rfl
  | cons m rest ih =>
    rw [List.forall_mem_cons] at hfront
    obtain ⟨s, hs⟩ := hfront.1
    rw [List.cons_append, describeAll, hs, ih hfront.2]
    rfl

/-- A connective and a list are written from the texts of their parts. -/
theorem exists_describe_eq_map (hm : m.isJoined) :
    ∃ write : List Text → Text, m.describe = (describeAll m.children).map write := by
  cases m with
  | term t => cases hm
  | foreign v => cases hm
  | all terms => exact ⟨_, rfl⟩
  | connector op left right =>
    refine ⟨fun texts => ['('] ++ texts.headD [] ++ [' '] ++ op.word ++ [' '] ++
      texts.getLastD [] ++ [')'], ?_⟩
    rw [describe, children, describeAll, describeAll, describeAll]
    cases left.describe with
    | error e => rfl
    | ok l => cases right.describe <;> rfl

/-- Describing a tree succeeds and the tree is closed, or the first foreign value is named. -/
def DescribesOrNames (m : Node) : Prop :=
  (∃ s, m.describe = .ok s) ∧ m.IsClosed ∨
    ∃ v, m.describe = .error ⟨v⟩ ∧ IsFirstForeign (fun p k => m.part? p = some k) v

theorem DescribesOrNames.isClosed (h : m.DescribesOrNames) (hok : ∃ s, m.describe = .ok s) :
    m.IsClosed := by
  rcases h with ⟨-, hclosed⟩ | ⟨v, hv, -⟩
  · exact hclosed
  · obtain ⟨s, hs⟩ := hok
    rw [hs] at hv
    cases hv

theorem DescribesOrNames.of_children (hm : m.isJoined)
    (h : ∀ k ∈ m.children, k.DescribesOrNames) : m.DescribesOrNames := by
  obtain ⟨write, hwrite⟩ := exists_describe_eq_map hm
  rcases forall_or_exists_first (fun k => ∃ s, k.describe = .ok s) m.children with
    hall | ⟨front, k, back, hk, hfront, hfails⟩
  · left
    obtain ⟨ss, hss⟩ := describeAll_of_forall hall
    rw [hss] at hwrite
    exact ⟨⟨write ss, hwrite⟩, .of_children hm fun k hk => (h k hk).isClosed (hall k hk)⟩
  · right
    rw [hk, List.forall_mem_append, List.forall_mem_cons] at h
    rcases h.2.1 with ⟨hok, -⟩ | ⟨v, hv, hfirst⟩
    · exact absurd hok hfails
    · rw [hk, describeAll_of_first hfront hv] at hwrite
      exact ⟨v, hwrite, .of_child hk (fun c hc => (h.1 c hc).isClosed (hfront c hc)) hfirst⟩

theorem describesOrNames (m : Node) : m.DescribesOrNames := by
  induction m using of_children with
  | step m ih =>
    cases hm : m.isJoined with
    | true => exact .of_children hm ih
    | false =>
      rcases eq_of_not_isJoined hm with ⟨t, rfl⟩ | ⟨v, rfl⟩
      · exact Or.inl ⟨⟨t.describe, rfl⟩, .term t⟩
      · right
        exact ⟨v, rfl, [], ⟨⟨v, rfl⟩, fun q _ => not_lt.mp (List.not_lt_nil q)⟩, rfl⟩

/-- Exactly the closed trees can be described, -/
theorem exists_describe_eq_ok_iff (m : Node) : (∃ s, m.describe = .ok s) ↔ m.IsClosed := by
  rcases describesOrNames m with ⟨hok, hclosed⟩ | ⟨v, hv, p, -, hp⟩
  · exact iff_of_true hok hclosed
  · rw [hv]
    exact iff_of_false nofun fun hclosed => (isClosed_iff m).mp hclosed p v hp

/-- so describing a tree fails if a foreign value is among its parts, -/
theorem exists_describe_eq_error_iff (m : Node) :
    (∃ e, m.describe = .error e) ↔ ∃ p v, m.part? p = some (.foreign v) := by
  rcases describesOrNames m with ⟨⟨s, hs⟩, hclosed⟩ | ⟨v, hv, p, -, hp⟩
  · rw [hs]
    exact iff_of_false nofun fun ⟨p, v, hp⟩ => (isClosed_iff m).mp hclosed p v hp
  · exact iff_of_true ⟨_, hv⟩ ⟨p, v, hp⟩

/-- and the error names the first one. -/
theorem describe_eq_error_iff (m : Node) (v : Value) :
    m.describe = .error ⟨v⟩ ↔ IsFirstForeign (fun p k => m.part? p = some k) v := by
  rcases describesOrNames m with ⟨⟨s, hs⟩, hclosed⟩ | ⟨w, hw, hfirst⟩
  · rw [hs]
    exact iff_of_false nofun fun ⟨p, _, hp⟩ => (isClosed_iff m).mp hclosed p v hp
  · rw [hw]
    constructor
    · rintro ⟨⟩
      exact hfirst
    · rintro ⟨q, hq, hqv⟩
      obtain ⟨p, hp, hpw⟩ := hfirst
      have heq : p = q := le_antisymm (hp.2 hq.1) (hq.2 hp.1)
      rw [heq, hqv, Option.some.injEq] at hpw
      cases hpw
      rfl

/-! ## Terms -/

theorem leaves_eq_flatMap (hm : m.isJoined) : m.leaves = m.children.flatMap leaves := by
  cases m with
  | term t => cases hm
  | foreign v => cases hm
  | connector op left right => simp [leaves, children]
  | all terms => exact leavesOfAll_eq terms

/-- The terms of a tree with their positions, from left to right. -/
structure IsPlacing (m : Node) (placed : List (List Nat × Term)) : Prop where
  leaves_eq : placed.map (·.2) = m.leaves
  sorted : placed.Pairwise fun a b => a.1 < b.1
  mem_iff : ∀ p t, (p, t) ∈ placed ↔ m.part? p = some (.term t)

theorem isPlacing_term (t : Term) : (term t).IsPlacing [([], t)] := by
  refine ⟨rfl, List.pairwise_singleton _ _, ?_⟩
  intro p u
  rw [List.mem_singleton, Prod.mk.injEq]
  constructor
  · rintro ⟨rfl, rfl⟩
    rfl
  · intro hp
    obtain ⟨rfl, hu⟩ := part?_eq_some_of_not_isJoined rfl hp
    cases hu
    exact ⟨rfl, rfl⟩

theorem isPlacing_foreign (v : Value) : (foreign v).IsPlacing [] := by
  refine ⟨rfl, .nil, ?_⟩
  intro p t
  refine iff_of_false List.not_mem_nil ?_
  intro hp
  cases (part?_eq_some_of_not_isJoined rfl hp).2

/-- The terms of some branches, each position with the number of its branch in front. -/
def placedBelow (placed : Node → List (List Nat × Term)) (nodes : List Node) :
    List (List Nat × Term) :=
  nodes.zipIdx.flatMap fun k => (placed k.1).map fun a => (k.2 :: a.1, a.2)

variable {placed : Node → List (List Nat × Term)} {nodes : List Node}

theorem map_snd_placedBelow (h : ∀ k ∈ nodes, k.IsPlacing (placed k)) :
    (placedBelow placed nodes).map (·.2) = nodes.flatMap leaves := by
  have hterms : ∀ k ∈ nodes.zipIdx,
      ((placed k.1).map fun a => (k.2 :: a.1, a.2)).map (·.2) = k.1.leaves := by
    intro k hk
    rw [List.map_map, ← (h k.1 (List.fst_mem_of_mem_zipIdx hk)).leaves_eq]
    rfl
  rw [placedBelow, List.map_flatMap, List.flatMap_congr hterms,
    ← List.flatMap_map Prod.fst leaves, List.zipIdx_map_fst]

theorem pairwise_zipIdx (nodes : List Node) : nodes.zipIdx.Pairwise fun a b => a.2 < b.2 := by
  rw [← List.pairwise_map (R := (· < ·)), List.zipIdx_map_snd]
  exact List.pairwise_lt_range'

theorem sorted_placedBelow (h : ∀ k ∈ nodes, k.IsPlacing (placed k)) :
    (placedBelow placed nodes).Pairwise fun a b => a.1 < b.1 := by
  rw [placedBelow, List.pairwise_flatMap]
  constructor
  · intro k hk
    rw [List.pairwise_map]
    refine (h k.1 (List.fst_mem_of_mem_zipIdx hk)).sorted.imp ?_
    intro a b hab
    exact List.cons_lt_cons_iff.mpr (Or.inr ⟨rfl, hab⟩)
  · refine (pairwise_zipIdx nodes).imp ?_
    intro k k' hlt x hx y hy
    obtain ⟨a, -, rfl⟩ := List.mem_map.mp hx
    obtain ⟨b, -, rfl⟩ := List.mem_map.mp hy
    exact List.cons_lt_cons_iff.mpr (Or.inl hlt)

theorem mem_placedBelow_iff {t : Term} :
    (p, t) ∈ placedBelow placed nodes ↔
      ∃ i q k, p = i :: q ∧ nodes[i]? = some k ∧ (q, t) ∈ placed k := by
  simp only [placedBelow, List.mem_flatMap, List.mem_map, Prod.exists, Prod.mk.injEq,
    List.mem_zipIdx_iff_getElem?]
  constructor
  · rintro ⟨k, i, hk, q, u, hq, rfl, rfl⟩
    exact ⟨i, q, k, rfl, hk, hq⟩
  · rintro ⟨i, q, k, rfl, hk, hq⟩
    exact ⟨k, i, hk, q, t, hq, rfl, rfl⟩

theorem IsPlacing.of_children (hm : m.isJoined)
    (h : ∀ k ∈ m.children, k.IsPlacing (placed k)) :
    m.IsPlacing (placedBelow placed m.children) := by
  refine ⟨?_, sorted_placedBelow h, ?_⟩
  · rw [map_snd_placedBelow h, leaves_eq_flatMap hm]
  · intro p t
    rw [mem_placedBelow_iff]
    constructor
    · rintro ⟨i, q, k, rfl, hk, hq⟩
      have hplaced := h k (List.mem_of_getElem? hk)
      exact part?_cons_eq_some_iff.mpr ⟨k, hk, (hplaced.mem_iff q t).mp hq⟩
    · intro hp
      cases p with
      | nil =>
        cases Option.some.inj hp
        cases hm
      | cons i q =>
        obtain ⟨k, hk, hq⟩ := part?_cons_eq_some_iff.mp hp
        have hplaced := h k (List.mem_of_getElem? hk)
        exact ⟨i, q, k, rfl, hk, (hplaced.mem_iff q t).mpr hq⟩

theorem exists_isPlacing (m : Node) : ∃ placed, m.IsPlacing placed := by
  induction m using of_children with
  | step m ih =>
    cases hm : m.isJoined with
    | true =>
      choose! placed hplaced using ih
      exact ⟨_, .of_children hm hplaced⟩
    | false =>
      rcases eq_of_not_isJoined hm with ⟨t, rfl⟩ | ⟨v, rfl⟩
      · exact ⟨_, isPlacing_term t⟩
      · exact ⟨_, isPlacing_foreign v⟩

end NoteQuery.Node
