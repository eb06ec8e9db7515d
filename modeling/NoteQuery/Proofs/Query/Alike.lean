import NoteQuery.Proofs.Query.Evaluation

/-!
# Trees of one shape

Two trees are alike if they are built in the same way from terms that correspond to each other.
Evaluation takes from a term nothing but its answer. So if corresponding terms give the same
answers, each on a note of its own, the trees have the same result on these notes, be it an answer
or an error.
-/
namespace NoteQuery.Node

variable {R : Term → Term → Prop}

mutual

/-- Trees of one shape with corresponding terms. -/
inductive Alike (R : Term → Term → Prop) : Node → Node → Prop where
  | term {x y : Term} (h : R x y) : Alike R (.term x) (.term y)
  | connector (op : Operator) {left right left' right' : Node} (hl : Alike R left left')
      (hr : Alike R right right') : Alike R (.connector op left right) (.connector op left' right')
  | all {terms terms' : List Node} (h : AllAlike R terms terms') :
      Alike R (.all terms) (.all terms')
  | foreign (v : Value) : Alike R (.foreign v) (.foreign v)

inductive AllAlike (R : Term → Term → Prop) : List Node → List Node → Prop where
  | nil : AllAlike R [] []
  | cons {m m' : Node} {rest rest' : List Node} (h : Alike R m m') (hrest : AllAlike R rest rest') :
      AllAlike R (m :: rest) (m' :: rest')

end

mutual

/-- A tree is like itself if each of its terms corresponds to itself. -/
theorem alike_self : ∀ m : Node, (∀ x ∈ m.leaves, R x x) → Alike R m m
  | .term x, h => .term (h x List.mem_cons_self)
  | .connector op left right, h =>
    .connector op (alike_self left fun x hx => h x (List.mem_append_left _ hx))
      (alike_self right fun x hx => h x (List.mem_append_right _ hx))
  | .all terms, h => .all (allAlike_self terms h)
  | .foreign v, _ => .foreign v

theorem allAlike_self :
    ∀ terms : List Node, (∀ x ∈ leavesOfAll terms, R x x) → AllAlike R terms terms
  | [], _ => .nil
  | m :: rest, h =>
    .cons (alike_self m fun x hx => h x (List.mem_append_left _ hx))
      (allAlike_self rest fun x hx => h x (List.mem_append_right _ hx))

end

variable {a b : Note}

mutual

/-- Alike trees have one result if their terms do. -/
theorem Alike.holds_eq (hR : ∀ x y, R x y → x.holds a = y.holds b) :
    ∀ {m k : Node}, Alike R m k → m.holds a = k.holds b
  | _, _, .term h => by rw [holds_term, holds_term, hR _ _ h]
  | _, _, .connector .and hl hr => by rw [holds_and, holds_and, hl.holds_eq hR, hr.holds_eq hR]
  | _, _, .connector .or hl hr => by rw [holds_or, holds_or, hl.holds_eq hR, hr.holds_eq hR]
  | _, _, .all h => h.allHold_eq hR
  | _, _, .foreign _ => rfl

theorem AllAlike.allHold_eq (hR : ∀ x y, R x y → x.holds a = y.holds b) :
    ∀ {ms ks : List Node}, AllAlike R ms ks → allHold ms a = allHold ks b
  | _, _, .nil => rfl
  | _, _, .cons h hrest => by
    rw [allHold_cons, allHold_cons, h.holds_eq hR, hrest.allHold_eq hR]

end

/-- A tree has one result on two notes if each of its terms has. -/
theorem holds_congr {m : Node} (h : ∀ x ∈ m.leaves, x.holds a = x.holds b) :
    m.holds a = m.holds b := by
  have hself : Alike (fun x y => x.holds a = y.holds b) m m := alike_self m h
  exact hself.holds_eq fun _ _ hxy => hxy

end NoteQuery.Node
