import NoteQuery.Proofs.Query.Quoting
import NoteQuery.Query.Segment

/-!
# Reading by position

Segments, unquoted texts and the two sides of a property are read here from a whole text
and a position in it, where a step can go outside. No step does, and what is read is what the
recursions over the rest of the text read.
-/
namespace NoteQuery

inductive Fault where
  /-- A position outside a text or a list. -/
  | position
  /-- Numbers that name no date or time. -/
  | date
  /-- A time outside the calendar. -/
  | calendar
  /-- A span that is not there. -/
  | missing
  deriving DecidableEq, Repr

namespace Checked

def item {α : Type} (xs : List α) (i : Nat) : Except Fault α :=
  match xs[i]? with
  | some a => .ok a
  | none => .error .position

def segmentsFrom (s : Text) (i : Nat) (quoted : Bool) (pending : Segment.Pending) :
    Except Fault (List Segment) :=
  if i < s.length then do
    let c ← item s i
    if c == '\\' && i + 1 < s.length then
      let d ← item s (i + 1)
      segmentsFrom s (i + 2) quoted (pending.extend i [c, d])
    else if Text.isBlank c && !quoted then
      let rest ← segmentsFrom s (i + 1) quoted none
      return pending.close i ++ rest
    else segmentsFrom s (i + 1) (quoted != (c == '"')) (pending.extend i [c])
  else .ok (pending.close s.length)
termination_by s.length - i

def segments (s : Text) : Except Fault (List Segment) := segmentsFrom s 0 false none

/-- A text from a position on, without its quotes and with its escapes resolved. -/
def unquoteFrom (s : Text) (i : Nat) : Except Fault Text :=
  if i < s.length then do
    let c ← item s i
    if c == '\\' && i + 1 < s.length then
      let d ← item s (i + 1)
      let rest ← unquoteFrom s (i + 2)
      return d :: rest
    else
      let rest ← unquoteFrom s (i + 1)
      return if c == '"' then rest else c :: rest
  else .ok []
termination_by s.length - i

def unquote (s : Text) : Except Fault Text := unquoteFrom s 0

/-- The parts around the first equals sign that counts from a position on. A backslash passes
over the next position without looking. -/
def sidesFrom (s : Text) (i : Nat) (quoted : Bool) : Except Fault (Option (Text × Text)) :=
  if i < s.length then do
    let c ← item s i
    if c == '\\' then sidesFrom s (i + 2) quoted
    else if c == '"' then sidesFrom s (i + 1) (!quoted)
    else if c == '=' && !quoted then return some (s.take i, s.drop (i + 1))
    else sidesFrom s (i + 1) quoted
  else .ok none
termination_by s.length - i

def sides (s : Text) : Except Fault (Text × Option Text) := do
  match ← sidesFrom s 0 false with
  | some (l, r) => return (l, some r)
  | none => return (s, none)

theorem ok_bind {α β : Type} (a : α) (f : α → Except Fault β) : Except.ok a >>= f = f a := rfl

theorem item_append {α : Type} (front : List α) (a : α) (rest : List α) :
    item (front ++ a :: rest) front.length = .ok a := by
  simp [item]

/-- The position behind a character. -/
theorem item_append_next {α : Type} (front : List α) (a b : α) (rest : List α) :
    item (front ++ a :: b :: rest) (front.length + 1) = .ok b := by
  simpa using item_append (front ++ [a]) b rest

/-- A backslash counts where a character stands behind it, -/
theorem escapes_at (front : Text) (c : Char) (rest : Text) :
    ('\\' == '\\' && front.length + 1 < (front ++ '\\' :: c :: rest).length) = true := by
  simp

/-- and nowhere else. -/
theorem not_escapes_at (front : Text) {c : Char} {rest : Text}
    (h : ∀ d more, c = '\\' → rest = d :: more → False) :
    ¬(c == '\\' && front.length + 1 < (front ++ c :: rest).length) = true := by
  intro hescape
  rw [Bool.and_eq_true, beq_iff_eq, decide_eq_true_eq] at hescape
  cases rest with
  | nil => simp at hescape
  | cons d more => exact h d more hescape.1 rfl

theorem segmentsFrom_append (front rest : Text) (quoted : Bool) (pending : Segment.Pending) :
    segmentsFrom (front ++ rest) front.length quoted pending =
      .ok (Segment.scan front.length quoted pending rest) := by
  generalize hpos : front.length = pos
  fun_induction Segment.scan pos quoted pending rest generalizing front with
  | case1 pos quoted pending =>
    rw [segmentsFrom, if_neg (by simp [hpos])]
    simp [hpos]
  | case2 pos quoted pending c rest ih =>
    subst hpos
    have hrest := ih (front ++ ['\\', c]) (by simp)
    rw [List.append_assoc] at hrest
    rw [segmentsFrom, if_pos (by simp), item_append, ok_bind, if_pos (escapes_at front c rest),
      item_append_next, ok_bind]
    exact hrest
  | case3 pos quoted pending c rest hescape hblank ih =>
    subst hpos
    have hrest := ih (front ++ [c]) (by simp)
    rw [List.append_assoc] at hrest
    rw [segmentsFrom, if_pos (by simp), item_append, ok_bind,
      if_neg (not_escapes_at front hescape), if_pos hblank]
    exact congrArg (· >>= _) hrest
  | case4 pos quoted pending c rest hescape hblank ih =>
    subst hpos
    have hrest := ih (front ++ [c]) (by simp)
    rw [List.append_assoc] at hrest
    rw [segmentsFrom, if_pos (by simp), item_append, ok_bind,
      if_neg (not_escapes_at front hescape), if_neg hblank]
    exact hrest

theorem segments_eq (s : Text) : segments s = .ok (Segment.split s) :=
  segmentsFrom_append [] s false none

theorem unquoteFrom_append (front rest : Text) :
    unquoteFrom (front ++ rest) front.length = .ok (Quote.unquote rest) := by
  fun_induction Quote.unquote rest generalizing front with
  | case1 => rw [unquoteFrom, if_neg (by simp)]
  | case2 c rest ih =>
    have hrest := ih (front ++ ['\\', c])
    rw [List.append_assoc, List.length_append] at hrest
    rw [unquoteFrom, if_pos (by simp), item_append, ok_bind, if_pos (escapes_at front c rest),
      item_append_next, ok_bind]
    exact congrArg (· >>= _) hrest
  | case3 c rest hescape hquote ih =>
    have hrest := ih (front ++ [c])
    rw [List.append_assoc, List.length_append] at hrest
    rw [unquoteFrom, if_pos (by simp), item_append, ok_bind,
      if_neg (not_escapes_at front hescape)]
    refine (congrArg (· >>= _) hrest).trans ?_
    rw [ok_bind, if_pos hquote]
    rfl
  | case4 c rest hescape hquote ih =>
    have hrest := ih (front ++ [c])
    rw [List.append_assoc, List.length_append] at hrest
    rw [unquoteFrom, if_pos (by simp), item_append, ok_bind,
      if_neg (not_escapes_at front hescape)]
    refine (congrArg (· >>= _) hrest).trans ?_
    rw [ok_bind, if_neg hquote]
    rfl

theorem unquote_eq (s : Text) : unquote s = .ok (Quote.unquote s) := unquoteFrom_append [] s

/-- A backslash at the end leads behind the end. -/
theorem sidesFrom_beyond {s : Text} {i : Nat} (h : s.length ≤ i) (quoted : Bool) :
    sidesFrom s i quoted = .ok none := by
  rw [sidesFrom, if_neg (by omega)]

theorem not_backslash {c : Char} {rest : Text} (hend : c = '\\' → rest = [] → False)
    (hescape : ∀ d more, c = '\\' → rest = d :: more → False) : ¬(c == '\\') = true := by
  rw [beq_iff_eq]
  intro hc
  cases rest with
  | nil => exact hend hc rfl
  | cons d more => exact hescape d more hc rfl

theorem sidesFrom_append (front rest : Text) (quoted : Bool) :
    sidesFrom (front ++ rest) front.length quoted =
      .ok (Quote.prepend front (Quote.splitFrom? ['='] quoted rest)) := by
  fun_induction Quote.splitFrom? ['='] quoted rest generalizing front with
  | case1 quoted => exact sidesFrom_beyond (by simp) quoted
  | case2 quoted =>
    rw [sidesFrom, if_pos (by simp), item_append, ok_bind, if_pos (beq_self_eq_true _)]
    exact sidesFrom_beyond (by simp) quoted
  | case3 quoted c rest ih =>
    have hrest := ih (front ++ ['\\', c])
    rw [List.append_assoc, List.length_append, Quote.prepend_append] at hrest
    rw [sidesFrom, if_pos (by simp), item_append, ok_bind, if_pos (beq_self_eq_true _)]
    exact hrest
  | case4 quoted c rest hend hescape hquote ih =>
    have hrest := ih (front ++ [c])
    rw [List.append_assoc, List.length_append, Quote.prepend_append] at hrest
    rw [sidesFrom, if_pos (by simp), item_append, ok_bind, if_neg (not_backslash hend hescape),
      if_pos hquote]
    exact hrest
  | case5 quoted c rest hend hescape hquote hsep =>
    have hequals : (c == '=' && !quoted) = true := by simpa using hsep
    rw [sidesFrom, if_pos (by simp), item_append, ok_bind, if_neg (not_backslash hend hescape),
      if_neg hquote, if_pos hequals]
    simp [Quote.prepend, pure, Except.pure]
  | case6 quoted c rest hend hescape hquote hsep ih =>
    have hequals : ¬(c == '=' && !quoted) = true := by simpa using hsep
    have hrest := ih (front ++ [c])
    rw [List.append_assoc, List.length_append, Quote.prepend_append] at hrest
    rw [sidesFrom, if_pos (by simp), item_append, ok_bind, if_neg (not_backslash hend hescape),
      if_neg hquote, if_neg hequals]
    exact hrest

theorem sides_eq (s : Text) : sides s = .ok (Quote.splitUnquoted ['='] s) := by
  have hfrom : sidesFrom s 0 false = .ok (Quote.splitFrom? ['='] false s) := by
    have h := sidesFrom_append [] s false
    cases hfound : Quote.splitFrom? ['='] false s with
    | none => simpa [hfound, Quote.prepend] using h
    | some found => simpa [hfound, Quote.prepend] using h
  rw [sides, hfrom, ok_bind, Quote.splitUnquoted]
  cases Quote.splitFrom? ['='] false s <;> rfl

end Checked

end NoteQuery
