import NoteQuery.Console
import NoteQuery.Proofs.Text.Splitting

/-!
# Whole lines

A console prints whole lines, and a word at the start of what it is given stands at the start of
one of them, provided that the lines are wide enough and hold no codes for colours. Of a console
that is so, this is all that is used. What a machine prints on it are whole lines as well.
-/
namespace NoteQuery

namespace Text

/-- A text that leaves no line open. -/
def EndsLine (s : Text) : Prop := s = [] ∨ ∃ t, s = t ++ ['\n']

/-- A line of a text begins with another text. -/
def HasLine (start s : Text) : Prop := ∃ line ∈ lines s, start <+: line

instance (start s : Text) : Decidable (HasLine start s) :=
  inferInstanceAs (Decidable (∃ line ∈ _, _))

theorem EndsLine.append {s t : Text} (hs : s.EndsLine) (ht : t.EndsLine) : EndsLine (s ++ t) := by
  rcases ht with rfl | ⟨t, rfl⟩
  · rwa [List.append_nil]
  · exact Or.inr ⟨s ++ t, (List.append_assoc s t _).symm⟩

theorem EndsLine.hasLine_append {s t start : Text} (hs : s.EndsLine) (h : HasLine start t) :
    HasLine start (s ++ t) := by
  rcases hs with rfl | ⟨s, rfl⟩
  · exact h
  · obtain ⟨line, hline, hstart⟩ := h
    refine ⟨line, ?_, hstart⟩
    rw [lines, splitOn_char] at hline ⊢
    rw [List.append_assoc, List.singleton_append, List.splitOn_append_cons_self]
    exact List.mem_append_right _ hline

/-- Characters that do not cut a text stay at its start. -/
theorem exists_splitOn_append {c : Char} {w : Text} (hw : c ∉ w) (s : Text) :
    ∃ first others, splitOn [c] (w ++ s) = (w ++ first) :: others := by
  induction w with
  | nil => exact List.exists_cons_of_ne_nil (splitOn_ne_nil c s)
  | cons d w ih =>
    rw [List.mem_cons, not_or] at hw
    obtain ⟨first, others, h⟩ := ih hw.2
    exact ⟨first, others, by rw [List.cons_append, splitOn_cons, if_neg (Ne.symm hw.1), h]; rfl⟩

theorem hasLine_of_prefix {start s : Text} (h : start <+: s) (hstart : '\n' ∉ start) :
    HasLine start s := by
  obtain ⟨rest, rfl⟩ := h
  obtain ⟨first, others, hlines⟩ := exists_splitOn_append hstart rest
  exact ⟨start ++ first, by rw [lines, hlines]; exact List.mem_cons_self, List.prefix_append _ _⟩

end Text

def label (word : Text) : Text := word ++ [':', ' ']

namespace Console

/-- A console with lines of some cells and an output that shows no colours. -/
structure LaysOut (c : Console) (width : Nat) : Prop where
  endsLine : ∀ {colour state b s after}, c.print colour state b = (.ok s, after) → s.EndsLine
  /-- Markup in a style starts a line with its first word. -/
  hasLine : ∀ {colour state s after} (style : String) (word rest : Text),
    style.toList ≠ [] → (∀ ch ∈ style.toList, ch.isLower) →
    word ≠ [] → (∀ ch ∈ word, ch.isAlpha) → (label word).length ≤ width →
    c.print colour state (.markup (styled style (label word ++ rest))) = (.ok s, after) →
    Text.HasLine (label word) s

end Console

namespace Machine

variable {m : Machine} {width : Nat}

theorem print_endsLine (h : m.console.LaysOut width) {colour : Bool} {st st' : Printed m.console}
    {p : Print} {fault : Option PrintFault} (hprint : m.print colour st p = (fault, st'))
    (hst : st.output.EndsLine) : st'.output.EndsLine := by
  cases p with
  | line s =>
    rw [print] at hprint
    split at hprint
    · cases hprint
      exact hst
    · cases hprint
      exact Or.inr ⟨st.output ++ s, rfl⟩
  | block b =>
    rw [print] at hprint
    split at hprint
    · next hblock =>
      cases hprint
      exact hst.append (h.endsLine hblock)
    · cases hprint
      exact hst

/-- What has been printed before an error ends a line. -/
theorem printAll_endsLine (h : m.console.LaysOut width) {colour : Bool}
    {st st' : Printed m.console} {ps : List Print} {fault : Option PrintFault}
    (hprint : m.printAll colour st ps = (fault, st')) (hst : st.output.EndsLine) :
    st'.output.EndsLine := by
  induction ps generalizing st with
  | nil =>
    cases hprint
    exact hst
  | cons p rest ih =>
    rw [printAll] at hprint
    split at hprint
    · next hfirst => exact ih hprint (print_endsLine h hfirst hst)
    · next hfirst =>
      cases hprint
      exact print_endsLine h hfirst hst

end Machine

end NoteQuery
