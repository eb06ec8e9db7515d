import NoteQuery.Folder

/-!
# Paths that are cut at slashes

Cutting a text at a character gives pieces without that character, and joining them gives
the text back. The segments of a path are the pieces with something in them, and a path
that is joined from such segments has them as its own.
-/
namespace NoteQuery

namespace Text

theorem splitOn_char (c : Char) (s : Text) : splitOn [c] s = List.splitOn c s := by
  rw [splitOn]
  induction s with
  | nil => rfl
  | cons d rest ih =>
    rw [splitFrom, List.splitOn, List.splitOnP_cons_eq_if_modifyHead, ← List.splitOn, ← ih]
    by_cases h : d = c
    · simp [h]
    · have hcut : [c].isPrefixOf (d :: rest) = false := by
        rw [List.isPrefixOf, beq_eq_false_iff_ne.mpr (Ne.symm h), Bool.false_and]
      have hne : splitFrom [c] 0 rest ≠ [] := ih ▸ List.splitOnP_ne_nil _ rest
      rw [hcut, if_neg Bool.false_ne_true, if_neg (by simpa using h)]
      obtain ⟨w, ws, hws⟩ := List.exists_cons_of_ne_nil hne
      rw [hws]
      rfl

theorem splitOn_cons (c d : Char) (rest : Text) :
    splitOn [c] (d :: rest) =
      if d = c then [] :: splitOn [c] rest
      else (splitOn [c] rest).modifyHead (d :: ·) := by
  rw [splitOn_char, splitOn_char, List.splitOn, List.splitOnP_cons_eq_if_modifyHead]
  simp only [beq_iff_eq]
  rfl

theorem not_mem_of_mem_splitOn {c : Char} {s w : Text} (h : w ∈ splitOn [c] s) : c ∉ w := by
  induction s generalizing w with
  | nil =>
    rw [List.mem_singleton.mp h]
    exact List.not_mem_nil
  | cons d rest ih =>
    rw [splitOn_cons] at h
    by_cases hd : d = c
    · rw [if_pos hd] at h
      rcases List.mem_cons.mp h with rfl | h
      · exact List.not_mem_nil
      · exact ih h
    · rw [if_neg hd] at h
      cases hws : splitOn [c] rest with
      | nil =>
        rw [hws] at h
        cases h
      | cons v vs =>
        rw [hws] at h ih
        rcases List.mem_cons.mp h with rfl | h
        · rw [List.mem_cons, not_or]
          exact ⟨Ne.symm hd, ih List.mem_cons_self⟩
        · exact ih (List.mem_cons_of_mem v h)

theorem splitOn_join {c : Char} {ws : List Text} (h : ∀ w ∈ ws, c ∉ w) (hne : ws ≠ []) :
    splitOn [c] (join [c] ws) = ws := by
  rw [splitOn_char, join, List.splitOn_intercalate c h hne]

/-- A text is found again from its pieces. -/
theorem splitOn_injective (c : Char) : Function.Injective (List.splitOn c : Text → List Text) :=
  Function.LeftInverse.injective fun _ => List.intercalate_splitOn c

/-- The pieces of a text begin with those of another text exactly if the text is that text, or
goes on behind it with a separator. -/
theorem splitOn_prefix_iff (c : Char) (s t : Text) :
    List.splitOn c s <+: List.splitOn c t ↔ t = s ∨ s ++ [c] <+: t := by
  constructor
  · rintro ⟨rest, hrest⟩
    by_cases hnil : rest = []
    · rw [hnil, List.append_nil] at hrest
      exact Or.inl (splitOn_injective c hrest.symm)
    · have hpieces : ∀ w ∈ rest, c ∉ w := by
        intro w hw
        apply not_mem_of_mem_splitOn (s := t)
        rw [splitOn_char, ← hrest]
        exact List.mem_append_right _ hw
      have hback : List.splitOn c (List.intercalate [c] rest) = rest :=
        List.splitOn_intercalate c hpieces hnil
      have ht : s ++ c :: List.intercalate [c] rest = t := by
        apply splitOn_injective c
        rw [List.splitOn_append_cons_self, hback, hrest]
      exact Or.inr ⟨List.intercalate [c] rest, by simpa using ht⟩
  · rintro (rfl | ⟨rest, rfl⟩)
    · exact List.prefix_rfl
    · rw [List.append_assoc, List.singleton_append, List.splitOn_append_cons_self]
      exact List.prefix_append _ _

theorem splitOn_ne_nil (c : Char) (s : Text) : splitOn [c] s ≠ [] := by
  rw [splitOn_char]
  exact List.splitOnP_ne_nil _ s

theorem join_singleton (sep t : Text) : join sep [t] = t := List.intercalate_singleton

theorem join_cons_cons (sep x y : Text) (rest : List Text) :
    join sep (x :: y :: rest) = x ++ sep ++ join sep (y :: rest) :=
  List.intercalate_cons_cons

/-- Pieces put together start with the first one. -/
theorem exists_join_append (sep t : Text) (ts : List Text) :
    ∃ rest, join sep (t :: ts) = t ++ rest := by
  cases ts with
  | nil => exact ⟨[], by rw [join_singleton, List.append_nil]⟩
  | cons u ts => exact ⟨_, by rw [join_cons_cons, List.append_assoc]⟩

theorem not_mem_join {c : Char} {sep : Text} (hsep : c ∉ sep) {ts : List Text}
    (h : ∀ t ∈ ts, c ∉ t) : c ∉ join sep ts := by
  induction ts with
  | nil => exact List.not_mem_nil
  | cons t ts ih =>
    rw [List.forall_mem_cons] at h
    cases ts with
    | nil =>
      rw [join_singleton]
      exact h.1
    | cons u ts =>
      rw [join_cons_cons, List.mem_append, List.mem_append, not_or, not_or]
      exact ⟨⟨h.1, hsep⟩, ih h.2⟩

end Text

namespace Folder

theorem segments_eq (path : Text) :
    segments path = (List.splitOn '/' path).filter (!·.isEmpty) := by
  rw [segments, segmentsBy, slash, Text.splitOn_char]
  cases path with
  | nil => rfl
  | cons c path => rfl

/-- A slash parts the segments in front of it from those behind it. -/
theorem segments_append_slash (s t : Text) :
    segments (s ++ '/' :: t) = segments s ++ segments t := by
  rw [segments_eq, segments_eq, segments_eq, List.splitOn_append_cons_self, List.filter_append]

theorem segments_slashes_append {front : Text} (h : ∀ c ∈ front, c = '/') (s : Text) :
    segments (front ++ s) = segments s := by
  induction front with
  | nil => rfl
  | cons c front ih =>
    rw [List.forall_mem_cons] at h
    rw [h.1, List.cons_append, ← ih h.2]
    exact segments_append_slash [] (front ++ s)

theorem segments_append_slashes (s : Text) {back : Text} (h : ∀ c ∈ back, c = '/') :
    segments (s ++ back) = segments s := by
  cases back with
  | nil => rw [List.append_nil]
  | cons c back =>
    rw [List.forall_mem_cons] at h
    have hback := segments_slashes_append h.2 []
    rw [List.append_nil] at hback
    rw [h.1, segments_append_slash, hback]
    exact List.append_nil _

/-- A text without a slash is a segment, unless it is empty. -/
theorem segments_of_not_mem {s : Text} (h : '/' ∉ s) (hne : s ≠ []) : segments s = [s] := by
  rw [segments_eq, List.splitOn_eq_singleton h]
  simp [hne]

theorem mem_segments {path w : Text} (h : w ∈ segments path) : w ≠ [] ∧ '/' ∉ w := by
  rw [segments, segmentsBy] at h
  split at h
  · cases h
  · obtain ⟨hmem, hfull⟩ := List.mem_filter.mp h
    exact ⟨by simpa using hfull, Text.not_mem_of_mem_splitOn hmem⟩

/-- A path that is joined from segments has them as its own. -/
theorem segments_join {ws : List Text} (h : ∀ w ∈ ws, w ≠ [] ∧ '/' ∉ w) :
    segments (Text.join slash ws) = ws := by
  by_cases hne : ws = []
  · rw [hne]
    rfl
  · have hsplit : Text.splitOn ['/'] (Text.join ['/'] ws) = ws :=
      Text.splitOn_join (fun w hw => (h w hw).2) hne
    have hfull : Text.join slash ws ≠ [] := by
      intro hnil
      have hcut : ws = [[]] := by
        rw [← hsplit, ← slash, hnil]
        rfl
      exact (h [] (by simp [hcut])).1 rfl
    rw [segments, segmentsBy, if_neg (by simpa using hfull), slash, hsplit]
    exact List.filter_eq_self.mpr fun w hw => by simpa using (h w hw).1

/-- A path that starts with something else than a slash has a segment. -/
theorem segments_ne_nil {path : Text} {c : Char} (hhead : path.head? = some c) (hc : c ≠ '/') :
    segments path ≠ [] := by
  obtain ⟨rest, rfl⟩ := List.head?_eq_some_iff.mp hhead
  rw [segments, segmentsBy, slash, Text.splitOn_cons, if_neg (by simp), if_neg hc]
  obtain ⟨w, ws, hws⟩ := List.exists_cons_of_ne_nil (Text.splitOn_ne_nil '/' rest)
  simp [hws]

theorem join_ne_nil {ws : List Text} (h : ∀ w ∈ ws, w ≠ [] ∧ '/' ∉ w) (hne : ws ≠ []) :
    Text.join slash ws ≠ [] := by
  intro hnil
  have hsegments := segments_join h
  rw [hnil] at hsegments
  exact hne hsegments.symm

end Folder

end NoteQuery
