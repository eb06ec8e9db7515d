import NoteQuery.Proofs.Query.Words

/-!
# Separators

Which places of a text part its segments can be told from the characters in front of each
place: the backslashes right in front of it, and the quotes before it that count. A text
is cut into maximal pieces without a separator, and there is only this one way to cut it.
-/
namespace NoteQuery

namespace Text

/-- An odd number of backslashes stands right in front of a place. -/
def isEscapedAt (s : Text) (i : Nat) : Bool :=
  ((s.take i).reverse.takeWhile (· == '\\')).length % 2 == 1

/-- The number of double quotes in front of a place, escaped ones aside. -/
def quotesBefore (s : Text) (i : Nat) : Nat :=
  (List.range i).countP fun j => s[j]? == some '"' && !isEscapedAt s j

/-- A blank that is neither escaped nor between quotes. -/
def IsSeparator (s : Text) (i : Nat) : Prop :=
  ∃ c, s[i]? = some c ∧ isBlank c ∧ isEscapedAt s i = false ∧ quotesBefore s i % 2 = 0

theorem isEscapedAt_succ {s : Text} {i : Nat} {c : Char} (h : s[i]? = some c) :
    isEscapedAt s (i + 1) = (c == '\\' && !isEscapedAt s i) := by
  rw [isEscapedAt, isEscapedAt, List.take_add_one, h]
  simp only [Option.toList_some, List.reverse_append, List.reverse_singleton,
    List.singleton_append, List.takeWhile_cons]
  cases hc : c == '\\' with
  | false => rfl
  | true =>
    simp only [if_true, List.length_cons, Bool.true_and]
    generalize ((s.take i).reverse.takeWhile (· == '\\')).length = n
    rcases Nat.mod_two_eq_zero_or_one n with hn | hn
    · simp [Nat.add_mod, hn]
    · simp [Nat.add_mod, hn]

theorem quotesBefore_succ {s : Text} {i : Nat} {c : Char} (h : s[i]? = some c) :
    quotesBefore s (i + 1) =
      quotesBefore s i + if c == '"' && !isEscapedAt s i then 1 else 0 := by
  rw [quotesBefore, List.range_succ, List.countP_append, List.countP_singleton, h]
  rfl

end Text

namespace Cursor

theorem after_take_succ (k : Cursor) {s : Text} {i : Nat} {c : Char} (h : s[i]? = some c) :
    k.after (s.take (i + 1)) = (k.after (s.take i)).step c := by
  rw [List.take_add_one, h, after_append]
  rfl

/-- At each place the cursor knows whether the place is escaped or quoted. -/
theorem after_take (s : Text) (i : Nat) (hi : i ≤ s.length) :
    (start.after (s.take i)).escaped = s.isEscapedAt i ∧
      (start.after (s.take i)).quoted = (s.quotesBefore i % 2 == 1) := by
  induction i with
  | zero => exact ⟨rfl, rfl⟩
  | succ i ih =>
    obtain ⟨hescaped, hquoted⟩ := ih (by omega)
    have hget : s[i]? = some s[i] := List.getElem?_eq_getElem (by omega)
    rw [after_take_succ start hget, Text.isEscapedAt_succ hget, Text.quotesBefore_succ hget,
      ← hescaped]
    generalize start.after (s.take i) = k at hescaped hquoted ⊢
    generalize s[i] = c
    cases hc : k.cuts c with
    | true =>
      have hblank : Text.isBlank c := by
        simp only [cuts, Bool.and_eq_true] at hc
        exact hc.1.1
      have hslash : (c == '\\') = false := by
        rw [beq_eq_false_iff_ne]
        rintro rfl
        cases hblank
      have hquote : (c == '"') = false := by
        rw [beq_eq_false_iff_ne]
        rintro rfl
        cases hblank
      rw [(isBalanced_iff k).mp (isBalanced_of_cuts hc)] at hquoted
      rw [step_of_cuts hc, hslash, hquote]
      exact ⟨rfl, hquoted⟩
    | false =>
      rw [step_of_not_cuts hc]
      refine ⟨Bool.and_comm _ _, ?_⟩
      show (k.quoted != (!k.escaped && c == '"')) = _
      rw [hquoted, Bool.and_comm (c == '"')]
      generalize s.quotesBefore i = n
      rcases Nat.mod_two_eq_zero_or_one n with hn | hn
      · cases !k.escaped && c == '"' <;> simp [Nat.add_mod, hn]
      · cases !k.escaped && c == '"' <;> simp [Nat.add_mod, hn]

end Cursor

namespace Text

theorem isSeparator_iff {s : Text} {i : Nat} {c : Char} (h : s[i]? = some c) :
    s.IsSeparator i ↔ (Cursor.start.after (s.take i)).cuts c := by
  have hi : i < s.length := (List.getElem?_eq_some_iff.mp h).1
  obtain ⟨hescaped, hquoted⟩ := Cursor.after_take s i (by omega)
  rw [Cursor.cuts, hescaped, hquoted, IsSeparator, h]
  simp only [Option.some.injEq, exists_eq_left', Bool.and_eq_true, Bool.not_eq_true',
    beq_eq_false_iff_ne]
  constructor
  · rintro ⟨hblank, hesc, hquotes⟩
    exact ⟨⟨hblank, by omega⟩, hesc⟩
  · rintro ⟨⟨hblank, hquotes⟩, hesc⟩
    exact ⟨hblank, hesc, by omega⟩

/-- A text is complete if its end is neither escaped nor between quotes. -/
theorem isComplete_iff (s : Text) :
    isComplete s ↔ isEscapedAt s s.length = false ∧ quotesBefore s s.length % 2 = 0 := by
  obtain ⟨hescaped, hquoted⟩ := Cursor.after_take s s.length (Nat.le_refl _)
  rw [List.take_length] at hescaped hquoted
  rw [isComplete, Cursor.isBalanced, hescaped, hquoted, Bool.and_eq_true, Bool.not_eq_true',
    Bool.not_eq_true', beq_eq_false_iff_ne, and_comm]
  exact and_congr_right fun _ => by omega

end Text

namespace Segment

/-- How a text is cut from a place on: separators are passed over, and a piece runs from
one place without a separator to the next separator or the end. -/
inductive IsCutting (s : Text) : Nat → List Segment → Prop where
  | done : IsCutting s s.length []
  | separator {i : Nat} {segments : List Segment} (h : s.IsSeparator i)
      (rest : IsCutting s (i + 1) segments) : IsCutting s i segments
  | piece {i j : Nat} {segments : List Segment} (hlt : i < j) (hle : j ≤ s.length)
      (hinside : ∀ p, i ≤ p → p < j → ¬ s.IsSeparator p)
      (hend : j < s.length → s.IsSeparator j) (rest : IsCutting s j segments) :
      IsCutting s i (⟨i, j, s.extract i j⟩ :: segments)

end Segment

namespace Cursor

/-- What a cursor at place `j` knows of a text whose open word begins at place `i`. -/
structure IsAt (k : Cursor) (s : Text) (i j : Nat) : Prop where
  le : i ≤ j
  le_length : j ≤ s.length
  after_eq : start.after (s.take j) = k
  word_eq : k.word = s.extract i j
  inside : ∀ p, i ≤ p → p < j → ¬ s.IsSeparator p

theorem isAt_of_isSeparator {s : Text} {j : Nat} {c : Char} (h : s[j]? = some c)
    (hsep : s.IsSeparator j) : start.IsAt s (j + 1) (j + 1) := by
  have hj : j < s.length := (List.getElem?_eq_some_iff.mp h).1
  refine ⟨Nat.le_refl _, hj, ?_, by simp [start, List.extract_eq_take_drop], fun p _ _ => by omega⟩
  rw [after_take_succ start h, step_of_cuts ((Text.isSeparator_iff h).mp hsep)]

theorem IsAt.step {k : Cursor} {s : Text} {i j : Nat} (hk : k.IsAt s i j) {c : Char}
    (h : s[j]? = some c) (hsep : ¬ s.IsSeparator j) : (k.step c).IsAt s i (j + 1) := by
  have hj : j < s.length := (List.getElem?_eq_some_iff.mp h).1
  have hle := hk.le
  have hcuts : k.cuts c = false := by
    rw [← hk.after_eq, ← Bool.not_eq_true, ← Text.isSeparator_iff h]
    exact hsep
  refine ⟨by omega, hj, ?_, ?_, ?_⟩
  · rw [after_take_succ start h, hk.after_eq]
  · have hword : (k.step c).word = k.word ++ [c] := by rw [step_of_not_cuts hcuts]
    have hget : (s.drop i)[j - i]? = some c := by
      rw [List.getElem?_drop, Nat.add_sub_cancel' hle, h]
    have hlength : j + 1 - i = j - i + 1 := by omega
    rw [hword, hk.word_eq, List.extract_eq_take_drop, List.extract_eq_take_drop, hlength,
      List.take_add_one, hget]
    rfl
  · intro p hp hlt
    by_cases heq : p = j
    · exact heq ▸ hsep
    · exact hk.inside p hp (by omega)

/-- Where the open word ends it is a piece. -/
theorem IsAt.isCutting_close {k : Cursor} {s : Text} {i j : Nat} (hk : k.IsAt s i j)
    (hend : j < s.length → s.IsSeparator j) {segments : List Segment}
    (rest : Segment.IsCutting s j segments) :
    Segment.IsCutting s i (k.close j ++ segments) := by
  have hle := hk.le
  have hlength : k.word.length = j - i := by
    have := hk.le_length
    rw [hk.word_eq, List.extract_eq_take_drop, List.length_take, List.length_drop]
    omega
  by_cases hword : k.word = []
  · rw [hword] at hlength
    have hij : i = j := by
      rw [List.length_nil] at hlength
      omega
    rw [close, flush, hword, hij]
    exact rest
  · have hpos := List.length_pos_iff.mpr hword
    have hstart : j - k.word.length = i := by omega
    rw [close_of_ne_nil hword, hstart, hk.word_eq]
    exact .piece (by omega) hk.le_length hk.inside hend rest

/-- The segments found from a cursor on cut the text from its open word on. -/
theorem IsAt.isCutting {k : Cursor} {s : Text} {i j : Nat} (hk : k.IsAt s i j) (u : Text)
    (hu : s.drop j = u) : Segment.IsCutting s i (k.segments j u) := by
  induction u generalizing k i j with
  | nil =>
    have hj : j = s.length := by
      have := hk.le_length
      have := List.drop_eq_nil_iff.mp hu
      omega
    rw [segments, ← List.append_nil (k.close j)]
    exact hk.isCutting_close (fun hlt => by omega) (hj ▸ .done)
  | cons c u ih =>
    have hget : s[j]? = some c := by
      have := congrArg (·[0]?) hu
      simpa using this
    have hrest : s.drop (j + 1) = u := by
      have := congrArg (·.drop 1) hu
      simpa using this
    have hcuts := Text.isSeparator_iff hget
    rw [hk.after_eq] at hcuts
    rw [segments]
    by_cases hc : k.cuts c
    · have hsep := hcuts.mpr hc
      rw [if_pos hc, step_of_cuts hc]
      exact hk.isCutting_close (fun _ => hsep)
        (.separator hsep (ih (isAt_of_isSeparator hget hsep) hrest))
    · rw [if_neg hc, List.nil_append]
      exact ih (hk.step hget fun hsep => hc (hcuts.mp hsep)) hrest

end Cursor

namespace Segment

theorem isCutting_split (s : Text) : IsCutting s 0 (split s) := by
  rw [split_eq]
  exact Cursor.IsAt.isCutting ⟨Nat.le_refl _, Nat.zero_le _, rfl, rfl, fun p _ hp => by omega⟩ s rfl

namespace IsCutting

variable {s : Text} {i : Nat} {segments : List Segment}

/-- A piece lies behind the place where the cutting begins, and holds what the text has
there. -/
theorem of_mem (h : IsCutting s i segments) {g : Segment} (hg : g ∈ segments) :
    i ≤ g.start ∧ g.start < g.stop ∧ g.stop ≤ s.length ∧ g.text = s.extract g.start g.stop := by
  induction h with
  | done => cases hg
  | separator _ _ ih =>
    obtain ⟨hle, hrest⟩ := ih hg
    exact ⟨by omega, hrest⟩
  | piece hlt hle _ _ _ ih =>
    rcases List.mem_cons.mp hg with rfl | hg
    · exact ⟨Nat.le_refl _, hlt, hle, rfl⟩
    · obtain ⟨hstart, hrest⟩ := ih hg
      exact ⟨by omega, hrest⟩

/-- Exactly the separators are left out. -/
theorem outside_iff (h : IsCutting s i segments) {p : Nat} (hp : i ≤ p) (hlt : p < s.length) :
    (∀ g ∈ segments, ¬ (g.start ≤ p ∧ p < g.stop)) ↔ s.IsSeparator p := by
  induction h with
  | done => omega
  | @separator i segments hsep rest ih =>
    by_cases heq : p = i
    · subst heq
      refine iff_of_true (fun g hg => ?_) hsep
      have := (rest.of_mem hg).1
      omega
    · exact ih (by omega)
  | @piece i j segments hij hle hinside hend rest ih =>
    rw [List.forall_mem_cons]
    by_cases hin : p < j
    · exact iff_of_false (fun hno => hno.1 ⟨hp, hin⟩) (hinside p hp hin)
    · rw [ih (by omega)]
      exact and_iff_right fun h => hin h.2

/-- Behind a piece that has another one behind it stands a separator. -/
theorem pairwise (h : IsCutting s i segments) :
    segments.Pairwise fun g g' => s.IsSeparator g.stop ∧ g.stop < g'.start := by
  induction h with
  | done => exact .nil
  | separator _ _ ih => exact ih
  | @piece i j segments hij hle hinside hend rest ih =>
    refine .cons (fun g hg => ?_) ih
    obtain ⟨hstart, hlt, hstop, -⟩ := rest.of_mem hg
    have hsep := hend (by omega)
    have hne : g.start ≠ j := by
      rintro rfl
      exact (rest.outside_iff (Nat.le_refl _) (by omega)).mpr hsep g hg ⟨Nat.le_refl _, hlt⟩
    have hbehind : j < g.start := by omega
    exact ⟨hsep, hbehind⟩

end IsCutting

end Segment

end NoteQuery
