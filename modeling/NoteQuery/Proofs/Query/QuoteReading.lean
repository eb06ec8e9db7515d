import NoteQuery.Proofs.Query.Quoting

/-!
# Quoted texts for every reader

A quoted text is one segment, also behind plain characters and in front of a blank; no equals
sign in it counts; and without its quotes and escapes it is the text again. So any text can
stand where a query wants a key or a value.
-/
namespace NoteQuery

def Segment.shift (n : Nat) (g : Segment) : Segment := ⟨g.start + n, g.stop + n, g.text⟩

namespace Cursor

variable {k : Cursor} {pos : Nat}

theorem close_add (h : k.word.length ≤ pos) (n : Nat) :
    k.close (pos + n) = (k.close pos).map (Segment.shift n) := by
  by_cases hword : k.word = []
  · simp [close, flush, hword]
  · have hstart : pos + n - k.word.length = pos - k.word.length + n := by omega
    simp [close_of_ne_nil hword, Segment.shift, hstart]

/-- Characters in front of a text move its segments. -/
theorem segments_add (h : k.word.length ≤ pos) (n : Nat) (s : Text) :
    k.segments (pos + n) s = (k.segments pos s).map (Segment.shift n) := by
  induction s generalizing k pos with
  | nil => exact close_add h n
  | cons c s ih =>
    have hstep : (k.step c).word.length ≤ pos + 1 :=
      (k.length_word_step_le c).trans (Nat.succ_le_succ h)
    have hrest : (k.step c).segments (pos + n + 1) s =
        ((k.step c).segments (pos + 1) s).map (Segment.shift n) := by
      rw [Nat.add_right_comm]
      exact ih hstep
    rw [segments, segments, hrest, List.map_append]
    cases k.cuts c with
    | true => simp [close_add h]
    | false => simp

end Cursor

/-- A text that is its only word is one segment, complete or not. -/
theorem Segment.split_of_words_eq {w : Text} (h : words w = [w]) :
    split w = [⟨0, w.length, w⟩] := by
  obtain ⟨hne, k, hk, hread⟩ := Text.exists_reads h
  have hsegments := hread.segments_eq 0 []
  rw [List.append_nil, Cursor.segments, Cursor.close_of_ne_nil (hk ▸ hne), hk] at hsegments
  rw [split_eq, hsegments]
  simp

namespace Text

variable {w : Text}

theorem IsWord.split_eq (h : IsWord w) : Segment.split w = [⟨0, w.length, w⟩] :=
  Segment.split_of_words_eq h.words_eq

/-- A word in front of a blank is a segment, and what stands behind the blank is cut as a text
of its own. -/
theorem IsWord.split_append (h : IsWord w) {b : Char} (hb : isBlank b) (s : Text) :
    Segment.split (w ++ b :: s) =
      ⟨0, w.length, w⟩ :: (Segment.split s).map (Segment.shift (w.length + 1)) := by
  have hcuts : (Cursor.mk false false w).cuts b := by simp [Cursor.cuts, hb]
  have hstart : Cursor.start.word.length ≤ 0 := Nat.le_refl 0
  have hrest := Cursor.segments_add hstart (w.length + 1) s
  rw [Segment.split_eq, h.reads.segments_eq, Cursor.segments, if_pos hcuts,
    Cursor.step_of_cuts hcuts, Cursor.close_of_ne_nil h.ne_nil]
  rw [Nat.zero_add] at hrest ⊢
  rw [hrest, Segment.split_eq]
  simp

end Text

namespace Quote

/-- Escaping is one replacement after the other, backslashes first. -/
theorem escape_eq_replace (s : Text) :
    escape s = Text.replace '=' ['\\', '='] (Text.replace '"' ['\\', '"']
      (Text.replace '\\' ['\\', '\\'] s)) := by
  induction s with
  | nil => rfl
  | cons c s ih =>
    rw [escape_cons, ih]
    by_cases hslash : c = '\\'
    · subst hslash
      simp [needsEscape, Text.replace]
    · by_cases hquote : c = '"'
      · subst hquote
        simp [needsEscape, Text.replace]
      · by_cases hequals : c = '='
        · subst hequals
          simp [needsEscape, Text.replace]
        · simp [needsEscape, Text.replace, hslash, hquote, hequals]

theorem isWord_append_quote {t : Text} (h : t ≠ []) {p : Text}
    (hp : ∀ c ∈ p, Text.isBlank c = false ∧ c ≠ '"' ∧ c ≠ '\\') : Text.IsWord (p ++ quote t) := by
  refine ⟨by simp [quote_ne_nil h], ?_⟩
  have hread := (Cursor.reads_plain [] hp).append (reads_quote ([] ++ p) t)
  rwa [List.nil_append] at hread

/-- A quoted text is read back; it is a single segment, alone and behind plain characters, and
the first one in front of a blank; and the equals sign behind it is the first that counts. -/
theorem quote_read_alike {t : Text} (h : t ≠ []) :
    unquote (quote t) = t ∧
      Segment.split (quote t) = [⟨0, (quote t).length, quote t⟩] ∧
      (∀ p : Text, (∀ c ∈ p, Text.isBlank c = false ∧ c ≠ '"' ∧ c ≠ '\\') →
        Segment.split (p ++ quote t) = [⟨0, (p ++ quote t).length, p ++ quote t⟩]) ∧
      (∀ u : Text, Segment.split (quote t ++ ' ' :: u) =
        ⟨0, (quote t).length, quote t⟩ ::
          (Segment.split u).map (Segment.shift ((quote t).length + 1))) ∧
      ∀ v : Text, splitUnquoted ['='] (quote t ++ '=' :: v) = (quote t, some v) := by
  have hword : Text.IsWord (quote t) := isWord_append_quote h (p := []) nofun
  refine ⟨unquote_quote t, hword.split_eq, ?_, ?_, ?_⟩
  · intro p hp
    exact (isWord_append_quote h hp).split_eq
  · intro u
    exact hword.split_append rfl u
  · intro v
    exact splitUnquoted_quote_equals t v

/-- A text with a quote, a backslash at its end, an equals sign and a blank. -/
theorem quote_read_alike_marks :
    "a\"= \\".toList ≠ [] ∧ quote "a\"= \\".toList = "\"a\\\"\\= \\\\\"".toList ∧
      unquote (quote "a\"= \\".toList) = "a\"= \\".toList ∧
      Segment.split (['-', '.'] ++ quote "a\"= \\".toList) =
        [⟨0, 12, "-.\"a\\\"\\= \\\\\"".toList⟩] := by
  have hne : "a\"= \\".toList ≠ [] := by decide
  obtain ⟨hunquote, -, hbehind, -⟩ := quote_read_alike hne
  refine ⟨hne, by decide, hunquote, hbehind ['-', '.'] ?_⟩
  exact List.forall_mem_cons.mpr ⟨by decide, List.forall_mem_singleton.mpr (by decide)⟩

end Quote

end NoteQuery
