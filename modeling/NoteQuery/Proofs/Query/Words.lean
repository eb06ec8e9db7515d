import NoteQuery.Proofs.Text.Stripping
import NoteQuery.Query.Segment

/-!
# Words of a text

A cursor reads a text one character after the other and keeps all that the characters to
come depend on: whether a quote is open, whether a backslash waits for its character, and
the word that is still open. The words of a text are the words closed on the way and the
one that is open at the end. A text is complete if no quote is left open and no backslash
is left waiting; what is put behind a blank then starts a word of its own, and otherwise
it runs on in the last word.
-/
namespace NoteQuery

/-- What is kept of the text read so far; no word is open if `word` is empty. -/
structure Cursor where
  quoted : Bool
  escaped : Bool
  word : Text
  deriving DecidableEq

namespace Cursor

def start : Cursor := ⟨false, false, []⟩

/-- Whether a character ends the word in front of it. -/
def cuts (k : Cursor) (c : Char) : Bool := Text.isBlank c && !k.quoted && !k.escaped

def step (k : Cursor) (c : Char) : Cursor :=
  if k.cuts c then start
  else ⟨k.quoted != (!k.escaped && c == '"'), !k.escaped && c == '\\', k.word ++ [c]⟩

def after (k : Cursor) : Text → Cursor
  | [] => k
  | c :: rest => (k.step c).after rest

def flush (k : Cursor) : List Text := if k.word.isEmpty then [] else [k.word]

def closed (k : Cursor) : Text → List Text
  | [] => []
  | c :: rest => (if k.cuts c then k.flush else []) ++ (k.step c).closed rest

/-- The words of a text that is read on from `k`. -/
def words (k : Cursor) (s : Text) : List Text := k.closed s ++ (k.after s).flush

def isBalanced (k : Cursor) : Bool := !k.quoted && !k.escaped

theorem after_append (k : Cursor) (u v : Text) : k.after (u ++ v) = (k.after u).after v := by
  induction u generalizing k with
  | nil => rw [List.nil_append, after]
  | cons c u ih => rw [List.cons_append, after, after, ih]

theorem closed_append (k : Cursor) (u v : Text) :
    k.closed (u ++ v) = k.closed u ++ (k.after u).closed v := by
  induction u generalizing k with
  | nil => rw [List.nil_append, closed, after, List.nil_append]
  | cons c u ih => rw [List.cons_append, closed, closed, ih, List.append_assoc, after]

theorem words_append (k : Cursor) (u v : Text) :
    k.words (u ++ v) = k.closed u ++ (k.after u).words v := by
  rw [words, words, closed_append, after_append, List.append_assoc]

theorem words_nil (k : Cursor) : k.words [] = k.flush := by
  rw [words, closed, after, List.nil_append]

theorem words_cons (k : Cursor) (c : Char) (s : Text) :
    k.words (c :: s) = (if k.cuts c then k.flush else []) ++ (k.step c).words s := by
  rw [words, words, closed, after, List.append_assoc]

theorem step_of_cuts {k : Cursor} {c : Char} (h : k.cuts c) : k.step c = start := if_pos h

theorem step_of_not_cuts {k : Cursor} {c : Char} (h : k.cuts c = false) :
    k.step c = ⟨k.quoted != (!k.escaped && c == '"'), !k.escaped && c == '\\', k.word ++ [c]⟩ := by
  rw [step, h]
  rfl

theorem length_word_step_le (k : Cursor) (c : Char) :
    (k.step c).word.length ≤ k.word.length + 1 := by
  cases hc : k.cuts c with
  | true => simp [step_of_cuts hc, start]
  | false => simp [step_of_not_cuts hc]

theorem length_word_after_le (k : Cursor) (s : Text) :
    (k.after s).word.length ≤ k.word.length + s.length := by
  induction s generalizing k with
  | nil => rw [after, List.length_nil, Nat.add_zero]
  | cons c s ih =>
    have hstep := k.length_word_step_le c
    have hrest := ih (k.step c)
    rw [after, List.length_cons]
    omega

theorem isBalanced_of_cuts {k : Cursor} {c : Char} (h : k.cuts c) : k.isBalanced := by
  simp only [cuts, Bool.and_eq_true] at h
  simp [isBalanced, h.1.2, h.2]

theorem isBalanced_iff (k : Cursor) : k.isBalanced ↔ k = ⟨false, false, k.word⟩ := by
  rcases k with ⟨_ | _, _ | _, w⟩ <;> simp [isBalanced]

theorem cuts_of_isBalanced {k : Cursor} {c : Char} (h : k.isBalanced) :
    k.cuts c = Text.isBlank c := by
  rw [(isBalanced_iff k).mp h]
  simp [cuts]

theorem flush_of_ne_nil {k : Cursor} (h : k.word ≠ []) : k.flush = [k.word] := by
  rw [flush, List.isEmpty_eq_false_iff.mpr h]
  rfl

structure Reads (k : Cursor) (s : Text) (next : Cursor) : Prop where
  closed_eq : k.closed s = []
  after_eq : k.after s = next

theorem reads_nil (k : Cursor) : k.Reads [] k := ⟨by rw [closed], by rw [after]⟩

theorem reads_singleton {k : Cursor} {c : Char} (h : k.cuts c = false) :
    k.Reads [c] (k.step c) := by
  constructor
  · rw [closed, closed, h]
    rfl
  · rw [after, after]

theorem Reads.append {k l m : Cursor} {u v : Text} (h : k.Reads u l) (h' : l.Reads v m) :
    k.Reads (u ++ v) m := by
  constructor
  · rw [closed_append, h.closed_eq, h.after_eq, h'.closed_eq, List.append_nil]
  · rw [after_append, h.after_eq, h'.after_eq]

theorem Reads.words_eq {k l : Cursor} {u : Text} (h : k.Reads u l) (s : Text) :
    k.words (u ++ s) = l.words s := by
  rw [words_append, h.closed_eq, h.after_eq, List.nil_append]

/-- A backslash and its character are read whatever the character is. -/
theorem reads_escape (quoted : Bool) (w : Text) (c : Char) :
    Reads ⟨quoted, false, w⟩ ['\\', c] ⟨quoted, false, w ++ ['\\', c]⟩ := by
  have hslash : (Cursor.mk quoted false w).cuts '\\' = false := rfl
  have hstep : (Cursor.mk quoted false w).step '\\' = ⟨quoted, true, w ++ ['\\']⟩ := by
    rw [step_of_not_cuts hslash]
    simp
  have hchar : (Cursor.mk quoted true (w ++ ['\\'])).cuts c = false := by simp [cuts]
  have hread := (reads_singleton hslash).append (hstep ▸ reads_singleton hchar)
  rw [hstep, step_of_not_cuts hchar] at hread
  simpa using hread

/-- A character that is neither a backslash nor a blank outside quotes. -/
theorem reads_char (quoted : Bool) (w : Text) {c : Char} (hslash : c ≠ '\\')
    (hblank : quoted = true ∨ Text.isBlank c = false) :
    Reads ⟨quoted, false, w⟩ [c] ⟨quoted != (c == '"'), false, w ++ [c]⟩ := by
  have hc : (Cursor.mk quoted false w).cuts c = false := by
    rcases hblank with rfl | hblank
    · simp [cuts]
    · simp [cuts, hblank]
  have hread := reads_singleton hc
  rw [step_of_not_cuts hc, beq_eq_false_iff_ne.mpr hslash] at hread
  simpa using hread

/-- Characters that are no blanks, quotes or backslashes only lengthen the open word. -/
theorem reads_plain (w : Text) {s : Text}
    (h : ∀ c ∈ s, Text.isBlank c = false ∧ c ≠ '"' ∧ c ≠ '\\') :
    Reads ⟨false, false, w⟩ s ⟨false, false, w ++ s⟩ := by
  induction s generalizing w with
  | nil => simpa using reads_nil ⟨false, false, w⟩
  | cons c s ih =>
    obtain ⟨hblank, hquote, hslash⟩ := h c List.mem_cons_self
    have hchar : Reads ⟨false, false, w⟩ [c] ⟨false, false, w ++ [c]⟩ := by
      have hread := reads_char false w hslash (Or.inr hblank)
      rwa [beq_eq_false_iff_ne.mpr hquote, Bool.bne_false] at hread
    have hrest := ih (w ++ [c]) fun d hd => h d (List.mem_cons_of_mem c hd)
    simpa using hchar.append hrest

/-- The open word alone leads from the start to the cursor. -/
def IsSound (k : Cursor) : Prop := start.Reads k.word k

theorem isSound_start : start.IsSound := reads_nil start

theorem IsSound.step {k : Cursor} (h : k.IsSound) (c : Char) : (k.step c).IsSound := by
  cases hc : k.cuts c with
  | true =>
    rw [step_of_cuts hc]
    exact isSound_start
  | false =>
    have hword : (k.step c).word = k.word ++ [c] := by rw [step_of_not_cuts hc]
    rw [IsSound, hword]
    exact Reads.append h (reads_singleton hc)

theorem IsSound.after {k : Cursor} (h : k.IsSound) (s : Text) : (k.after s).IsSound := by
  induction s generalizing k with
  | nil => rw [Cursor.after]; exact h
  | cons c s ih => rw [Cursor.after]; exact ih (h.step c)

theorem words_start_cons {c : Char} (h : Text.isBlank c) (s : Text) :
    start.words (c :: s) = start.words s := by
  have hc : start.cuts c := by rw [cuts_of_isBalanced rfl, h]
  rw [words_cons, step_of_cuts hc, if_pos hc, flush]
  rfl

/-- Blanks in front of a text hold no word. -/
theorem words_start_append {u : Text} (h : ∀ c ∈ u, Text.isBlank c) (s : Text) :
    start.words (u ++ s) = start.words s := by
  induction u with
  | nil => rw [List.nil_append]
  | cons c u ih =>
    rw [List.cons_append, words_start_cons (h c List.mem_cons_self)]
    exact ih fun d hd => h d (List.mem_cons_of_mem c hd)

theorem words_start_blanks {s : Text} (h : ∀ c ∈ s, Text.isBlank c) : start.words s = [] := by
  have := words_start_append h []
  rw [List.append_nil] at this
  rw [this, words_nil]
  rfl

/-- Reading on lengthens the open word. -/
theorem words_of_ne_nil {k : Cursor} (h : k.word ≠ []) (s : Text) :
    ∃ more others, k.words s = (k.word ++ more) :: others := by
  induction s generalizing k with
  | nil => exact ⟨[], [], by rw [words_nil, flush_of_ne_nil h, List.append_nil]⟩
  | cons c s ih =>
    rw [words_cons]
    cases hc : k.cuts c with
    | true =>
      rw [flush_of_ne_nil h]
      exact ⟨[], (k.step c).words s, by simp⟩
    | false =>
      have hstep := step_of_not_cuts hc
      have hword : (k.step c).word = k.word ++ [c] := by rw [hstep]
      obtain ⟨more, others, hmore⟩ := ih (k := k.step c) (by simp [hword])
      exact ⟨c :: more, others, by simp [hmore, hword]⟩

theorem words_blanks_of_isBalanced {k : Cursor} (h : k.isBalanced) {s : Text}
    (hs : ∀ c ∈ s, Text.isBlank c) : k.words s = k.flush := by
  cases s with
  | nil => exact words_nil k
  | cons c s =>
    have hc : k.cuts c := by rw [cuts_of_isBalanced h, hs c List.mem_cons_self]
    rw [words_cons, if_pos hc, step_of_cuts hc,
      words_start_blanks fun d hd => hs d (List.mem_cons_of_mem c hd), List.append_nil]

/-- Blanks behind an open word belong to it or end it. -/
theorem words_blanks {k : Cursor} (h : k.word ≠ []) {s : Text} (hs : ∀ c ∈ s, Text.isBlank c) :
    ∃ more, (∀ c ∈ more, Text.isBlank c) ∧ k.words s = [k.word ++ more] := by
  induction s generalizing k with
  | nil => exact ⟨[], by simp, by rw [words_nil, flush_of_ne_nil h, List.append_nil]⟩
  | cons c s ih =>
    have hrest : ∀ d ∈ s, Text.isBlank d := fun d hd => hs d (List.mem_cons_of_mem c hd)
    rw [words_cons]
    cases hc : k.cuts c with
    | true =>
      refine ⟨[], by simp, ?_⟩
      rw [step_of_cuts hc, words_start_blanks hrest, flush_of_ne_nil h]
      simp
    | false =>
      have hword : (k.step c).word = k.word ++ [c] := by rw [step_of_not_cuts hc]
      obtain ⟨more, hblank, hmore⟩ := ih (k := k.step c) (by simp [hword]) hrest
      refine ⟨c :: more, ?_, by simp [hmore, hword]⟩
      intro d hd
      rcases List.mem_cons.mp hd with rfl | hd
      · exact hs d List.mem_cons_self
      · exact hblank d hd

end Cursor

namespace Cursor

/-- The open word as a segment that ends at an offset. -/
def close (k : Cursor) (pos : Nat) : List Segment :=
  k.flush.map fun w => ⟨pos - w.length, pos, w⟩

/-- The segments of a text that is read on from `k` at an offset. -/
def segments (k : Cursor) (pos : Nat) : Text → List Segment
  | [] => k.close pos
  | c :: rest => (if k.cuts c then k.close pos else []) ++ (k.step c).segments (pos + 1) rest

theorem close_of_ne_nil {k : Cursor} (h : k.word ≠ []) (pos : Nat) :
    k.close pos = [⟨pos - k.word.length, pos, k.word⟩] := by
  rw [close, flush_of_ne_nil h]
  rfl

theorem close_texts (k : Cursor) (pos : Nat) : (k.close pos).map (·.text) = k.flush := by
  simp [close, Function.comp_def]

theorem segments_texts (k : Cursor) (pos : Nat) (s : Text) :
    (k.segments pos s).map (·.text) = k.words s := by
  induction s generalizing k pos with
  | nil => rw [segments, close_texts, words_nil]
  | cons c s ih =>
    rw [segments, List.map_append, ih, words_cons]
    cases k.cuts c with
    | true => rw [if_pos rfl, if_pos rfl, close_texts]
    | false => rfl

/-- What is read without a cut only moves the offset. -/
theorem Reads.segments_eq {k l : Cursor} {u : Text} (h : k.Reads u l) (pos : Nat) (s : Text) :
    k.segments pos (u ++ s) = l.segments (pos + u.length) s := by
  induction u generalizing k pos with
  | nil =>
    have hk := h.after_eq
    rw [after] at hk
    rw [hk]
    rfl
  | cons c u ih =>
    have hclosed := h.closed_eq
    rw [closed, List.append_eq_nil_iff] at hclosed
    have hclose : (if k.cuts c then k.close pos else []) = [] := by
      cases hc : k.cuts c with
      | true =>
        rw [if_pos hc] at hclosed
        rw [if_pos rfl, close, hclosed.1]
        rfl
      | false => rfl
    have hafter := h.after_eq
    rw [after] at hafter
    rw [List.cons_append, segments, hclose, List.nil_append, ih ⟨hclosed.2, hafter⟩,
      List.length_cons, Nat.add_assoc, Nat.add_comm 1]

end Cursor

namespace Segment

def Pending.text (pending : Pending) : Text :=
  match pending with
  | none => []
  | some (_, text) => text

def Pending.EndsAt (pending : Pending) (pos : Nat) : Prop :=
  ∀ start text, pending = some (start, text) → text ≠ [] ∧ start + text.length = pos

theorem Pending.text_extend (pending : Pending) (pos : Nat) (more : Text) :
    (pending.extend pos more).text = pending.text ++ more := by
  cases pending <;> rfl

theorem Pending.EndsAt.extend {pending : Pending} {pos : Nat} (h : pending.EndsAt pos)
    {more : Text} (hmore : more ≠ []) :
    (pending.extend pos more).EndsAt (pos + more.length) := by
  cases pending with
  | none =>
    rintro _ _ ⟨⟩
    exact ⟨hmore, rfl⟩
  | some p =>
    rintro _ _ ⟨⟩
    have hend := (h p.1 p.2 rfl).2
    exact ⟨by simp [hmore], by rw [List.length_append]; omega⟩

theorem Pending.EndsAt.close_eq {pending : Pending} {pos : Nat} (h : pending.EndsAt pos)
    (quoted escaped : Bool) :
    pending.close pos = (Cursor.mk quoted escaped pending.text).close pos := by
  cases pending with
  | none => rfl
  | some p =>
    obtain ⟨start, text⟩ := p
    obtain ⟨hne, hend⟩ := h start text rfl
    have hstart : pos - text.length = start := by omega
    rw [Cursor.close_of_ne_nil hne]
    simp only [Pending.close, Pending.text, hstart]

/-- The segments found from a place on are those that a cursor finds from there. -/
theorem scan_eq (pos : Nat) (quoted : Bool) (pending : Pending) (h : pending.EndsAt pos)
    (s : Text) :
    scan pos quoted pending s = (Cursor.mk quoted false pending.text).segments pos s := by
  induction pos, quoted, pending, s using scan.induct with
  | case1 pos quoted pending =>
    rw [scan, h.close_eq quoted false, Cursor.segments]
  | case2 pos quoted pending c rest ih =>
    have hread := (Cursor.reads_escape quoted pending.text c).segments_eq pos rest
    rw [scan, ih (h.extend (by simp)), Pending.text_extend]
    exact hread.symm
  | case3 pos quoted pending c rest hne hc ih =>
    have hcut := hc
    simp only [Bool.and_eq_true, Bool.not_eq_true'] at hcut
    obtain ⟨hblank, rfl⟩ := hcut
    have hcuts : (Cursor.mk false false pending.text).cuts c := by simp [Cursor.cuts, hblank]
    rw [scan.eq_3 _ _ _ _ _ hne, if_pos hc, Cursor.segments, if_pos hcuts,
      Cursor.step_of_cuts hcuts, h.close_eq false false, ih nofun]
    rfl
  | case4 pos quoted pending c rest hne hc ih =>
    have hopen := h.extend (List.cons_ne_nil c [])
    rw [scan.eq_3 _ _ _ _ _ hne, if_neg hc]
    by_cases hslash : c = '\\'
    · -- A backslash with nothing behind it.
      obtain rfl : rest = [] := by
        cases rest with
        | nil => rfl
        | cons d rest => exact (hne d rest hslash rfl).elim
      subst hslash
      have hcuts : (Cursor.mk quoted false pending.text).cuts '\\' = false := rfl
      have hread := (Cursor.reads_singleton hcuts).segments_eq pos []
      rw [Cursor.step_of_not_cuts hcuts, ← Pending.text_extend pending pos, Cursor.segments,
        ← hopen.close_eq] at hread
      rw [scan]
      exact hread.symm
    · have hblank : quoted = true ∨ Text.isBlank c = false := by
        cases hb : Text.isBlank c with
        | false => exact Or.inr rfl
        | true => exact Or.inl (by simpa [hb] using hc)
      have hread := (Cursor.reads_char quoted pending.text hslash hblank).segments_eq pos rest
      rw [ih hopen, Pending.text_extend]
      exact hread.symm

theorem split_eq (s : Text) : split s = Cursor.start.segments 0 s :=
  scan_eq 0 false none nofun s

theorem words_eq (s : Text) : words s = Cursor.start.words s := by
  rw [words, split_eq, Cursor.segments_texts]

end Segment

namespace Text

/-- No quote is left open in a text and no backslash is left waiting at its end. -/
def isComplete (s : Text) : Bool := (Cursor.start.after s).isBalanced

structure IsWord (w : Text) : Prop where
  ne_nil : w ≠ []
  reads : Cursor.start.Reads w ⟨false, false, w⟩

theorem IsWord.words_eq {w : Text} (h : IsWord w) : Segment.words w = [w] := by
  have hread := h.reads.words_eq []
  rw [List.append_nil] at hread
  rw [Segment.words_eq, hread, Cursor.words_nil, Cursor.flush_of_ne_nil h.ne_nil]

/-- What stands behind a word and a blank is cut as a text of its own. -/
theorem IsWord.words_append {w : Text} (h : IsWord w) {b : Char} (hb : isBlank b) (s : Text) :
    Segment.words (w ++ b :: s) = w :: Segment.words s := by
  have hcuts : (Cursor.mk false false w).cuts b := by simp [Cursor.cuts, hb]
  rw [Segment.words_eq, Segment.words_eq, h.reads.words_eq, Cursor.words_cons, if_pos hcuts,
    Cursor.step_of_cuts hcuts, Cursor.flush_of_ne_nil h.ne_nil]
  rfl

theorem isWord_of_balanced {k : Cursor} (h : k.IsSound) (hword : k.word ≠ [])
    (hb : k.isBalanced) : IsWord k.word := by
  refine ⟨hword, ?_⟩
  rw [← (Cursor.isBalanced_iff k).mp hb]
  exact h

theorem isWord_of_mem_flush {k : Cursor} (h : k.IsSound) (hb : k.isBalanced) {w : Text}
    (hw : w ∈ k.flush) : IsWord w := by
  by_cases hword : k.word = []
  · rw [Cursor.flush, hword] at hw
    cases hw
  · rw [Cursor.flush_of_ne_nil hword, List.mem_singleton] at hw
    rw [hw]
    exact isWord_of_balanced h hword hb

theorem isWord_of_mem_closed {k : Cursor} (h : k.IsSound) {s w : Text} (hw : w ∈ k.closed s) :
    IsWord w := by
  induction s generalizing k with
  | nil =>
    rw [Cursor.closed] at hw
    cases hw
  | cons c s ih =>
    rw [Cursor.closed, List.mem_append] at hw
    rcases hw with hw | hw
    · cases hc : k.cuts c with
      | true =>
        rw [if_pos hc] at hw
        exact isWord_of_mem_flush h (Cursor.isBalanced_of_cuts hc) hw
      | false =>
        rw [hc] at hw
        cases hw
    · exact ih (h.step c) hw

/-- The words of a complete text are complete. -/
theorem isWord_of_isComplete {s w : Text} (h : isComplete s) (hw : w ∈ Segment.words s) :
    IsWord w := by
  rw [Segment.words_eq, Cursor.words, List.mem_append] at hw
  rcases hw with hw | hw
  · exact isWord_of_mem_closed Cursor.isSound_start hw
  · exact isWord_of_mem_flush (Cursor.isSound_start.after s) h hw

/-- A text that is not complete ends in a word of which the same holds, and all that is
put behind the text is put behind that word. -/
theorem exists_open_word {s : Text} (h : isComplete s = false) :
    ∃ front, ∃ k : Cursor, (∀ w ∈ front, IsWord w) ∧ k.IsSound ∧ k.word ≠ [] ∧
      k.isBalanced = false ∧ ∀ rest, Segment.words (s ++ rest) = front ++ k.words rest := by
  refine ⟨Cursor.start.closed s, Cursor.start.after s, ?_, ?_, ?_, h, ?_⟩
  · exact fun w hw => isWord_of_mem_closed Cursor.isSound_start hw
  · exact Cursor.isSound_start.after s
  · intro hnil
    have hsound := Cursor.isSound_start.after s
    rw [Cursor.IsSound, hnil] at hsound
    have hstart := hsound.after_eq
    rw [Cursor.after] at hstart
    rw [isComplete, ← hstart] at h
    cases h
  · intro rest
    rw [Segment.words_eq, Cursor.words_append]

/-- A text that is its only word is read without a cut. -/
theorem exists_reads {w : Text} (h : Segment.words w = [w]) :
    w ≠ [] ∧ ∃ k : Cursor, k.word = w ∧ Cursor.start.Reads w k := by
  cases hw : isComplete w with
  | true =>
    have hword : IsWord w := isWord_of_isComplete hw (by simp [h])
    exact ⟨hword.ne_nil, _, rfl, hword.reads⟩
  | false =>
    obtain ⟨front, k, -, hsound, hne, -, hrun⟩ := exists_open_word hw
    have hwhole := hrun []
    rw [List.append_nil, Cursor.words_nil, Cursor.flush_of_ne_nil hne, h,
      ← List.nil_append [w]] at hwhole
    obtain ⟨-, hk⟩ := List.append_inj' hwhole rfl
    obtain rfl : w = k.word := List.singleton_inj.mp hk
    exact ⟨hne, k, rfl, hsound⟩

/-- A text that is its only word does not start with a blank. -/
theorem not_isBlank_of_words_eq {c : Char} {s : Text} (h : Segment.words (c :: s) = [c :: s]) :
    isBlank c = false := by
  obtain ⟨-, k, hk, hread⟩ := exists_reads h
  rw [← Bool.not_eq_true]
  intro hblank
  have hcut : Cursor.start.cuts c := by rw [Cursor.cuts_of_isBalanced rfl, hblank]
  have hafter := hread.after_eq
  rw [Cursor.after, Cursor.step_of_cuts hcut] at hafter
  have hlength := Cursor.start.length_word_after_le s
  rw [hafter, hk, List.length_cons, Cursor.start, List.length_nil] at hlength
  omega

theorem join_cons (w : Text) {ws : List Text} (h : ws ≠ []) :
    join [' '] (w :: ws) = w ++ ' ' :: join [' '] ws := by
  cases ws with
  | nil => exact absurd rfl h
  | cons v ws => simp [join, List.intercalate, List.intersperse]

/-- Words put together with spaces are the words of the text, up to a last part. -/
theorem words_join_append {front back : List Text} (h : ∀ w ∈ front, IsWord w)
    (hback : back ≠ []) :
    Segment.words (join [' '] (front ++ back)) = front ++ Segment.words (join [' '] back) := by
  induction front with
  | nil => rfl
  | cons w front ih =>
    have hw := h w List.mem_cons_self
    have hrest := ih fun v hv => h v (List.mem_cons_of_mem w hv)
    rw [List.cons_append, join_cons w (by simp [hback]), hw.words_append rfl, hrest,
      List.cons_append]

theorem words_join {ws : List Text} (h : ∀ w ∈ ws, IsWord w) :
    Segment.words (join [' '] ws) = ws := by
  rcases List.eq_nil_or_concat ws with rfl | ⟨front, w, rfl⟩
  · rfl
  · rw [List.concat_eq_append] at h ⊢
    have hw : IsWord w := h w (by simp)
    rw [words_join_append (fun v hv => h v (by simp [hv])) (by simp)]
    simp [join, List.intercalate, hw.words_eq]

/-- Blanks around a complete text hold no word and change none. -/
theorem words_trim {s : Text} (h : isComplete (trim s)) :
    Segment.words s = Segment.words (trim s) := by
  obtain ⟨front, back, hs, hfront, hback⟩ := exists_trim s
  have hwords : Segment.words s = Cursor.start.words (trim s ++ back) := by
    rw [Segment.words_eq, hs, Cursor.words_start_append hfront, ← hs]
  rw [hwords, Cursor.words_append, Cursor.words_blanks_of_isBalanced h hback, Segment.words_eq]
  rfl

/-- Blanks around a text that is not complete may lengthen its last word by blanks. -/
theorem words_of_open_trim {s : Text} {front : List Text} {k : Cursor} (hword : k.word ≠ [])
    (h : ∀ rest, Segment.words (trim s ++ rest) = front ++ k.words rest) :
    Segment.words (trim s) = front ++ [k.word] ∧
      ∃ more, (∀ c ∈ more, isBlank c) ∧ Segment.words s = front ++ [k.word ++ more] := by
  obtain ⟨lead, back, hs, hlead, hback⟩ := exists_trim s
  obtain ⟨more, hmore, hk⟩ := Cursor.words_blanks hword hback
  constructor
  · have htrimmed := h []
    rwa [List.append_nil, Cursor.words_nil, Cursor.flush_of_ne_nil hword] at htrimmed
  · refine ⟨more, hmore, ?_⟩
    rw [← hk, ← h back, Segment.words_eq, hs, Cursor.words_start_append hlead, ← hs,
      Segment.words_eq]

end Text

end NoteQuery
