import NoteQuery.Display.Screen
import NoteQuery.Proofs.Display.WholeLines
import NoteQuery.Proofs.Note.Escaping

/-!
# The first word on the screen

Markup is broken into the lines of the screen. A word at its start, with a colon and a blank
behind it, gets through each step unharmed: no tag, no emoji code and no dropped character can
arise in it, and its end is a blank that no line is broken in front of. So the first line starts
with it, unless the screen is narrower, whatever stands behind it.
-/
namespace NoteQuery

/-! ## Plain characters -/

namespace Text

def IsLabelChar (c : Char) : Prop := c.isAlpha ∨ c = ':' ∨ c = ' '

theorem toNat_of_isAlpha {c : Char} (h : c.isAlpha) :
    (65 ≤ c.toNat ∧ c.toNat ≤ 90) ∨ (97 ≤ c.toNat ∧ c.toNat ≤ 122) := by
  rcases Bool.or_eq_true_iff.mp h with hupper | hlower
  · obtain ⟨hlow, hhigh⟩ := of_decide_eq_true hupper
    exact Or.inl ⟨UInt32.le_iff_toNat_le.mp hlow, UInt32.le_iff_toNat_le.mp hhigh⟩
  · obtain ⟨hlow, hhigh⟩ := Bool.and_eq_true_iff.mp hlower
    exact Or.inr ⟨UInt32.le_iff_toNat_le.mp (of_decide_eq_true hlow),
      UInt32.le_iff_toNat_le.mp (of_decide_eq_true hhigh)⟩

theorem isLabelChar_of_mem_label {word : Text} (h : ∀ c ∈ word, c.isAlpha) :
    ∀ c ∈ label word, IsLabelChar c := by
  intro c hc
  rcases List.mem_append.mp hc with hc | hc
  · exact Or.inl (h c hc)
  · rcases List.mem_cons.mp hc with rfl | hc
    · exact Or.inr (Or.inl rfl)
    · exact Or.inr (Or.inr (List.mem_singleton.mp hc))

/-- The code points of labels. -/
theorem IsLabelChar.toNat {c : Char} (h : IsLabelChar c) :
    c.toNat = 32 ∨ c.toNat = 58 ∨ (65 ≤ c.toNat ∧ c.toNat ≤ 90) ∨
      (97 ≤ c.toNat ∧ c.toNat ≤ 122) := by
  rcases h with h | rfl | rfl
  · exact Or.inr (Or.inr (toNat_of_isAlpha h))
  · exact Or.inr (Or.inl rfl)
  · exact Or.inl rfl

theorem IsLabelChar.ne {c d : Char} (h : IsLabelChar c)
    (hd : d.toNat < 32 ∨ (32 < d.toNat ∧ d.toNat < 58) ∨ (90 < d.toNat ∧ d.toNat < 97) ∨
      122 < d.toNat) : c ≠ d := by
  rintro rfl
  have hc := h.toNat
  omega

theorem charWidth_of_isLabelChar {c : Char} (h : IsLabelChar c) : charWidth c = 1 := by
  have hc := h.toNat
  simp only [charWidth]
  have hshown : ¬(c.toNat < 0x20 || (0x7f ≤ c.toNat && c.toNat < 0xa0)) = true := by
    simp only [Bool.or_eq_true, Bool.and_eq_true, decide_eq_true_eq]
    omega
  rw [if_neg hshown, if_pos (by omega)]

theorem isWidened_of_isLabelChar {c : Char} (h : IsLabelChar c) : isWidened c = false := by
  have hnarrow : ∀ n < 123, n = 32 ∨ 58 ≤ n → inRanges widenedRanges n = false := by
    decide +kernel
  have hc := h.toNat
  exact hnarrow c.toNat (by omega) (by omega)

/-! ## Clusters -/

theorem exists_clustersFrom_cons (k : Cluster) (before : List Cluster) (joined widens : Bool)
    (s : Text) : ∃ later, clustersFrom (k :: before) joined widens s = later ++ before := by
  induction s generalizing k before joined widens with
  | nil => exact ⟨[k], rfl⟩
  | cons c rest ih =>
    simp only [clustersFrom, growCluster]
    split_ifs
    · exact ih _ before _ _
    · exact ih _ before _ _
    · exact ih _ before _ _
    · exact ih _ before _ _
    · obtain ⟨later, h⟩ := ih ⟨[c], charWidth c⟩ (k :: before) false (isWidened c)
      exact ⟨later ++ [k], by rw [h, List.append_assoc, List.singleton_append]⟩

/-- A cluster that nothing widens only grows by characters that take no cell. -/
theorem exists_clustersFrom_grown (k : Cluster) (before : List Cluster) (joined : Bool)
    (s : Text) : ∃ later more,
      clustersFrom (k :: before) joined false s = later ++ ⟨k.text ++ more, k.width⟩ :: before := by
  induction s generalizing k joined with
  | nil => exact ⟨[], [], by rw [List.append_nil]; rfl⟩
  | cons c rest ih =>
    have hgrown (j : Bool) : ∃ later more, clustersFrom (⟨k.text ++ [c], k.width⟩ :: before) j false
        rest = later ++ ⟨k.text ++ more, k.width⟩ :: before := by
      obtain ⟨later, more, h⟩ := ih ⟨k.text ++ [c], k.width⟩ j
      exact ⟨later, c :: more, by rw [h, List.append_assoc, List.singleton_append]⟩
    simp only [clustersFrom, growCluster]
    split_ifs
    · exact hgrown false
    · exact hgrown true
    · exact hgrown false
    · exact hgrown false
    · obtain ⟨later, h⟩ := exists_clustersFrom_cons ⟨[c], charWidth c⟩ (k :: before) false
        (isWidened c) rest
      exact ⟨later, [], by rw [h, List.append_nil]⟩

def Cluster.ofChar (c : Char) : Cluster := ⟨[c], 1⟩

theorem clustersFrom_append {w : Text} (h : ∀ c ∈ w, IsLabelChar c) (before : List Cluster)
    (s : Text) : clustersFrom before false false (w ++ s) =
      clustersFrom ((w.map Cluster.ofChar).reverse ++ before) false false s := by
  induction w generalizing before with
  | nil => rfl
  | cons c w ih =>
    rw [List.forall_mem_cons] at h
    have hjoiner : (c == joiner) = false := beq_false_of_ne (h.1.ne (by decide))
    have hselector : (c == emojiSelector) = false := beq_false_of_ne (h.1.ne (by decide))
    have hwidth := charWidth_of_isLabelChar h.1
    have hstep : clustersFrom before false false (c :: w ++ s) =
        clustersFrom (Cluster.ofChar c :: before) false false (w ++ s) := by
      simp only [List.cons_append, clustersFrom, hjoiner, hselector, hwidth,
        isWidened_of_isLabelChar h.1, Bool.false_eq_true, if_false]
      rfl
    rw [hstep, ih h.2, List.map_cons, List.reverse_cons, List.append_assoc, List.singleton_append]

/-- A label fills clusters of its own, up to marks behind its last character. -/
theorem exists_clusters_append {w : Text} (h : ∀ c ∈ w, IsLabelChar c) (hne : w ≠ []) (s : Text) :
    ∃ ks later, clusters (w ++ s) = ks ++ later ∧ w <+: ks.flatMap (·.text) ∧
      total (ks.map (·.width)) = w.length := by
  obtain ⟨front, last, rfl⟩ := (List.eq_nil_or_concat' w).resolve_left hne
  obtain ⟨later, more, hgrown⟩ :=
    exists_clustersFrom_grown (.ofChar last) (front.map Cluster.ofChar).reverse false s
  refine ⟨front.map Cluster.ofChar ++ [⟨[last] ++ more, 1⟩], later.reverse, ?_, ⟨more, ?_⟩, ?_⟩
  · rw [clusters, clustersFrom_append h, List.map_append, List.reverse_append, List.append_nil]
    exact (congrArg List.reverse hgrown).trans (by simp [Cluster.ofChar])
  · simp [List.flatMap_map, Cluster.ofChar]
  · show (List.map _ _).sum = _
    simp [Cluster.ofChar, Function.comp_def]

theorem chopFrom_ne_nil (n used : Nat) (ks : List Cluster) : chopFrom n used ks ≠ [] := by
  cases ks with
  | nil => exact List.cons_ne_nil _ _
  | cons k rest =>
    rw [chopFrom]
    split <;> split <;> exact List.cons_ne_nil _ _

/-- Clusters that fit on a line stay together. -/
theorem exists_chopFrom_append {n used : Nat} {ks : List Cluster} (later : List Cluster)
    (h : used + total (ks.map (·.width)) ≤ n) :
    ∃ w ws, chopFrom n used (ks ++ later) = (ks.flatMap (·.text) ++ w) :: ws := by
  induction ks generalizing used with
  | nil => exact List.exists_cons_of_ne_nil (chopFrom_ne_nil n used later)
  | cons k rest ih =>
    have hsum : total ((k :: rest).map (·.width)) = k.width + total (rest.map (·.width)) := rfl
    rw [hsum] at h
    have hfits : used + k.width + total (rest.map (·.width)) ≤ n := by omega
    obtain ⟨w, ws, hrest⟩ := ih hfits
    refine ⟨w, ws, ?_⟩
    rw [List.cons_append, chopFrom, if_neg (by omega), hrest, List.flatMap_cons, List.append_assoc]

/-- Clusters that fit into some cells are all kept. -/
theorem takeCells_append {n : Nat} {ks : List Cluster} (later : List Cluster)
    (h : total (ks.map (·.width)) ≤ n) :
    takeCells n (ks ++ later) = ks ++ takeCells (n - total (ks.map (·.width))) later := by
  induction ks generalizing n with
  | nil => rfl
  | cons k rest ih =>
    have hsum : total ((k :: rest).map (·.width)) = k.width + total (rest.map (·.width)) := rfl
    rw [hsum] at h ⊢
    rw [List.cons_append, takeCells, if_pos (by omega), ih (by omega), Nat.sub_add_eq,
      List.cons_append]

variable {w : Text} {n : Nat}

theorem prefix_fit (hw : ∀ c ∈ w, IsLabelChar c) (hne : w ≠ []) (hn : w.length ≤ n) {line : Text}
    (h : w <+: line) : w <+: fit n line := by
  obtain ⟨s, rfl⟩ := h
  obtain ⟨ks, later, hks, hprefix, hwidth⟩ := exists_clusters_append hw hne s
  have hkept : fit n (w ++ s) = (takeCells n (clusters (w ++ s))).flatMap (·.text)
      ++ spaces (n - total ((takeCells n (clusters (w ++ s))).map (·.width))) := rfl
  rw [hkept, hks, takeCells_append later (by omega), List.flatMap_append, List.append_assoc]
  exact hprefix.trans (List.prefix_append _ _)

theorem exists_chop_cons (hw : ∀ c ∈ w, IsLabelChar c) (hne : w ≠ []) (hn : w.length ≤ n)
    {s : Text} (h : w <+: s) : ∃ line others, chop n s = line :: others ∧ w <+: line := by
  obtain ⟨s, rfl⟩ := h
  obtain ⟨ks, later, hks, hprefix, hwidth⟩ := exists_clusters_append hw hne s
  have hfits : 0 + total (ks.map (·.width)) ≤ n := by omega
  obtain ⟨v, vs, hchop⟩ := exists_chopFrom_append later hfits
  exact ⟨_, vs, by rw [chop, hks, hchop], hprefix.trans (List.prefix_append _ _)⟩

/-! ## Tabs -/

theorem prefix_expandTabs (hw : ∀ c ∈ w, IsLabelChar c) (s : Text) :
    w <+: expandTabs (w ++ s) := by
  have htab : '\t' ∉ w := fun hmem => (hw _ hmem).ne (by decide) rfl
  obtain ⟨first, others, h⟩ := exists_splitOn_append htab s
  rw [expandTabs, h]
  cases others with
  | nil => exact List.prefix_append _ _
  | cons second others =>
    rw [expandFrom]
    · simp only [List.append_assoc]
      exact List.prefix_append _ _
    · exact List.cons_ne_nil _ _

end Text

/-! ## Lines -/

namespace Wrap

/-- Text that has begun a word stays in front. -/
theorem exists_wordsFrom (word : Text) (gap : Bool) (s : Text) :
    ∃ more ws, wordsFrom word true gap s = (word.reverse ++ more) :: ws := by
  induction s generalizing word gap with
  | nil => exact ⟨[], [], by rw [List.append_nil]; rfl⟩
  | cons c rest ih =>
    have hgrown (g : Bool) :
        ∃ more ws, wordsFrom (c :: word) true g rest = (word.reverse ++ more) :: ws := by
      obtain ⟨more, ws, h⟩ := ih (c :: word) g
      exact ⟨c :: more, ws, by rw [h, List.reverse_cons, List.append_assoc, List.singleton_append]⟩
    rw [wordsFrom]
    split_ifs
    · exact hgrown true
    · exact ⟨[], _, by rw [List.append_nil]⟩
    · exact hgrown false

theorem wordsFrom_append {w : Text} (hw : ∀ c ∈ w, Text.isBlank c = false) (hne : w ≠ [])
    (word : Text) (begun : Bool) (s : Text) :
    wordsFrom word begun false (w ++ s) = wordsFrom (w.reverse ++ word) true false s := by
  induction w generalizing word begun with
  | nil => exact absurd rfl hne
  | cons c w ih =>
    rw [List.forall_mem_cons] at hw
    have hstep : wordsFrom word begun false (c :: w ++ s) =
        wordsFrom (c :: word) true false (w ++ s) := by
      rw [List.cons_append, wordsFrom, hw.1]
      rfl
    rw [hstep, List.reverse_cons, List.append_assoc, List.singleton_append]
    cases w with
    | nil => rfl
    | cons d w => exact ih hw.2 (List.cons_ne_nil d w) _ _

theorem isBlank_of_isAlpha {c : Char} (h : c.isAlpha) : Text.isBlank c = false := by
  have hblank : ∀ n < 123, 58 ≤ n → Text.inRanges Text.blankRanges n = false := by decide +kernel
  have hc := Text.toNat_of_isAlpha h
  exact hblank c.toNat (by omega) (by omega)

/-- The first word of a text with a label in front begins with all of the label. -/
theorem exists_words_label {word : Text} (h : ∀ c ∈ word, c.isAlpha) (s : Text) :
    ∃ more ws, words (label word ++ s) = (label word ++ more) :: ws := by
  have hcolon : ∀ c ∈ word ++ [':'], Text.isBlank c = false := by
    intro c hc
    rcases List.mem_append.mp hc with hc | hc
    · exact isBlank_of_isAlpha (h c hc)
    · obtain rfl := List.mem_singleton.mp hc
      decide
  have hlabel : label word ++ s = (word ++ [':']) ++ ' ' :: s := by simp [label]
  have hwords : words (label word ++ s) = wordsFrom (label word).reverse true true s := by
    rw [words, hlabel, wordsFrom_append hcolon (by simp), wordsFrom]
    simp [label, Text.isBlank, Text.inRanges, Text.blankRanges]
  obtain ⟨more, ws, hfrom⟩ := exists_wordsFrom (label word).reverse true s
  exact ⟨more, ws, by rw [hwords, hfrom, List.reverse_reverse]⟩

namespace State

def first (st : State) : Text := (st.line :: st.full).getLast (List.cons_ne_nil _ _)

/-- Some text has been met, and the first line starts with a label. -/
structure StartsWith (st : State) (w : Text) : Prop where
  begun : st.begun = true
  first : w <+: st.first

variable {st : State} {w : Text}

theorem StartsWith.append (h : st.StartsWith w) (s : Text) : (st.append s).StartsWith w := by
  obtain ⟨hbegun, hfirst⟩ := h
  refine ⟨rfl, ?_⟩
  rw [State.first] at hfirst ⊢
  cases hfull : st.full with
  | nil =>
    simp only [State.append, hfull, List.getLast_singleton] at hfirst ⊢
    exact hfirst.trans (List.prefix_append _ _)
  | cons line full =>
    simp only [State.append, hfull] at hfirst ⊢
    rwa [List.getLast_cons (List.cons_ne_nil _ _)] at hfirst ⊢

theorem StartsWith.next (h : st.StartsWith w) (s : Text) : (st.next s).StartsWith w := by
  obtain ⟨hbegun, hfirst⟩ := h
  refine ⟨by rw [State.next, hbegun]; rfl, ?_⟩
  have hfull : (st.next s).full = st.line :: st.full := by
    rw [State.next, hbegun]
    rfl
  rw [State.first] at hfirst ⊢
  simp only [hfull]
  rwa [List.getLast_cons (List.cons_ne_nil _ _)]

theorem StartsWith.foldl_next (h : st.StartsWith w) (lines : List Text) :
    (lines.foldl State.next st).StartsWith w := by
  induction lines generalizing st with
  | nil => exact h
  | cons line lines ih => exact ih (h.next line)

theorem StartsWith.place (h : st.StartsWith w) (n : Nat) (word : Text) :
    (st.place .fold n word).StartsWith w := by
  rw [State.place]
  split_ifs
  · exact h.append word
  · exact h.foldl_next _
  · exact h.next word

theorem StartsWith.foldl_place (h : st.StartsWith w) (n : Nat) (ws : List Text) :
    (ws.foldl (State.place .fold n) st).StartsWith w := by
  induction ws generalizing st with
  | nil => exact h
  | cons word ws ih => exact ih (h.place n word)

/-- A label begins the first line, also where its word is folded. -/
theorem startsWith_place {n : Nat} (hw : ∀ c ∈ w, Text.IsLabelChar c) (hne : w ≠ [])
    (hn : w.length ≤ n) {word : Text} (h : w <+: word) :
    (({} : State).place .fold n word).StartsWith w := by
  have hnext (s : Text) (hs : w <+: s) : (({} : State).next s).StartsWith w := by
    have hsome : s ≠ [] := by
      rintro rfl
      exact hne (List.prefix_nil.mp hs)
    exact ⟨by simp [State.next, hsome], hs⟩
  rw [State.place]
  split_ifs
  · exact ⟨rfl, h⟩
  · obtain ⟨line, others, hchop, hline⟩ := Text.exists_chop_cons hw hne hn h
    simp only [hchop]
    exact (hnext line hline).foldl_next others
  · exact hnext word h

end State

variable {word : Text} {n : Nat}

theorem label_ne_nil (word : Text) : label word ≠ [] := by simp [label]

theorem exists_breakLine_label (hword : ∀ c ∈ word, c.isAlpha) (hn : (label word).length ≤ n)
    {line : Text} (h : label word <+: line) :
    ∃ first others, breakLine .fold n line = first :: others ∧ label word <+: first := by
  obtain ⟨s, rfl⟩ := h
  obtain ⟨more, ws, hwords⟩ := exists_words_label hword s
  have hplain := Text.isLabelChar_of_mem_label hword
  have hstart : (({} : State).place .fold n (label word ++ more)).StartsWith (label word) :=
    State.startsWith_place hplain (label_ne_nil word) hn (List.prefix_append _ more)
  let st := ws.foldl (State.place .fold n) (({} : State).place .fold n (label word ++ more))
  have hbroken : breakLine .fold n (label word ++ s) = (st.line :: st.full).reverse := by
    rw [breakLine, hwords]
    rfl
  refine ⟨st.first, (st.line :: st.full).dropLast.reverse, ?_, (hstart.foldl_place n ws).first⟩
  rw [hbroken, ← List.reverse_concat, State.first, List.dropLast_concat_getLast]

theorem prefix_layLine {w : Text} (hw : ∀ c ∈ w, Text.IsLabelChar c) (hne : w ≠ [])
    (hn : w.length ≤ n) {line : Text} (h : w <+: line) : w <+: layLine .fold .ragged n line := by
  have hdropped : w <+: dropExcess n line := by
    have hlength : w.length ≤ line.length := h.length_le
    refine List.prefix_take_iff.mpr ⟨h, ?_⟩
    omega
  simp only [layLine, align, cut]
  split
  · exact hdropped
  · exact Text.prefix_fit hw hne hn hdropped

/-- The first line starts as the text does, if that starts with a label. -/
theorem exists_lines_label (hword : ∀ c ∈ word, c.isAlpha) (hn : (label word).length ≤ n)
    (s : Text) : ∃ line others,
      lines .fold .ragged n (label word ++ s) = line :: others ∧ label word <+: line := by
  have hplain := Text.isLabelChar_of_mem_label hword
  have hfeed : '\n' ∉ label word := fun hmem => (hplain _ hmem).ne (by decide) rfl
  have hzero : (n == 0) = false := by
    have hsize : (label word).length = word.length + 2 := List.length_append
    exact beq_false_of_ne (by omega)
  obtain ⟨row, rows, hrows⟩ := Text.exists_splitOn_append hfeed s
  obtain ⟨first, others, hfirst, hlabel⟩ :=
    exists_breakLine_label hword hn (Text.prefix_expandTabs hplain row)
  have hlines : lines .fold .ragged n (label word ++ s) = layLine .fold .ragged n first ::
      (others.map (layLine .fold .ragged n) ++ rows.flatMap fun line =>
        (breakLine .fold n (Text.expandTabs line)).map (layLine .fold .ragged n)) := by
    rw [lines, hzero, if_neg Bool.false_ne_true, Text.lines, hrows, List.flatMap_cons, hfirst]
    rfl
  exact ⟨_, _, hlines, prefix_layLine hplain (label_ne_nil word) hn hlabel⟩

end Wrap

/-! ## Markup -/

namespace Markup

/-- Text that has been met before the next tag is printed in front of it. -/
theorem exists_piecesFrom {before : Text} (hne : before ≠ []) (slashes : Nat) (s : Text) :
    ∃ more ps, piecesFrom 0 before slashes s = .plain (before.reverse ++ more) :: ps := by
  induction s generalizing before slashes with
  | nil => exact ⟨backslashes slashes, [], by simp [piecesFrom, plainPiece, hne]⟩
  | cons c rest ih =>
    rw [piecesFrom]
    split
    · exact ih hne (slashes + 1)
    · split
      · exact ⟨[], _, by simp [plainPiece, hne]; rfl⟩
      · obtain ⟨more, ps, h⟩ := ih (List.cons_ne_nil c (backslashes slashes ++ before)) 0
        refine ⟨backslashes slashes ++ c :: more, ps, ?_⟩
        rw [h]
        simp [backslashes]

theorem piecesFrom_append {w : Text} (hw : ∀ c ∈ w, Text.IsLabelChar c) (before s : Text) :
    piecesFrom 0 before 0 (w ++ s) = piecesFrom 0 (w.reverse ++ before) 0 s := by
  induction w generalizing before with
  | nil => rfl
  | cons c w ih =>
    rw [List.forall_mem_cons] at hw
    have hslash : (c == '\\') = false := beq_false_of_ne (hw.1.ne (by decide))
    have hbracket : (c == '[') = false := beq_false_of_ne (hw.1.ne (by decide))
    have hstep : piecesFrom 0 before 0 (c :: w ++ s) = piecesFrom 0 (c :: before) 0 (w ++ s) := by
      rw [List.cons_append, piecesFrom, hslash, hbracket]
      rfl
    rw [hstep, ih hw.2, List.reverse_cons, List.append_assoc, List.singleton_append]

theorem piecesFrom_drop (s t : Text) : piecesFrom s.length [] 0 (s ++ t) = piecesFrom 0 [] 0 t := by
  induction s with
  | nil => rfl
  | cons c s ih => rw [List.length_cons, List.cons_append, piecesFrom, ih]

/-- The small letters of a style between brackets are a tag. -/
theorem pieces_style {style : Text} (hne : style ≠ []) (hstyle : ∀ c ∈ style, c.isLower)
    (s : Text) : pieces ('[' :: (style ++ ']' :: s)) = .tag style :: piecesFrom 0 [] 0 s := by
  have hinside : ∀ c ∈ style, (c != '[' && c != ']') = true := by
    intro c hc
    have halpha : c.isAlpha := Bool.or_eq_true_iff.mpr (Or.inr (hstyle c hc))
    have hplain : Text.IsLabelChar c := Or.inl halpha
    simp [hplain.ne (d := '[') (by decide), hplain.ne (d := ']') (by decide)]
  have hbody : (style ++ ']' :: s).takeWhile (fun c => c != '[' && c != ']') = style := by
    rw [List.takeWhile_append_of_pos hinside]
    simp
  have htag : tagBody? (style ++ ']' :: s) = some style := by
    obtain ⟨c, rest, rfl⟩ := List.exists_cons_of_ne_nil hne
    have hsmall : startsTag c = true := by
      obtain ⟨hlow, hhigh⟩ := Bool.and_eq_true_iff.mp (hstyle c List.mem_cons_self)
      simp only [startsTag, Bool.or_eq_true, Bool.and_eq_true, decide_eq_true_eq]
      exact Or.inl (Or.inl (Or.inl ⟨of_decide_eq_true hlow, of_decide_eq_true hhigh⟩))
    simp only [tagBody?, hbody, List.drop_left, List.head?_cons, hsmall, if_true]
  have hskip := piecesFrom_drop (style ++ [']']) s
  rw [List.length_append, List.append_assoc, List.singleton_append] at hskip
  rw [pieces, piecesFrom]
  simp only [htag]
  rw [← hskip]
  rfl

theorem unescapeBrackets_append {w : Text} (hw : ∀ c ∈ w, Text.IsLabelChar c) (s : Text) :
    unescapeBrackets (w ++ s) = w ++ unescapeBrackets s := by
  induction w with
  | nil => rfl
  | cons c w ih =>
    rw [List.forall_mem_cons] at hw
    have hslash : c ≠ '\\' := hw.1.ne (by decide)
    rw [List.cons_append, unescapeBrackets, ih hw.2, List.cons_append]
    rintro - rfl
    exact absurd rfl hslash

theorem replaceFrom_append {w : Text} (hw : ':' ∉ w) (s : Text) :
    Emoji.replaceFrom 0 true (w ++ s) = w ++ Emoji.replaceFrom 0 true s := by
  induction w with
  | nil => rfl
  | cons c w ih =>
    rw [List.mem_cons, not_or] at hw
    have hcolon : (c == ':') = false := beq_false_of_ne (Ne.symm hw.1)
    have hstep : Emoji.replaceFrom 0 true (c :: (w ++ s)) =
        c :: Emoji.replaceFrom 0 true (w ++ s) := if_neg (by rw [hcolon]; exact Bool.false_ne_true)
    exact hstep.trans (congrArg (c :: ·) (ih hw.2))

/-- A colon with a blank behind it opens no emoji code. -/
theorem replaceFrom_colon (s : Text) :
    Emoji.replaceFrom 0 true (':' :: ' ' :: s) = ':' :: ' ' :: Emoji.replaceFrom 0 true s := rfl

theorem filter_isDropped {w : Text} (hw : ∀ c ∈ w, Text.IsLabelChar c) :
    w.filter (!isDropped ·) = w := by
  rw [List.filter_eq_self]
  intro c hc
  have hbounds := (hw c hc).toNat
  simp only [isDropped, Bool.not_eq_true', Bool.or_eq_false_iff, Bool.and_eq_false_iff,
    beq_eq_false_iff_ne, decide_eq_false_iff_not]
  omega

theorem exists_plainText_label {word : Text} (hword : ∀ c ∈ word, c.isAlpha) (s : Text) :
    ∃ t, plainText (label word ++ s) = label word ++ t := by
  have hplain := Text.isLabelChar_of_mem_label hword
  have hcolon : ':' ∉ word := fun hmem => absurd (hword _ hmem) (by decide)
  refine ⟨(Emoji.replaceFrom 0 true (unescapeBrackets s)).filter (!isDropped ·), ?_⟩
  have hreplaced : Emoji.replaceFrom 0 true (label word ++ unescapeBrackets s) =
      label word ++ Emoji.replaceFrom 0 true (unescapeBrackets s) := by
    rw [label, List.append_assoc, replaceFrom_append hcolon, List.append_assoc]
    exact congrArg (word ++ ·) (replaceFrom_colon _)
  rw [plainText, unescapeBrackets_append hplain, Emoji.replace, hreplaced, List.filter_append,
    filter_isDropped hplain]

/-- What markup in a style prints starts with the label that it starts with. -/
theorem exists_of_render_styled {style : String} (hne : style.toList ≠ [])
    (hstyle : ∀ c ∈ style.toList, c.isLower) {word : Text} (hword : ∀ c ∈ word, c.isAlpha)
    {rest out : Text} (h : render (styled style (label word ++ rest)) = .ok out) :
    ∃ s, out = label word ++ s := by
  have hlabel : (label word).reverse ++ [] ≠ [] := by simp [label]
  have hstyled : styled style (label word ++ rest) = '[' :: (style.toList ++ ']' ::
      (label word ++ (rest ++ (['[', '/'] ++ style.toList ++ [']'])))) := by
    simp [styled]
  obtain ⟨more, ps, hps⟩ :=
    exists_piecesFrom hlabel 0 (rest ++ (['[', '/'] ++ style.toList ++ [']']))
  rw [render, hstyled, pieces_style hne hstyle,
    piecesFrom_append (Text.isLabelChar_of_mem_label hword), hps, List.append_nil,
    List.reverse_reverse, renderPieces] at h
  obtain ⟨tags, -, h⟩ := bind_eq_ok_iff.mp h
  obtain ⟨t, ht⟩ := exists_plainText_label hword more
  rw [renderPieces, ht] at h
  cases hrest : renderPieces tags ps with
  | error e =>
    rw [hrest] at h
    cases h
  | ok others =>
    rw [hrest] at h
    cases h
    exact ⟨t ++ others, List.append_assoc _ _ _⟩

end Markup

/-! ## The console of the screen -/

namespace Screen

theorem endsLine_printLines (lines : List Text) : (printLines lines).EndsLine := by
  induction lines with
  | nil => exact Or.inl rfl
  | cons line lines ih => exact Text.EndsLine.append (Or.inr ⟨line, rfl⟩) ih

/-- The screen prints whole lines, and begins one with the label that markup begins with. -/
theorem laysOut_console (refusal : Text → Option PrintFault) :
    (console refusal).LaysOut width where
  endsLine := by
    intro colour held b s after h
    simp only [console] at h
    split at h
    · cases h
    · split at h
      · cases h
      · cases h
        exact endsLine_printLines _
  hasLine := by
    intro colour (held : List Text) s after style word rest hne hstyle _ hword hwidth h
    simp only [console, blockLines, markupLines] at h
    cases hrender : Markup.render (styled style (label word ++ rest)) with
    | error e =>
      rw [hrender] at h
      cases h
    | ok out =>
      obtain ⟨t, rfl⟩ := Markup.exists_of_render_styled hne hstyle hword hrender
      obtain ⟨line, others, hlines, hstart⟩ := Wrap.exists_lines_label hword hwidth t
      simp only [hrender, Except.map, hlines] at h
      split at h
      · cases h
      · cases h
        have hplain := Text.isLabelChar_of_mem_label hword
        have hfeed : '\n' ∉ label word := fun hmem => (hplain _ hmem).ne (by decide) rfl
        have hsplit : printLines (held ++ line :: others) =
            printLines held ++ (line ++ '\n' :: printLines others) := by
          simp [printLines]
        rw [hsplit]
        exact (endsLine_printLines held).hasLine_append
          (Text.hasLine_of_prefix (hstart.trans (List.prefix_append _ _)) hfeed)

end Screen

end NoteQuery
