import NoteQuery.Proofs.Text.Casing
import NoteQuery.Proofs.Text.Splitting
import NoteQuery.Proofs.Text.Stripping

/-!
# Folding the case

Every character is folded to at least one character. So a text that is left when characters are
taken out of another one has a shorter folded form, unless nothing was taken out. Folding makes no
ASCII character but small letters out of another character, and no blanks out of anything but
blanks, so that a folded text is cut and stripped where the text itself is.
-/
namespace NoteQuery.Text

theorem foldChar_ne_nil (c : Char) : foldChar c ≠ [] := by
  have htable : ∀ entry ∈ foldSequences, entry.2 ≠ [] := by decide
  rw [foldChar]
  split
  · exact List.cons_ne_nil _ _
  · split
    · exact List.cons_ne_nil _ _
    · split
      · rename_i images hlookup
        obtain ⟨front, back, htab, -⟩ := List.lookup_eq_some_iff.mp hlookup
        have himages := htable (c.toNat, images) (by rw [htab]; simp)
        simpa using himages
      · exact List.cons_ne_nil _ _

theorem foldCase_cons (c : Char) (s : Text) : foldCase (c :: s) = foldChar c ++ foldCase s :=
  List.flatMap_cons

theorem foldCase_append (s t : Text) : foldCase (s ++ t) = foldCase s ++ foldCase t :=
  List.flatMap_append

theorem foldCase_eq_nil_iff (s : Text) : foldCase s = [] ↔ s = [] := by
  cases s with
  | nil => simp [foldCase]
  | cons c s => simp [foldCase_cons, foldChar_ne_nil]

theorem length_foldCase_cons_lt (c : Char) (s : Text) :
    (foldCase s).length < (foldCase (c :: s)).length := by
  have hpos := List.length_pos_iff.mpr (foldChar_ne_nil c)
  rw [foldCase_cons, List.length_append]
  omega

theorem length_foldCase_le {s t : Text} (h : s.Sublist t) :
    (foldCase s).length ≤ (foldCase t).length := by
  induction h with
  | slnil => exact Nat.le_refl _
  | cons c _ ih => exact Nat.le_trans ih (Nat.le_of_lt (length_foldCase_cons_lt c _))
  | cons_cons c _ ih =>
    rw [foldCase_cons, foldCase_cons, List.length_append, List.length_append]
    omega

/-- No part of a text has the folded form of the whole. -/
theorem eq_of_foldCase_eq {s t : Text} (h : s.Sublist t) (hfold : foldCase s = foldCase t) :
    s = t := by
  induction h with
  | slnil => rfl
  | cons c hsub _ =>
    have hle := length_foldCase_le hsub
    have hlt := length_foldCase_cons_lt c
    rw [hfold] at hle
    exact absurd hle (Nat.not_le.mpr (hlt _))
  | cons_cons c _ ih =>
    rw [foldCase_cons, foldCase_cons] at hfold
    rw [ih (List.append_cancel_left hfold)]

/-! ## Characters that stay -/

theorem toLower_cases {c : Char} (h : c.toNat < 0x80) : c.toLower = c ∨ c.toLower.isLower := by
  have hascii : ∀ n < 0x80, (Char.ofNat n).toLower = Char.ofNat n ∨
      (Char.ofNat n).toLower.isLower := by decide
  rw [← Char.ofNat_toNat c]
  exact hascii c.toNat h

theorem small_of_mem_foldRuns : ∀ r ∈ foldRuns,
    0x80 ≤ r.target ∨ (r.first = r.last ∧ (Char.ofNat r.target).isLower) := by
  decide +kernel

theorem small_of_mem_foldSequences : ∀ entry ∈ foldSequences, ∀ n ∈ entry.2,
    0x80 ≤ n ∨ (Char.ofNat n).isLower := by
  decide +kernel

/-- An ASCII character is folded to its lower case, another one to its image under a run or a
sequence of the tables, or to itself. -/
theorem foldChar_cases {c d : Char} (h : d ∈ foldChar c) :
    (c.toNat < 0x80 ∧ d = c.toLower) ∨
      (∃ r ∈ foldRuns, r.covers c.toNat ∧ d = Char.ofNat (r.image c.toNat)) ∨
      (∃ entry ∈ foldSequences, entry.1 = c.toNat ∧ ∃ n ∈ entry.2, d = Char.ofNat n) ∨ d = c := by
  rw [foldChar] at h
  split at h
  · rename_i hc
    exact Or.inl ⟨hc, List.mem_singleton.mp h⟩
  · split at h
    · rename_i n himage
      rw [caseImage?, Option.map_eq_some_iff] at himage
      obtain ⟨r, hr, rfl⟩ := himage
      have hcovers := List.find?_some hr
      exact Or.inr (Or.inl ⟨r, List.mem_of_find?_eq_some hr, hcovers, List.mem_singleton.mp h⟩)
    · split at h
      · rename_i images hlookup
        obtain ⟨front, back, htab, -⟩ := List.lookup_eq_some_iff.mp hlookup
        obtain ⟨n, hn, hd⟩ := List.mem_map.mp h
        have hentry : (c.toNat, images) ∈ foldSequences := by simp [htab]
        exact Or.inr (Or.inr (Or.inl ⟨_, hentry, rfl, n, hn, hd.symm⟩))
      · exact Or.inr (Or.inr (Or.inr (List.mem_singleton.mp h)))

theorem CaseRun.covers_iff (r : CaseRun) (n : Nat) :
    r.covers n ↔ (r.first ≤ n ∧ n ≤ r.last) ∧ (n - r.first) % r.step = 0 := by
  simp [covers]

/-- Beyond ASCII a character is folded to itself, to such characters and to small letters. -/
theorem exists_of_mem_foldChar {c d : Char} (h : d ∈ foldChar c) (hc : ¬ c.toNat < 0x80) :
    d = c ∨ ∃ n, d = Char.ofNat n ∧ (0x80 ≤ n ∨ (Char.ofNat n).isLower) := by
  rcases foldChar_cases h with
    ⟨hascii, -⟩ | ⟨r, hr, hcovers, rfl⟩ | ⟨entry, hentry, -, n, hn, rfl⟩ | hsame
  · exact absurd hascii hc
  · refine Or.inr ⟨_, rfl, ?_⟩
    obtain ⟨hrange, -⟩ := (r.covers_iff _).mp hcovers
    rw [CaseRun.image]
    rcases small_of_mem_foldRuns r hr with htarget | ⟨hone, hsingle⟩
    · exact Or.inl (by omega)
    · have hfirst : c.toNat - r.first = 0 := by omega
      rw [hfirst]
      exact Or.inr hsingle
  · exact Or.inr ⟨n, rfl, small_of_mem_foldSequences entry hentry n hn⟩
  · exact Or.inl hsame

/-- An ASCII character that is no small letter comes from no other character. -/
theorem eq_of_mem_foldChar {c d : Char} (h : d ∈ foldChar c) (hascii : IsAscii d)
    (hsmall : d.isLower = false) : d = c := by
  by_cases hc : c.toNat < 0x80
  · rw [foldChar, if_pos hc, List.mem_singleton] at h
    rcases toLower_cases hc with hsame | hlower
    · exact h.trans hsame
    · rw [h, hlower] at hsmall
      cases hsmall
  · rcases exists_of_mem_foldChar h hc with hsame | ⟨n, rfl, hn | hn⟩
    · exact hsame
    · exact absurd rfl (ofNat_ne_of_isAscii hn hascii)
    · rw [hn] at hsmall
      cases hsmall

theorem mem_of_mem_foldCase {d : Char} (hascii : IsAscii d) (hsmall : d.isLower = false)
    {s : Text} (h : d ∈ foldCase s) : d ∈ s := by
  obtain ⟨c, hc, hd⟩ := List.mem_flatMap.mp h
  rwa [eq_of_mem_foldChar hd hascii hsmall]

theorem foldCase_join (sep : Text) (ws : List Text) :
    foldCase (join sep ws) = join (foldCase sep) (ws.map foldCase) := by
  induction ws with
  | nil => rfl
  | cons w ws ih =>
    cases ws with
    | nil => rw [join_singleton, List.map_singleton, join_singleton]
    | cons v ws =>
      rw [join_cons_cons, foldCase_append, foldCase_append, ih, List.map_cons, List.map_cons,
        List.map_cons, join_cons_cons]

/-! ## Classes of characters that folding keeps -/

/-- The characters that a character is folded to belong to a class exactly if that character
does. -/
def IsFoldStable (p : Char → Bool) : Prop := ∀ c, ∀ d ∈ foldChar c, p d = p c

/-- Neither the characters of a run nor their images are blanks. -/
theorem apart_of_mem_foldRuns : ∀ r ∈ foldRuns, ∀ b ∈ blankRanges,
    (b.2 < r.first ∨ r.last < b.1) ∧ (b.2 < r.target ∨ r.target + (r.last - r.first) < b.1) := by
  decide +kernel

theorem apart_of_mem_foldSequences : ∀ entry ∈ foldSequences,
    inRanges blankRanges entry.1 = false ∧ ∀ n ∈ entry.2, inRanges blankRanges n = false := by
  decide +kernel

theorem inRanges_eq_false_iff (ranges : List (Nat × Nat)) (n : Nat) :
    inRanges ranges n = false ↔ ∀ b ∈ ranges, n < b.1 ∨ b.2 < n := by
  rw [inRanges, List.any_eq_false]
  refine forall₂_congr fun b _ => ?_
  simp only [Bool.and_eq_true, decide_eq_true_eq]
  omega

theorem isBlank_ofNat {n : Nat} (h : inRanges blankRanges n = false) :
    isBlank (Char.ofNat n) = false := by
  rw [Char.ofNat]
  by_cases hvalid : n.isValidChar
  · rw [dif_pos hvalid]
    exact h
  · rw [dif_neg hvalid]
    decide

theorem isFoldStable_isBlank : IsFoldStable isBlank := by
  intro c d h
  rcases foldChar_cases h with
    ⟨hascii, rfl⟩ | ⟨r, hr, hcovers, rfl⟩ | ⟨entry, hentry, hc, n, hn, rfl⟩ | rfl
  · have hlower : ∀ n < 0x80, isBlank (Char.ofNat n).toLower = isBlank (Char.ofNat n) := by decide
    rw [← Char.ofNat_toNat c]
    exact hlower c.toNat hascii
  · obtain ⟨hrange, -⟩ := (r.covers_iff _).mp hcovers
    have hsource : isBlank c = false := by
      refine (inRanges_eq_false_iff _ _).mpr fun b hb => ?_
      obtain ⟨hfrom, -⟩ := apart_of_mem_foldRuns r hr b hb
      omega
    rw [hsource]
    refine isBlank_ofNat ((inRanges_eq_false_iff _ _).mpr fun b hb => ?_)
    obtain ⟨-, hto⟩ := apart_of_mem_foldRuns r hr b hb
    rw [CaseRun.image]
    omega
  · obtain ⟨hfrom, hto⟩ := apart_of_mem_foldSequences entry hentry
    rw [isBlank_ofNat (hto n hn), isBlank, ← hc, hfrom]
  · rfl

theorem isFoldStable_beq {e : Char} (hascii : IsAscii e) (hsmall : e.isLower = false)
    (hsame : foldChar e = [e]) : IsFoldStable (· == e) := by
  intro c d h
  by_cases hd : d = e
  · subst hd
    rw [eq_of_mem_foldChar h hascii hsmall]
  · have hc : c ≠ e := by
      rintro rfl
      rw [hsame] at h
      exact hd (List.mem_singleton.mp h)
    exact (beq_eq_false_iff_ne.mpr hd).trans (beq_eq_false_iff_ne.mpr hc).symm

variable {p : Char → Bool}

theorem IsFoldStable.of_mem_foldCase (hp : IsFoldStable p) {s : Text} {b : Bool}
    (h : ∀ c ∈ s, p c = b) : ∀ d ∈ foldCase s, p d = b := by
  intro d hd
  obtain ⟨c, hc, hmem⟩ := List.mem_flatMap.mp hd
  rw [hp c d hmem, h c hc]

theorem foldCase_dropWhile (hp : IsFoldStable p) (s : Text) :
    foldCase (s.dropWhile p) = (foldCase s).dropWhile p := by
  induction s with
  | nil => rfl
  | cons c s ih =>
    rw [List.dropWhile_cons, foldCase_cons]
    cases hc : p c with
    | true =>
      have himages : ∀ d ∈ foldChar c, p d := fun d hd => (hp c d hd).trans hc
      rw [if_pos rfl, ih, List.dropWhile_append_of_pos himages]
    | false =>
      rw [if_neg Bool.false_ne_true, foldCase_cons]
      obtain ⟨d, rest, himages⟩ := List.exists_cons_of_ne_nil (foldChar_ne_nil c)
      refine (dropWhile_eq_self fun e he => ?_).symm
      rw [himages] at he
      cases he
      exact (hp c d (by rw [himages]; exact List.mem_cons_self)).trans hc

theorem foldCase_dropEndWhile (hp : IsFoldStable p) (s : Text) :
    foldCase (dropEndWhile p s) = dropEndWhile p (foldCase s) := by
  obtain ⟨back, hs, hback, hlast⟩ := exists_dropEndWhile p s
  generalize dropEndWhile p s = front at hs hlast
  rw [hs, foldCase_append, dropEndWhile_append (hp.of_mem_foldCase hback)]
  rcases List.eq_nil_or_concat front with rfl | ⟨u, c, rfl⟩
  · rfl
  · -- The last character that is kept has a last image, which is kept as well.
    have hc : p c = false := hlast c (by simp)
    obtain ⟨v, d, himages⟩ := (List.eq_nil_or_concat (foldChar c)).resolve_left (foldChar_ne_nil c)
    have hd : p d = false := (hp c d (by simp [himages])).trans hc
    have hwhole : foldCase (u.concat c) = foldCase u ++ v ++ [d] := by
      rw [List.concat_eq_append, foldCase_append, List.append_assoc, ← List.concat_eq_append,
        ← himages]
      exact congrArg (foldCase u ++ ·) (List.append_nil _)
    rw [hwhole, dropEndWhile_append_cons hd]
    rfl

theorem foldCase_stripWhere (hp : IsFoldStable p) (s : Text) :
    foldCase (stripWhere p s) = stripWhere p (foldCase s) := by
  rw [stripWhere, foldCase_dropEndWhile hp, foldCase_dropWhile hp, stripWhere]

/-- A character that is kept parts a folded text where it parts the text. -/
theorem splitOn_foldCase {c : Char} (hascii : IsAscii c) (hsmall : c.isLower = false)
    (hsame : foldChar c = [c]) (s : Text) :
    List.splitOn c (foldCase s) = (List.splitOn c s).map foldCase := by
  have hfold : foldCase [c] = [c] := by rw [foldCase, List.flatMap_singleton, hsame]
  have hpieces : ∀ w ∈ (List.splitOn c s).map foldCase, c ∉ w := by
    rw [List.forall_mem_map]
    intro w hw hmem
    rw [← splitOn_char] at hw
    exact not_mem_of_mem_splitOn hw (mem_of_mem_foldCase hascii hsmall hmem)
  have hwhole : foldCase s = join [c] ((List.splitOn c s).map foldCase) := by
    have hjoin := foldCase_join [c] (List.splitOn c s)
    rwa [hfold, join, List.intercalate_splitOn] at hjoin
  rw [hwhole, join, List.splitOn_intercalate c hpieces]
  exact fun hnil => List.splitOnP_ne_nil _ s (List.map_eq_nil_iff.mp hnil)

theorem foldCase_trim (s : Text) : foldCase (trim s) = trim (foldCase s) :=
  foldCase_stripWhere isFoldStable_isBlank s

end NoteQuery.Text
