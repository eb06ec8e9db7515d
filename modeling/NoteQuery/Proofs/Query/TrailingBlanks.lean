import NoteQuery.Proofs.Query.Quoting
import NoteQuery.Proofs.Query.Separators
import NoteQuery.Proofs.Query.WordForm
import NoteQuery.Proofs.Text.Folding

/-!
# Blanks behind an open word

Blanks behind a word with an open quote, or with a backslash that waits at its end, belong to the
word. For a property this matters if the blanks stand in its value, which keeps them, or if the
first of them is escaped; otherwise they are around the key and are trimmed away.
-/
namespace NoteQuery

namespace Text

/-- Whether a backslash at the end of a text waits for a character. -/
def endsEscaped (s : Text) : Bool := isEscapedAt s s.length

theorem endsEscaped_concat (s : Text) (c : Char) :
    endsEscaped (s ++ [c]) = (c == '\\' && !endsEscaped s) := by
  have hget : (s ++ [c])[s.length]? = some c := by simp
  have hfront : isEscapedAt (s ++ [c]) s.length = endsEscaped s := by
    rw [endsEscaped, isEscapedAt, isEscapedAt, List.take_left, List.take_length]
  rw [← hfront, ← isEscapedAt_succ hget, endsEscaped, List.length_append, List.length_singleton]

theorem endsEscaped_cons {c : Char} (hc : c ≠ '\\') (s : Text) :
    endsEscaped (c :: s) = endsEscaped s := by
  induction s using List.reverseRecOn with
  | nil =>
    have h := endsEscaped_concat [] c
    rw [List.nil_append, beq_eq_false_iff_ne.mpr hc] at h
    exact h
  | append_singleton s d ih =>
    rw [← List.cons_append, endsEscaped_concat, endsEscaped_concat, ih]

theorem endsEscaped_pair (c : Char) (s : Text) : endsEscaped ('\\' :: c :: s) = endsEscaped s := by
  induction s using List.reverseRecOn with
  | nil => exact (endsEscaped_concat ['\\'] c).trans (Bool.and_false _)
  | append_singleton s d ih =>
    rw [← List.cons_append, ← List.cons_append, endsEscaped_concat, endsEscaped_concat, ih]

theorem exists_of_endsEscaped {s : Text} (h : endsEscaped s) :
    ∃ u, s = u ++ ['\\'] ∧ endsEscaped u = false := by
  rcases List.eq_nil_or_concat s with rfl | ⟨u, c, rfl⟩
  · cases h
  · rw [List.concat_eq_append, endsEscaped_concat, Bool.and_eq_true, beq_iff_eq,
      Bool.not_eq_true'] at h
    exact ⟨u, by rw [h.1, List.concat_eq_append], h.2⟩

end Text

namespace Quote

open Text (endsEscaped)

variable {s : Text}

theorem unquote_append (h : endsEscaped s = false) (t : Text) :
    unquote (s ++ t) = unquote s ++ unquote t := by
  fun_induction unquote s with
  | case1 => rfl
  | case2 c rest ih =>
    rw [Text.endsEscaped_pair] at h
    rw [List.cons_append, List.cons_append, unquote, ih h, List.cons_append]
  | case3 c rest hpair hc ih =>
    have hslash : c ≠ '\\' := by
      rintro rfl
      cases hc
    rw [Text.endsEscaped_cons hslash] at h
    rw [List.cons_append, unquote_cons hslash, if_pos hc, ih h]
  | case4 c rest hpair hc ih =>
    have hslash : c ≠ '\\' := by
      rintro rfl
      cases rest with
      | nil => cases h
      | cons d rest => exact hpair d rest rfl rfl
    rw [Text.endsEscaped_cons hslash] at h
    rw [List.cons_append, unquote_cons hslash, if_neg hc, ih h, List.cons_append]

/-- A backslash that waits at the end takes the next character. -/
theorem exists_unquote_of_endsEscaped (h : endsEscaped s) :
    ∃ u, unquote s = u ++ ['\\'] ∧ ∀ c t, unquote (s ++ c :: t) = u ++ c :: unquote t := by
  obtain ⟨u, rfl, hu⟩ := Text.exists_of_endsEscaped h
  refine ⟨unquote u, unquote_append hu ['\\'], fun c t => ?_⟩
  rw [List.append_assoc, List.singleton_append, unquote_append hu, unquote]

theorem unquote_blanks (h : ∀ c ∈ s, Text.isBlank c) : unquote s = s := by
  induction s with
  | nil => rfl
  | cons c s ih =>
    rw [List.forall_mem_cons] at h
    have hslash : c ≠ '\\' := by
      rintro rfl
      cases h.1
    have hquote : (c == '"') = false := by
      rw [beq_eq_false_iff_ne]
      rintro rfl
      cases h.1
    rw [unquote_cons hslash, hquote, if_neg Bool.false_ne_true, ih h.2]

/-- Blanks that are put behind a text are not lost with its quotes. -/
theorem unquote_append_blanks_ne {more : Text} (hne : more ≠ []) (h : ∀ c ∈ more, Text.isBlank c) :
    unquote (s ++ more) ≠ unquote s := by
  intro hsame
  cases hs : endsEscaped s with
  | false =>
    rw [unquote_append hs, unquote_blanks h, List.append_right_eq_self] at hsame
    exact hne hsame
  | true =>
    obtain ⟨u, hu, happend⟩ := exists_unquote_of_endsEscaped hs
    obtain ⟨c, rest, rfl⟩ := List.exists_cons_of_ne_nil hne
    rw [happend, hu, List.append_cancel_left_eq, List.cons.injEq] at hsame
    have hblank := h c List.mem_cons_self
    rw [hsame.1] at hblank
    cases hblank

theorem ne_backslash_of_cons {c : Char} {s : Text} (hlast : c = '\\' → s = [] → False)
    (hpair : ∀ d rest, c = '\\' → s = d :: rest → False) : c ≠ '\\' := by
  intro hc
  cases s with
  | nil => exact hlast hc rfl
  | cons d rest => exact hpair d rest hc rfl

/-- What stands behind the separator that was found runs on. -/
theorem splitFrom?_append_of_some {sep : Text} {quoted : Bool} {l r : Text}
    (h : splitFrom? sep quoted s = some (l, r)) (t : Text) :
    splitFrom? sep quoted (s ++ t) = some (l, r ++ t) := by
  fun_induction splitFrom? sep quoted s generalizing l r with
  | case1 => cases h
  | case2 => cases h
  | case3 quoted c rest ih =>
    obtain ⟨⟨front, back⟩, hfound, hp⟩ := Option.map_eq_some_iff.mp h
    cases hp
    rw [List.cons_append, List.cons_append, splitFrom?, ih hfound]
    rfl
  | case4 quoted c rest hlast hpair hc ih =>
    obtain ⟨⟨front, back⟩, hfound, hp⟩ := Option.map_eq_some_iff.mp h
    cases hp
    rw [List.cons_append, splitFrom?_cons (ne_backslash_of_cons hlast hpair), if_pos hc, ih hfound]
    rfl
  | case5 quoted c rest hlast hpair hc hsep =>
    cases h
    rw [List.cons_append, splitFrom?_cons (ne_backslash_of_cons hlast hpair), if_neg hc,
      if_pos hsep]
  | case6 quoted c rest hlast hpair hc hsep ih =>
    obtain ⟨⟨front, back⟩, hfound, hp⟩ := Option.map_eq_some_iff.mp h
    cases hp
    rw [List.cons_append, splitFrom?_cons (ne_backslash_of_cons hlast hpair), if_neg hc,
      if_neg hsep, ih hfound]
    rfl

theorem splitFrom?_of_not_mem {c : Char} (h : c ∉ s) (quoted : Bool) :
    splitFrom? [c] quoted s = none := by
  fun_induction splitFrom? [c] quoted s with
  | case1 => rfl
  | case2 => rfl
  | case3 quoted d rest ih =>
    rw [ih fun hc => h (List.mem_cons_of_mem _ (List.mem_cons_of_mem _ hc)), Option.map_none]
  | case4 quoted d rest hlast hpair hd ih =>
    rw [ih fun hc => h (List.mem_cons_of_mem _ hc), Option.map_none]
  | case5 quoted d rest hlast hpair hd hsep =>
    simp only [Bool.and_eq_true, beq_iff_eq, List.cons.injEq, and_true] at hsep
    exact absurd List.mem_cons_self (hsep.1 ▸ h)
  | case6 quoted d rest hlast hpair hd hsep ih =>
    rw [ih fun hc => h (List.mem_cons_of_mem _ hc), Option.map_none]

/-- Where no separator was found, none is found if none is put behind. -/
theorem splitFrom?_append_of_none {c : Char} {quoted : Bool}
    (h : splitFrom? [c] quoted s = none) {t : Text} (ht : c ∉ t) :
    splitFrom? [c] quoted (s ++ t) = none := by
  fun_induction splitFrom? [c] quoted s with
  | case1 quoted => exact splitFrom?_of_not_mem ht quoted
  | case2 quoted =>
    cases t with
    | nil => exact h
    | cons d t =>
      rw [List.singleton_append, splitFrom?,
        splitFrom?_of_not_mem (fun hc => ht (List.mem_cons_of_mem _ hc)), Option.map_none]
  | case3 quoted d rest ih =>
    rw [List.cons_append, List.cons_append, splitFrom?, ih (Option.map_eq_none_iff.mp h),
      Option.map_none]
  | case4 quoted d rest hlast hpair hd ih =>
    rw [List.cons_append, splitFrom?_cons (ne_backslash_of_cons hlast hpair), if_pos hd,
      ih (Option.map_eq_none_iff.mp h)]
    rfl
  | case5 => cases h
  | case6 quoted d rest hlast hpair hd hsep ih =>
    rw [List.cons_append, splitFrom?_cons (ne_backslash_of_cons hlast hpair), if_neg hd,
      if_neg hsep, ih (Option.map_eq_none_iff.mp h)]
    rfl

theorem splitUnquoted_append_of_none {c : Char} (h : (splitUnquoted [c] s).2 = none) {t : Text}
    (ht : c ∉ t) :
    splitUnquoted [c] s = (s, none) ∧ splitUnquoted [c] (s ++ t) = (s ++ t, none) := by
  rw [splitUnquoted] at h
  cases hfound : splitFrom? [c] false s with
  | some p =>
    rw [hfound] at h
    cases h
  | none =>
    rw [splitUnquoted, splitUnquoted, splitFrom?_append_of_none hfound ht, hfound]
    exact ⟨rfl, rfl⟩

theorem splitUnquoted_append_of_some {sep v : Text} (h : (splitUnquoted sep s).2 = some v)
    (t : Text) : splitUnquoted sep (s ++ t) = ((splitUnquoted sep s).1, some (v ++ t)) := by
  rw [splitUnquoted] at h
  cases hfound : splitFrom? sep false s with
  | none =>
    rw [hfound] at h
    cases h
  | some p =>
    rw [hfound] at h
    cases h
    rw [splitUnquoted, splitUnquoted, splitFrom?_append_of_some hfound, hfound]

end Quote

namespace Text

theorem eq_of_nonEmpty?_eq {s t : Text} (h : nonEmpty? s = nonEmpty? t) : s = t := by
  have hget : ∀ u : Text, (nonEmpty? u).getD [] = u := by
    intro u
    cases u <;> rfl
  rw [← hget s, h, hget]

end Text

namespace Token

/-- What is put behind a quote or a backslash does not make a property of a word. -/
theorem classify_append_eq_property_iff {w : Text} (h : ∃ c ∈ w, c = '"' ∨ c = '\\') (s : Text) :
    classify (w ++ s) = .property ↔ classify w = .property := by
  obtain ⟨c, hc, hmark⟩ := h
  rw [classify_eq_property_iff, classify_eq_property_iff]
  match w, hc with
  | [d], hc =>
    rw [List.mem_singleton.mp hc] at hmark
    rcases hmark with rfl | rfl <;> simp
  | d :: e :: w, hc => simp

end Token

namespace Criterion

open Quote (splitUnquoted)

variable {s more : Text}

theorem equals_not_mem_blanks (h : ∀ c ∈ more, Text.isBlank c) : '=' ∉ more := by
  intro hmem
  cases h '=' hmem

/-- Around a key the blanks are trimmed away. -/
theorem keyAndValue_append_blanks (hfound : (splitUnquoted ['='] s).2 = none)
    (hs : Text.endsEscaped s = false) (hmore : ∀ c ∈ more, Text.isBlank c) :
    keyAndValue (s ++ more) = keyAndValue s := by
  obtain ⟨hshort, hlong⟩ :=
    Quote.splitUnquoted_append_of_none hfound (equals_not_mem_blanks hmore)
  have htrim : Text.trim (Quote.unquote s ++ more) = Text.trim (Quote.unquote s) :=
    Text.stripWhere_append_right hmore _
  rw [keyAndValue, keyAndValue, hshort, hlong]
  simp only [Quote.unquote_append hs, Quote.unquote_blanks hmore, htrim]

/-- A value keeps its blanks. -/
theorem value_append_blanks_ne (hfound : (splitUnquoted ['='] s).2.isSome)
    (hne : more ≠ []) (hmore : ∀ c ∈ more, Text.isBlank c) :
    (keyAndValue (s ++ more)).2 ≠ (keyAndValue s).2 := by
  obtain ⟨v, hv⟩ := Option.isSome_iff_exists.mp hfound
  rw [keyAndValue, keyAndValue, Quote.splitUnquoted_append_of_some hv]
  simp only [hv, Option.bind_some]
  intro hsame
  exact Quote.unquote_append_blanks_ne hne hmore (Text.eq_of_nonEmpty?_eq hsame)

/-- An escaped blank takes the place of the backslash at the end of a key, and is trimmed away. -/
theorem foldCase_key_append_blanks_ne (hfound : (splitUnquoted ['='] s).2 = none)
    (hs : Text.endsEscaped s) (hne : more ≠ []) (hmore : ∀ c ∈ more, Text.isBlank c) :
    Text.foldCase (keyAndValue (s ++ more)).1 ≠ Text.foldCase (keyAndValue s).1 := by
  obtain ⟨hshort, hlong⟩ :=
    Quote.splitUnquoted_append_of_none hfound (equals_not_mem_blanks hmore)
  obtain ⟨u, hu, happend⟩ := Quote.exists_unquote_of_endsEscaped hs
  obtain ⟨c, rest, rfl⟩ := List.exists_cons_of_ne_nil hne
  have hkept : Text.trim (u ++ c :: rest) = Text.trim u :=
    Text.stripWhere_append_right hmore u
  have hrest := Quote.unquote_blanks fun d hd => hmore d (List.mem_cons_of_mem c hd)
  rw [keyAndValue, keyAndValue, hshort, hlong]
  simp only [hu, happend, hrest, hkept]
  intro hsame
  have hslash : Text.trim (u ++ ['\\']) = u.dropWhile Text.isBlank ++ ['\\'] :=
    Text.stripWhere_append_cons rfl u []
  have hpart : Text.trim u <:+: u.dropWhile Text.isBlank := Text.dropEndWhile_infix_self _ _
  rw [hslash] at hsame
  have hequal := Text.eq_of_foldCase_eq
    (hpart.sublist.trans (List.sublist_append_left _ _)) hsame
  have hle := hpart.length_le
  rw [hequal, List.length_append, List.length_singleton] at hle
  omega

end Criterion

namespace Edit

variable {key : Text} {value : Option Text} {w more : Text}

/-- Blanks behind a word are in the value of a property, or the first of them is escaped. -/
def LosesBlanks (w : Text) : Prop :=
  (Quote.splitUnquoted ['='] (w.drop 1)).2.isSome ∨ Text.endsEscaped w

instance (w : Text) : Decidable (LosesBlanks w) :=
  inferInstanceAs (Decidable ((Quote.splitUnquoted ['='] (w.drop 1)).2.isSome = true ∨
    Text.endsEscaped w = true))

theorem isProperty_iff (key : Text) (value : Option Text) (w : Text) :
    isProperty key value w = true ↔ Token.classify w = .property ∧
      Text.foldCase (Criterion.keyAndValue (w.drop 1)).1 = Text.foldCase key ∧
      (Criterion.keyAndValue (w.drop 1)).2 = value := by
  simp [isProperty, and_assoc]

theorem endsEscaped_drop_one (h : Token.classify w = .property) :
    Text.endsEscaped (w.drop 1) = Text.endsEscaped w := by
  obtain ⟨c, rest, rfl⟩ := (Token.classify_eq_property_iff w).mp h
  exact (Text.endsEscaped_cons (by decide) _).symm

/-- A property that loses blanks is another one. -/
theorem not_isProperty_append (h : LosesBlanks w) (hne : more ≠ [])
    (hmore : ∀ c ∈ more, Text.isBlank c) (hw : isProperty key value w) :
    isProperty key value (w ++ more) = false := by
  rw [← Bool.not_eq_true]
  intro hlonger
  rw [isProperty_iff] at hw hlonger
  obtain ⟨hkind, hkey, hvalue⟩ := hw
  have hdrop : (w ++ more).drop 1 = w.drop 1 ++ more := by
    obtain ⟨c, rest, rfl⟩ := (Token.classify_eq_property_iff w).mp hkind
    rfl
  rw [hdrop, ← hkey, ← hvalue] at hlonger
  obtain ⟨-, hkeys, hvalues⟩ := hlonger
  cases hfound : (Quote.splitUnquoted ['='] (w.drop 1)).2 with
  | some v => exact Criterion.value_append_blanks_ne (by rw [hfound]; rfl) hne hmore hvalues
  | none =>
    have hescaped : Text.endsEscaped (w.drop 1) := by
      rw [endsEscaped_drop_one hkind]
      exact h.resolve_left (by rw [hfound]; exact Bool.false_ne_true)
    exact Criterion.foldCase_key_append_blanks_ne hfound hescaped hne hmore hkeys

/-- Other blanks behind a word with a mark are around the key. -/
theorem isProperty_append (h : ¬ LosesBlanks w) (hmark : ∃ c ∈ w, c = '"' ∨ c = '\\')
    (hmore : ∀ c ∈ more, Text.isBlank c) :
    isProperty key value (w ++ more) = isProperty key value w := by
  rw [LosesBlanks, not_or, Option.not_isSome_iff_eq_none, Bool.not_eq_true] at h
  rw [Bool.eq_iff_iff, isProperty_iff, isProperty_iff,
    Token.classify_append_eq_property_iff hmark]
  refine and_congr_right fun hkind => ?_
  have hdrop : (w ++ more).drop 1 = w.drop 1 ++ more := by
    obtain ⟨c, rest, rfl⟩ := (Token.classify_eq_property_iff w).mp hkind
    rfl
  have hescaped : Text.endsEscaped (w.drop 1) = false := by
    rw [endsEscaped_drop_one hkind]
    exact h.2
  rw [hdrop, Criterion.keyAndValue_append_blanks h.1 hescaped hmore]

example : ¬ LosesBlanks ".\"k".toList ∧ LosesBlanks ".k=\"v".toList := by decide

end Edit

end NoteQuery
