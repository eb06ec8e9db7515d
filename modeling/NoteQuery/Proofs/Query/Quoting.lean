import NoteQuery.Proofs.Query.Words
import NoteQuery.Query.Edit

/-!
# Reading what was quoted

A cursor that is in no quote reads a quoted text to its end and is in no quote again. So
the written form of a tag or a property is one word, whatever its texts are.
-/
namespace NoteQuery

namespace Quote

theorem escape_cons (c : Char) (t : Text) :
    escape (c :: t) = (if needsEscape c then ['\\', c] else [c]) ++ escape t :=
  List.flatMap_cons

/-- Escaped characters open and close no quotes. -/
theorem reads_escape (quoted : Bool) (w t : Text)
    (h : ∀ c ∈ t, quoted = true ∨ Text.isBlank c = false) :
    Cursor.Reads ⟨quoted, false, w⟩ (escape t) ⟨quoted, false, w ++ escape t⟩ := by
  induction t generalizing w with
  | nil =>
    rw [escape, List.flatMap_nil, List.append_nil]
    exact Cursor.reads_nil _
  | cons c t ih =>
    have hrest : ∀ d ∈ t, quoted = true ∨ Text.isBlank d = false :=
      fun d hd => h d (List.mem_cons_of_mem c hd)
    rw [escape_cons]
    cases hc : needsEscape c with
    | true =>
      have hread := (Cursor.reads_escape quoted w c).append (ih (w ++ ['\\', c]) hrest)
      simpa using hread
    | false =>
      simp only [needsEscape, Bool.or_eq_false_iff, beq_eq_false_iff_ne] at hc
      obtain ⟨⟨hslash, hquote⟩, -⟩ := hc
      have hchar := Cursor.reads_char quoted w hslash (h c List.mem_cons_self)
      rw [beq_eq_false_iff_ne.mpr hquote, Bool.bne_false] at hchar
      simpa using hchar.append (ih (w ++ [c]) hrest)

theorem reads_quote (w t : Text) :
    Cursor.Reads ⟨false, false, w⟩ (quote t) ⟨false, false, w ++ quote t⟩ := by
  cases h : t.any Text.isBlank || t.contains '"' with
  | true =>
    have hmark : ∀ quoted w,
        Cursor.Reads ⟨quoted, false, w⟩ ['"'] ⟨!quoted, false, w ++ ['"']⟩ := by
      intro quoted w
      have hread := Cursor.reads_char quoted w (c := '"') (by decide) (Or.inr rfl)
      simpa using hread
    have hbody := reads_escape true (w ++ ['"']) t fun _ _ => Or.inl rfl
    have hread := ((hmark false w).append hbody).append (hmark true (w ++ ['"'] ++ escape t))
    rw [quote, if_pos h]
    simpa using hread
  | false =>
    rw [quote, h]
    simp only [Bool.or_eq_false_iff, List.any_eq_false] at h
    exact reads_escape false w t fun c hc => Or.inr (Bool.eq_false_iff.mpr (h.1 c hc))

theorem quote_ne_nil {t : Text} (h : t ≠ []) : quote t ≠ [] := by
  cases t with
  | nil => exact absurd rfl h
  | cons c t =>
    have hescape : escape (c :: t) ≠ [] := by
      rw [escape_cons]
      cases needsEscape c <;> simp
    rw [quote]
    split
    · simp
    · exact hescape

theorem mem_escape {c : Char} {t : Text} (h : c ∈ escape t) : c = '\\' ∨ c ∈ t := by
  obtain ⟨d, hd, hc⟩ := List.mem_flatMap.mp h
  split at hc
  · rcases List.mem_cons.mp hc with rfl | hc
    · exact Or.inl rfl
    · rw [List.mem_singleton.mp hc]
      exact Or.inr hd
  · rw [List.mem_singleton.mp hc]
    exact Or.inr hd

/-- A quoted text does not end in a blank. -/
theorem not_isBlank_of_mem_getLast?_quote {t : Text} {c : Char} (h : c ∈ (quote t).getLast?) :
    Text.isBlank c = false := by
  rw [quote] at h
  split at h
  · rw [List.getLast?_concat] at h
    cases h
    rfl
  · rename_i hplain
    rcases mem_escape (List.mem_of_getLast? h) with rfl | hc
    · rfl
    · cases hb : Text.isBlank c with
      | false => rfl
      | true =>
        have hany : t.any Text.isBlank := List.any_eq_true.mpr ⟨c, hc, hb⟩
        rw [hany] at hplain
        exact absurd rfl hplain

/-- A sign and a quoted text are read in one piece. -/
theorem reads_cons_quote (w : Text) {c : Char} (hc : c = '#' ∨ c = '.' ∨ c = '=') (t : Text) :
    Cursor.Reads ⟨false, false, w⟩ (c :: quote t) ⟨false, false, w ++ c :: quote t⟩ := by
  have hplain : Text.isBlank c = false ∧ c ≠ '"' ∧ c ≠ '\\' := by
    rcases hc with rfl | rfl | rfl <;> decide
  have hsign := Cursor.reads_plain w (List.forall_mem_singleton.mpr hplain)
  simpa using hsign.append (reads_quote (w ++ [c]) t)

/-! ## Unquoting -/

theorem unquote_cons {c : Char} (h : c ≠ '\\') (s : Text) :
    unquote (c :: s) = if c == '"' then unquote s else c :: unquote s := by
  rw [unquote.eq_3]
  exact fun d rest hc => absurd hc h

theorem unquote_escape_append (t s : Text) : unquote (escape t ++ s) = t ++ unquote s := by
  induction t with
  | nil => rfl
  | cons c t ih =>
    rw [escape_cons]
    cases hc : needsEscape c with
    | true =>
      rw [if_pos rfl, List.append_assoc, List.cons_append, List.singleton_append, unquote, ih]
      rfl
    | false =>
      simp only [needsEscape, Bool.or_eq_false_iff, beq_eq_false_iff_ne] at hc
      obtain ⟨⟨hslash, hquote⟩, -⟩ := hc
      rw [if_neg Bool.false_ne_true, List.append_assoc, List.singleton_append,
        unquote_cons hslash, beq_eq_false_iff_ne.mpr hquote, if_neg Bool.false_ne_true, ih]
      rfl

theorem unquote_quote_append (t s : Text) : unquote (quote t ++ s) = t ++ unquote s := by
  have hmark : ∀ u : Text, unquote ('"' :: u) = unquote u := fun u => by
    rw [unquote_cons (by decide)]
    rfl
  rw [quote]
  split
  · rw [List.append_assoc, List.append_assoc, List.singleton_append, hmark,
      unquote_escape_append, List.singleton_append, hmark]
  · exact unquote_escape_append t s

theorem unquote_quote (t : Text) : unquote (quote t) = t := by
  have h := unquote_quote_append t []
  rwa [List.append_nil, unquote, List.append_nil] at h

/-! ## Finding the equals sign -/

def prepend (u : Text) (found : Option (Text × Text)) : Option (Text × Text) :=
  found.map fun p => (u ++ p.1, p.2)

theorem prepend_append (u v : Text) (found : Option (Text × Text)) :
    prepend (u ++ v) found = prepend u (prepend v found) := by
  cases found <;> simp [prepend]

theorem splitFrom?_escaped (quoted : Bool) (c : Char) (s : Text) :
    splitFrom? ['='] quoted ('\\' :: c :: s) = prepend ['\\', c] (splitFrom? ['='] quoted s) := by
  rw [splitFrom?]
  rfl

theorem splitFrom?_cons {c : Char} (h : c ≠ '\\') (sep : Text) (quoted : Bool) (s : Text) :
    splitFrom? sep quoted (c :: s) =
      if c == '"' then prepend [c] (splitFrom? sep (!quoted) s)
      else if [c] == sep && !quoted then some ([], s)
      else prepend [c] (splitFrom? sep quoted s) := by
  rw [splitFrom?.eq_4]
  · rfl
  · exact fun hc => absurd hc h
  · exact fun d rest hc => absurd hc h

theorem splitFrom?_char (quoted : Bool) {c : Char} (hslash : c ≠ '\\') (hequals : c ≠ '=')
    (s : Text) :
    splitFrom? ['='] quoted (c :: s) =
      prepend [c] (splitFrom? ['='] (quoted != (c == '"')) s) := by
  have hsep : ([c] == ['=']) = false := by
    rw [beq_eq_false_iff_ne]
    exact fun h => hequals (List.cons.inj h).1
  rw [splitFrom?_cons hslash, hsep, Bool.false_and, if_neg Bool.false_ne_true]
  cases hc : c == '"' with
  | true => rw [if_pos rfl, Bool.bne_true]
  | false => rw [if_neg Bool.false_ne_true, Bool.bne_false]

/-- No equals sign of an escaped text counts, and none of its quotes. -/
theorem splitFrom?_escape (quoted : Bool) (t s : Text) :
    splitFrom? ['='] quoted (escape t ++ s) =
      prepend (escape t) (splitFrom? ['='] quoted s) := by
  induction t with
  | nil => cases h : splitFrom? ['='] quoted s <;> simp [escape, prepend, h]
  | cons c t ih =>
    rw [escape_cons, prepend_append, ← ih]
    cases hc : needsEscape c with
    | true => exact splitFrom?_escaped quoted c _
    | false =>
      simp only [needsEscape, Bool.or_eq_false_iff, beq_eq_false_iff_ne] at hc
      obtain ⟨⟨hslash, hquote⟩, hequals⟩ := hc
      have hchar := splitFrom?_char quoted hslash hequals (escape t ++ s)
      rw [beq_eq_false_iff_ne.mpr hquote, Bool.bne_false] at hchar
      exact hchar

theorem splitFrom?_quote (t s : Text) :
    splitFrom? ['='] false (quote t ++ s) = prepend (quote t) (splitFrom? ['='] false s) := by
  have hmark : ∀ quoted u, splitFrom? ['='] quoted ('"' :: u) =
      prepend ['"'] (splitFrom? ['='] (!quoted) u) := fun quoted u => by
    rw [splitFrom?_char quoted (by decide) (by decide)]
    simp
  rw [quote]
  split
  · rw [List.append_assoc, List.append_assoc, List.singleton_append, hmark, Bool.not_false,
      splitFrom?_escape, List.singleton_append, hmark, Bool.not_true, prepend_append,
      prepend_append]
  · exact splitFrom?_escape false t s

/-- A quoted text has no equals sign that counts. -/
theorem splitUnquoted_quote (t : Text) : splitUnquoted ['='] (quote t) = (quote t, none) := by
  have h := splitFrom?_quote t []
  rw [List.append_nil, splitFrom?, prepend, Option.map_none] at h
  rw [splitUnquoted, h]

/-- The equals sign behind a quoted text is the first one that counts. -/
theorem splitUnquoted_quote_equals (t s : Text) :
    splitUnquoted ['='] (quote t ++ '=' :: s) = (quote t, some s) := by
  have hequals : splitFrom? ['='] false ('=' :: s) = some ([], s) := by
    rw [splitFrom?.eq_4]
    · rfl
    · nofun
    · nofun
  have h := splitFrom?_quote t ('=' :: s)
  rw [hequals, prepend, Option.map_some, List.append_nil] at h
  rw [splitUnquoted, h]

end Quote

namespace Edit

theorem isWord_formatTag (tag : Text) : Text.IsWord (formatTag tag) :=
  ⟨List.cons_ne_nil _ _, Quote.reads_cons_quote [] (Or.inl rfl) _⟩

/-- A property is read in one piece, whatever its key and its value are. -/
theorem reads_formatProperty (w key : Text) (value : Option Text) :
    Cursor.Reads ⟨false, false, w⟩ (formatProperty key value)
      ⟨false, false, w ++ formatProperty key value⟩ := by
  have hkey := Quote.reads_cons_quote w (c := '.') (by simp) key
  rw [formatProperty]
  cases value.bind Text.nonEmpty? with
  | none => exact hkey
  | some v =>
    have hvalue := Quote.reads_cons_quote (w ++ '.' :: Quote.quote key) (c := '=') (by simp) v
    simpa using hkey.append hvalue

theorem formatProperty_ne_nil (key : Text) (value : Option Text) :
    formatProperty key value ≠ [] := by
  rw [formatProperty]
  split <;> simp

theorem isWord_formatProperty (key : Text) (value : Option Text) :
    Text.IsWord (formatProperty key value) :=
  ⟨formatProperty_ne_nil key value, reads_formatProperty [] key value⟩

theorem formatProperty_none (key : Text) : formatProperty key none = '.' :: Quote.quote key := rfl

theorem formatProperty_some (key : Text) {v : Text} (h : v ≠ []) :
    formatProperty key (some v) = '.' :: Quote.quote key ++ '=' :: Quote.quote v := by
  obtain ⟨c, rest, rfl⟩ := List.exists_cons_of_ne_nil h
  show '.' :: Quote.quote key ++ ['='] ++ Quote.quote (c :: rest) = _
  simp

/-- A property that is written out has its key, up to blanks, and its value. -/
theorem keyAndValue_formatProperty (key : Text) (value : Option Text) :
    Criterion.keyAndValue ((formatProperty key value).drop 1) =
      (Text.trim key, value.bind Text.nonEmpty?) := by
  have hnone : Criterion.keyAndValue (Quote.quote key) = (Text.trim key, none) := by
    rw [Criterion.keyAndValue, Quote.splitUnquoted_quote]
    simp only [Quote.unquote_quote, Option.bind_none]
  match value with
  | none => exact hnone
  | some [] => exact hnone
  | some (c :: rest) =>
    rw [formatProperty_some key (List.cons_ne_nil c rest)]
    show Criterion.keyAndValue (Quote.quote key ++ '=' :: Quote.quote (c :: rest)) = _
    rw [Criterion.keyAndValue, Quote.splitUnquoted_quote_equals]
    simp only [Quote.unquote_quote, Option.bind_some]

end Edit

end NoteQuery
