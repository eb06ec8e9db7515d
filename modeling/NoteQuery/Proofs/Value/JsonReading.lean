import NoteQuery.Proofs.Text.Splitting
import NoteQuery.Proofs.Value.JsonStrings

/-!
# JSON texts that are read back

A value of nulls, booleans and texts, in lists and dictionaries, is read back from its JSON
text in any layout: with the halves of surrogate pairs joined in its texts and its keys, and
with the entries of keys that are then the same put together. So it is read back as it was
exactly if there is nothing to join, which does not depend on the layout.
-/
namespace NoteQuery.Json

open Text (joinPairs)

mutual

/-- Whether a value holds no numbers and no times. -/
def isPlain : Value → Bool
  | .null => true
  | .bool _ => true
  | .text _ => true
  | .list items => arePlain items
  | .dict entries => areEntriesPlain entries
  | _ => false

def arePlain : List Value → Bool
  | [] => true
  | v :: rest => isPlain v && arePlain rest

def areEntriesPlain : List (Value × Value) → Bool
  | [] => true
  | (_, v) :: rest => isPlain v && areEntriesPlain rest

end

mutual

/-- A value as it is read back. -/
def joined : Value → Value
  | .text s => .text (joinPairs s)
  | .list items => .list (joinedItems items)
  | .dict entries => .dict (joinedEntries [] entries)
  | v => v

def joinedItems : List Value → List Value
  | [] => []
  | v :: rest => joined v :: joinedItems rest

def joinedEntries (seen : List (Value × Value)) : List (Value × Value) → List (Value × Value)
  | [] => seen
  | (k, v) :: rest =>
    joinedEntries (Value.setEntry (.text (joinPairs k.toText)) (joined v) seen) rest

end

/-! ## Space -/

theorem skipSpace_append {blanks : Text} (h : ∀ c ∈ blanks, isSpace c = true) (s : Text) :
    skipSpace (blanks ++ s) = skipSpace s :=
  List.dropWhile_append_of_pos h

theorem skipSpace_cons {c : Char} (h : isSpace c = false) (s : Text) :
    skipSpace (c :: s) = c :: s := by
  rw [skipSpace, List.dropWhile_cons_of_neg (by rw [h]; exact Bool.false_ne_true)]

theorem isSpace_of_mem_lineBreak {l : Layout} {c : Char} (h : c ∈ l.lineBreak) :
    isSpace c = true := by
  cases l with
  | line => cases h
  | indented depth =>
    rcases List.mem_cons.mp h with rfl | h
    · rfl
    · rw [List.eq_of_mem_replicate h]
      rfl

/-- Items are parted by a comma with space behind it. -/
theorem exists_separator (l : Layout) : ∃ blanks, l.comma ++ l.deeper.lineBreak = ',' :: blanks ∧
    ∀ c ∈ blanks, isSpace c = true := by
  cases l with
  | line => exact ⟨[' '], rfl, List.forall_mem_singleton.mpr rfl⟩
  | indented depth =>
    exact ⟨_, rfl, fun c h => isSpace_of_mem_lineBreak (l := .indented (depth + 1)) h⟩

theorem enclose_cons (l : Layout) (opening closing : Char) (t : Text) (ts : List Text) :
    l.enclose opening closing (t :: ts) =
      opening :: (l.deeper.lineBreak ++ (Text.join (l.comma ++ l.deeper.lineBreak) (t :: ts)
        ++ (l.lineBreak ++ [closing]))) := by
  rw [Layout.enclose, if_neg (by simp)]
  simp only [List.append_assoc, List.cons_append, List.nil_append]

/-! ## Steps of the reader -/

theorem value_list {size fuel : Nat} {s t : Text} (hs : skipSpace s = t)
    (ht : ∀ more, t ≠ ']' :: more) : value size (fuel + 1) ('[' :: s) =
      (items size fuel t).map fun (vs, rest) => (.list vs, rest) := by
  rw [value, hs]
  split
  · exact absurd rfl (ht _)
  · rfl

theorem value_dict {size fuel : Nat} {s t : Text} (hs : skipSpace s = t)
    (ht : ∀ more, t ≠ '\x7d' :: more) : value size (fuel + 1) ('\x7b' :: s) =
      (entries size fuel [] t).map fun (es, rest) => (.dict es, rest) := by
  rw [value, hs]
  split
  · exact absurd rfl (ht _)
  · rfl

section

variable {size fuel : Nat} {s tail t rest : Text} {v : Value} {vs : List Value}
variable {seen es : List (Value × Value)} {key : Text}

theorem items_last (hv : value size fuel s = .ok (v, tail)) (htail : skipSpace tail = ']' :: rest) :
    items size (fuel + 1) s = .ok ([v], rest) := by
  rw [items, hv]
  simp only [bind, Except.bind, htail]

theorem items_more (hv : value size fuel s = .ok (v, tail)) (htail : skipSpace tail = ',' :: t)
    (hvs : items size fuel (skipSpace t) = .ok (vs, rest)) :
    items size (fuel + 1) s = .ok (v :: vs, rest) := by
  rw [items, hv]
  simp only [bind, Except.bind, htail, hvs]

theorem entries_last (hkey : string size s = .ok (key, ':' :: t))
    (hv : value size fuel (skipSpace t) = .ok (v, tail)) (htail : skipSpace tail = '\x7d' :: rest) :
    entries size (fuel + 1) seen ('"' :: s) = .ok (Value.setEntry (.text key) v seen, rest) := by
  rw [entries, hkey]
  simp only [bind, Except.bind, skipSpace_cons (by decide : isSpace ':' = false), hv, htail]

theorem entries_more {more : Text} (hkey : string size s = .ok (key, ':' :: t))
    (hv : value size fuel (skipSpace t) = .ok (v, tail)) (htail : skipSpace tail = ',' :: more)
    (hes : entries size fuel (Value.setEntry (.text key) v seen) (skipSpace more) =
      .ok (es, rest)) : entries size (fuel + 1) seen ('"' :: s) = .ok (es, rest) := by
  rw [entries, hkey]
  simp only [bind, Except.bind, skipSpace_cons (by decide : isSpace ':' = false), hv, htail, hes]

end

/-! ## Reading values -/

/-- The text of a plain value starts with a sign that is no space and closes no list. -/
theorem exists_textWith_cons (l : Layout) {v : Value} (h : isPlain v = true) :
    ∃ c rest, textWith l v = c :: rest ∧ isSpace c = false ∧ c ≠ ']' ∧ c.toNat < 0x80 := by
  cases v with
  | null => exact ⟨'n', _, rfl, rfl, by decide⟩
  | bool b =>
    cases b
    · exact ⟨'f', _, rfl, rfl, by decide⟩
    · exact ⟨'t', _, rfl, rfl, by decide⟩
  | text s => exact ⟨'"', _, rfl, rfl, by decide⟩
  | list items =>
    cases items with
    | nil => exact ⟨'[', _, rfl, rfl, by decide⟩
    | cons v rest => exact ⟨'[', _, enclose_cons l _ _ _ _, rfl, by decide⟩
  | dict entries =>
    cases entries with
    | nil => exact ⟨'\x7b', _, rfl, rfl, by decide⟩
    | cons e rest => exact ⟨'\x7b', _, enclose_cons l _ _ _ _, rfl, by decide⟩
  | _ => cases h

/-- Items start with no space and close no list. -/
theorem exists_items_cons (l : Layout) (sep : Text) {v : Value} {vs : List Value}
    (h : arePlain (v :: vs) = true) (tail : Text) :
    ∃ c rest, Text.join sep (itemTexts l (v :: vs)) ++ tail = c :: rest ∧ isSpace c = false ∧
      c ≠ ']' := by
  rw [arePlain, Bool.and_eq_true] at h
  obtain ⟨more, hmore⟩ := Text.exists_join_append sep (textWith l v) (itemTexts l vs)
  obtain ⟨c, rest, hcons, hspace, hclosing, -⟩ := exists_textWith_cons l h.1
  exact ⟨c, _, by rw [itemTexts, hmore, hcons]; rfl, hspace, hclosing⟩

def entryText (l : Layout) (k v : Value) : Text := stringText k.toText ++ [':', ' '] ++ textWith l v

theorem entryTexts_cons (l : Layout) (k v : Value) (es : List (Value × Value)) :
    entryTexts l ((k, v) :: es) = entryText l k v :: entryTexts l es := rfl

theorem entryText_append (l : Layout) (k v : Value) (s : Text) :
    entryText l k v ++ s =
      '"' :: (k.toText.flatMap escapeChar ++ '"' :: ':' :: ' ' :: (textWith l v ++ s)) := by
  simp [entryText, stringText]

theorem length_entryText (l : Layout) (k v : Value) :
    k.toText.length + (textWith l v).length + 4 ≤ (entryText l k v).length := by
  have hkey := length_le_flatMap_escapeChar k.toText
  simp only [entryText, stringText, List.length_append, List.length_cons, List.length_nil]
  omega

/-- The value of an entry is found behind the colon and the space. -/
theorem skipSpace_textWith (l : Layout) {v : Value} (h : isPlain v = true) (s : Text) :
    skipSpace (' ' :: (textWith l v ++ s)) = textWith l v ++ s := by
  obtain ⟨c, rest, hcons, hspace, -⟩ := exists_textWith_cons l h
  rw [hcons]
  exact skipSpace_cons hspace _

/-- Entries start with the quote of a key. -/
theorem exists_entries_cons (l : Layout) (sep : Text) (k v : Value) (es : List (Value × Value))
    (tail : Text) : ∃ rest, Text.join sep (entryTexts l ((k, v) :: es)) ++ tail = '"' :: rest := by
  obtain ⟨more, hmore⟩ := Text.exists_join_append sep (entryText l k v) (entryTexts l es)
  exact ⟨_, by rw [entryTexts_cons, hmore, List.append_assoc, entryText_append]⟩

theorem length_enclose (l : Layout) (opening closing : Char) (t : Text) (ts : List Text) :
    (Text.join (l.comma ++ l.deeper.lineBreak) (t :: ts)).length + 2 ≤
      (l.enclose opening closing (t :: ts)).length := by
  rw [enclose_cons]
  simp only [List.length_cons, List.length_append, List.length_nil]
  omega

/-- A list or a dictionary with something in it, and what stands behind it. -/
theorem enclose_append (l : Layout) (opening closing : Char) (t : Text) (ts : List Text)
    (rest : Text) : l.enclose opening closing (t :: ts) ++ rest =
      opening :: (l.deeper.lineBreak ++ (Text.join (l.comma ++ l.deeper.lineBreak) (t :: ts)
        ++ (l.lineBreak ++ closing :: rest))) := by
  rw [enclose_cons]
  simp only [List.cons_append, List.append_assoc, List.nil_append]

theorem skipSpace_closing (l : Layout) {c : Char} (h : isSpace c = false) (rest : Text) :
    skipSpace (l.lineBreak ++ c :: rest) = c :: rest :=
  (skipSpace_append (fun _ => isSpace_of_mem_lineBreak) _).trans (skipSpace_cons h rest)

theorem length_textWith_pos (l : Layout) {v : Value} (h : isPlain v = true) :
    0 < (textWith l v).length := by
  obtain ⟨c, rest, hcons, -⟩ := exists_textWith_cons l h
  rw [hcons]
  exact Nat.succ_pos _

mutual

theorem value_textWith (l : Layout) (size : Nat) : (v : Value) → isPlain v = true →
    ∀ fuel rest, (textWith l v).length ≤ size → 2 * (textWith l v).length ≤ fuel + 1 →
      value size (fuel + 1) (textWith l v ++ rest) = .ok (joined v, rest)
  | .null, _, fuel, rest, _, _ => rfl
  | .bool b, _, fuel, rest, _, _ => by cases b <;> rfl
  | .text s, _, fuel, rest, hsize, _ => by
    have hlength := length_le_flatMap_escapeChar s
    have htext : textWith l (.text s) ++ rest = '"' :: (s.flatMap escapeChar ++ '"' :: rest) := by
      simp [textWith, stringText]
    simp only [textWith, stringText, List.length_append, List.length_singleton] at hsize
    rw [htext, value, string_stringText s rest (by omega)]
    rfl
  | .list [], _, fuel, rest, _, _ => rfl
  | .list (v :: vs), h, fuel, rest, hsize, hfuel => by
    obtain ⟨blanks, hsep, hblanks⟩ := exists_separator l
    have hitems : textWith l (.list (v :: vs)) =
        l.enclose '[' ']' (itemTexts l.deeper (v :: vs)) := rfl
    have hlength := length_enclose l '[' ']' (textWith l.deeper v) (itemTexts l.deeper vs)
    rw [hitems] at hsize hfuel ⊢
    rw [itemTexts] at hsize hfuel ⊢
    have hread := items_join l.deeper size hsep hblanks (v :: vs) (List.cons_ne_nil _ _) h fuel _
      rest (skipSpace_closing l (by decide) rest) (by rw [itemTexts]; omega)
      (by rw [itemTexts]; omega)
    obtain ⟨c, more, hcons, hspace, hclosing⟩ := exists_items_cons l.deeper
      (l.comma ++ l.deeper.lineBreak) h (l.lineBreak ++ ']' :: rest)
    rw [itemTexts] at hread hcons
    rw [enclose_append, hcons, value_list (skipSpace_closing l.deeper hspace more), ← hcons, hread]
    · rfl
    · rintro _ heq
      exact hclosing (List.cons.inj heq).1
  | .dict [], _, fuel, rest, _, _ => rfl
  | .dict ((k, v) :: es), h, fuel, rest, hsize, hfuel => by
    obtain ⟨blanks, hsep, hblanks⟩ := exists_separator l
    have hentries : textWith l (.dict ((k, v) :: es)) =
        l.enclose '\x7b' '\x7d' (entryTexts l.deeper ((k, v) :: es)) := rfl
    have hlength := length_enclose l '\x7b' '\x7d' (entryText l.deeper k v)
      (entryTexts l.deeper es)
    rw [hentries] at hsize hfuel ⊢
    rw [entryTexts_cons] at hsize hfuel ⊢
    have hread := entries_join l.deeper size hsep hblanks ((k, v) :: es) (List.cons_ne_nil _ _) h
      fuel [] _ rest (skipSpace_closing l (by decide) rest) (by rw [entryTexts_cons]; omega)
      (by rw [entryTexts_cons]; omega)
    obtain ⟨more, hcons⟩ := exists_entries_cons l.deeper (l.comma ++ l.deeper.lineBreak) k v es
      (l.lineBreak ++ '\x7d' :: rest)
    have hskip : skipSpace (l.deeper.lineBreak ++ '"' :: more) = '"' :: more :=
      skipSpace_closing l.deeper (by decide) more
    rw [entryTexts_cons] at hread hcons
    rw [enclose_append, hcons, value_dict hskip, ← hcons, hread]
    · rfl
    · nofun
  | .int _, h, _, _, _, _ => nomatch h
  | .float _, h, _, _, _, _ => nomatch h
  | .date _, h, _, _, _, _ => nomatch h
  | .moment _, h, _, _, _, _ => nomatch h
  | .clock _, h, _, _, _, _ => nomatch h

theorem items_join (l : Layout) (size : Nat) {sep blanks : Text} (hsep : sep = ',' :: blanks)
    (hblanks : ∀ c ∈ blanks, isSpace c = true) : (vs : List Value) → vs ≠ [] →
    arePlain vs = true → ∀ fuel tail rest, skipSpace tail = ']' :: rest →
      (Text.join sep (itemTexts l vs)).length ≤ size →
      2 * (Text.join sep (itemTexts l vs)).length + 1 ≤ fuel →
      items size fuel (Text.join sep (itemTexts l vs) ++ tail) = .ok (joinedItems vs, rest)
  | [], hne, _, _, _, _, _, _, _ => absurd rfl hne
  | [v], _, h, fuel, tail, rest, htail, hsize, hfuel => by
    rw [arePlain, Bool.and_eq_true] at h
    have hpos := length_textWith_pos l h.1
    rw [itemTexts, itemTexts, Text.join_singleton] at hsize hfuel ⊢
    obtain ⟨fuel, rfl⟩ : ∃ n, fuel = n + 1 + 1 := ⟨fuel - 2, by omega⟩
    exact items_last (value_textWith l size v h.1 fuel tail hsize (by omega)) htail
  | v :: w :: vs, _, h, fuel, tail, rest, htail, hsize, hfuel => by
    rw [arePlain, Bool.and_eq_true] at h
    have hjoin : Text.join sep (itemTexts l (v :: w :: vs)) =
        textWith l v ++ (sep ++ Text.join sep (itemTexts l (w :: vs))) :=
      (Text.join_cons_cons _ _ _ _).trans (List.append_assoc _ _ _)
    rw [hjoin] at hsize hfuel ⊢
    have hcomma : 0 < sep.length := by
      rw [hsep]
      exact Nat.succ_pos _
    simp only [List.length_append] at hsize hfuel
    obtain ⟨fuel, rfl⟩ : ∃ n, fuel = n + 1 + 1 := ⟨fuel - 2, by omega⟩
    have hvs := items_join l size hsep hblanks (w :: vs) (List.cons_ne_nil _ _) h.2 (fuel + 1) tail
      rest htail (by omega) (by omega)
    obtain ⟨c, start, hcons, hspace, -⟩ := exists_items_cons l sep h.2 tail
    have hnext : skipSpace (blanks ++ (Text.join sep (itemTexts l (w :: vs)) ++ tail)) =
        Text.join sep (itemTexts l (w :: vs)) ++ tail := by
      rw [skipSpace_append hblanks, hcons, skipSpace_cons hspace]
    rw [List.append_assoc, List.append_assoc]
    refine items_more (value_textWith l size v h.1 fuel _ (by omega) (by omega)) ?_
      ((congrArg _ hnext).trans hvs)
    rw [hsep]
    exact skipSpace_cons (by decide) _

theorem entries_join (l : Layout) (size : Nat) {sep blanks : Text} (hsep : sep = ',' :: blanks)
    (hblanks : ∀ c ∈ blanks, isSpace c = true) : (es : List (Value × Value)) → es ≠ [] →
    areEntriesPlain es = true → ∀ fuel seen tail rest, skipSpace tail = '\x7d' :: rest →
      (Text.join sep (entryTexts l es)).length ≤ size →
      2 * (Text.join sep (entryTexts l es)).length + 1 ≤ fuel →
      entries size fuel seen (Text.join sep (entryTexts l es) ++ tail) =
        .ok (joinedEntries seen es, rest)
  | [], hne, _, _, _, _, _, _, _, _ => absurd rfl hne
  | [(k, v)], _, h, fuel, seen, tail, rest, htail, hsize, hfuel => by
    rw [areEntriesPlain, Bool.and_eq_true] at h
    have hlength := length_entryText l k v
    rw [entryTexts_cons, entryTexts, Text.join_singleton] at hsize hfuel ⊢
    obtain ⟨fuel, rfl⟩ : ∃ n, fuel = n + 1 + 1 := ⟨fuel - 2, by omega⟩
    rw [entryText_append]
    refine entries_last (string_stringText k.toText _ (by omega)) ?_ htail
    rw [skipSpace_textWith l h.1]
    exact value_textWith l size v h.1 fuel tail (by omega) (by omega)
  | (k, v) :: (k', v') :: es, _, h, fuel, seen, tail, rest, htail, hsize, hfuel => by
    rw [areEntriesPlain, Bool.and_eq_true] at h
    have hlength := length_entryText l k v
    have hjoin : Text.join sep (entryTexts l ((k, v) :: (k', v') :: es)) =
        entryText l k v ++ (sep ++ Text.join sep (entryTexts l ((k', v') :: es))) :=
      (Text.join_cons_cons _ _ _ _).trans (List.append_assoc _ _ _)
    have hcomma : 0 < sep.length := by
      rw [hsep]
      exact Nat.succ_pos _
    rw [hjoin] at hsize hfuel ⊢
    simp only [List.length_append] at hsize hfuel
    obtain ⟨fuel, rfl⟩ : ∃ n, fuel = n + 1 + 1 := ⟨fuel - 2, by omega⟩
    have hes := entries_join l size hsep hblanks ((k', v') :: es) (List.cons_ne_nil _ _) h.2
      (fuel + 1) (Value.setEntry (.text (joinPairs k.toText)) (joined v) seen) tail rest htail
      (by omega) (by omega)
    obtain ⟨more, hmore⟩ := exists_entries_cons l sep k' v' es tail
    have hnext : skipSpace (blanks ++ (Text.join sep (entryTexts l ((k', v') :: es)) ++ tail)) =
        Text.join sep (entryTexts l ((k', v') :: es)) ++ tail := by
      rw [skipSpace_append hblanks, hmore, skipSpace_cons (by decide)]
    have hvalue := value_textWith l size v h.1 fuel
      (sep ++ (Text.join sep (entryTexts l ((k', v') :: es)) ++ tail)) (by omega) (by omega)
    rw [← skipSpace_textWith l h.1] at hvalue
    rw [List.append_assoc, List.append_assoc, entryText_append]
    refine entries_more (string_stringText k.toText _ (by omega)) hvalue ?_
      ((congrArg _ hnext).trans hes)
    rw [hsep]
    exact skipSpace_cons (by decide) _

end

/-! ## Reading texts -/

theorem read_textWith (l : Layout) {v : Value} (h : isPlain v = true) {blanks : Text}
    (hblanks : ∀ c ∈ blanks, isSpace c = true) :
    read (textWith l v ++ blanks) = .ok (joined v) := by
  obtain ⟨c, rest, hcons, hspace, -, hascii⟩ := exists_textWith_cons l h
  have hmark : ¬(textWith l v ++ blanks).head?.any (·.toNat == 0xfeff) = true := by
    rw [hcons, List.cons_append, List.head?_cons, Option.any_some, beq_iff_eq]
    omega
  have hskip : skipSpace (textWith l v ++ blanks) = textWith l v ++ blanks := by
    rw [hcons, List.cons_append, skipSpace_cons hspace]
  have hend : skipSpace blanks = [] := List.dropWhile_eq_nil_iff.mpr hblanks
  have hdocument : document (textWith l v ++ blanks) = .ok (joined v) := by
    rw [document, if_neg hmark]
    simp only [hskip]
    rw [value_textWith l _ v h _ blanks (by simp) (by simp only [List.length_append]; omega)]
    simp only [bind, Except.bind, hend]
  rw [read, hdocument]

/-- Whether the JSON text of a value on one line is read as that value. -/
def IsReadBack (v : Value) : Prop := read (text v) = .ok v

theorem isReadBack_iff {v : Value} (h : isPlain v = true) : IsReadBack v ↔ joined v = v := by
  have hread : read (textWith .line v ++ []) = .ok (joined v) := read_textWith .line h nofun
  rw [List.append_nil] at hread
  rw [IsReadBack, text, hread, Except.ok.injEq]

theorem arePlain_iff {vs : List Value} : arePlain vs = true ↔ ∀ v ∈ vs, isPlain v = true := by
  induction vs with
  | nil => exact iff_of_true rfl nofun
  | cons v vs ih => rw [arePlain, Bool.and_eq_true, ih, List.forall_mem_cons]

theorem areEntriesPlain_iff {es : List (Value × Value)} :
    areEntriesPlain es = true ↔ ∀ e ∈ es, isPlain e.2 = true := by
  induction es with
  | nil => exact iff_of_true rfl nofun
  | cons e es ih => rw [areEntriesPlain, Bool.and_eq_true, ih, List.forall_mem_cons]

theorem setEntry_of_not_mem {k : Text} {ps : List (Text × Value)} (h : k ∉ ps.map Prod.fst)
    (v : Value) : Value.setEntry (.text k) v (ps.map fun p => (.text p.1, p.2)) =
      (ps ++ [(k, v)]).map fun p => (.text p.1, p.2) := by
  induction ps with
  | nil => rfl
  | cons p ps ih =>
    rw [List.map_cons, List.mem_cons, not_or] at h
    have hkey : Value.sameKey (.text p.1) (.text k) = false := beq_eq_false_iff_ne.mpr (Ne.symm h.1)
    rw [List.map_cons, Value.setEntry, hkey, if_neg Bool.false_ne_true, ih h.2]
    rfl

/-- Entries under different keys stay what they are, if their texts do. -/
theorem joinedEntries_eq {ps qs : List (Text × Value)} (hkeys : ((ps ++ qs).map Prod.fst).Nodup)
    (h : ∀ q ∈ qs, joinPairs q.1 = q.1 ∧ joined q.2 = q.2) :
    joinedEntries (ps.map fun p => (.text p.1, p.2)) (qs.map fun q => (.text q.1, q.2)) =
      (ps ++ qs).map fun p => (.text p.1, p.2) := by
  induction qs generalizing ps with
  | nil => rw [List.append_nil]; rfl
  | cons q qs ih =>
    rw [List.forall_mem_cons] at h
    have hnew : q.1 ∉ ps.map Prod.fst := by
      rw [List.map_append, List.nodup_append] at hkeys
      exact fun hmem => hkeys.2.2 _ hmem _ List.mem_cons_self rfl
    have hassoc : ps ++ q :: qs = (ps ++ [q]) ++ qs := by simp
    rw [hassoc] at hkeys ⊢
    have htext : (Value.text q.1).toText = q.1 := rfl
    rw [← ih hkeys h.2, List.map_cons, joinedEntries, htext, h.1.1, h.1.2,
      setEntry_of_not_mem hnew]

theorem joined_dict {ps : List (Text × Value)} (hkeys : (ps.map Prod.fst).Nodup)
    (h : ∀ p ∈ ps, joinPairs p.1 = p.1 ∧ joined p.2 = p.2) :
    joined (.dict (ps.map fun p => (.text p.1, p.2))) = .dict (ps.map fun p => (.text p.1, p.2)) :=
  congrArg Value.dict (@joinedEntries_eq [] ps hkeys h)

theorem joinedItems_eq {vs : List Value} (h : ∀ v ∈ vs, joined v = v) : joinedItems vs = vs := by
  induction vs with
  | nil => rfl
  | cons v vs ih =>
    rw [List.forall_mem_cons] at h
    rw [joinedItems, h.1, ih h.2]

/-- Plain values that are read back one by one are read back as a list, in any layout. -/
theorem read_list (l : Layout) {vs : List Value} (h : ∀ v ∈ vs, isPlain v = true)
    (hback : ∀ v ∈ vs, IsReadBack v) {blanks : Text} (hblanks : ∀ c ∈ blanks, isSpace c = true) :
    read (textWith l (.list vs) ++ blanks) = .ok (.list vs) := by
  have hjoined : joinedItems vs = vs :=
    joinedItems_eq fun v hv => (isReadBack_iff (h v hv)).mp (hback v hv)
  have hplain : isPlain (.list vs) = true := arePlain_iff.mpr h
  rw [read_textWith l hplain hblanks, joined, hjoined]

/-! ## Line breaks -/

theorem return_not_mem_lineBreak (l : Layout) : '\r' ∉ l.lineBreak := by
  cases l with
  | line => exact List.not_mem_nil
  | indented depth =>
    intro h
    rcases List.mem_cons.mp h with h | h
    · cases h
    · cases List.eq_of_mem_replicate h

theorem return_not_mem_enclose (l : Layout) {opening closing : Char} (hopening : '\r' ≠ opening)
    (hclosing : '\r' ≠ closing) {ts : List Text} (h : ∀ t ∈ ts, '\r' ∉ t) :
    '\r' ∉ l.enclose opening closing ts := by
  cases ts with
  | nil => simp [Layout.enclose, hopening, hclosing]
  | cons t ts =>
    have hcomma : '\r' ∉ l.comma := by cases l <;> simp [Layout.comma]
    have hsep : '\r' ∉ l.comma ++ l.deeper.lineBreak := by
      rw [List.mem_append, not_or]
      exact ⟨hcomma, return_not_mem_lineBreak _⟩
    rw [enclose_cons]
    simp [hopening, hclosing, return_not_mem_lineBreak, Text.not_mem_join hsep h]

mutual

/-- The only line breaks in a text are line feeds. -/
theorem return_not_mem_textWith (l : Layout) : (v : Value) → isPlain v = true →
    '\r' ∉ textWith l v
  | .null, _ => by rw [textWith]; decide
  | .bool b, _ => by cases b <;> (rw [textWith]; decide)
  | .text s, _ => return_not_mem_stringText s
  | .list vs, h => return_not_mem_enclose l (by decide) (by decide)
    (return_not_mem_itemTexts l.deeper vs h)
  | .dict es, h => return_not_mem_enclose l (by decide) (by decide)
    (return_not_mem_entryTexts l.deeper es h)
  | .int _, h => nomatch h
  | .float _, h => nomatch h
  | .date _, h => nomatch h
  | .moment _, h => nomatch h
  | .clock _, h => nomatch h

theorem return_not_mem_itemTexts (l : Layout) : (vs : List Value) → arePlain vs = true →
    ∀ t ∈ itemTexts l vs, '\r' ∉ t
  | [], _ => nofun
  | v :: vs, h => by
    rw [arePlain, Bool.and_eq_true] at h
    exact List.forall_mem_cons.mpr
      ⟨return_not_mem_textWith l v h.1, return_not_mem_itemTexts l vs h.2⟩

theorem return_not_mem_entryTexts (l : Layout) : (es : List (Value × Value)) →
    areEntriesPlain es = true → ∀ t ∈ entryTexts l es, '\r' ∉ t
  | [], _ => nofun
  | (k, v) :: es, h => by
    rw [areEntriesPlain, Bool.and_eq_true] at h
    refine List.forall_mem_cons.mpr ⟨?_, return_not_mem_entryTexts l es h.2⟩
    have hvalue := return_not_mem_textWith l v h.1
    have hkey := return_not_mem_stringText k.toText
    simp [hvalue, hkey]

end

end NoteQuery.Json
