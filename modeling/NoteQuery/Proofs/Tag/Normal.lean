import NoteQuery.Proofs.Text.Folding
import NoteQuery.Proofs.Text.Stripping
import NoteQuery.Tag

/-!
# Normal forms of tags

The normal form of a tag has lost the blanks around the tag, one sign in front, and then the
separators, but not the blanks and the signs that come to its ends by that. A tag is written out
without any of its signs, and what is written is stripped once more when it is read. Neither
keeps the normal form of every tag: writing keeps it if there is no second sign and no blank
behind the sign, and reading what was written if the path is tidy.
-/
namespace NoteQuery.Tag

/-- The normal form of a tag before its case is folded. -/
def path (tag : Text) : Text := Text.stripChars slash (dropSign (Text.trim tag))

def stem (tag : Text) : Text := (Text.trim tag).dropWhile (· == '#')

/-- The path that a written tag is read as. -/
def asked (tag : Text) : Text := Text.stripChars slash (Text.trim (stem tag))

/-- Without one sign a tag begins neither with a sign nor with a blank. -/
def HasOneSign (tag : Text) : Prop :=
  ∀ c ∈ (dropSign (Text.trim tag)).head?, c ≠ '#' ∧ Text.isBlank c = false

/-- The path of a tag begins with no sign, and has no blank at its ends. -/
def IsTidy (tag : Text) : Prop :=
  (path tag).head? ≠ some '#' ∧ Text.IsBare Text.isBlank (path tag)

instance (tag : Text) : Decidable (HasOneSign tag) :=
  decidable_of_iff ((dropSign (Text.trim tag)).head?.all fun c => c != '#' && !Text.isBlank c)
    (by simp [HasOneSign, Option.all_eq_true])

instance (tag : Text) : Decidable (IsTidy tag) :=
  inferInstanceAs (Decidable ((path tag).head? ≠ some '#' ∧ Text.IsBare Text.isBlank (path tag)))

theorem normalize_eq (tag : Text) : normalize tag = Text.foldCase (path tag) := rfl

theorem dropSign_eq_self {s : Text} (h : s.head? ≠ some '#') : dropSign s = s := by
  cases s with
  | nil => rfl
  | cons c s =>
    have hc : c ≠ '#' := fun hc => h (by simp [hc])
    simp [dropSign, hc]

@[simp]
theorem dropSign_sign_cons (s : Text) : dropSign ('#' :: s) = s := rfl

theorem dropSign_suffix (s : Text) : dropSign s <:+ s := by
  cases s with
  | nil => exact List.suffix_rfl
  | cons c s =>
    rw [dropSign]
    split
    · exact List.suffix_cons c s
    · exact List.suffix_rfl

theorem dropWhile_sign_cons (s : Text) :
    ('#' :: s).dropWhile (· == '#') = s.dropWhile (· == '#') := rfl

variable {tag : Text}

theorem stem_suffix (tag : Text) : stem tag <:+ dropSign (Text.trim tag) := by
  rw [stem]
  cases Text.trim tag with
  | nil => exact List.suffix_rfl
  | cons c s =>
    by_cases hc : c = '#'
    · subst hc
      rw [dropWhile_sign_cons]
      exact List.dropWhile_suffix _
    · simp [dropSign, hc]

theorem asked_infix_path (tag : Text) : asked tag <:+: path tag :=
  Text.infix_stripWhere _ ((Text.stripWhere_infix_self _ _).trans (stem_suffix tag).isInfix)

theorem path_infix_self (tag : Text) : path tag <:+: tag :=
  (Text.stripWhere_infix_self _ _).trans
    ((dropSign_suffix _).isInfix.trans (Text.stripWhere_infix_self _ _))

/-! ## Writing -/

/-- With one sign at most only that sign is not written. -/
theorem stem_of_hasOneSign (h : HasOneSign tag) :
    stem tag = dropSign (Text.trim tag) ∧ (stem tag).head? ≠ some '#' ∧
      Text.IsBare Text.isBlank (stem tag) := by
  have hbare : Text.IsBare Text.isBlank (Text.trim tag) := Text.isBare_stripWhere _ _
  rw [HasOneSign] at h
  rw [stem]
  cases hs : Text.trim tag with
  | nil => exact ⟨rfl, by simp, by simp [Text.IsBare]⟩
  | cons c s =>
    rw [hs] at h hbare
    by_cases hc : c = '#'
    · subst hc
      have hfront : ∀ d ∈ s.head?, d ≠ '#' ∧ Text.isBlank d = false := h
      have hstem : s.dropWhile (· == '#') = s :=
        Text.dropWhile_eq_self fun d hd => by simp [(hfront d hd).1]
      rw [dropWhile_sign_cons, hstem]
      refine ⟨rfl, fun hhash => (hfront '#' hhash).1 rfl, fun d hd => (hfront d hd).2, ?_⟩
      intro d hd
      refine hbare.2 d ?_
      cases s with
      | nil => cases hd
      | cons e s => exact hd
    · have hstem : (c :: s).dropWhile (· == '#') = c :: s := by simp [hc]
      rw [hstem, dropSign_eq_self (by simpa using hc)]
      exact ⟨rfl, by simpa using hc, hbare⟩

theorem trim_stem_of_hasOneSign (h : HasOneSign tag) : Text.trim (stem tag) = stem tag :=
  Text.stripWhere_eq_self (stem_of_hasOneSign h).2.2

theorem path_stem_of_hasOneSign (h : HasOneSign tag) : path (stem tag) = path tag := by
  obtain ⟨hstem, hhead, -⟩ := stem_of_hasOneSign h
  rw [path, trim_stem_of_hasOneSign h, dropSign_eq_self hhead, hstem, path]

theorem asked_of_hasOneSign (h : HasOneSign tag) : asked tag = path tag := by
  rw [asked, trim_stem_of_hasOneSign h, (stem_of_hasOneSign h).1, path]

/-- With a second sign, or a blank behind the sign, that character begins the path but is lost
when the tag is written. -/
theorem path_of_not_hasOneSign (h : ¬ HasOneSign tag) :
    ∃ b rest, (b = '#' ∨ Text.isBlank b) ∧
      path tag = b :: Text.dropEndWhile slash.contains rest ∧ Text.trim (stem tag) <:+: rest := by
  have hbare : Text.IsBare Text.isBlank (Text.trim tag) := Text.isBare_stripWhere _ _
  rw [HasOneSign] at h
  rw [stem, path]
  match hs : Text.trim tag with
  | [] =>
    rw [hs] at h
    exact absurd nofun h
  | c :: s =>
    rw [hs] at h hbare
    by_cases hc : c = '#'
    · subst hc
      match s with
      | [] => exact absurd nofun h
      | b :: rest =>
        have hb : b = '#' ∨ Text.isBlank b := by
          by_contra hnone
          rw [not_or, Bool.not_eq_true] at hnone
          exact h (by rintro d ⟨⟩; exact hnone)
        refine ⟨b, rest, hb, ?_, ?_⟩
        · have hslash : slash.contains b = false := by
            rcases hb with rfl | hb
            · rfl
            · rw [← Bool.not_eq_true]
              intro hmem
              rw [List.mem_singleton.mp (List.contains_iff_mem.mp hmem)] at hb
              cases hb
          exact Text.stripWhere_append_cons hslash [] rest
        · rw [dropWhile_sign_cons]
          by_cases hhash : b = '#'
          · subst hhash
            rw [dropWhile_sign_cons]
            exact (Text.stripWhere_infix_self _ _).trans (List.dropWhile_suffix _).isInfix
          · have hblank : ∀ d ∈ [b], Text.isBlank d :=
              List.forall_mem_singleton.mpr (hb.resolve_left hhash)
            have hstem : (b :: rest).dropWhile (· == '#') = [b] ++ rest := by simp [hhash]
            rw [hstem, Text.trim, Text.stripWhere_append_left hblank]
            exact Text.stripWhere_infix_self _ _
    · refine absurd (fun d hd => ?_) h
      rw [dropSign_eq_self (by simpa using hc)] at hd
      cases hd
      exact ⟨hc, hbare.1 c rfl⟩

/-- Writing keeps the normal form of exactly the tags with at most one sign and no blank behind
it. -/
theorem normalize_stem_eq_iff (tag : Text) :
    normalize (stem tag) = normalize tag ↔ HasOneSign tag := by
  constructor
  · intro hsame
    by_contra hsign
    obtain ⟨b, rest, -, hpath, hstem⟩ := path_of_not_hasOneSign hsign
    have hpart : path (stem tag) <:+: Text.dropEndWhile slash.contains rest := by
      have hrest := Text.infix_stripWhere slash.contains
        ((dropSign_suffix (Text.trim (stem tag))).isInfix.trans hstem)
      exact hrest.trans (Text.infix_dropEndWhile _ (List.dropWhile_suffix _).isInfix)
    have hsub : (path (stem tag)).Sublist (path tag) := by
      rw [hpath]
      exact (hpart.trans (List.suffix_cons _ _).isInfix).sublist
    have hle := hpart.length_le
    rw [Text.eq_of_foldCase_eq hsub hsame, hpath, List.length_cons] at hle
    omega
  · intro hsign
    rw [normalize_eq, normalize_eq, path_stem_of_hasOneSign hsign]

/-! ## Reading what was written -/

/-- A tidy path is a path of its own. -/
theorem isTidy_iff (tag : Text) : IsTidy tag ↔ path (path tag) = path tag := by
  constructor
  · rintro ⟨hhead, hbare⟩
    rw [path, Text.trim, Text.stripWhere_eq_self hbare, dropSign_eq_self hhead]
    exact Text.stripWhere_eq_self (Text.isBare_stripWhere _ _)
  · intro hsame
    have hlength : (path (path tag)).length = (path tag).length := congrArg List.length hsame
    have hstrip : path (path tag) <:+: dropSign (Text.trim (path tag)) :=
      Text.stripWhere_infix_self _ _
    have hsign := dropSign_suffix (Text.trim (path tag))
    have htrim : Text.trim (path tag) <:+: path tag := Text.stripWhere_infix_self _ _
    have hkept : Text.trim (path tag) = path tag := by
      refine htrim.eq_of_length ?_
      have h₁ := hstrip.length_le
      have h₂ := hsign.length_le
      have h₃ := htrim.length_le
      omega
    constructor
    · intro hhead
      obtain ⟨s, hs⟩ := List.head?_eq_some_iff.mp hhead
      have hle := hstrip.length_le
      rw [hsame, hkept, hs, dropSign_sign_cons, List.length_cons] at hle
      omega
    · rw [← hkept]
      exact Text.isBare_stripWhere _ _

/-- A tidy tag is written with its only sign. -/
theorem IsTidy.hasOneSign (h : IsTidy tag) : HasOneSign tag := by
  by_contra hsign
  obtain ⟨b, rest, hb, hpath, -⟩ := path_of_not_hasOneSign hsign
  obtain ⟨hhead, hbare⟩ := h
  rw [hpath] at hhead hbare
  rcases hb with rfl | hblank
  · exact hhead rfl
  · have hnone : Text.isBlank b = false := hbare.1 b rfl
    rw [hblank] at hnone
    cases hnone

/-- The blank in front of a separator at the end is left in the path. -/
example : HasOneSign "#a /".toList ∧ ¬ IsTidy "#a /".toList := by decide

/-- Reading what was written for a tag finds the tag of exactly the tidy ones. -/
theorem normalize_asked_eq_iff (tag : Text) :
    normalize (asked tag) = normalize tag ↔ IsTidy tag := by
  constructor
  · intro hsame
    have hasked := asked_infix_path tag
    have hagain := path_infix_self (asked tag)
    have hpath : path (asked tag) = path tag :=
      Text.eq_of_foldCase_eq (hagain.trans hasked).sublist hsame
    have hkept : asked tag = path tag := by
      refine hasked.eq_of_length ?_
      have h₁ := hasked.length_le
      have h₂ := hagain.length_le
      rw [hpath] at h₂
      omega
    rw [hkept] at hpath
    exact (isTidy_iff tag).mpr hpath
  · intro htidy
    rw [asked_of_hasOneSign htidy.hasOneSign, normalize_eq, normalize_eq,
      (isTidy_iff tag).mp htidy]

/-! ## Standing below -/

/-- Only the normal forms count. -/
theorem isBelow_congr {s t a b : Text} (hst : normalize s = normalize t)
    (hab : normalize a = normalize b) : isBelow s a = isBelow t b := by
  have htags : normalizeBy slash s = normalizeBy slash t := hst
  have hpaths : normalizeBy slash a = normalizeBy slash b := hab
  rw [isBelow, isBelow, isBelowBy, isBelowBy, htags, hpaths]

theorem isBelow_self (t : Text) : isBelow t t = true ↔ normalize t ≠ [] := by
  simp [isBelow, isBelowBy, normalize]

theorem normalize_ne_nil_of_isBelow {t a : Text} (h : isBelow t a = true) : normalize a ≠ [] := by
  simp only [isBelow, isBelowBy, Bool.and_eq_true] at h
  simpa [normalize] using h.1.2

theorem normalize_prefix_of_isBelow {t a : Text} (h : isBelow t a = true) :
    normalize a <+: normalize t := by
  simp only [isBelow, isBelowBy, Bool.and_eq_true, Bool.or_eq_true] at h
  rcases h.2 with hsame | hdeeper
  · have hsame' : normalize t = normalize a := by simpa [normalize] using hsame
    exact ⟨[], by rw [List.append_nil, hsame']⟩
  · exact (List.prefix_append _ slash).trans (List.isPrefixOf_iff_prefix.mp hdeeper)

/-- Of two tags that stand below each other both have the same normal form. -/
theorem isBelow_antisymm {t a : Text} (h : isBelow t a = true) (h' : isBelow a t = true) :
    normalize a = normalize t :=
  (normalize_prefix_of_isBelow h).eq_of_length_le (normalize_prefix_of_isBelow h').length_le

end NoteQuery.Tag
