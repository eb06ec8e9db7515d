import NoteQuery.Proofs.Query.Strengthening
import NoteQuery.Proofs.Query.Toggling
import NoteQuery.Proofs.Tag.Normal

/-!
# Toggling a tag alone

A tag that is added to an empty text is a pure query for the tags below its written form. These
are the tags below the tag itself exactly if its path is tidy, and a second toggle takes the tag
away again exactly if it has one sign at most and no blank behind it.
-/
namespace NoteQuery

namespace Node

variable {path t : Text}

theorem holds_tag_of_ne_nil (h : path ≠ []) (n : Note) :
    (term ⟨.tag (Text.nonEmpty? path), false⟩).holds n =
      .ok (n.tags.any (Tag.isBelow · path)) := by
  cases path with
  | nil => exact absurd rfl h
  | cons c path => exact holds_term_of_ok rfl

/-- A filter for any tag finds tags that are not below one and the same tag. -/
theorem exists_holds_any_tag (ht : Tag.normalize t ≠ []) :
    ∃ n : Note, (term ⟨.tag none, false⟩).holds n = .ok true ∧
      n.tags.any (Tag.isBelow · t) = false := by
  by_contra hnone
  have hbelow : ∀ u : Text, Tag.normalize u ≠ [] → Tag.isBelow u t = true := by
    intro u hu
    by_contra hnot
    refine hnone ⟨{ path := [], tags := [u] }, holds_term_of_ok ?_, by simpa using hnot⟩
    simp [Criterion.holds, hu]
  have ha : Tag.normalize t <+: ['a'] := Tag.normalize_prefix_of_isBelow (hbelow ['a'] (by decide))
  have hb : Tag.normalize t <+: ['b'] := Tag.normalize_prefix_of_isBelow (hbelow ['b'] (by decide))
  obtain ⟨s, hs, -⟩ := (List.prefix_cons_iff.mp ha).resolve_left ht
  obtain ⟨s', hs', -⟩ := (List.prefix_cons_iff.mp hb).resolve_left ht
  rw [hs] at hs'
  cases hs'

/-- A tag filter asks for the tags below a tag exactly if it has the normal form of this tag. -/
theorem holds_tag_iff (ht : Tag.normalize t ≠ []) :
    (∀ n, (term ⟨.tag (Text.nonEmpty? path), false⟩).holds n =
      .ok (n.tags.any (Tag.isBelow · t))) ↔ Tag.normalize path = Tag.normalize t := by
  constructor
  · intro hall
    have hpath : path ≠ [] := by
      rintro rfl
      obtain ⟨n, hholds, hnone⟩ := exists_holds_any_tag ht
      have hsame := hholds.symm.trans (hall n)
      rw [hnone] at hsame
      cases hsame
    have hbelow : ∀ u : Text, Tag.isBelow u path = Tag.isBelow u t := by
      intro u
      have hn := (holds_tag_of_ne_nil hpath { path := [], tags := [u] }).symm.trans (hall _)
      simpa using hn
    have htpath : Tag.isBelow t path = true := by
      rw [hbelow]
      exact (Tag.isBelow_self t).mpr ht
    have hpatht : Tag.isBelow path t = true := by
      rw [← hbelow]
      exact (Tag.isBelow_self path).mpr (Tag.normalize_ne_nil_of_isBelow htpath)
    exact Tag.isBelow_antisymm htpath hpatht
  · intro hsame n
    have hpath : path ≠ [] := by
      rintro rfl
      exact ht hsame.symm
    simp only [holds_tag_of_ne_nil hpath, Tag.isBelow_congr rfl hsame]

end Node

namespace Edit

open Token (isOperandWord)

variable (tag : Text)

theorem formatTag_eq : formatTag tag = '#' :: Quote.quote (Tag.stem tag) := rfl

theorem isOperandWord_formatTag : isOperandWord (formatTag tag) := by
  apply Token.isOperandWord_of_classify
  rw [formatTag_eq, Token.classify_hash]
  rfl

theorem words_formatTag : Segment.words (formatTag tag) = [formatTag tag] :=
  (isWord_formatTag tag).words_eq

theorem trim_formatTag : Text.trim (formatTag tag) = formatTag tag := by
  refine Text.stripWhere_eq_self ⟨fun c hc => ?_, fun c hc => ?_⟩
  · cases hc
    rfl
  · rw [formatTag_eq] at hc
    cases hquote : Quote.quote (Tag.stem tag) with
    | nil =>
      rw [hquote] at hc
      cases hc
      rfl
    | cons d rest =>
      rw [hquote, List.getLast?_cons_cons, ← hquote] at hc
      exact Quote.not_isBlank_of_mem_getLast?_quote hc

/-- A written tag asks for the path that it is read as. -/
theorem ofOperand?_formatTag (ctx : Context) :
    Term.ofOperand? ctx (formatTag tag) =
      some ⟨.tag (Text.nonEmpty? (Tag.asked tag)), false⟩ := by
  have hoperand : Token.operand ⟨0, 0, formatTag tag⟩ = ⟨.tag, formatTag tag, 0, 0⟩ := by
    have hkind := Token.classify_hash (Quote.quote (Tag.stem tag))
    rw [formatTag_eq, Token.operand, ← hkind]
    rfl
  have hcriterion : Criterion.ofToken? ctx ⟨.tag, formatTag tag, 0, 0⟩ =
      some (.tag (Text.nonEmpty? (Tag.asked tag))) := by
    simp [Criterion.ofToken?, Criterion.ofTag, formatTag_eq, Quote.unquote_quote, Tag.asked,
      Tag.slash]
  rw [Term.ofOperand?_of_isOperandWord ctx (isOperandWord_formatTag tag), Term.ofWord?_eq,
    hoperand, hcriterion]
  rfl

/-- A written tag is found again exactly if writing keeps its normal form. -/
theorem isTag_formatTag :
    isTag (Tag.normalize tag) (formatTag tag) = true ↔ Tag.HasOneSign tag := by
  rw [← Tag.normalize_stem_eq_iff]
  simp [isTag, formatTag_eq, Token.classify_hash, Quote.unquote_quote]

theorem toggleTag_eq {tag : Text} (htag : Tag.normalize tag ≠ []) (raw : Text)
    (operator : Operator) :
    toggleTag raw tag operator =
      toggle raw (formatTag tag) (isTag (Tag.normalize tag)) operator := by
  rw [toggleTag]
  exact if_neg (by simpa using htag)

variable {tag}

/-- A tag that is added to an empty text is the whole query. -/
theorem toggleTag_nil (htag : Tag.normalize tag ≠ []) (operator : Operator) :
    toggleTag [] tag operator = ⟨formatTag tag, .added, true⟩ := by
  have hchanged : (formatTag tag != []) = true := by simp [formatTag_eq]
  rw [toggleTag_eq htag]
  show (⟨Text.join [' '] [formatTag tag], .added, Text.join [' '] [formatTag tag] != []⟩ :
    QueryUpdate) = _
  rw [Text.join_singleton, hchanged]

/-- A tag is taken away from its own query exactly if it is found again. -/
theorem toggleTag_formatTag_iff (htag : Tag.normalize tag ≠ []) (operator : Operator) :
    ((toggleTag (formatTag tag) tag operator).action = .removed ∧
        (toggleTag (formatTag tag) tag operator).query = [] ↔ Tag.HasOneSign tag) ∧
      (¬ Tag.HasOneSign tag → (toggleTag (formatTag tag) tag operator).action = .added) := by
  have hwords : Segment.words (Text.trim (formatTag tag)) = [formatTag tag] := by
    rw [trim_formatTag, words_formatTag]
  have hfront : ∀ w ∈ ([] : List Text), isTag (Tag.normalize tag) w = false := nofun
  obtain ⟨hremoved, hadded⟩ := toggle_removed_iff (formatTag tag) (formatTag tag)
    (isTag (Tag.normalize tag)) operator
  simp only [hwords, List.mem_singleton, exists_eq_left, isTag_formatTag] at hremoved
  rw [toggleTag_eq htag]
  refine ⟨⟨fun h => hremoved.mp h.1, fun hsign => ⟨hremoved.mpr hsign, ?_⟩⟩,
    fun hsign => hadded (mt hremoved.mp hsign)⟩
  have hquery := (toggle_of_append (formatTag tag) operator hwords hfront
    ((isTag_formatTag tag).mpr hsign)).2
  rw [hquery, rejoin]
  split <;> rfl

/-- A tag that is added to an empty text is a pure query. It finds the notes with a tag below
exactly if the path of the tag is tidy, and the tag is taken away again by a second toggle exactly
if it has one sign at most and no blank behind it, which a tag with a tidy path has. -/
theorem toggleTag_selects (tag : Text) (htag : Tag.normalize tag ≠ []) (operator again : Operator)
    (conventions : Conventions) (now : Moment) :
    (toggleTag [] tag operator).action = .added ∧
      (∃ q, Query.parseAt conventions now (toggleTag [] tag operator).query = .ok q ∧
        q.mode = .pure ∧ q.root = .term ⟨.tag (Text.nonEmpty? (Tag.asked tag)), false⟩ ∧
        ((∀ n, q.root.holds n = .ok (n.tags.any (Tag.isBelow · tag))) ↔ Tag.IsTidy tag)) ∧
      ((toggleTag (toggleTag [] tag operator).query tag again).action = .removed ∧
          (toggleTag (toggleTag [] tag operator).query tag again).query = [] ↔
        Tag.HasOneSign tag) ∧
      (¬ Tag.HasOneSign tag →
        (toggleTag (toggleTag [] tag operator).query tag again).action = .added) ∧
      (Tag.IsTidy tag → Tag.HasOneSign tag) := by
  obtain ⟨hremoved, hkept⟩ := toggleTag_formatTag_iff htag again
  have hparse := Query.parseAt_operand (isOperandWord_formatTag tag) (words_formatTag tag)
    (ofOperand?_formatTag tag) conventions now
  rw [toggleTag_nil htag]
  refine ⟨rfl, ⟨_, hparse, rfl, rfl, ?_⟩, hremoved, hkept, Tag.IsTidy.hasOneSign⟩
  rw [← Tag.normalize_asked_eq_iff]
  exact Node.holds_tag_iff htag

theorem toggleTag_selects_nested :
    Tag.normalize " #Work/To Do/ ".toList ≠ [] ∧
      (∃ q, Query.parseAt {} ⟨.first, none⟩ (toggleTag [] " #Work/To Do/ ".toList .and).query =
          .ok q ∧
        ∀ n, q.root.holds n = .ok (n.tags.any (Tag.isBelow · " #Work/To Do/ ".toList))) ∧
      (toggleTag (toggleTag [] " #Work/To Do/ ".toList .and).query " #Work/To Do/ ".toList
        .and).query = [] := by
  have htag : Tag.normalize " #Work/To Do/ ".toList ≠ [] := by decide
  have htidy : Tag.IsTidy " #Work/To Do/ ".toList := by decide
  obtain ⟨-, ⟨q, hq, -, -, hselects⟩, hremoved, -, hsign⟩ :=
    toggleTag_selects " #Work/To Do/ ".toList htag .and .and {} ⟨.first, none⟩
  exact ⟨htag, ⟨q, hq, hselects.mpr htidy⟩, (hremoved.mpr (hsign htidy)).2⟩

/-- The normal form of `##a` is `#a`. It is written as `#a`, which finds the tag `a` as well, and is
not found again in it, so that a second toggle adds it once more. -/
theorem toggleTag_two_signs :
    Tag.normalize "##a".toList ≠ [] ∧ (toggleTag [] "##a".toList .and).query = "#a".toList ∧
      (∃ n : Note, n.tags.any (Tag.isBelow · "##a".toList) = false ∧
        ∀ conventions now, ∃ q, Query.parseAt conventions now "#a".toList = .ok q ∧
          q.root.holds n = .ok true) ∧
      (toggleTag "#a".toList "##a".toList .and).action = .added ∧
      (toggleTag "#a".toList "##a".toList .and).query = "#a AND #a".toList := by
  refine ⟨by decide, by decide, ⟨{ path := [], tags := [['a']] }, by decide,
    fun conventions now => ?_⟩, by decide, by decide⟩
  have htime : (Token.tokenize "#a".toList).any Token.asksTime = false := by decide
  exact ⟨_, Query.parseAt_of_not_asksTime conventions now htime, rfl⟩

end Edit

end NoteQuery
