import NoteQuery.Proofs.Query.Toggling
import NoteQuery.Proofs.Query.TrailingBlanks
import NoteQuery.Proofs.Query.WellFormed

/-!
# Properties that are there

An update finds a property among the words of the trimmed text, a query among the terms of the
text. Both find the same ones unless the last word loses blanks with the text, which belong to
the value of a property or of which the first is escaped.
-/
namespace NoteQuery

open Edit (isProperty LosesBlanks)

namespace Criterion

variable {ctx : Context} {t : Token} {k : Text} {v : Option Text}

theorem ofProperty?_eq_property_iff {s : Text} :
    ofProperty? s = some (.property k v) ↔ k ≠ [] ∧ keyAndValue s = (k, v) := by
  simp only [ofProperty?, Option.map_eq_some_iff, Text.nonEmpty?_eq_some_iff, property.injEq,
    Prod.ext_iff]
  constructor
  · rintro ⟨key, ⟨rfl, hne⟩, rfl, hvalue⟩
    exact ⟨hne, rfl, hvalue⟩
  · rintro ⟨hne, hkey, hvalue⟩
    exact ⟨k, ⟨hkey, hne⟩, rfl, hvalue⟩

/-- Only a property asks for one, and it needs a key for this. -/
theorem ofToken?_eq_property_iff :
    ofToken? ctx t = some (.property k v) ↔
      t.kind = .property ∧ k ≠ [] ∧ keyAndValue (t.text.drop 1) = (k, v) := by
  rw [← ofProperty?_eq_property_iff, ofToken?]
  cases t.kind with
  | property =>
    simp only [Option.some.injEq, true_and]
    cases ofProperty? (t.text.drop 1) <;> simp
  | name => simp [ofName?]
  | tag => simp [ofTag]
  | date =>
    rw [ofDate?]
    generalize DateExpr.resolve? _ _ _ = range
    cases isUnfinishedDate (t.text.drop 1) <;> cases range <;> simp
  | task => simp
  | folder =>
    rw [ofFolder?]
    generalize Text.nonEmpty? _ = path
    cases path <;> simp
  | extension =>
    rw [ofExtension?]
    generalize Text.nonEmpty? _ = ext
    cases ext <;> simp
  | connector => simp
  | negation => simp

end Criterion

namespace Reading

/-- A segment asks for a property exactly if it is one and has a key; then no minus negates it. -/
theorem termOf?_eq_property_iff (mode : QueryMode) (ctx : Context) (s : Segment) (k : Text)
    (v : Option Text) :
    (ofMode mode).termOf? ctx s = some ⟨.property k v, false⟩ ↔
      Token.classify s.text = .property ∧ k ≠ [] ∧
        Criterion.keyAndValue (s.text.drop 1) = (k, v) := by
  constructor
  · intro h
    obtain ⟨hcriterion, hnegated⟩ := of_termOf?_eq_some h
    have hsign : Token.isNegated s.text = false := hnegated.symm
    rw [Token.operand, if_neg (by rw [hsign]; exact Bool.false_ne_true)] at hcriterion
    exact Criterion.ofToken?_eq_property_iff.mp hcriterion
  · rintro ⟨hkind, hkey⟩
    have hsign : Token.isNegated s.text = false := by
      obtain ⟨c, rest, hs⟩ := (Token.classify_eq_property_iff s.text).mp hkind
      rw [hs]
      rfl
    have hoperand : Token.operand s = ⟨.property, s.text, s.start, s.stop⟩ := by
      rw [Token.operand, hsign, hkind]
      rfl
    have hterm : (ofMode mode).isTerm (Token.operand s) = true := by
      rw [isTerm_ofMode mode (Token.operand_kind_ne_negation s), hoperand]
      cases mode <;> rfl
    have hcriterion : Criterion.ofToken? ctx ⟨.property, s.text, s.start, s.stop⟩ =
        some (.property k v) := Criterion.ofToken?_eq_property_iff.mpr ⟨rfl, hkey⟩
    rw [termOf?, if_pos hterm, hoperand, hcriterion, hsign, Option.map_some]

end Reading

namespace Query

/-- A query asks for a property with this value, and with this key up to case. -/
def AsksFor (q : Query) (key : Text) (value : Option Text) : Prop :=
  ∃ k, ⟨.property k value, false⟩ ∈ q.root.leaves ∧ Text.foldCase k = Text.foldCase key

theorem asksFor_parse_iff (ctx : Context) (raw : Text) {key : Text} (hkey : key ≠ [])
    (value : Option Text) :
    (parse ctx raw).AsksFor key value ↔ ∃ w ∈ Segment.words raw, isProperty key value w := by
  simp only [AsksFor, leaves_parse, List.mem_filterMap, Reading.termOf?_eq_property_iff,
    Segment.words, List.mem_map, Edit.isProperty_iff]
  constructor
  · rintro ⟨k, ⟨s, hs, hkind, -, hpair⟩, hfold⟩
    refine ⟨s.text, ⟨s, hs, rfl⟩, hkind, ?_, ?_⟩
    · rw [hpair]
      exact hfold
    · rw [hpair]
  · rintro ⟨w, ⟨s, hs, rfl⟩, hkind, hfold, hvalue⟩
    refine ⟨_, ⟨s, hs, hkind, ?_, Prod.ext rfl hvalue⟩, hfold⟩
    intro hnil
    have hempty : Text.foldCase [] = Text.foldCase key :=
      (congrArg Text.foldCase hnil).symm.trans hfold
    exact hkey ((Text.foldCase_eq_nil_iff key).mp hempty.symm)

end Query

namespace Edit

/-- The last word is cut off with the blanks around a text, no other word is the property, and
with its blanks or without them it is. -/
def IsCutOff (raw key : Text) (value : Option Text) : Prop :=
  ∃ front w more, Segment.words (Text.trim raw) = front ++ [w] ∧
    Segment.words raw = front ++ [w ++ more] ∧ more ≠ [] ∧ LosesBlanks w ∧
    (∀ v ∈ front, isProperty key value v = false) ∧
    (isProperty key value w ∨ isProperty key value (w ++ more))

variable {raw key : Text} {value : Option Text}

theorem not_isCutOff_of_isComplete (h : Text.isComplete (Text.trim raw)) :
    ¬ IsCutOff raw key value := by
  rintro ⟨front, w, more, hshort, hlong, hne, -⟩
  rw [Text.words_trim h, hshort, List.append_cancel_left_eq, List.cons.injEq] at hlong
  exact hne (List.append_right_eq_self.mp hlong.1.symm)

theorem isCutOff_iff {front : List Text} {w more : Text}
    (hshort : Segment.words (Text.trim raw) = front ++ [w])
    (hlong : Segment.words raw = front ++ [w ++ more]) :
    IsCutOff raw key value ↔ more ≠ [] ∧ LosesBlanks w ∧
      (∀ v ∈ front, isProperty key value v = false) ∧
      (isProperty key value w ∨ isProperty key value (w ++ more)) := by
  constructor
  · rintro ⟨front', w', more', hshort', hlong', hrest⟩
    obtain ⟨rfl, hlast⟩ := List.append_inj' (hshort.symm.trans hshort') rfl
    cases hlast
    have hsame := List.append_cancel_left (hlong.symm.trans hlong')
    rw [List.cons.injEq, List.append_cancel_left_eq] at hsame
    rw [hsame.1]
    exact hrest
  · intro hrest
    exact ⟨front, w, more, hshort, hlong, hrest⟩

/-- The last word is one and the same property, or none, with its blanks and without them, unless
it loses blanks. -/
theorem isProperty_last_iff {w more : Text} (hmark : ∃ c ∈ w, c = '"' ∨ c = '\\')
    (hmore : ∀ c ∈ more, Text.isBlank c) :
    (isProperty key value w = true ↔ isProperty key value (w ++ more) = true) ↔
      ¬ (more ≠ [] ∧ LosesBlanks w ∧
        (isProperty key value w ∨ isProperty key value (w ++ more))) := by
  constructor
  · rintro hsame ⟨hne, hloses, hlast⟩
    have hw : isProperty key value w := hlast.elim id hsame.mpr
    have hlost := not_isProperty_append hloses hne hmore hw
    rw [hsame.mp hw] at hlost
    cases hlost
  · intro hkept
    by_cases hne : more = []
    · rw [hne, List.append_nil]
    · by_cases hloses : LosesBlanks w
      · have hneither := not_or.mp fun hlast => hkept ⟨hne, hloses, hlast⟩
        exact iff_of_false hneither.1 hneither.2
      · rw [isProperty_append hloses hmark hmore]

/-- The words of a text and of the trimmed text hold the same properties, up to one cut off. -/
theorem isProperty_words_trim_iff (raw key : Text) (value : Option Text) :
    ((∃ w ∈ Segment.words (Text.trim raw), isProperty key value w) ↔
        ∃ w ∈ Segment.words raw, isProperty key value w) ↔ ¬ IsCutOff raw key value := by
  cases hraw : Text.isComplete (Text.trim raw) with
  | true =>
    rw [Text.words_trim hraw]
    exact iff_of_true Iff.rfl (not_isCutOff_of_isComplete hraw)
  | false =>
    obtain ⟨front, w, more, hmark, -, hmore, hshort, hlong⟩ := Text.exists_last_word hraw
    rw [isCutOff_iff hshort hlong, hshort, hlong]
    simp only [List.mem_append, List.mem_singleton, or_and_right, exists_or, exists_eq_left]
    by_cases hfront : ∃ v, v ∈ front ∧ isProperty key value v = true
    · refine iff_of_true (iff_of_true (Or.inl hfront) (Or.inl hfront)) ?_
      rintro ⟨-, -, hnone, -⟩
      obtain ⟨v, hv, hproperty⟩ := hfront
      rw [hnone v hv] at hproperty
      cases hproperty
    · have hnone : ∀ v ∈ front, isProperty key value v = false := by
        intro v hv
        rw [← Bool.not_eq_true]
        exact fun hproperty => hfront ⟨v, hv, hproperty⟩
      simp only [hfront, false_or, eq_true hnone, true_and]
      exact isProperty_last_iff hmark hmore

/-- An update removes a property exactly if the query of the trimmed text asks for it, and adds it
otherwise. The query of the text itself asks for the same, except for a property that is cut off
with blanks at the end, which needs an open quote or a backslash in front of them. -/
theorem toggleProperty_removed_iff (raw key : Text) (value : Option Text) (operator : Operator)
    (conventions : Conventions) {now : Moment} {time : Instant}
    (hkey : ∃ c ∈ key, Text.isBlank c = false) (hnow : now.local = .ok time) :
    ∃ p q, Query.parseAt conventions now raw = .ok p ∧
      Query.parseAt conventions now (Text.trim raw) = .ok q ∧
      ((toggleProperty raw key value operator).action = .removed ↔
        q.AsksFor (Text.trim key) (value.bind Text.nonEmpty?)) ∧
      ((toggleProperty raw key value operator).action ≠ .removed →
        (toggleProperty raw key value operator).action = .added) ∧
      (((toggleProperty raw key value operator).action = .removed ↔
          p.AsksFor (Text.trim key) (value.bind Text.nonEmpty?)) ↔
        ¬ IsCutOff raw (Text.trim key) (value.bind Text.nonEmpty?)) ∧
      (Text.isComplete (Text.trim raw) →
        ¬ IsCutOff raw (Text.trim key) (value.bind Text.nonEmpty?)) := by
  have hne := Text.trim_ne_nil hkey
  have hupdate : toggleProperty raw key value operator =
      toggle raw (formatProperty (Text.trim key) (value.bind Text.nonEmpty?))
        (isProperty (Text.trim key) (value.bind Text.nonEmpty?)) operator :=
    if_neg (by simpa using hne)
  obtain ⟨hremoved, hadded⟩ := toggle_removed_iff raw
    (formatProperty (Text.trim key) (value.bind Text.nonEmpty?))
    (isProperty (Text.trim key) (value.bind Text.nonEmpty?)) operator
  refine ⟨_, _, Query.parseAt_of_local conventions hnow raw,
    Query.parseAt_of_local conventions hnow (Text.trim raw), ?_, ?_, ?_,
    not_isCutOff_of_isComplete⟩
  · rw [hupdate, hremoved, Query.asksFor_parse_iff _ _ hne]
  · rw [hupdate]
    exact hadded
  · rw [hupdate, hremoved, Query.asksFor_parse_iff _ _ hne]
    exact isProperty_words_trim_iff raw _ _

theorem toggleProperty_removed_quoted :
    (∃ c ∈ " K".toList, Text.isBlank c = false) ∧ Moment.local ⟨.first, none⟩ = .ok .first ∧
      (toggleProperty "-.k .k=\"v w\" ".toList " K".toList (some "v w".toList) .and).action =
        .removed ∧
      ∃ p, Query.parseAt {} ⟨.first, none⟩ "-.k .k=\"v w\" ".toList = .ok p ∧
        p.AsksFor "K".toList (some "v w".toList) := by
  have hkey : ∃ c ∈ " K".toList, Text.isBlank c = false := ⟨'K', by decide, by decide⟩
  have hnow : Moment.local ⟨.first, none⟩ = .ok .first := rfl
  have hremoved : (toggleProperty "-.k .k=\"v w\" ".toList " K".toList
      (some "v w".toList) .and).action = .removed := by decide
  obtain ⟨p, -, hp, -, -, -, hsame, hcomplete⟩ := toggleProperty_removed_iff
    "-.k .k=\"v w\" ".toList " K".toList (some "v w".toList) .and {} hkey hnow
  exact ⟨hkey, hnow, hremoved, p, hp, (hsame.mpr (hcomplete (by decide))).mp hremoved⟩

/-- The key of `.a\ ` is `a`, since the escaped blank is trimmed away. Trimmed first, the text ends
in a backslash that belongs to the key, and `a` is added. -/
theorem toggleProperty_escaped_blank :
    (toggleProperty ".a\\ ".toList "a".toList none .and).action = .added ∧
      (toggleProperty ".a\\ ".toList "a".toList none .and).query = ".a\\ AND .a".toList ∧
      ∀ conventions now, ∃ p, Query.parseAt conventions now ".a\\ ".toList = .ok p ∧
        p.AsksFor "a".toList none := by
  refine ⟨by decide, by decide, fun conventions now => ?_⟩
  have htime : (Token.tokenize ".a\\ ".toList).any Token.asksTime = false := by decide
  exact ⟨_, Query.parseAt_of_not_asksTime conventions now htime, "a".toList,
    List.mem_singleton.mpr rfl, rfl⟩

end Edit

end NoteQuery
