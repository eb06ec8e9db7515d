import NoteQuery.Proofs.Dates.Ordered
import NoteQuery.Proofs.Query.Leaves
import NoteQuery.Proofs.Query.Offsets
import NoteQuery.Proofs.Query.Shape
import NoteQuery.Proofs.Text.Splitting
import NoteQuery.Proofs.Text.Stripping

/-!
# Well-formed queries

Every way from a token to a criterion trims its text and refuses what is left empty, so that
the criteria of a parsed query are in a normal form. Together with the shape of its tree this
is what those who evaluate, show or edit a query can rely on.
-/
namespace NoteQuery

namespace Criterion

/-- The normal form of criteria: no empty texts, no separators or blanks at the ends, and
ranges in order. -/
def IsWellFormed : Criterion → Prop
  | name text => text ≠ []
  | tag path => ∀ p ∈ path, p ≠ [] ∧ p.head? ≠ some '/' ∧ p.getLast? ≠ some '/'
  | property key value => key ≠ [] ∧ Text.IsBare Text.isBlank key ∧ value ≠ some []
  | task => True
  | folder path rooted =>
    path = Text.join Folder.slash (Folder.segments path) ∧ (rooted = false → path ≠ [])
  | extension ext => ext ≠ []
  | date _ range => range.start ≤ range.stop

/-- The criteria that pure queries ask for. -/
def IsPlain : Criterion → Prop
  | name _ => True
  | tag _ => True
  | property _ _ => True
  | _ => False

end Criterion

theorem Text.nonEmpty?_eq_some_iff (s t : Text) : nonEmpty? s = some t ↔ s = t ∧ t ≠ [] := by
  rw [nonEmpty?]
  cases s with
  | nil => simp
  | cons c rest =>
    simp only [List.isEmpty_cons, Bool.false_eq_true, if_false, Option.some.injEq]
    constructor
    · rintro rfl
      exact ⟨rfl, List.cons_ne_nil c rest⟩
    · exact And.left

namespace Criterion

theorem isWellFormed_ofName? {s : Text} {c : Criterion} (h : ofName? s = some c) :
    c.IsWellFormed := by
  obtain ⟨text, htext, rfl⟩ := Option.map_eq_some_iff.mp h
  exact ((Text.nonEmpty?_eq_some_iff _ _).mp htext).2

theorem isWellFormed_ofTag (s : Text) : (ofTag s).IsWellFormed := by
  intro path hpath
  obtain ⟨rfl, hne⟩ := (Text.nonEmpty?_eq_some_iff _ _).mp hpath
  obtain ⟨hhead, hlast⟩ := Text.isBare_stripWhere ['/'].contains (Text.trim (Quote.unquote s))
  refine ⟨hne, ?_, ?_⟩
  · intro hslash
    have hkept := hhead '/' hslash
    cases hkept
  · intro hslash
    have hkept := hlast '/' hslash
    cases hkept

theorem isWellFormed_ofProperty? {s : Text} {c : Criterion} (h : ofProperty? s = some c) :
    c.IsWellFormed := by
  obtain ⟨key, hkey, rfl⟩ := Option.map_eq_some_iff.mp h
  obtain ⟨rfl, hne⟩ := (Text.nonEmpty?_eq_some_iff _ _).mp hkey
  refine ⟨hne, Text.isBare_stripWhere _ _, ?_⟩
  intro hvalue
  obtain ⟨v, -, hv⟩ := Option.bind_eq_some_iff.mp hvalue
  exact ((Text.nonEmpty?_eq_some_iff _ _).mp hv).2 rfl

theorem isWellFormed_ofFolder? {s : Text} {c : Criterion} (h : ofFolder? s = some c) :
    c.IsWellFormed := by
  obtain ⟨path, hpath, rfl⟩ := Option.map_eq_some_iff.mp h
  obtain ⟨-, hne⟩ := (Text.nonEmpty?_eq_some_iff _ _).mp hpath
  have hsegments : ∀ w ∈ Folder.segments path, w ≠ [] ∧ '/' ∉ w :=
    fun w hw => Folder.mem_segments hw
  refine ⟨by rw [Folder.segments_join hsegments], ?_⟩
  intro hrooted
  obtain ⟨d, rest, hcons⟩ := List.exists_cons_of_ne_nil hne
  have hhead : path.head? = some d := by rw [hcons]; rfl
  have hd : d ≠ '/' := by
    rintro rfl
    rw [hhead] at hrooted
    cases hrooted
  exact Folder.join_ne_nil hsegments (Folder.segments_ne_nil hhead hd)

theorem isWellFormed_ofExtension? {s : Text} {c : Criterion} (h : ofExtension? s = some c) :
    c.IsWellFormed := by
  obtain ⟨ext, hext, rfl⟩ := Option.map_eq_some_iff.mp h
  exact ((Text.nonEmpty?_eq_some_iff _ _).mp hext).2

theorem isWellFormed_ofDate? {ctx : Context} {s : Text} {c : Criterion}
    (h : ofDate? ctx s = some c) : c.IsWellFormed := by
  obtain ⟨range, hrange, rfl⟩ := Option.map_eq_some_iff.mp h
  exact DateExpr.resolve?_ordered hrange

/-- What cannot be read otherwise is a name, which the text of the token is as it stands. -/
theorem isWellFormed_getD {t : Token} (ht : t.text ≠ []) {read : Option Criterion}
    (h : ∀ c, read = some c → c.IsWellFormed) :
    (read.getD (.name t.text)).IsWellFormed := by
  cases read with
  | none => exact ht
  | some c => exact h c rfl

theorem isWellFormed_ofToken? {ctx : Context} {t : Token} (ht : t.text ≠ []) {c : Criterion}
    (h : ofToken? ctx t = some c) : c.IsWellFormed := by
  rw [ofToken?] at h
  cases hk : t.kind with
  | name =>
    simp only [hk] at h
    exact isWellFormed_ofName? h
  | tag =>
    simp only [hk, Option.some.injEq] at h
    rw [← h]
    exact isWellFormed_ofTag _
  | property =>
    simp only [hk, Option.some.injEq] at h
    rw [← h]
    exact isWellFormed_getD ht fun _ => isWellFormed_ofProperty?
  | date =>
    simp only [hk] at h
    split at h
    · cases h
    · rw [← Option.some.inj h]
      exact isWellFormed_getD ht fun _ => isWellFormed_ofDate?
  | task =>
    simp only [hk, Option.some.injEq] at h
    rw [← h]
    trivial
  | folder =>
    simp only [hk, Option.some.injEq] at h
    rw [← h]
    exact isWellFormed_getD ht fun _ => isWellFormed_ofFolder?
  | extension =>
    simp only [hk, Option.some.injEq] at h
    rw [← h]
    exact isWellFormed_getD ht fun _ => isWellFormed_ofExtension?
  | connector =>
    simp only [hk, Option.some.injEq] at h
    rw [← h]
    exact ht
  | negation =>
    simp only [hk, Option.some.injEq] at h
    rw [← h]
    exact ht

/-- A tag or a property is asked for as what it is, or as a name. -/
theorem isPlain_ofToken? {ctx : Context} {t : Token} (hk : t.kind = .tag ∨ t.kind = .property)
    {c : Criterion} (h : ofToken? ctx t = some c) : c.IsPlain := by
  rcases hk with hk | hk <;> simp only [ofToken?, hk, Option.some.injEq] at h <;> subst h
  · trivial
  · cases hp : ofProperty? (t.text.drop 1) with
    | none => trivial
    | some c =>
      obtain ⟨key, -, rfl⟩ := Option.map_eq_some_iff.mp hp
      trivial

end Criterion

namespace Query

/-- Every term of a query comes from the operand of a segment of its text. -/
theorem exists_segment_of_mem_leaves {ctx : Context} {raw : Text} {x : Term}
    (hx : x ∈ (parse ctx raw).root.leaves) :
    ∃ s ∈ Segment.split raw, Token.operand s ∈ Token.tokenize raw ∧
      (Reading.ofMode (parse ctx raw).mode).isTerm (Token.operand s) ∧
      Criterion.ofToken? ctx (Token.operand s) = some x.criterion := by
  rw [leaves_parse] at hx
  obtain ⟨s, hs, hterm⟩ := List.mem_filterMap.mp hx
  have hmem : Token.operand s ∈ Token.tokenize raw := by
    refine List.mem_flatMap.mpr ⟨s, hs, ?_⟩
    cases h : Token.isNegated s.text with
    | true => simp [Token.ofSegment_of_isNegated h]
    | false => simp [Token.ofSegment_of_not_isNegated h]
  refine ⟨s, hs, hmem, ?_, (Reading.of_termOf?_eq_some hterm).1⟩
  rw [Reading.termOf?] at hterm
  split at hterm
  · assumption
  · cases hterm

/-- A parsed query has the shape of its grammar, and its criteria are in normal form. -/
theorem parseAt_wellFormed (conventions : Conventions) (now : Instant) (raw : Text) :
    ∃ q, parseAt conventions ⟨now, none⟩ raw = .ok q ∧
      (q.mode = .mixed → ∃ terms : List Term, q.root = .all (terms.map .term)) ∧
      (q.mode = .pure →
        q.root.IsDisjunction ∧ ∀ x ∈ q.root.leaves, x.criterion.IsPlain) ∧
      ∀ x ∈ q.root.leaves, x.criterion.IsWellFormed := by
  refine ⟨_, parseAt_of_local conventions rfl raw, ?_, ?_, ?_⟩
  · exact Node.exists_terms_ofTokens _
  · intro hpure
    refine ⟨Node.isDisjunction_ofTokens _ hpure, fun x hx => ?_⟩
    obtain ⟨s, -, hmem, hterm, hcriterion⟩ := exists_segment_of_mem_leaves hx
    rw [hpure] at hterm
    have hkind := QueryMode.kind_of_isPureFrom (QueryMode.isPureFrom_of_ofTokens hpure) _ hmem
      hterm
    exact Criterion.isPlain_ofToken? hkind hcriterion
  · intro x hx
    obtain ⟨s, -, hmem, -, hcriterion⟩ := exists_segment_of_mem_leaves hx
    exact Criterion.isWellFormed_ofToken? (Token.standsIn_of_mem hmem).text_ne_nil hcriterion

end Query

end NoteQuery
