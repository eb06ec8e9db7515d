import NoteQuery.Proofs.Query.Alike
import NoteQuery.Proofs.Tag.Normal
import NoteQuery.Proofs.Text.Folding

/-!
# Case does not matter

Names, tags, property keys, folders and extensions are folded at different times, some of them
before they are cut or stripped and some after it. Folding keeps the characters at which texts are
cut and stripped, so this makes no difference: only the folded forms of the texts count, those of
the query and those of the note. The values of properties count as they are.
-/
namespace NoteQuery

def Text.SameButCase (s t : Text) : Prop := Text.foldCase s = Text.foldCase t

instance (s t : Text) : Decidable (s.SameButCase t) :=
  inferInstanceAs (Decidable (Text.foldCase s = Text.foldCase t))

open Text (foldCase foldCase_cons IsFoldStable SameButCase)

/-! ## Normal forms -/

namespace Tag

theorem isFoldStable_slash : IsFoldStable slash.contains := by
  have hslash := Text.isFoldStable_beq (e := '/') (by decide) rfl rfl
  intro c d h
  simpa [slash] using hslash c d h

theorem foldCase_dropSign (s : Text) : foldCase (dropSign s) = dropSign (foldCase s) := by
  have hstable := Text.isFoldStable_beq (e := '#') (by decide) rfl rfl
  cases s with
  | nil => rfl
  | cons c s =>
    by_cases hc : c = '#'
    · subst hc
      rfl
    · have hhead : (foldCase (c :: s)).head? ≠ some '#' := by
        obtain ⟨d, images, himages⟩ := List.exists_cons_of_ne_nil (Text.foldChar_ne_nil c)
        have hd := hstable c d (by rw [himages]; exact List.mem_cons_self)
        rw [foldCase_cons, himages]
        simpa [hc] using hd
      rw [dropSign_eq_self hhead, dropSign_eq_self (by simpa using hc)]

theorem foldCase_path (tag : Text) : foldCase (path tag) = path (foldCase tag) := by
  rw [path, Text.stripChars, Text.foldCase_stripWhere isFoldStable_slash, foldCase_dropSign,
    Text.foldCase_trim, path, Text.stripChars]

theorem normalize_congr {s t : Text} (h : s.SameButCase t) : normalize s = normalize t := by
  rw [normalize_eq, normalize_eq, foldCase_path, foldCase_path, h]

end Tag

namespace Folder

theorem map_foldCase_segments (path : Text) :
    (segments path).map foldCase = segments (foldCase path) := by
  have hempty : (fun w : Text => !w.isEmpty) ∘ foldCase = fun w => !w.isEmpty := by
    funext w
    have hiff := Text.foldCase_eq_nil_iff w
    rw [← List.isEmpty_iff, ← List.isEmpty_iff, ← Bool.eq_iff_iff] at hiff
    exact congrArg (!·) hiff
  rw [segments_eq, segments_eq, Text.splitOn_foldCase (by decide) rfl rfl, List.filter_map, hempty]

theorem normalize_eq (path : Text) :
    normalize path = Text.join slash (segments (foldCase path)) := by
  have hslash : foldCase slash = slash := by decide
  rw [normalize, Text.foldCase_join, hslash, map_foldCase_segments]

theorem normalize_congr {s t : Text} (h : s.SameButCase t) : normalize s = normalize t := by
  rw [normalize_eq, normalize_eq, h]

theorem holdsRun_congr {s t p q : Text} (hst : s.SameButCase t) (hpq : p.SameButCase q) :
    holdsRun s (segments p) = holdsRun t (segments q) := by
  have hempty : (segments p).isEmpty = (segments q).isEmpty := by
    rw [← List.isEmpty_map (f := foldCase), ← List.isEmpty_map (f := foldCase) (l := segments q),
      map_foldCase_segments, map_foldCase_segments, hpq]
  simp only [holdsRun, map_foldCase_segments, hempty]
  rw [hst, hpq]

end Folder

namespace Extension

theorem normalize_congr {s t : Text} (h : s.SameButCase t) : normalize s = normalize t := by
  have hdot := Text.isFoldStable_beq (e := '.') (by decide) rfl rfl
  rw [normalize, normalize, Text.foldCase_dropWhile hdot, Text.foldCase_dropWhile hdot,
    Text.foldCase_trim, Text.foldCase_trim, h]

end Extension

/-! ## Terms and notes -/

/-- Criteria that differ only in the case of the texts they look for; a value of a property is
compared as it is. -/
inductive Criterion.SameButCase : Criterion → Criterion → Prop where
  | name {s t : Text} (h : s.SameButCase t) : SameButCase (.name s) (.name t)
  | anyTag : SameButCase (.tag none) (.tag none)
  | tag {p q : Text} (h : p.SameButCase q) : SameButCase (.tag (some p)) (.tag (some q))
  | property {k l : Text} (value : Option Text) (h : k.SameButCase l) :
      SameButCase (.property k value) (.property l value)
  | task : SameButCase .task .task
  | folder {p q : Text} (rooted : Bool) (h : p.SameButCase q) :
      SameButCase (.folder p rooted) (.folder q rooted)
  | extension {s t : Text} (h : s.SameButCase t) : SameButCase (.extension s) (.extension t)
  | date (field : DateField) (range : DateRange) :
      SameButCase (.date field range) (.date field range)

structure Term.SameButCase (x y : Term) : Prop where
  criterion : x.criterion.SameButCase y.criterion
  negated : x.negated = y.negated

/-- Trees of one shape that differ only in the case of texts. -/
def Node.SameButCase : Node → Node → Prop := Node.Alike Term.SameButCase

/-- Notes that differ only in the case of their names, tags, folders and extensions. -/
structure Note.SameButCase (a b : Note) : Prop where
  path : a.path = b.path
  filename : a.filename.SameButCase b.filename
  extension : a.extension.SameButCase b.extension
  folder : a.folder.SameButCase b.folder
  tags : List.Forall₂ Text.SameButCase a.tags b.tags
  properties : a.properties = b.properties
  created : a.created = b.created
  modified : a.modified = b.modified
  hasOpenTask : a.hasOpenTask = b.hasOpenTask

theorem Criterion.SameButCase.refl (c : Criterion) : c.SameButCase c := by
  cases c with
  | name text => exact .name rfl
  | tag path =>
    cases path with
    | none => exact .anyTag
    | some path => exact .tag rfl
  | property key value => exact .property value rfl
  | task => exact .task
  | folder path rooted => exact .folder rooted rfl
  | extension ext => exact .extension rfl
  | date field range => exact .date field range

theorem Note.SameButCase.refl (n : Note) : n.SameButCase n where
  path := rfl
  filename := rfl
  extension := rfl
  folder := rfl
  tags := List.forall₂_same.mpr fun _ _ => rfl
  properties := rfl
  created := rfl
  modified := rfl
  hasOpenTask := rfl

namespace Note.SameButCase

variable {a b : Note} (h : a.SameButCase b)

include h

theorem any_tags {f g : Text → Bool} (hfg : ∀ s t, s.SameButCase t → f s = g t) :
    a.tags.any f = b.tags.any g := by
  have htags := h.tags
  generalize a.tags = tags, b.tags = tags' at htags ⊢
  induction htags with
  | nil => rfl
  | cons hst _ ih => rw [List.any_cons, List.any_cons, hfg _ _ hst, ih]

theorem valuesOf {k l : Text} (hkl : k.SameButCase l) : a.valuesOf k = b.valuesOf l := by
  rw [Note.valuesOf, Note.valuesOf, h.properties, hkl]

theorem timestamp (field : DateField) : a.timestamp field = b.timestamp field := by
  cases field with
  | created => exact h.created
  | modified => exact h.modified

end Note.SameButCase

/-- What a criterion asks for and where it looks may both differ in case. -/
theorem Criterion.SameButCase.holds_eq {c d : Criterion} (h : c.SameButCase d) {a b : Note}
    (hn : a.SameButCase b) : c.holds a = d.holds b := by
  cases h with
  | name hst => rw [holds, holds, hst, hn.filename]
  | anyTag =>
    rw [holds, holds]
    exact congrArg Except.ok (hn.any_tags fun s t hst => by rw [Tag.normalize_congr hst])
  | tag hpq =>
    rw [holds, holds]
    refine congrArg Except.ok (hn.any_tags fun s t hst => ?_)
    exact Tag.isBelow_congr (Tag.normalize_congr hst) (Tag.normalize_congr hpq)
  | property value hkl => cases value <;> rw [holds, holds, hn.valuesOf hkl]
  | task => rw [holds, holds, hn.hasOpenTask]
  | folder rooted hpq =>
    cases rooted with
    | true =>
      rw [holds, holds, Folder.normalize_congr hn.folder, Folder.normalize_congr hpq]
    | false => rw [holds, holds, Folder.holdsRun_congr hn.folder hpq]
  | extension hst =>
    rw [holds, holds, Extension.normalize_congr hn.extension, Extension.normalize_congr hst]
  | date field range => rw [holds, holds, hn.timestamp]

namespace Node

theorem SameButCase.refl (m : Node) : m.SameButCase m :=
  alike_self m fun x _ => ⟨.refl x.criterion, rfl⟩

theorem SameButCase.holds_eq {m k : Node} (h : m.SameButCase k) {a b : Note}
    (hn : a.SameButCase b) : m.holds a = k.holds b := by
  refine Alike.holds_eq (fun x y hxy => ?_) h
  rw [Term.holds, Term.holds, hxy.criterion.holds_eq hn, hxy.negated]

/-- Trees that differ only in the case of their texts have one result on every note, and so has
every tree on notes that differ only in the case of what it compares without case. -/
theorem holds_of_sameButCase :
    (∀ m k : Node, m.SameButCase k → ∀ n : Note, m.holds n = k.holds n) ∧
      ∀ a b : Note, a.SameButCase b → ∀ m : Node, m.holds a = m.holds b :=
  ⟨fun _ _ h n => h.holds_eq (.refl n), fun _ _ hn m => (SameButCase.refl m).holds_eq hn⟩

def untaggedOrIn (tag folder : Text) : Node :=
  .connector .or (.term ⟨.tag (some tag), true⟩) (.all [.term ⟨.folder folder false, false⟩])

/-- A sharp s is folded to two letters. -/
theorem holds_of_sameButCase_sharp :
    (untaggedOrIn "Stra\u00dfe/".toList "WORK//a".toList).SameButCase
        (untaggedOrIn "STRASSE/".toList "work//A".toList) ∧
      Note.SameButCase { path := "p".toList, tags := ["#Strasse/Ost".toList] }
        { path := "p".toList, tags := ["#stra\u00dfe/OST".toList] } ∧
      (untaggedOrIn "STRASSE/".toList "work//A".toList).holds
        { path := "p".toList, tags := ["#stra\u00dfe/OST".toList] } = .ok false := by
  have htrees : (untaggedOrIn "Stra\u00dfe/".toList "WORK//a".toList).SameButCase
      (untaggedOrIn "STRASSE/".toList "work//A".toList) :=
    .connector .or (.term ⟨.tag (by decide), rfl⟩)
      (.all (.cons (.term ⟨.folder false (by decide), rfl⟩) .nil))
  have hnotes : Note.SameButCase { path := "p".toList, tags := ["#Strasse/Ost".toList] }
      { path := "p".toList, tags := ["#stra\u00dfe/OST".toList] } :=
    ⟨rfl, rfl, rfl, rfl, .cons (by decide) .nil, rfl, rfl, rfl, rfl⟩
  obtain ⟨htree, hnote⟩ := holds_of_sameButCase
  refine ⟨htrees, hnotes, ?_⟩
  rw [← htree _ _ htrees, ← hnote _ _ hnotes]
  rfl

end Node

end NoteQuery
