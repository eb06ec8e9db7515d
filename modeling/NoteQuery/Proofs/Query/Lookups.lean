import NoteQuery.Proofs.Query.Alike
import NoteQuery.Proofs.Query.ParseTime

/-!
# What a query has to look up

A host may leave the tags or the properties of its notes empty while no term of a query reads them.
The flags of a tree say when this is safe: a tree without a flag has the same result, be it an
answer or an error, on all notes that differ in nothing but what the flag stands for, and selects
the notes at the same paths.
-/
namespace NoteQuery

namespace Note

variable (a b n : Note)

/-- Two notes differ in their tags at most. -/
def AgreeBesideTags : Prop := a = { b with tags := a.tags }

/-- Two notes differ in their properties at most. -/
def AgreeBesideProperties : Prop := a = { b with properties := a.properties }

def withoutTags : Note := { n with tags := [] }

def withoutProperties : Note := { n with properties := [] }

end Note

inductive Lookup where
  | tags
  | properties

namespace Lookup

def isReadBy : Lookup → Criterion → Bool
  | tags => Criterion.readsTags
  | properties => Criterion.readsProperties

def isNeededBy : Lookup → Node → Bool
  | tags => Node.needsTags
  | properties => Node.needsProperties

/-- Two notes differ at most in what may be left out. -/
def Agree : Lookup → Note → Note → Prop
  | tags => Note.AgreeBesideTags
  | properties => Note.AgreeBesideProperties

/-- A note without what was left out. -/
def drop : Lookup → Note → Note
  | tags => Note.withoutTags
  | properties => Note.withoutProperties

theorem agree_drop (l : Lookup) (n : Note) : l.Agree (l.drop n) n := by
  cases l <;> rfl

theorem path_drop (l : Lookup) (n : Note) : (l.drop n).path = n.path := by
  cases l <;> rfl

theorem isNeededBy_eq (l : Lookup) (m : Node) :
    l.isNeededBy m = m.leaves.any fun x => l.isReadBy x.criterion := by
  cases l <;> rfl

/-- A criterion comes to the same on notes that differ in what it does not read. -/
theorem holds_criterion {l : Lookup} {c : Criterion} {a b : Note} (hc : l.isReadBy c = false)
    (h : l.Agree a b) : c.holds a = c.holds b := by
  cases l with
  | tags =>
    rw [show a = { b with tags := a.tags } from h]
    cases c with
    | tag path => cases hc
    | property key value => cases value <;> rfl
    | folder path rooted => cases rooted <;> rfl
    | _ => rfl
  | properties =>
    rw [show a = { b with properties := a.properties } from h]
    cases c with
    | property key value => cases hc
    | tag path => cases path <;> rfl
    | folder path rooted => cases rooted <;> rfl
    | _ => rfl

end Lookup

namespace Node

variable {m : Node} {a b : Note}

theorem holds_congr_criterion (h : ∀ x ∈ m.leaves, x.criterion.holds a = x.criterion.holds b) :
    m.holds a = m.holds b := by
  refine holds_congr fun x hx => ?_
  rw [Term.holds, Term.holds, h x hx]

theorem holds_eq_of_agree {l : Lookup} (hm : l.isNeededBy m = false) (h : l.Agree a b) :
    m.holds a = m.holds b := by
  refine holds_congr_criterion fun x hx => ?_
  rw [l.isNeededBy_eq] at hm
  have hreads : l.isReadBy x.criterion = false := by simpa using List.any_eq_false.mp hm x hx
  exact Lookup.holds_criterion hreads h

/-- The paths of the notes that a selection finds. -/
def foundPaths (found : Except MatchError (List Note)) : Except MatchError (List Text) :=
  found.map (List.map Note.path)

/-- A change to the notes is not seen in the paths that a tree selects, be it among all notes or at
some paths only. -/
def SelectsSamePaths (m : Node) (f : Note → Note) : Prop :=
  ∀ notes paths, foundPaths (m.select (notes.map f)) = foundPaths (m.select notes) ∧
    foundPaths (m.selectAmong paths (notes.map f)) = foundPaths (m.selectAmong paths notes)

variable {f : Note → Note}

/-- Of notes that are changed in what a tree does not see the changed ones are selected. -/
theorem select_map (hholds : ∀ n, m.holds (f n) = m.holds n) (notes : List Note) :
    m.select (notes.map f) = (m.select notes).map (List.map f) := by
  induction notes with
  | nil => rfl
  | cons n rest ih =>
    rw [List.map_cons, select, select, hholds, ih]
    cases m.holds n with
    | error e => rfl
    | ok b =>
      cases b with
      | false => rfl
      | true => cases m.select rest <;> rfl

theorem foundPaths_map (hpath : ∀ n, (f n).path = n.path) (found : Except MatchError (List Note)) :
    foundPaths (found.map (List.map f)) = foundPaths found := by
  cases found with
  | error e => rfl
  | ok notes =>
    have hsame : Note.path ∘ f = Note.path := funext hpath
    exact congrArg Except.ok (by rw [List.map_map, hsame])

theorem selectsSamePaths_of_holds (hpath : ∀ n, (f n).path = n.path)
    (hholds : ∀ n, m.holds (f n) = m.holds n) : m.SelectsSamePaths f := by
  intro notes paths
  have hselect : ∀ notes, foundPaths (m.select (notes.map f)) = foundPaths (m.select notes) := by
    intro notes
    rw [select_map hholds, foundPaths_map hpath]
  have hamong : (fun n => paths.contains n.path) ∘ f = fun n => paths.contains n.path := by
    funext n
    exact congrArg paths.contains (hpath n)
  refine ⟨hselect notes, ?_⟩
  rw [selectAmong, selectAmong, List.filter_map, hamong]
  exact hselect _

theorem selectsSamePaths {l : Lookup} (hm : l.isNeededBy m = false) :
    m.SelectsSamePaths l.drop :=
  selectsSamePaths_of_holds l.path_drop fun n => holds_eq_of_agree hm (l.agree_drop n)

end Node

namespace Query

/-- A tree without the flag for tags, or for properties, does not tell notes apart that differ in
them only. So a query without the flag selects the same paths from notes that were left without
them. -/
theorem holds_eq_without_lookup :
    (∀ m : Node, m.needsTags = false →
        ∀ a b : Note, a.AgreeBesideTags b → m.holds a = m.holds b) ∧
      (∀ m : Node, m.needsProperties = false →
        ∀ a b : Note, a.AgreeBesideProperties b → m.holds a = m.holds b) ∧
      ∀ conventions now raw q, parseAt conventions now raw = .ok q →
        (q.root.needsTags = false → q.root.SelectsSamePaths Note.withoutTags) ∧
          (q.root.needsProperties = false → q.root.SelectsSamePaths Note.withoutProperties) := by
  refine ⟨fun m hm a b h => Node.holds_eq_of_agree (l := .tags) hm h,
    fun m hm a b h => Node.holds_eq_of_agree (l := .properties) hm h, ?_⟩
  intro conventions now raw q _
  constructor
  · exact fun hflag => Node.selectsSamePaths (l := .tags) hflag
  · exact fun hflag => Node.selectsSamePaths (l := .properties) hflag

/-- A query for a name and no draft, on notes without their tags. -/
theorem holds_eq_without_lookup_draft :
    parseAt {} ⟨.first, none⟩ "-.draft report".toList =
        .ok (parse ⟨.first, {}⟩ "-.draft report".toList) ∧
      (parse ⟨.first, {}⟩ "-.draft report".toList).root.needsTags = false ∧
      Node.foundPaths ((parse ⟨.first, {}⟩ "-.draft report".toList).root.select
        (List.map Note.withoutTags
          [{ path := "a".toList, filename := "Report A".toList, tags := ["x".toList] },
            { path := "b".toList, filename := "Report B".toList,
              properties := [("Draft".toList, .bool true)] }])) = .ok ["a".toList] := by
  have hnow : (Moment.mk .first none).local = .ok .first := rfl
  have hparse := parseAt_of_local {} hnow "-.draft report".toList
  have hflag : (parse ⟨.first, {}⟩ "-.draft report".toList).root.needsTags = false := by decide
  obtain ⟨-, -, hselects⟩ := holds_eq_without_lookup
  obtain ⟨htags, -⟩ := hselects {} ⟨.first, none⟩ _ _ hparse
  exact ⟨hparse, hflag, (htags hflag _ []).1.trans rfl⟩

end Query

end NoteQuery
