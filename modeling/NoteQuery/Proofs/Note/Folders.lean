import Mathlib.Data.List.Infix
import NoteQuery.Proofs.Query.Evaluation
import NoteQuery.Proofs.Text.Folding
import NoteQuery.Proofs.Text.Stripping

/-!
# Notes in their folders

The folder that a note gets from its path has all the segments of the path but the last as its
segments, wherever slashes are doubled or stand at an end. A folder filter compares these with its
own segments, each of them folded: the whole list if it starts at the root, and otherwise it looks
for its list as one piece of the other.
-/
namespace NoteQuery

namespace Text

theorem isRunOf_iff {α : Type} [BEq α] [LawfulBEq α] (xs ys : List α) :
    isRunOf xs ys = true ↔ xs <:+: ys := by
  induction ys with
  | nil => simp [isRunOf]
  | cons y ys ih =>
    rw [isRunOf, Bool.or_eq_true, ih, List.isPrefixOf_iff_prefix, List.infix_cons_iff]

end Text

namespace Folder

/-- Segments that can be joined to a path and cut apart again. -/
def AreSegments (ws : List Text) : Prop := ∀ w ∈ ws, w ≠ [] ∧ '/' ∉ w

variable {us vs : List Text}

theorem AreSegments.foldCase (h : AreSegments vs) : AreSegments (vs.map Text.foldCase) := by
  intro w hw
  obtain ⟨v, hv, rfl⟩ := List.mem_map.mp hw
  obtain ⟨hne, hslash⟩ := h v hv
  constructor
  · exact fun hnil => hne ((Text.foldCase_eq_nil_iff v).mp hnil)
  · exact fun hmem => hslash (Text.mem_of_mem_foldCase (by decide) rfl hmem)

/-- Folding a path folds each of its segments. -/
theorem foldCase_join_eq_iff (hus : AreSegments us) (hvs : AreSegments vs) :
    Text.foldCase (Text.join slash us) = Text.foldCase (Text.join slash vs) ↔
      us.map Text.foldCase = vs.map Text.foldCase := by
  have hslash : Text.foldCase slash = slash := by decide
  rw [Text.foldCase_join, Text.foldCase_join, hslash]
  constructor
  · intro h
    rw [← segments_join hus.foldCase, h, segments_join hvs.foldCase]
  · exact congrArg (Text.join slash)

theorem segments_stripChars (path : Text) :
    segments (Text.stripChars slash path) = segments path := by
  obtain ⟨front, back, hpath, hfront, hback⟩ := Text.exists_stripWhere slash.contains path
  have hslash : ∀ c, slash.contains c = true → c = '/' := by simp [slash]
  have hwhole : segments (front ++ (Text.stripChars slash path ++ back)) =
      segments (Text.stripChars slash path) := by
    rw [segments_slashes_append fun c hc => hslash c (hfront c hc)]
    exact segments_append_slashes _ fun c hc => hslash c (hback c hc)
  rw [← hwhole]
  exact congrArg segments hpath.symm

theorem segments_dropEndWhile (path : Text) :
    segments (Text.dropEndWhile (· == '/') path) = segments path := by
  obtain ⟨slashes, hpath, hslashes, -⟩ := Text.exists_dropEndWhile (· == '/') path
  have hwhole := segments_append_slashes (Text.dropEndWhile (· == '/') path)
    fun c hc => beq_iff_eq.mp (hslashes c hc)
  rw [← hpath] at hwhole
  exact hwhole.symm

/-- What stands in front of the last segment has all other segments, also if slashes are doubled
behind it. -/
theorem segments_throughLast {path : Text} (hlast : ∀ c ∈ path.getLast?, c ≠ '/') :
    segments (Text.dropEndWhile (· == '/') (Note.throughLast '/' path)) =
      (segments path).dropLast := by
  rw [segments_dropEndWhile, Note.throughLast]
  obtain ⟨base, hpath, hbase, hend⟩ := Text.exists_dropEndWhile (· != '/') path
  have hplain : '/' ∉ base := fun hmem => absurd (hbase '/' hmem) (by decide)
  generalize Text.dropEndWhile (· != '/') path = front at hpath hend ⊢
  rw [hpath]
  rcases List.eq_nil_or_concat front with rfl | ⟨folder, c, rfl⟩
  · by_cases hnil : base = []
    · rw [hnil]
      rfl
    · rw [List.nil_append, segments_of_not_mem hplain hnil]
      rfl
  · have hc : c = '/' := by simpa using hend
    have hnil : base ≠ [] := by
      rintro rfl
      exact hlast '/' (by simp [hpath, hc]) rfl
    rw [List.concat_eq_append, hc, List.append_assoc, List.singleton_append, segments_append_slash,
      segments_append_slash, segments_of_not_mem hplain hnil, List.dropLast_concat]
    exact List.append_nil _

end Folder

namespace Note

def foldersOf (path : Text) : List Text := ((List.splitOn '/' path).filter (· ≠ [])).dropLast

theorem foldersOf_eq (path : Text) : foldersOf path = (Folder.segments path).dropLast := by
  have hnonempty : ∀ w : Text, decide (w ≠ []) = !w.isEmpty := by
    intro w
    cases w <;> rfl
  rw [foldersOf, Folder.segments_eq]
  simp only [hnonempty]

theorem segments_folderOf (path : Text) : Folder.segments (folderOf path) = foldersOf path := by
  have hbare : Text.IsBare Folder.slash.contains (Text.stripChars Folder.slash path) :=
    Text.isBare_stripWhere _ _
  have hlast : ∀ c ∈ (Text.stripChars Folder.slash path).getLast?, c ≠ '/' := by
    rintro c hc rfl
    exact absurd (hbare.2 '/' hc) (by decide)
  rw [foldersOf_eq, ← Folder.segments_stripChars path]
  exact Folder.segments_throughLast hlast

end Note

namespace Node

open Folder (AreSegments slash)

/-- A folder filter that starts at the root finds the notes with just its folders on their way, and
another one those with its folders in one piece of their way, case aside. -/
theorem holds_folder_ofPath (path : Text) {ws : List Text} (hws : ∀ w ∈ ws, w ≠ [] ∧ '/' ∉ w) :
    (term ⟨.folder (Text.join slash ws) true, false⟩).holds (.ofPath path) =
        .ok (decide ((Note.foldersOf path).map Text.foldCase = ws.map Text.foldCase)) ∧
      (ws ≠ [] →
        (term ⟨.folder (Text.join slash ws) false, false⟩).holds (.ofPath path) =
          .ok (decide (ws.map Text.foldCase <:+: (Note.foldersOf path).map Text.foldCase))) ∧
      (ws ≠ [] →
        (term ⟨.folder (Text.join slash ws) true, false⟩).holds (.ofPath path) = .ok true →
        (term ⟨.folder (Text.join slash ws) false, false⟩).holds (.ofPath path) = .ok true) := by
  have hrooted : (term ⟨.folder (Text.join slash ws) true, false⟩).holds (.ofPath path) =
      .ok (decide ((Note.foldersOf path).map Text.foldCase = ws.map Text.foldCase)) := by
    apply holds_term_of_ok
    have hfolders : AreSegments (Note.foldersOf path) := by
      rw [Note.foldersOf_eq]
      exact fun w hw => Folder.mem_segments (List.dropLast_subset _ hw)
    have hsame := Folder.foldCase_join_eq_iff hfolders hws
    rw [Criterion.holds, Except.ok.injEq, Folder.normalize, Folder.normalize,
      Folder.segments_join hws, Note.ofPath, Note.segments_folderOf, Bool.eq_iff_iff, beq_iff_eq,
      decide_eq_true_eq]
    exact hsame
  have hanywhere : ws ≠ [] →
      (term ⟨.folder (Text.join slash ws) false, false⟩).holds (.ofPath path) =
        .ok (decide (ws.map Text.foldCase <:+: (Note.foldersOf path).map Text.foldCase)) := by
    intro hne
    apply holds_term_of_ok
    rw [Criterion.holds, Except.ok.injEq, Folder.holdsRun, Folder.segments_join hws, Note.ofPath,
      Note.segments_folderOf, List.isEmpty_eq_false_iff.mpr hne, Bool.not_false, Bool.true_and,
      Bool.eq_iff_iff, Text.isRunOf_iff, decide_eq_true_eq]
  refine ⟨hrooted, hanywhere, ?_⟩
  intro hne hholds
  rw [hrooted, Except.ok.injEq, decide_eq_true_eq] at hholds
  rw [hanywhere hne, hholds]
  exact congrArg Except.ok (decide_eq_true List.infix_rfl)

/-- The last two of three folders, one of them behind a doubled slash. -/
theorem holds_folder_ofPath_deeper :
    (∀ w ∈ ["mtgs".toList, "2026".toList], w ≠ [] ∧ '/' ∉ w) ∧
      (term ⟨.folder (Text.join slash ["mtgs".toList, "2026".toList]) true, false⟩).holds
        (.ofPath "/Work/Mtgs//2026/a.md".toList) = .ok false ∧
      (term ⟨.folder (Text.join slash ["mtgs".toList, "2026".toList]) false, false⟩).holds
        (.ofPath "/Work/Mtgs//2026/a.md".toList) = .ok true := by
  have hws : ∀ w ∈ ["mtgs".toList, "2026".toList], w ≠ [] ∧ '/' ∉ w := by decide
  have hway : (Note.foldersOf "/Work/Mtgs//2026/a.md".toList).map Text.foldCase =
      ["work".toList, "mtgs".toList, "2026".toList] := by decide
  have hfold : ["mtgs".toList, "2026".toList].map Text.foldCase =
      ["mtgs".toList, "2026".toList] := by decide
  obtain ⟨hrooted, hanywhere, -⟩ := holds_folder_ofPath "/Work/Mtgs//2026/a.md".toList hws
  rw [hway, hfold] at hrooted hanywhere
  exact ⟨hws, hrooted, hanywhere (List.cons_ne_nil _ _)⟩

end Node

end NoteQuery
