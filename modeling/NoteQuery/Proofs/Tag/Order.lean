import NoteQuery.Proofs.Query.Evaluation
import NoteQuery.Proofs.Tag.Normal
import NoteQuery.Proofs.Text.Splitting

/-!
# The order of tags

The levels of a tag are the pieces of its normal form between the separators, and a level in the
middle may be empty. A tag stands below another one exactly if it begins with all its levels. So
standing below is an order on the normal forms, in which the tags above any tag are a chain.
-/
namespace NoteQuery.Tag

def levels (tag : Text) : List Text := List.splitOn '/' (normalize tag)

theorem isBelow_iff (t a : Text) :
    isBelow t a = true ↔ normalize t ≠ [] ∧ normalize a ≠ [] ∧ levels a <+: levels t := by
  rw [levels, levels, Text.splitOn_prefix_iff]
  simp [isBelow, isBelowBy, normalize, slash, and_assoc]

theorem isBelow_trans {t a b : Text} (hta : isBelow t a = true) (hab : isBelow a b = true) :
    isBelow t b = true := by
  obtain ⟨ht, -, hlevels⟩ := (isBelow_iff t a).mp hta
  obtain ⟨-, hb, hlevels'⟩ := (isBelow_iff a b).mp hab
  exact (isBelow_iff t b).mpr ⟨ht, hb, hlevels'.trans hlevels⟩

/-- Of two tags above one and the same tag, one stands above the other. -/
theorem isBelow_or_isBelow {t a b : Text} (hta : isBelow t a = true) (htb : isBelow t b = true) :
    isBelow a b = true ∨ isBelow b a = true := by
  obtain ⟨-, ha, hlevels⟩ := (isBelow_iff t a).mp hta
  obtain ⟨-, hb, hlevels'⟩ := (isBelow_iff t b).mp htb
  rcases List.prefix_or_prefix_of_prefix hlevels hlevels' with h | h
  · exact Or.inr ((isBelow_iff b a).mpr ⟨hb, ha, h⟩)
  · exact Or.inl ((isBelow_iff a b).mpr ⟨ha, hb, h⟩)

theorem holds_tag (path : Text) (n : Note) :
    (Node.term ⟨.tag (some path), false⟩).holds n =
      .ok (decide (∃ t ∈ n.tags, isBelow t path = true)) := by
  apply Node.holds_term_of_ok
  rw [Criterion.holds, Except.ok.injEq, Bool.eq_iff_iff, List.any_eq_true, decide_eq_true_eq]

/-- Standing below is the prefix order of the levels of normal forms: every tag with a normal form
stands below itself, and tags that stand below each other have one normal form. A tag filter finds
the notes with a tag below its path. -/
theorem isBelow_order :
    (∀ t a : Text, isBelow t a = true ↔ normalize t ≠ [] ∧ normalize a ≠ [] ∧
        List.splitOn '/' (normalize a) <+: List.splitOn '/' (normalize t)) ∧
      (∀ t : Text, normalize t ≠ [] → isBelow t t = true) ∧
      (∀ t a b : Text, isBelow t a = true → isBelow a b = true → isBelow t b = true) ∧
      (∀ t a : Text, isBelow t a = true → isBelow a t = true → normalize t = normalize a) ∧
      (∀ t a b : Text, isBelow t a = true → isBelow t b = true →
        isBelow a b = true ∨ isBelow b a = true) ∧
      ∀ (path : Text) (n : Note), (Node.term ⟨.tag (some path), false⟩).holds n =
        .ok (decide (∃ t ∈ n.tags, isBelow t path = true)) := by
  refine ⟨isBelow_iff, fun t => (isBelow_self t).mpr, ?_, ?_, ?_, holds_tag⟩
  · intro t a b
    exact isBelow_trans
  · intro t a hta hat
    exact (isBelow_antisymm hta hat).symm
  · intro t a b
    exact isBelow_or_isBelow

/-- An empty level is a level, and a level counts as a whole. -/
example : isBelow "#AI//ml/".toList "ai/".toList = true ∧
    isBelow "ai//ml".toList "ai/ml".toList = false ∧
    isBelow "ai-tools".toList "ai".toList = false := by decide

end NoteQuery.Tag
