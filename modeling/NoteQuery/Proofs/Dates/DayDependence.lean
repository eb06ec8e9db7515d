import NoteQuery.Proofs.Dates.ClockDependence
import NoteQuery.Proofs.Dates.RelativeWords

/-!
# Expressions that do not look at the time of day

Two readings of the clock on one day are the same to an expression that does not end in two
dots. An expression in which no relative word occurs does not even look at the day: the other
forms are found on the calendar alone. The statements compare two runs over one text.
-/
namespace NoteQuery

/-- A relative word stands somewhere in a text, in any case. -/
def RelativeDay.OccursIn (w : RelativeDay) (s : Text) : Prop :=
  ∃ v, v <:+: s ∧ Text.IsCasing v w.word

theorem RelativeDay.OccursIn.exists_head {w : RelativeDay} {s : Text} (h : w.OccursIn s) :
    ∃ c ∈ s, ∃ d ∈ ['t', 'y', 'l'], Text.IsCaseOf c d := by
  obtain ⟨v, hv, hcasing⟩ := h
  obtain ⟨c, hc, hcase⟩ := exists_head_of_isCasing hcasing
  exact ⟨c, hv.subset (List.mem_of_mem_head? hc), hcase⟩

namespace DateForm

theorem ofPieces?_ne_relative (ps : List Piece) (w : RelativeDay) :
    ofPieces? ps ≠ some (.relative w) := by
  intro h
  rw [ofPieces?.eq_def] at h
  split at h
  case h_7 => cases h
  all_goals grind [ofLetter?, ofThree?]

/-- A text is read as a relative word only if it is that word, blanks around it apart. -/
theorem isCasing_of_ofText? {s : Text} {w : RelativeDay} (h : ofText? s = some (.relative w)) :
    Text.IsCasing (Text.trim s) w.word := by
  simp only [ofText?] at h
  split at h
  · rename_i v hv
    cases h
    have heq := List.find?_some hv
    rw [beq_iff_eq] at heq
    exact (w.lower_eq_word_iff _).mp heq.symm
  · exact absurd h (ofPieces?_ne_relative _ w)

/-- All other forms are found on the calendar. -/
theorem span?_congr_of_ne_relative (order : DayOrder) (d e : Day) {form : DateForm}
    (h : ∀ w, form ≠ .relative w) : span? order d form = span? order e form := by
  cases form with
  | relative w => exact absurd rfl (h w)
  | _ => rfl

end DateForm

namespace DateExpr

/-- An expression that does not end in two dots has no open end. -/
theorem openLeft?_eq_none {expression : Text} (h : ¬ dots <:+ Text.trim expression) :
    openLeft? expression = none := by
  rw [openLeft?]
  split
  · rename_i left hsplit
    have htext := eq_of_splitFirst? hsplit
    rw [List.append_nil] at htext
    exact absurd ⟨left, htext.symm⟩ h
  · rfl

theorem side?_congr_of_not_occursIn (order : DayOrder) (now later : Instant) {s : Text}
    (h : ∀ w : RelativeDay, ¬ w.OccursIn s) : side? order now s = side? order later s := by
  rw [side?, side?]
  cases hform : DateForm.ofText? s with
  | none => rw [Option.bind_none, Option.bind_none]
  | some form =>
    have hne : ∀ w, form ≠ .relative w := by
      rintro w rfl
      exact h w ⟨_, Text.stripWhere_infix_self _ s, DateForm.isCasing_of_ofText? hform⟩
    rw [Option.bind_some, Option.bind_some]
    exact DateForm.span?_congr_of_ne_relative order now.day later.day hne

/-- An expression that does not end in two dots, blanks behind it apart, stands for the same
at any two times of one day, and at any two times at all if no relative word occurs in it. -/
theorem resolve_congr_of_closed (order : DayOrder) (now later : Instant) {expression : Text}
    (h : ¬ dots <:+ Text.trim expression) :
    (now.day = later.day →
      resolve order ⟨now, none⟩ expression = resolve order ⟨later, none⟩ expression) ∧
    ((∀ w : RelativeDay, ¬ w.OccursIn expression) →
      resolve order ⟨now, none⟩ expression = resolve order ⟨later, none⟩ expression) := by
  have hlocal : ∀ t, resolve order ⟨t, none⟩ expression = .ok (resolve? order t expression) :=
    fun _ => rfl
  have hclosed := openLeft?_eq_none h
  rw [hlocal, hlocal, Except.ok.injEq]
  constructor
  · intro hday
    exact resolve?_congr_of_closed order hday hclosed
  · intro hword
    apply resolve?_congr_of_sides order _ hclosed
    intro u hu
    apply side?_congr_of_not_occursIn
    rintro w ⟨v, hv, hcasing⟩
    exact hword w ⟨v, (hv.trans hu).trans (Text.stripWhere_infix_self _ _), hcasing⟩

/-- Two evenings far apart: a word without an end that is open, and a range without words. -/
theorem resolve_congr_of_closed_evenings :
    ∃ now later : Instant, now.day = later.day ∧ ¬ dots <:+ Text.trim "2026..Yesterday ".toList ∧
      resolve .dayFirst ⟨now, none⟩ "2026..Yesterday ".toList =
        resolve .dayFirst ⟨later, none⟩ "2026..Yesterday ".toList ∧
      ¬ dots <:+ Text.trim "..2026-W06".toList ∧
      (∀ w : RelativeDay, ¬ w.OccursIn "..2026-W06".toList) ∧
      resolve .dayFirst ⟨now, none⟩ "..2026-W06".toList =
        resolve .dayFirst ⟨.last, none⟩ "..2026-W06".toList := by
  obtain ⟨now, hnow⟩ : ∃ now : Instant, now = ⟨739650 * 86400000000 + 1, by decide⟩ := ⟨_, rfl⟩
  obtain ⟨later, hlater⟩ : ∃ later : Instant, later = ⟨739650 * 86400000000 + 2, by decide⟩ :=
    ⟨_, rfl⟩
  have hday : now.day = later.day := by
    rw [hnow, hlater]
    decide
  have hword : ∀ w : RelativeDay, ¬ w.OccursIn "..2026-W06".toList := by
    intro w hoccurs
    obtain ⟨c, hc, d, hd, hcase⟩ := hoccurs.exists_head
    have hnone : "..2026-W06".toList.all fun c =>
        ['t', 'y', 'l'].all fun d => !decide (Text.IsCaseOf c d) := by decide
    have hnot := List.all_eq_true.mp (List.all_eq_true.mp hnone c hc) d hd
    rw [decide_eq_true hcase] at hnot
    exact absurd hnot (by decide)
  have hopen : ¬ dots <:+ Text.trim "2026..Yesterday ".toList := by decide
  have hclosed : ¬ dots <:+ Text.trim "..2026-W06".toList := by decide
  exact ⟨now, later, hday, hopen, (resolve_congr_of_closed .dayFirst now later hopen).1 hday,
    hclosed, hword, (resolve_congr_of_closed .dayFirst now .last hclosed).2 hword⟩

end DateExpr

end NoteQuery
