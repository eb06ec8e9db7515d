import NoteQuery.Dates.Resolve

/-!
# What a date takes from the clock

One form depends on the clock only through the day, and so does every expression but one
that is left open at its end: there the range ends now, unless the left side ends later.
-/
namespace NoteQuery.DateExpr

/-- The left side of an expression whose right side is left out. -/
def openLeft? (expression : Text) : Option Text :=
  match Text.splitFirst? dots (Text.trim expression) with
  | some (left, []) => if left.isEmpty then none else some left
  | _ => none

theorem side?_congr (order : DayOrder) {now later : Instant} (h : now.day = later.day)
    (s : Text) : side? order now s = side? order later s := by
  rw [side?, side?, h]

theorem resolve?_of_openLeft? (order : DayOrder) (now : Instant) {expression left : Text}
    (h : openLeft? expression = some left) :
    resolve? order now expression =
      (side? order now left).map fun a => ⟨a.start, max now a.stop⟩ := by
  simp only [openLeft?] at h
  split at h
  case h_1 l hs =>
    cases hl : l.isEmpty with
    | true => simp [hl] at h
    | false =>
      simp only [hl, Bool.false_eq_true, if_false, Option.some.injEq] at h
      subst h
      simp only [resolve?, hs, hl]
      rfl
  case h_2 => cases h

/-- The parts around the first two dots. -/
theorem eq_of_splitFirst? {s left right : Text}
    (h : Text.splitFirst? dots s = some (left, right)) : s = left ++ dots ++ right := by
  induction s generalizing left with
  | nil => cases h
  | cons c s ih =>
    rw [Text.splitFirst?] at h
    split at h
    · rename_i hprefix
      obtain ⟨rest, hrest⟩ := List.isPrefixOf_iff_prefix.mp hprefix
      cases h
      rw [← hrest]
      rfl
    · obtain ⟨⟨l, r⟩, hl, heq⟩ := Option.map_eq_some_iff.mp h
      cases heq
      rw [ih hl]
      rfl

/-- Unless the end is left open, an expression takes from the clock what its sides take. -/
theorem resolve?_congr_of_sides (order : DayOrder) {now later : Instant} {expression : Text}
    (hside : ∀ u, u <:+: Text.trim expression → side? order now u = side? order later u)
    (h : openLeft? expression = none) :
    resolve? order now expression = resolve? order later expression := by
  simp only [openLeft?] at h
  simp only [resolve?]
  cases hs : Text.splitFirst? dots (Text.trim expression) with
  | none => simp only [hside _ (List.infix_refl _)]
  | some sides =>
    obtain ⟨left, right⟩ := sides
    have htext := eq_of_splitFirst? hs
    have hleft : left <:+: Text.trim expression := ⟨[], dots ++ right, by rw [htext]; simp⟩
    have hright : right <:+: Text.trim expression := ⟨left ++ dots, [], by rw [htext]; simp⟩
    cases right with
    | nil =>
      rw [hs] at h
      cases hl : left.isEmpty with
      | true => simp [hl]
      | false => simp [hl] at h
    | cons c right =>
      cases hl : left.isEmpty <;>
        simp only [hside _ hleft, hside _ hright, List.isEmpty_cons, hl]

/-- Unless the end is left open, only the day of the clock counts. -/
theorem resolve?_congr_of_closed (order : DayOrder) {now later : Instant}
    (hd : now.day = later.day) {expression : Text} (h : openLeft? expression = none) :
    resolve? order now expression = resolve? order later expression :=
  resolve?_congr_of_sides order (fun u _ => side?_congr order hd u) h

/-- On one day an expression means the same at two times exactly if its end is not left
open, or the open end does not tell the times apart. -/
theorem resolve?_eq_iff (order : DayOrder) {now later : Instant} (hd : now.day = later.day)
    (expression : Text) :
    resolve? order now expression = resolve? order later expression ↔
      ∀ left a, openLeft? expression = some left → side? order later left = some a →
        max now a.stop = max later a.stop := by
  cases h : openLeft? expression with
  | none => simp [resolve?_congr_of_closed order hd h]
  | some left =>
    rw [resolve?_of_openLeft? order now h, resolve?_of_openLeft? order later h,
      side?_congr order hd]
    constructor
    · rintro he left a ⟨⟩ ha
      simpa [ha] using he
    · intro he
      cases ha : side? order later left with
      | none => rfl
      | some a => simp only [Option.map_some, he left a rfl ha]

end NoteQuery.DateExpr
