import NoteQuery.Proofs.Dates.Ordered
import NoteQuery.Proofs.Text.Stripping

/-!
# Ranges between two expressions

Two dots between expressions stand for the range from one to the other, or for one that is
open where a side is left out. A further dot next to the two dots goes with one side or the
other, and no form begins or ends with a dot, so that it makes no difference where the dots
are cut: the range exists exactly if both sides do.
-/
namespace NoteQuery

namespace DateRange

/-- The least range that covers what one or the other of two ranges covers. -/
structure IsHull (r a b : DateRange) : Prop where
  covers : ∀ t, a.covers t ∨ b.covers t → r.covers t
  least : ∀ s : DateRange, (∀ t, a.covers t ∨ b.covers t → s.covers t) →
    ∀ t, r.covers t → s.covers t

def Disjoint (a b : DateRange) : Prop := ∀ t, ¬ (a.covers t ∧ b.covers t)

variable {a b : DateRange}

/-- One of two ranges without a common instant ends before the other begins. -/
theorem Disjoint.lt_or_lt (h : a.Disjoint b) (ha : a.start ≤ a.stop) (hb : b.start ≤ b.stop) :
    a.stop < b.start ∨ b.stop < a.start := by
  rw [Instant.le_iff] at ha hb
  rw [Instant.lt_iff, Instant.lt_iff]
  by_cases hab : a.stop.ticks < b.start.ticks
  · exact Or.inl hab
  · refine Or.inr ?_
    by_cases hba : b.stop.ticks < a.start.ticks
    · exact hba
    · -- Otherwise the later one of the two starts lies in both ranges.
      have hboth := h (max a.start b.start)
      rw [covers_iff, covers_iff, Instant.max_ticks] at hboth
      exact absurd ⟨⟨by omega, by omega⟩, by omega, by omega⟩ hboth

theorem covers_start (h : a.start ≤ a.stop) : a.covers a.start :=
  (covers_iff a a.start).mpr ⟨Nat.le_refl _, h⟩

theorem covers_stop (h : a.start ≤ a.stop) : a.covers a.stop :=
  (covers_iff a a.stop).mpr ⟨h, Nat.le_refl _⟩

/-- From the start of one range to the end of a later one. -/
theorem isHull_of_lt (ha : a.start ≤ a.stop) (hb : b.start ≤ b.stop) (h : a.stop < b.start) :
    IsHull ⟨a.start, b.stop⟩ a b := by
  have hab : a.stop.ticks < b.start.ticks := h
  constructor
  · intro t ht
    rw [covers_iff] at ht ⊢
    rw [covers_iff] at ht
    rcases ht with ht | ht
    · exact ⟨ht.1, Nat.le_trans ht.2 (Nat.le_trans (Nat.le_of_lt hab) hb)⟩
    · exact ⟨Nat.le_trans ha (Nat.le_trans (Nat.le_of_lt hab) ht.1), ht.2⟩
  · intro s hs t ht
    have hstart := (covers_iff s _).mp (hs a.start (Or.inl (covers_start ha)))
    have hstop := (covers_iff s _).mp (hs b.stop (Or.inr (covers_stop hb)))
    rw [covers_iff] at ht ⊢
    exact ⟨Nat.le_trans hstart.1 ht.1, Nat.le_trans ht.2 hstop.2⟩

theorem IsHull.symm {r : DateRange} (h : r.IsHull a b) : r.IsHull b a :=
  ⟨fun t ht => h.covers t ht.symm, fun s hs => h.least s fun t ht => hs t ht.symm⟩

end DateRange

namespace DateForm

/-- A form begins and ends with digits. -/
theorem ofPieces?_ends {ps : List Piece} {form : DateForm} (h : ofPieces? ps = some form) :
    (∃ ds, ps.head? = some (.digits ds)) ∧ ∃ ds, ps.getLast? = some (.digits ds) := by
  rw [ofPieces?.eq_def] at h
  split at h
  case h_7 => cases h
  all_goals exact ⟨⟨_, rfl⟩, _, rfl⟩

theorem getLast?_pieces_dot (s : Text) : (pieces (s ++ ['.'])).getLast? = some (.sign '.') := by
  induction s with
  | nil => rfl
  | cons c s ih =>
    rw [List.cons_append, pieces]
    cases Text.digitValue? c with
    | none =>
      simp only
      rw [List.getLast?_cons, ih]
      rfl
    | some d =>
      simp only
      cases hp : pieces (s ++ ['.']) with
      | nil =>
        rw [hp] at ih
        cases ih
      | cons p ps =>
        rw [hp] at ih
        cases p with
        | sign c =>
          have hdigit : consDigit d (.sign c :: ps) = .digits [d] :: .sign c :: ps := rfl
          rw [hdigit, List.getLast?_cons_cons]
          exact ih
        | digits ds =>
          cases ps with
          | nil => cases ih
          | cons q qs =>
            rw [List.getLast?_cons_cons] at ih
            rw [consDigit, List.getLast?_cons_cons]
            exact ih

end DateForm

theorem Text.getLast?_lowerFrom_dot (seen s : Text) :
    (lowerFrom seen (s ++ ['.'])).getLast? = some '.' := by
  induction s generalizing seen with
  | nil => rfl
  | cons c s ih => rw [List.cons_append, lowerFrom, List.getLast?_append, ih, Option.some_or]

/-- A relative word neither begins nor ends with a dot. -/
theorem RelativeDay.word_ends :
    ∀ w ∈ all, w.word.head? ≠ some '.' ∧ w.word.getLast? ≠ some '.' := by decide

namespace DateForm

theorem ofText?_dot_append {s : Text} (v : Text) (h : Text.trim s = '.' :: v) :
    ofText? s = none := by
  have hword : (RelativeDay.all.find? fun w => w.word == Text.lower ('.' :: v)) = none := by
    refine List.find?_eq_none.mpr fun w hw heq => ?_
    refine (RelativeDay.word_ends w hw).1 ?_
    rw [beq_iff_eq.mp heq]
    rfl
  have hpieces : ofPieces? (pieces ('.' :: v)) = none := rfl
  simp only [ofText?, h, hword, hpieces]

theorem ofText?_append_dot {s : Text} (u : Text) (h : Text.trim s = u ++ ['.']) :
    ofText? s = none := by
  have hword : (RelativeDay.all.find? fun w => w.word == Text.lower (u ++ ['.'])) = none := by
    refine List.find?_eq_none.mpr fun w hw heq => ?_
    refine (RelativeDay.word_ends w hw).2 ?_
    rw [beq_iff_eq.mp heq]
    exact Text.getLast?_lowerFrom_dot [] u
  have hpieces : ofPieces? (pieces (u ++ ['.'])) = none := by
    cases hform : ofPieces? (pieces (u ++ ['.'])) with
    | none => rfl
    | some form =>
      obtain ⟨-, ds, hlast⟩ := ofPieces?_ends hform
      rw [getLast?_pieces_dot] at hlast
      cases hlast
  simp only [ofText?, h, hword, hpieces]

end DateForm

namespace DateExpr

/-- A text that can stand on one side of two dots: it is not blank and has no two dots in a
row. -/
structure IsSide (s : Text) : Prop where
  not_blank : Text.trim s ≠ []
  no_dots : ¬ dots <:+: s

/-! ## Where the dots are found -/

theorem splitFirst?_eq_none {s : Text} (h : ¬ dots <:+: s) : Text.splitFirst? dots s = none := by
  induction s with
  | nil => rfl
  | cons c s ih =>
    have hprefix : dots.isPrefixOf (c :: s) = false := by
      rw [Bool.eq_false_iff]
      intro hp
      exact h (List.isPrefixOf_iff_prefix.mp hp).isInfix
    have hrest : ¬ dots <:+: s := fun hs => h (hs.trans (List.suffix_cons c s).isInfix)
    rw [Text.splitFirst?, hprefix, if_neg Bool.false_ne_true, ih hrest]
    rfl

theorem isSome_splitFirst? (u v : Text) : (Text.splitFirst? dots (u ++ dots ++ v)).isSome := by
  induction u with
  | nil => rfl
  | cons c u ih =>
    rw [List.cons_append, List.cons_append, Text.splitFirst?]
    split
    · rfl
    · rw [Option.isSome_map]
      exact ih

theorem splitFirst?_eq_none_iff (s : Text) : Text.splitFirst? dots s = none ↔ ¬ dots <:+: s := by
  constructor
  · rintro hnone ⟨u, v, rfl⟩
    have hsome := isSome_splitFirst? u v
    rw [hnone] at hsome
    cases hsome
  · exact splitFirst?_eq_none

instance (s : Text) : Decidable (IsSide s) :=
  decidable_of_iff (Text.trim s ≠ [] ∧ Text.splitFirst? dots s = none)
    ⟨fun h => ⟨h.1, (splitFirst?_eq_none_iff s).mp h.2⟩,
      fun h => ⟨h.not_blank, (splitFirst?_eq_none_iff s).mpr h.no_dots⟩⟩

/-- The first two dots are found where they were put, unless a dot stands in front of
them. -/
theorem splitFirst?_append {u : Text} (hdots : ¬ dots <:+: u) (hlast : u.getLast? ≠ some '.')
    (v : Text) : Text.splitFirst? dots (u ++ dots ++ v) = some (u, v) := by
  induction u with
  | nil => rfl
  | cons c u ih =>
    have hrest : ¬ dots <:+: u := fun hs => hdots (hs.trans (List.suffix_cons c u).isInfix)
    have hprefix : dots.isPrefixOf (c :: (u ++ dots ++ v)) = false := by
      rw [Bool.eq_false_iff]
      intro hp
      obtain ⟨rest, heq⟩ := List.isPrefixOf_iff_prefix.mp hp
      obtain ⟨rfl, hnext⟩ := List.cons.inj heq
      cases u with
      | nil => exact hlast rfl
      | cons d u =>
        obtain ⟨rfl, -⟩ := List.cons.inj hnext
        exact hdots ⟨[], u, rfl⟩
    have hlast' : u.getLast? ≠ some '.' := by
      cases u with
      | nil => nofun
      | cons d u =>
        rw [List.getLast?_cons_cons] at hlast
        exact hlast
    rw [List.cons_append, List.cons_append, Text.splitFirst?, hprefix,
      if_neg Bool.false_ne_true, ih hrest hlast']
    rfl

/-- Of three dots in a row the last goes to the right. -/
theorem splitFirst?_append_dot {u : Text} (hdots : ¬ dots <:+: u ++ ['.']) (v : Text) :
    Text.splitFirst? dots (u ++ ['.'] ++ dots ++ v) = some (u, '.' :: v) := by
  have hrest : ¬ dots <:+: u := fun hu => hdots (hu.trans (List.prefix_append u ['.']).isInfix)
  have hlast : u.getLast? ≠ some '.' := by
    intro hlast
    obtain ⟨w, rfl⟩ := List.getLast?_eq_some_iff.mp hlast
    exact hdots ⟨w, [], by simp [dots]⟩
  have htext : u ++ ['.'] ++ dots ++ v = u ++ dots ++ '.' :: v := by simp [dots]
  rw [htext]
  exact splitFirst?_append hrest hlast ('.' :: v)

/-- Blanks around the sides do not reach the dots between them. -/
theorem trim_dots (u v : Text) :
    Text.trim (u ++ dots ++ v) =
      u.dropWhile Text.isBlank ++ dots ++ Text.dropEndWhile Text.isBlank v := by
  have hdot : Text.isBlank '.' = false := by decide
  have hback := Text.dropEndWhile_append_cons hdot [] v
  have hwhole := Text.stripWhere_append_cons hdot u ('.' :: v)
  rw [List.nil_append, List.nil_append] at hback
  rw [hback] at hwhole
  simpa [dots, Text.trim] using hwhole

section

variable {order : DayOrder} {now : Instant}

theorem side?_congr_trim {u v : Text} (h : Text.trim u = Text.trim v) :
    side? order now u = side? order now v := by
  simp only [side?, DateForm.ofText?, h]

theorem side?_dot_append (v : Text) : side? order now ('.' :: v) = none := by
  have htrim : Text.trim ('.' :: v) = '.' :: Text.dropEndWhile Text.isBlank v :=
    Text.stripWhere_append_cons (by decide) [] v
  rw [side?, DateForm.ofText?_dot_append _ htrim]
  rfl

theorem side?_append_dot (u : Text) : side? order now (u ++ ['.']) = none := by
  have htrim : Text.trim (u ++ ['.']) = u.dropWhile Text.isBlank ++ ['.'] :=
    Text.stripWhere_append_cons (by decide) u []
  rw [side?, DateForm.ofText?_append_dot _ htrim]
  rfl

theorem side?_dropWhile (s : Text) :
    side? order now (s.dropWhile Text.isBlank) = side? order now s :=
  side?_congr_trim (Text.stripWhere_dropWhile Text.isBlank s)

theorem side?_dropEndWhile (s : Text) :
    side? order now (Text.dropEndWhile Text.isBlank s) = side? order now s :=
  side?_congr_trim (Text.stripWhere_dropEndWhile Text.isBlank s)

/-! ## What the dots stand for -/

/-- A dot behind the two dots spoils the right side. -/
theorem resolve?_of_dot {s left v : Text}
    (h : Text.splitFirst? dots (Text.trim s) = some (left, '.' :: v)) :
    resolve? order now s = none := by
  simp only [resolve?, h, List.isEmpty_cons, side?_dot_append, Option.map_none]
  cases (Text.splitFirst? dots ('.' :: v)).isSome with
  | true => rfl
  | false =>
    cases left.isEmpty with
    | true => rfl
    | false => cases side? order now left <;> rfl

theorem IsSide.dropWhile {s : Text} (h : IsSide s) :
    s.dropWhile Text.isBlank ≠ [] ∧ ¬ dots <:+: s.dropWhile Text.isBlank := by
  constructor
  · intro hnil
    refine h.not_blank ?_
    rw [Text.trim, Text.stripWhere, hnil]
    rfl
  · intro hdots
    exact h.no_dots (hdots.trans (List.dropWhile_suffix Text.isBlank).isInfix)

theorem IsSide.dropEndWhile {s : Text} (h : IsSide s) :
    Text.dropEndWhile Text.isBlank s ≠ [] ∧ ¬ dots <:+: Text.dropEndWhile Text.isBlank s := by
  constructor
  · intro hnil
    refine h.not_blank ?_
    rw [Text.trim, ← Text.stripWhere_dropEndWhile, hnil]
    rfl
  · intro hdots
    refine h.no_dots (hdots.trans (List.IsPrefix.isInfix ?_))
    rw [← List.reverse_suffix, Text.dropEndWhile, List.reverse_reverse]
    exact List.dropWhile_suffix Text.isBlank

/-- An expression without two dots is one form. -/
theorem resolve?_of_no_dots {s : Text} (h : ¬ dots <:+: s) :
    resolve? order now s = side? order now s := by
  obtain ⟨front, back, hs, -, -⟩ := Text.exists_trim s
  have hdots : ¬ dots <:+: Text.trim s := by
    intro htrim
    refine h (htrim.trans ⟨front, back, ?_⟩)
    rw [List.append_assoc]
    exact hs.symm
  simp only [resolve?, splitFirst?_eq_none hdots]
  exact side?_congr_trim (Text.trim_trim s)

/-- A side by itself is one form. -/
theorem resolve?_side {s : Text} (h : IsSide s) : resolve? order now s = side? order now s :=
  resolve?_of_no_dots h.no_dots

theorem resolve?_between {u v : Text} (hu : IsSide u) (hv : IsSide v) :
    resolve? order now (u ++ dots ++ v) =
      (side? order now u).bind fun a => (side? order now v).map fun b => between a b := by
  obtain ⟨huNil, huDots⟩ := hu.dropWhile
  obtain ⟨hvNil, hvDots⟩ := hv.dropEndWhile
  have htrim := trim_dots u v
  rw [← side?_dropWhile u, ← side?_dropEndWhile v]
  generalize u.dropWhile Text.isBlank = left at *
  generalize Text.dropEndWhile Text.isBlank v = right at *
  by_cases hlast : left.getLast? = some '.'
  · obtain ⟨w, rfl⟩ := List.getLast?_eq_some_iff.mp hlast
    have hsplit := splitFirst?_append_dot huDots right
    rw [← htrim] at hsplit
    rw [resolve?_of_dot hsplit, side?_append_dot]
    rfl
  · have hsplit := splitFirst?_append huDots hlast right
    rw [← htrim] at hsplit
    simp only [resolve?, hsplit, splitFirst?_eq_none hvDots, Option.isSome_none,
      List.isEmpty_eq_false_iff.mpr huNil, List.isEmpty_eq_false_iff.mpr hvNil]
    cases side? order now left with
    | none => rfl
    | some a => cases side? order now right <;> rfl

theorem resolve?_until {v : Text} (hv : IsSide v) :
    resolve? order now (dots ++ v) = (side? order now v).map fun b => ⟨.first, b.stop⟩ := by
  obtain ⟨hvNil, hvDots⟩ := hv.dropEndWhile
  have hsplit : Text.splitFirst? dots (Text.trim (dots ++ v)) =
      some ([], Text.dropEndWhile Text.isBlank v) := by
    have htrim := trim_dots [] v
    rw [List.nil_append] at htrim
    rw [htrim]
    exact splitFirst?_append (by decide) (by decide) _
  rw [← side?_dropEndWhile v]
  simp only [resolve?, hsplit, splitFirst?_eq_none hvDots, Option.isSome_none, List.isEmpty_nil,
    List.isEmpty_eq_false_iff.mpr hvNil]
  rfl

theorem resolve?_since {u : Text} (hu : IsSide u) :
    resolve? order now (u ++ dots) =
      (side? order now u).map fun a => ⟨a.start, max now a.stop⟩ := by
  obtain ⟨huNil, huDots⟩ := hu.dropWhile
  have htrim := trim_dots u []
  rw [List.append_nil] at htrim
  rw [← side?_dropWhile u]
  generalize u.dropWhile Text.isBlank = left at *
  by_cases hlast : left.getLast? = some '.'
  · obtain ⟨w, rfl⟩ := List.getLast?_eq_some_iff.mp hlast
    have hsplit := splitFirst?_append_dot huDots []
    rw [resolve?_of_dot (htrim ▸ hsplit), side?_append_dot]
    rfl
  · have hsplit := splitFirst?_append huDots hlast []
    have hnil : Text.splitFirst? dots [] = none := rfl
    have hblank : Text.dropEndWhile Text.isBlank [] = [] := rfl
    rw [← hblank, ← htrim] at hsplit
    simp only [resolve?, hsplit, hblank, hnil, Option.isSome_none, List.isEmpty_nil,
      List.isEmpty_eq_false_iff.mpr huNil]
    rfl

/-- Sides without a common instant are covered by one range, whichever stands first. -/
theorem between_of_disjoint {a b : DateRange} (ha : a.start ≤ a.stop) (hb : b.start ≤ b.stop)
    (h : a.Disjoint b) : between a b = between b a ∧ (between a b).IsHull a b := by
  have ha' : a.start.ticks ≤ a.stop.ticks := ha
  have hb' : b.start.ticks ≤ b.stop.ticks := hb
  rcases h.lt_or_lt ha hb with hlt | hlt
  · have hlt' : a.stop.ticks < b.start.ticks := hlt
    have hnot : ¬ b.stop < a.start := by
      rw [Instant.lt_iff]
      omega
    rw [between, between, if_neg hnot, if_pos hlt]
    exact ⟨rfl, DateRange.isHull_of_lt ha hb hlt⟩
  · have hlt' : b.stop.ticks < a.start.ticks := hlt
    have hnot : ¬ a.stop < b.start := by
      rw [Instant.lt_iff]
      omega
    rw [between, between, if_pos hlt, if_neg hnot]
    exact ⟨rfl, (DateRange.isHull_of_lt hb ha hlt).symm⟩

end

/-- Two dots between expressions stand for the range from the start of the left one to the
end of the right one, or the other way round where the left one starts behind that end; a
side left out stands for the start of the calendar, or for now unless the other side ends
later. There is no range where a side stands for nothing. The range between expressions
without a common instant is the least one around both, in either order, and nothing that an
expression stands for ends before it begins. -/
theorem resolve_dots (order : DayOrder) (now : Instant) :
    (∀ u v, IsSide u → IsSide v → ∃ left right,
      resolve order ⟨now, none⟩ u = .ok left ∧ resolve order ⟨now, none⟩ v = .ok right ∧
      resolve order ⟨now, none⟩ (u ++ dots ++ v) =
        .ok (left.bind fun a => right.map fun b =>
          if b.stop < a.start then ⟨b.start, a.stop⟩ else ⟨a.start, b.stop⟩) ∧
      resolve order ⟨now, none⟩ (dots ++ v) = .ok (right.map fun b => ⟨.first, b.stop⟩) ∧
      resolve order ⟨now, none⟩ (u ++ dots) =
        .ok (left.map fun a => ⟨a.start, max now a.stop⟩) ∧
      ∀ a b, left = some a → right = some b → a.Disjoint b → ∃ r,
        resolve order ⟨now, none⟩ (u ++ dots ++ v) = .ok (some r) ∧
        resolve order ⟨now, none⟩ (v ++ dots ++ u) = .ok (some r) ∧ r.IsHull a b) ∧
    ∀ s r, resolve order ⟨now, none⟩ s = .ok (some r) → r.start ≤ r.stop := by
  have hlocal : ∀ s, resolve order ⟨now, none⟩ s = .ok (resolve? order now s) := fun _ => rfl
  simp only [hlocal, Except.ok.injEq]
  refine ⟨fun u v hu hv => ?_, fun s r h => resolve?_ordered h⟩
  rw [resolve?_side hu, resolve?_side hv]
  refine ⟨_, _, rfl, rfl, resolve?_between hu hv, resolve?_until hv, resolve?_since hu, ?_⟩
  intro a b ha hb hdisjoint
  obtain ⟨hsame, hhull⟩ := between_of_disjoint (side?_ordered ha) (side?_ordered hb) hdisjoint
  refine ⟨between a b, ?_, ?_, hhull⟩
  · rw [resolve?_between hu hv, ha, hb]
    rfl
  · rw [resolve?_between hv hu, ha, hb, hsame]
    rfl

/-- A day and a quarter in front of it, written backwards and with blanks. -/
theorem resolve_dots_backwards :
    (IsSide " 2026-05-01 ".toList ∧ IsSide "2026q1".toList) ∧
      ∃ a b : DateRange,
        resolve .dayFirst ⟨.first, none⟩ " 2026-05-01 ".toList = .ok (some a) ∧
        resolve .dayFirst ⟨.first, none⟩ "2026q1".toList = .ok (some b) ∧ a.Disjoint b ∧
        ∃ r, resolve .dayFirst ⟨.first, none⟩ " 2026-05-01 ..2026q1".toList = .ok (some r) ∧
          resolve .dayFirst ⟨.first, none⟩ "2026q1.. 2026-05-01 ".toList = .ok (some r) ∧
          r.IsHull a b ∧ r.start ≤ r.stop := by
  obtain ⟨a, ha⟩ : ∃ a : DateRange,
      a = ⟨⟨63913190400000000, by decide⟩, ⟨63913276799999999, by decide⟩⟩ := ⟨_, rfl⟩
  obtain ⟨b, hb⟩ : ∃ b : DateRange,
      b = ⟨⟨63902822400000000, by decide⟩, ⟨63910598399999999, by decide⟩⟩ := ⟨_, rfl⟩
  have hday : resolve? .dayFirst .first " 2026-05-01 ".toList = some a := by
    rw [ha]
    decide +kernel
  have hquarter : resolve? .dayFirst .first "2026q1".toList = some b := by
    rw [hb]
    decide +kernel
  have hdisjoint : a.Disjoint b := by
    rintro t ⟨hat, hbt⟩
    rw [DateRange.covers_iff, ha] at hat
    rw [DateRange.covers_iff, hb] at hbt
    exact absurd (Nat.le_trans hat.1 hbt.2) (by decide)
  have hsides : IsSide " 2026-05-01 ".toList ∧ IsSide "2026q1".toList := by decide
  obtain ⟨hdots, hordered⟩ := resolve_dots .dayFirst .first
  obtain ⟨left, right, hleft, hright, -, -, -, hhull⟩ := hdots _ _ hsides.1 hsides.2
  obtain ⟨r, hr, hback, hr'⟩ := hhull a b (Except.ok.inj (hleft.symm.trans (congrArg _ hday)))
    (Except.ok.inj (hright.symm.trans (congrArg _ hquarter))) hdisjoint
  exact ⟨hsides, a, b, congrArg _ hday, congrArg _ hquarter, hdisjoint, r, hr, hback, hr',
    hordered _ r hr⟩

end DateExpr

end NoteQuery
