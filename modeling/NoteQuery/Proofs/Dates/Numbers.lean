import NoteQuery.Proofs.Dates.Spelling

/-!
# Numbers inside a date

A number is a text of decimal digits, of any script. What a text begins with is seen from its
pieces: a run of digits is a number and the rest, a sign is a character that is no digit. So
numbers with signs between them and their pieces determine each other.
-/
namespace NoteQuery

namespace Text

def IsNumber (n : Nat) (s : Text) : Prop := s.length = n ∧ ∀ c ∈ s, isDigit c

instance (n : Nat) (s : Text) : Decidable (IsNumber n s) :=
  decidable_of_iff (s.length = n ∧ s.all isDigit) (by rw [IsNumber, List.all_eq_true])

def IsShort (s : Text) : Prop := IsNumber 1 s ∨ IsNumber 2 s

instance (s : Text) : Decidable (IsShort s) := inferInstanceAs (Decidable (_ ∨ _))

def values (s : Text) : List Nat := s.filterMap digitValue?

/-! ## Digits -/

theorem exists_of_isDigit {c : Char} (h : isDigit c) : ∃ d, digitValue? c = some d :=
  Option.isSome_iff_exists.mp h

/-- No script has blanks among its digits. -/
theorem isBlank_of_isDigit {c : Char} (h : isDigit c) : isBlank c = false := by
  have hdigits : ∀ z ∈ zeroDigits, ∀ i < 10, inRanges blankRanges (z + i) = false := by
    decide +kernel
  have hascii : ∀ n < 10, inRanges blankRanges (0x30 + n) = false := by decide
  obtain ⟨d, hd⟩ := exists_of_isDigit h
  rw [digitValue?] at hd
  split at hd
  · split at hd
    · rename_i hrange
      rw [Bool.and_eq_true, decide_eq_true_eq, decide_eq_true_eq] at hrange
      have hlow : 0x30 ≤ c.toNat := hrange.1
      have hhigh : c.toNat ≤ 0x39 := hrange.2
      have hc := hascii (c.toNat - 0x30) (by omega)
      rw [Nat.add_sub_cancel' hlow] at hc
      exact hc
    · cases hd
  · obtain ⟨z, hz, -⟩ := Option.map_eq_some_iff.mp hd
    have hrange := List.find?_some hz
    rw [Bool.and_eq_true, decide_eq_true_eq, decide_eq_true_eq] at hrange
    have hc := hdigits z (List.mem_of_find?_eq_some hz) (c.toNat - z) (by omega)
    rw [Nat.add_sub_cancel' hrange.1] at hc
    exact hc

/-! ## Values -/

theorem values_append (u v : Text) : values (u ++ v) = values u ++ values v :=
  List.filterMap_append

theorem values_cons {c : Char} {d : Nat} (h : digitValue? c = some d) (s : Text) :
    values (c :: s) = d :: values s := List.filterMap_cons_some h

theorem length_values {s : Text} (h : ∀ c ∈ s, isDigit c) : (values s).length = s.length := by
  induction s with
  | nil => rfl
  | cons c s ih =>
    rw [List.forall_mem_cons] at h
    obtain ⟨d, hd⟩ := exists_of_isDigit h.1
    rw [values_cons hd, List.length_cons, List.length_cons, ih h.2]

theorem IsNumber.length_values {n : Nat} {s : Text} (h : IsNumber n s) : (values s).length = n :=
  (Text.length_values h.2).trans h.1

theorem foldl_values {s : Text} (h : ∀ c ∈ s, isDigit c) (n : Nat) :
    (values s).foldl (fun n d => 10 * n + d) n =
      s.foldl (fun n c => 10 * n + (digitValue? c).getD 0) n := by
  induction s generalizing n with
  | nil => rfl
  | cons c s ih =>
    rw [List.forall_mem_cons] at h
    obtain ⟨d, hd⟩ := exists_of_isDigit h.1
    rw [values_cons hd, List.foldl_cons, List.foldl_cons, ih h.2, hd, Option.getD_some]

/-- The values of the digits of a number make up its own value. -/
theorem number_values {s : Text} (h : ∀ c ∈ s, isDigit c) :
    DateForm.number (values s) = digitsValue s :=
  foldl_values h 0

def IsDigits (s : Text) : Prop := s ≠ [] ∧ ∀ c ∈ s, isDigit c

theorem IsNumber.isDigits {n : Nat} {s : Text} (h : IsNumber (n + 1) s) : IsDigits s := by
  constructor
  · rintro rfl
    exact absurd h.1 (by simp)
  · exact h.2

theorem IsShort.isDigits {s : Text} (h : IsShort s) : IsDigits s := by
  rcases h with h | h
  · exact h.isDigits
  · exact h.isDigits

theorem IsDigits.append {u v : Text} (hu : IsDigits u) (hv : IsDigits v) : IsDigits (u ++ v) := by
  constructor
  · exact List.append_ne_nil_of_left_ne_nil hu.1 v
  · exact List.forall_mem_append.mpr ⟨hu.2, hv.2⟩

theorem IsShort.isShort_values {s : Text} (h : IsShort s) : DateForm.isShort (values s) := by
  rw [DateForm.isShort, Text.length_values h.isDigits.2]
  rcases h with h | h
  · rw [h.1]
    rfl
  · rw [h.1]
    rfl

/-- A short run of digits is a number of one or two digits. -/
theorem isShort_of_isShort_values {s : Text} (h : ∀ c ∈ s, isDigit c)
    (hshort : DateForm.isShort (values s)) : IsShort s := by
  rw [DateForm.isShort, Text.length_values h, Bool.or_eq_true, beq_iff_eq, beq_iff_eq] at hshort
  rcases hshort with hlength | hlength
  · exact Or.inl ⟨hlength, h⟩
  · exact Or.inr ⟨hlength, h⟩

theorem IsDigits.isNumber {n : Nat} {s : Text} (h : IsDigits s) (hn : (values s).length = n) :
    IsNumber n s := by
  rw [Text.length_values h.2] at hn
  exact ⟨hn, h.2⟩

/-- A number is cut into numbers. -/
theorem IsNumber.take {m n : Nat} {s : Text} (h : IsNumber (m + n) s) :
    IsNumber m (s.take m) ∧ values (s.take m) = (values s).take m := by
  have hdigits : ∀ c ∈ s.take m, isDigit c := fun c hc => h.2 c (List.mem_of_mem_take hc)
  have hlength : (s.take m).length = m := by
    rw [List.length_take, h.1]
    omega
  have hvalues := values_append (s.take m) (s.drop m)
  rw [List.take_append_drop] at hvalues
  rw [hvalues, List.take_left' ((Text.length_values hdigits).trans hlength)]
  exact ⟨⟨hlength, hdigits⟩, rfl⟩

theorem IsNumber.drop {m n : Nat} {s : Text} (h : IsNumber (m + n) s) :
    IsNumber n (s.drop m) ∧ values (s.drop m) = (values s).drop m := by
  have hlength : (s.drop m).length = n := by
    rw [List.length_drop, h.1]
    omega
  have hvalues := values_append (s.take m) (s.drop m)
  rw [List.take_append_drop] at hvalues
  rw [hvalues, List.drop_left' h.take.1.length_values]
  exact ⟨⟨hlength, fun c hc => h.2 c (List.mem_of_mem_drop hc)⟩, rfl⟩

end Text

/-! ## Pieces -/

namespace DateForm

theorem pieces_number {s rest : Text} (h : s.IsDigits) (hrest : NoDigitHead rest) :
    pieces (s ++ rest) = .digits (Text.values s) :: pieces rest := by
  obtain ⟨hne, h⟩ := h
  induction s with
  | nil => exact absurd rfl hne
  | cons c s ih =>
    rw [List.forall_mem_cons] at h
    obtain ⟨d, hd⟩ := Text.exists_of_isDigit h.1
    rw [List.cons_append, pieces, hd, Text.values_cons hd]
    by_cases hs : s = []
    · rw [hs]
      exact consDigit_pieces hrest d
    · rw [ih hs h.2]
      rfl

/-! ## Texts that are laid out in pieces -/

/-- A sign inside a date is neither a digit nor a blank. -/
def IsSign (c : Char) : Prop := Text.digitValue? c = none ∧ Text.isBlank c = false

instance (c : Char) : Decidable (IsSign c) := inferInstanceAs (Decidable (_ ∧ _))

/-- A text has certain pieces and no blanks. -/
structure IsLaid (ps : List Piece) (s : Text) : Prop where
  pieces_eq : pieces s = ps
  not_isBlank : ∀ c ∈ s, Text.isBlank c = false

namespace IsLaid

variable {u rest : Text} {c : Char} {ps : List Piece}

theorem last (hu : u.IsDigits) : IsLaid [.digits u.values] u := by
  constructor
  · have hend := pieces_number hu noDigitHead_nil
    rw [List.append_nil] at hend
    exact hend
  · intro d hd
    exact Text.isBlank_of_isDigit (hu.2 d hd)

theorem sign (hc : IsSign c) (h : IsLaid ps rest) : IsLaid (.sign c :: ps) (c :: rest) := by
  constructor
  · rw [pieces_sign hc.1, h.pieces_eq]
  · exact List.forall_mem_cons.mpr ⟨hc.2, h.not_isBlank⟩

/-- A number with a sign behind it. -/
theorem number (hu : u.IsDigits) (hc : IsSign c) (h : IsLaid ps rest) :
    IsLaid (.digits u.values :: .sign c :: ps) (u ++ c :: rest) := by
  constructor
  · rw [pieces_number hu (noDigitHead_cons hc.1 rest), (h.sign hc).pieces_eq]
  · rw [List.forall_mem_append]
    exact ⟨(last hu).not_isBlank, (h.sign hc).not_isBlank⟩

end IsLaid

/-! ## From the pieces to the text -/

theorem eq_nil_of_pieces {s : Text} (h : pieces s = []) : s = [] := by
  cases s with
  | nil => rfl
  | cons c s =>
    rw [pieces] at h
    split at h
    · rw [consDigit.eq_def] at h
      split at h <;> cases h
    · cases h

theorem exists_of_pieces_sign {s : Text} {c : Char} {ps : List Piece}
    (h : pieces s = .sign c :: ps) : ∃ rest, s = c :: rest ∧ pieces rest = ps := by
  cases s with
  | nil => cases h
  | cons d s =>
    rw [pieces] at h
    split at h
    · rw [consDigit.eq_def] at h
      split at h <;> cases h
    · obtain ⟨hc, hps⟩ := List.cons.inj h
      cases hc
      exact ⟨s, rfl, hps⟩

theorem exists_of_pieces_digits {s : Text} {ds : List Nat} {ps : List Piece}
    (h : pieces s = .digits ds :: ps) :
    ∃ u rest, s = u ++ rest ∧ u.IsDigits ∧ Text.values u = ds ∧ pieces rest = ps := by
  induction s generalizing ds with
  | nil => cases h
  | cons c s ih =>
    rw [pieces] at h
    cases hc : Text.digitValue? c with
    | none =>
      rw [hc] at h
      cases h
    | some d =>
      rw [hc] at h
      have hdigit : Text.isDigit c := Option.isSome_iff_exists.mpr ⟨d, hc⟩
      have hvalues := Text.values_cons hc
      simp only [consDigit.eq_def] at h
      split at h
      · rename_i es qs hs
        cases h
        obtain ⟨u, rest, rfl, hu, rfl, hrest⟩ := ih hs
        have hall : ∀ e ∈ c :: u, Text.isDigit e := List.forall_mem_cons.mpr ⟨hdigit, hu.2⟩
        exact ⟨c :: u, rest, rfl, ⟨List.cons_ne_nil c u, hall⟩, hvalues u, hrest⟩
      · cases h
        exact ⟨[c], s, rfl, ⟨List.cons_ne_nil c [], by simpa using hdigit⟩, hvalues [], rfl⟩

/-- A number with a sign behind it. -/
theorem exists_of_pieces_number {s : Text} {ds : List Nat} {c : Char} {ps : List Piece}
    (h : pieces s = .digits ds :: .sign c :: ps) :
    ∃ u rest, s = u ++ c :: rest ∧ u.IsDigits ∧ Text.values u = ds ∧ pieces rest = ps := by
  obtain ⟨u, rest, rfl, hu, hds, hrest⟩ := exists_of_pieces_digits h
  obtain ⟨v, rfl, hv⟩ := exists_of_pieces_sign hrest
  exact ⟨u, v, rfl, hu, hds, hv⟩

theorem isDigits_of_pieces {s : Text} {ds : List Nat} (h : pieces s = [.digits ds]) :
    s.IsDigits ∧ Text.values s = ds := by
  obtain ⟨u, rest, rfl, hu, hds, hrest⟩ := exists_of_pieces_digits h
  rw [eq_nil_of_pieces hrest, List.append_nil]
  exact ⟨hu, hds⟩

end DateForm

end NoteQuery
