import Mathlib.Data.List.Forall2
import NoteQuery.Text.Case

/-!
# The casings of a word

A casing of a word has the same letters, each of them small or a capital. The only character
beyond ASCII that stands for an ASCII letter is the Kelvin sign, which is a capital k. A text
is a casing of an ASCII word exactly if the word is its lower case, so that the rule for the
capital sigma plays no part.
-/
namespace NoteQuery.Text

/-- A character is a letter in one case or the other. -/
def IsCaseOf (c d : Char) : Prop := c.toLower = d ∨ c = '\u212a' ∧ d = 'k'

instance (c d : Char) : Decidable (IsCaseOf c d) := inferInstanceAs (Decidable (_ ∨ _))

def IsCasing (s word : Text) : Prop := List.Forall₂ IsCaseOf s word

/-- An ASCII character, the null character apart. -/
def IsAscii (d : Char) : Prop := 0 < d.toNat ∧ d.toNat < 0x80

instance (d : Char) : Decidable (IsAscii d) := inferInstanceAs (Decidable (_ ∧ _))

/-! ## One character -/

theorem toLower_eq_self {c : Char} (h : 0x80 ≤ c.toNat) : c.toLower = c := by
  have hz : ('Z' : Char).toNat = 0x5a := rfl
  have hnot : ¬ (c.val ≥ 'A'.val ∧ c.val ≤ 'Z'.val) := by
    rintro ⟨-, hle⟩
    have hle : c.toNat ≤ ('Z' : Char).toNat := hle
    omega
  exact dif_neg hnot

theorem ofNat_ne_of_isAscii {n : Nat} (hn : 0x80 ≤ n) {d : Char} (hd : IsAscii d) :
    Char.ofNat n ≠ d := by
  rintro rfl
  rw [IsAscii, Char.ofNat] at hd
  by_cases hvalid : n.isValidChar
  · rw [dif_pos hvalid] at hd
    have htoNat : (Char.ofNatAux n hvalid).toNat = n := rfl
    omega
  · rw [dif_neg hvalid] at hd
    exact absurd hd.1 (by decide)

/-- Lower casing leads to an ASCII letter from the Kelvin sign only. -/
theorem kelvin_of_mem_lowerRuns : ∀ r ∈ lowerRuns,
    0x80 ≤ r.target ∨ (r.first = 0x212a ∧ r.last = 0x212a ∧ r.target = 0x6b) := by
  decide +kernel

theorem isCaseOf_of_caseImage? {c d : Char} {n : Nat}
    (h : caseImage? lowerRuns c.toNat = some n) (hd : IsAscii d) (hn : Char.ofNat n = d) :
    IsCaseOf c d := by
  rw [caseImage?, Option.map_eq_some_iff] at h
  obtain ⟨r, hr, himage⟩ := h
  have hcovers := List.find?_some hr
  rw [CaseRun.covers, Bool.and_eq_true, Bool.and_eq_true, decide_eq_true_eq,
    decide_eq_true_eq] at hcovers
  rw [CaseRun.image] at himage
  rcases kelvin_of_mem_lowerRuns r (List.mem_of_find?_eq_some hr) with htarget |
    ⟨hfirst, hlast, htarget⟩
  · exact absurd hn (ofNat_ne_of_isAscii (by omega) hd)
  · have hc : c.toNat = 0x212a := by omega
    have hk : n = 0x6b := by omega
    refine Or.inr ⟨?_, ?_⟩
    · rw [← Char.ofNat_toNat c, hc]
    · rw [← hn, hk]

/-- The ASCII characters that a character is lowered to are those that it is a case of. -/
theorem lowerChar_eq_singleton_iff {c d : Char} (hd : IsAscii d) :
    lowerChar c = [d] ↔ IsCaseOf c d := by
  by_cases hc : c.toNat < 0x80
  · have hkelvin : c ≠ '\u212a' := by
      rintro rfl
      exact absurd hc (by decide)
    simp only [lowerChar, if_pos hc, IsCaseOf, hkelvin, false_and, or_false, List.cons.injEq,
      and_true]
  · constructor
    · intro h
      rw [lowerChar, if_neg hc] at h
      split at h
      · cases h
      · split at h
        · rename_i n hn
          exact isCaseOf_of_caseImage? hn hd (List.singleton_inj.mp h)
        · exact absurd hd.2 (List.singleton_inj.mp h ▸ hc)
    · rintro (h | ⟨rfl, rfl⟩)
      · rw [toLower_eq_self (by omega)] at h
        exact absurd hd.2 (h ▸ hc)
      · decide +kernel

/-- A character is lowered to one character, but for a dotted capital i. -/
theorem exists_lowerChar (c : Char) :
    (∃ d, lowerChar c = [d]) ∨ lowerChar c = ['i', Char.ofNat 0x307] := by
  rw [lowerChar]
  split
  · exact Or.inl ⟨_, rfl⟩
  · split
    · exact Or.inr rfl
    · split
      · exact Or.inl ⟨_, rfl⟩
      · exact Or.inl ⟨_, rfl⟩

/-! ## Words -/

theorem lowerFrom_cons_eq_iff {seen rest word : Text} {c : Char} (hword : ∀ d ∈ word, IsAscii d) :
    lowerFrom seen (c :: rest) = word ↔
      ∃ d ds, word = d :: ds ∧ IsCaseOf c d ∧ lowerFrom (c :: seen) rest = ds := by
  rw [lowerFrom]
  by_cases hsigma : c.toNat = 0x3a3
  · -- A sigma stays outside ASCII in either form.
    have hnot : ∀ e, IsAscii e → ¬ IsCaseOf c e := by
      rintro e he (h | ⟨rfl, -⟩)
      · rw [toLower_eq_self (by omega)] at h
        exact absurd he.2 (by rw [← h, hsigma]; decide)
      · exact absurd hsigma (by decide)
    rw [hsigma, beq_self_eq_true, if_pos rfl]
    constructor
    · rintro rfl
      have hform := hword _ List.mem_cons_self
      refine absurd rfl (ofNat_ne_of_isAscii ?_ hform)
      split <;> decide
    · rintro ⟨d, ds, rfl, hcase, -⟩
      exact absurd hcase (hnot d (hword d List.mem_cons_self))
  · rw [beq_eq_false_iff_ne.mpr hsigma, if_neg Bool.false_ne_true]
    constructor
    · rintro rfl
      rcases exists_lowerChar c with ⟨d, hd⟩ | hdotted
      · rw [hd] at hword ⊢
        have hascii := hword d List.mem_cons_self
        exact ⟨d, _, rfl, (lowerChar_eq_singleton_iff hascii).mp hd, rfl⟩
      · rw [hdotted] at hword
        exact absurd (hword (Char.ofNat 0x307) (by simp)) (by decide)
    · rintro ⟨d, ds, rfl, hcase, rfl⟩
      rw [(lowerChar_eq_singleton_iff (hword d List.mem_cons_self)).mpr hcase]
      rfl

theorem lowerFrom_eq_iff {seen s word : Text} (hword : ∀ d ∈ word, IsAscii d) :
    lowerFrom seen s = word ↔ IsCasing s word := by
  induction s generalizing seen word with
  | nil =>
    rw [IsCasing, List.forall₂_nil_left_iff, lowerFrom]
    exact eq_comm
  | cons c rest ih =>
    rw [lowerFrom_cons_eq_iff hword, IsCasing, List.forall₂_cons_left_iff]
    constructor
    · rintro ⟨d, ds, rfl, hcase, hrest⟩
      exact ⟨d, ds, hcase, (ih fun e he => hword e (List.mem_cons_of_mem d he)).mp hrest, rfl⟩
    · rintro ⟨d, ds, hcase, hrest, rfl⟩
      exact ⟨d, ds, rfl, hcase, (ih fun e he => hword e (List.mem_cons_of_mem d he)).mpr hrest⟩

/-- The texts whose lower case is an ASCII word are its casings. -/
theorem lower_eq_iff {s word : Text} (hword : ∀ d ∈ word, IsAscii d) :
    lower s = word ↔ IsCasing s word :=
  lowerFrom_eq_iff hword

end NoteQuery.Text
