import NoteQuery.Proofs.Dates.Spelling
import NoteQuery.Value.Json

/-!
# JSON strings that are read back

A string is written in printable ASCII, each other character as an escape of one or two code
units. Read back it is the same text, except that two halves of a surrogate pair that stand
side by side have become the character that they write.
-/
namespace NoteQuery

/-! ## Hexadecimal digits -/

namespace Text

theorem hexDigit?_digitChar {d : Nat} (h : d < 16) : hexDigit? (Nat.digitChar d) = some d := by
  have hall : ∀ d < 16, hexDigit? (Nat.digitChar d) = some d := by decide
  exact hall d h

theorem hexDigits?_append {w value n : Nat} {s : Text} {c : Char} {d : Nat} {rest : Text}
    (h : hexDigits? w value s = some (n, c :: rest)) (hd : hexDigit? c = some d) :
    hexDigits? (w + 1) value s = some (16 * n + d, rest) := by
  induction w generalizing value s with
  | zero =>
    cases h
    simp only [hexDigits?, hd, Option.bind_eq_bind, Option.bind_some]
  | succ w ih =>
    cases s with
    | nil => cases h
    | cons b s =>
      rw [hexDigits?] at h ⊢
      cases hb : hexDigit? b with
      | none =>
        rw [hb] at h
        cases h
      | some e =>
        rw [hb] at h
        exact ih h

/-- A number in a fixed width of hexadecimal digits is read back. -/
theorem hexDigits?_ofNatHex {w n : Nat} (hw : 1 ≤ w) (h : n < 16 ^ w) (s : Text) :
    hexDigits? w 0 (ofNatHex w n ++ s) = some (n, s) := by
  induction w generalizing n s with
  | zero => omega
  | succ w ih =>
    rw [Nat.pow_succ] at h
    by_cases hw : w = 0
    · subst hw
      have hn : n < 16 := by omega
      have htext : ofNatHex 1 n = [Nat.digitChar n] := by
        rw [ofNatHex, Nat.toDigits_of_lt_base hn]
        rfl
      rw [htext]
      simp only [List.singleton_append, hexDigits?, hexDigit?_digitChar hn, Option.bind_eq_bind,
        Option.bind_some]
      rw [Nat.mul_zero, Nat.zero_add]
    · have hsplit : ofNatHex (w + 1) n ++ s =
          ofNatHex w (n / 16) ++ Nat.digitChar (n % 16) :: s := by
        rw [ofNatHex, padLeft_toDigits_succ (by decide) (by omega), List.append_assoc]
        rfl
      rw [hsplit, hexDigits?_append (ih (by omega) (by omega) _)
        (hexDigit?_digitChar (Nat.mod_lt n (by decide))), Nat.div_add_mod]

theorem isHexDigit_of_mem_ofNatHex {w n : Nat} (hw : 1 ≤ w) (h : n < 16 ^ w) {c : Char}
    (hc : c ∈ ofNatHex w n) : isHexDigit c = true := by
  induction w generalizing n with
  | zero => omega
  | succ w ih =>
    rw [Nat.pow_succ] at h
    have hdigit : ∀ d < 16, isHexDigit (Nat.digitChar d) = true := by decide
    by_cases hw : w = 0
    · subst hw
      have hn : n < 16 := by omega
      rw [ofNatHex, Nat.toDigits_of_lt_base hn] at hc
      rw [List.mem_singleton.mp hc]
      exact hdigit n hn
    · rw [ofNatHex, padLeft_toDigits_succ (by decide) (by omega), List.mem_append] at hc
      rcases hc with hc | hc
      · exact ih (by omega) (by omega) hc
      · rw [List.mem_singleton.mp hc]
        exact hdigit _ (Nat.mod_lt n (by decide))

/-! ## Code points -/

theorem isCarrier_iff {c : Char} :
    isCarrier c = true ↔ 0x10e000 ≤ c.toNat ∧ c.toNat < 0x10e800 := by
  rw [isCarrier, Bool.and_eq_true, decide_eq_true_eq, decide_eq_true_eq]
  rfl

theorem isCarrier_eq_false_of_isAsciiDigit {c : Char} (h : isAsciiDigit c = true) :
    isCarrier c = false := by
  rw [isAsciiDigit, Bool.and_eq_true, decide_eq_true_eq, decide_eq_true_eq] at h
  have hnine : c.toNat ≤ 0x39 := h.2
  rw [← Bool.not_eq_true, isCarrier_iff]
  omega

theorem toNat_bounds (c : Char) :
    c.toNat < 0xd800 ∨ 0xdfff < c.toNat ∧ c.toNat < 0x110000 := c.valid

theorem codePoint_cases (c : Char) :
    (isCarrier c = true ∧ codePoint c = 0xd800 + (c.toNat - 0x10e000)) ∨
      (isCarrier c = false ∧ codePoint c = c.toNat) := by
  rw [codePoint, surrogateCarrier]
  cases isCarrier c with
  | true => exact Or.inl ⟨rfl, rfl⟩
  | false => exact Or.inr ⟨rfl, rfl⟩

theorem codePoint_lt (c : Char) : codePoint c < 0x110000 := by
  have hbounds := toNat_bounds c
  rcases codePoint_cases c with ⟨hcarrier, h⟩ | ⟨-, h⟩
  · have := isCarrier_iff.mp hcarrier
    omega
  · omega

/-- A code point that is no surrogate belongs to the character itself. -/
theorem eq_ofNat_of_codePoint {c : Char} {n : Nat} (h : codePoint c = n)
    (hn : n < 0xd800 ∨ 0xe000 ≤ n) : c = Char.ofNat n := by
  rcases codePoint_cases c with ⟨hcarrier, hc⟩ | ⟨-, hc⟩
  · have := isCarrier_iff.mp hcarrier
    omega
  · rw [← h, hc, Char.ofNat_toNat]

/-- The code point of a character is read as that character. -/
theorem ofCodePoint_codePoint (c : Char) : ofCodePoint (codePoint c) = c := by
  have hbounds := toNat_bounds c
  rcases codePoint_cases c with ⟨hcarrier, hc⟩ | ⟨hcarrier, hc⟩
  · have hrange := isCarrier_iff.mp hcarrier
    have hhalf : (isHighSurrogate (codePoint c) || isLowSurrogate (codePoint c)) = true := by
      simp only [isHighSurrogate, isLowSurrogate, Bool.or_eq_true, Bool.and_eq_true,
        decide_eq_true_eq]
      omega
    have hplace : surrogateCarrier + (codePoint c - 0xd800) = c.toNat := by
      rw [surrogateCarrier]
      omega
    rw [ofCodePoint, if_pos hhalf, hplace, Char.ofNat_toNat]
  · have hwhole : ¬(isHighSurrogate (codePoint c) || isLowSurrogate (codePoint c)) = true := by
      simp only [isHighSurrogate, isLowSurrogate, Bool.or_eq_true, Bool.and_eq_true,
        decide_eq_true_eq]
      omega
    rw [ofCodePoint, if_neg hwhole, hc, Char.ofNat_toNat]

/-- Halves of surrogate pairs that stand side by side, as the characters that they write. -/
def joinPairs : Text → Text
  | c :: d :: rest =>
    if isHighSurrogate (codePoint c) && isLowSurrogate (codePoint d) then
      Json.pairChar (codePoint c) (codePoint d) :: joinPairs rest
    else c :: joinPairs (d :: rest)
  | s => s

/-- What carries no halves holds no pairs to be joined. -/
theorem joinPairs_eq_self {s : Text} (h : ∀ c ∈ s, isCarrier c = false) : joinPairs s = s := by
  induction s with
  | nil => rw [joinPairs]; nofun
  | cons c s ih =>
    rw [List.forall_mem_cons] at h
    cases s with
    | nil => rw [joinPairs]; nofun
    | cons d rest =>
      have hwhole : isHighSurrogate (codePoint c) = false := by
        have hbounds := toNat_bounds c
        rw [codePoint, if_neg (by rw [h.1]; exact Bool.false_ne_true), isHighSurrogate,
          Bool.and_eq_false_iff, decide_eq_false_iff_not, decide_eq_false_iff_not]
        omega
      rw [joinPairs, hwhole, Bool.false_and, if_neg Bool.false_ne_true, ih h.2]

end Text

namespace Json

open Text (codePoint joinPairs)

/-! ## Escapes -/

/-- The ways in which a character is written: itself, by one letter, or by its code units. -/
inductive IsEscape (c : Char) : Text → Prop
  | plain (hquote : c ≠ '"') (hslash : c ≠ '\\') (h : 0x20 ≤ c.toNat) : IsEscape c [c]
  | letter (e : Char) (hu : e ≠ 'u') (h : simpleEscape? e = some c) : IsEscape c ['\\', e]
  | unit (h : codePoint c < 0x10000) : IsEscape c (unitText (codePoint c))
  | pair (h : 0x10000 ≤ codePoint c) :
    IsEscape c (unitText (0xd800 + (codePoint c - 0x10000) / 0x400)
      ++ unitText (0xdc00 + (codePoint c - 0x10000) % 0x400))

theorem isEscape_escapeChar (c : Char) : IsEscape c (escapeChar c) := by
  simp only [escapeChar, beq_iff_eq, Bool.and_eq_true, decide_eq_true_eq]
  split_ifs with hquote hslash hline hreturn htab hback hfeed hplain hunit
  · rw [hquote]
    exact .letter '"' (by decide) rfl
  · rw [hslash]
    exact .letter '\\' (by decide) rfl
  · rw [hline]
    exact .letter 'n' (by decide) rfl
  · rw [hreturn]
    exact .letter 'r' (by decide) rfl
  · rw [htab]
    exact .letter 't' (by decide) rfl
  · rw [Text.eq_ofNat_of_codePoint hback (by decide)]
    exact .letter 'b' (by decide) rfl
  · rw [Text.eq_ofNat_of_codePoint hfeed (by decide)]
    exact .letter 'f' (by decide) rfl
  · rcases Text.codePoint_cases c with ⟨-, h⟩ | ⟨-, h⟩
    · omega
    · exact .plain hquote hslash (by omega)
  · exact .unit hunit
  · exact .pair (by omega)

theorem hexDigits?_unit {n : Nat} (h : n < 0x10000) (t : Text) :
    Text.hexDigits? 4 0 (Text.ofNatHex 4 n ++ t) = some (n, t) :=
  Text.hexDigits?_ofNatHex (by decide) h t

/-- The code unit that is written at the start of a text. -/
def unitAhead? : Text → Option Nat
  | '\\' :: 'u' :: more => (Text.hexDigits? 4 0 more).map (·.1)
  | _ => none

theorem unitAhead?_unitText {n : Nat} (h : n < 0x10000) (t : Text) :
    unitAhead? (unitText n ++ t) = some n := by
  have htext : unitAhead? (unitText n ++ t) =
      (Text.hexDigits? 4 0 (Text.ofNatHex 4 n ++ t)).map (·.1) := rfl
  rw [htext, hexDigits?_unit h]
  rfl

namespace IsEscape

variable {c : Char} {e : Text}

/-- No escape begins with a low unit but that of a low surrogate. -/
theorem isLowSurrogate_ahead (he : IsEscape c e) (hc : Text.isLowSurrogate (codePoint c) = false)
    {t : Text} {u : Nat} (h : unitAhead? (e ++ t) = some u) : Text.isLowSurrogate u = false := by
  cases he with
  | plain hquote hslash hplain =>
    rw [List.singleton_append, unitAhead?] at h
    · cases h
    · rintro more ⟨rfl, -⟩
      exact hslash rfl
  | letter b hb _ =>
    rw [List.cons_append, List.singleton_append, unitAhead?] at h
    · cases h
    · rintro more ⟨rfl, -⟩
      exact hb rfl
  | unit hunit =>
    rw [unitAhead?_unitText hunit] at h
    cases h
    exact hc
  | pair hpair =>
    have hlt := Text.codePoint_lt c
    rw [List.append_assoc, unitAhead?_unitText (by omega)] at h
    cases h
    simp only [Text.isLowSurrogate, Bool.and_eq_false_iff, decide_eq_false_iff_not]
    omega

theorem exists_cons (he : IsEscape c e) : ∃ b more, e = b :: more ∧ b ≠ '"' := by
  cases he with
  | plain hquote _ _ => exact ⟨c, [], rfl, hquote⟩
  | letter b _ _ => exact ⟨'\\', [b], rfl, by decide⟩
  | unit _ => exact ⟨'\\', _, rfl, by decide⟩
  | pair _ => exact ⟨'\\', _, rfl, by decide⟩

end IsEscape

/-! ## Reading escapes -/

theorem stringChar?_unitText (n : Nat) (t : Text) {r : Char × Text}
    (h : unicodeEscape? (Text.ofNatHex 4 n ++ t) = some r) :
    stringChar? (unitText n ++ t) = some (.ok r) := by
  have htext : unitText n ++ t = '\\' :: 'u' :: (Text.ofNatHex 4 n ++ t) := rfl
  rw [htext, stringChar?, h]

/-- A code unit that is no half of a pair with what follows is read as it stands. -/
theorem unicodeEscape?_alone {n : Nat} (hn : n < 0x10000) {t : Text} (ht : t ≠ [])
    (h : Text.isHighSurrogate n = true → ∀ u, unitAhead? t = some u →
      Text.isLowSurrogate u = false) :
    unicodeEscape? (Text.ofNatHex 4 n ++ t) = some (Text.ofCodePoint n, t) := by
  have hempty : t.isEmpty = false := List.isEmpty_eq_false_iff.mpr ht
  simp only [unicodeEscape?, hexDigits?_unit hn, Option.bind_eq_bind, Option.bind_some, hempty,
    Bool.false_eq_true, if_false]
  split
  · rename_i hhigh
    split
    · rename_i more
      split
      · rename_i low rest hlow
        have hnot : Text.isLowSurrogate low = false :=
          h hhigh low (by rw [unitAhead?, hlow]; rfl)
        rw [hnot, Bool.false_and, if_neg Bool.false_ne_true]
      · rfl
    · rfl
  · rfl

theorem unicodeEscape?_pair {high low : Nat} (hhigh : Text.isHighSurrogate high = true)
    (hlow : Text.isLowSurrogate low = true) {t : Text} (ht : t ≠ []) :
    unicodeEscape? (Text.ofNatHex 4 high ++ (unitText low ++ t)) = some (pairChar high low, t) := by
  have hempty : t.isEmpty = false := List.isEmpty_eq_false_iff.mpr ht
  have hhigh' := hhigh
  have hlow' := hlow
  simp only [Text.isHighSurrogate, Text.isLowSurrogate, Bool.and_eq_true, decide_eq_true_eq]
    at hhigh' hlow'
  have hunit : unitText low ++ t = '\\' :: 'u' :: (Text.ofNatHex 4 low ++ t) := rfl
  rw [hunit]
  simp only [unicodeEscape?, hexDigits?_unit (by omega : high < 0x10000),
    hexDigits?_unit (by omega : low < 0x10000), Option.bind_eq_bind, Option.bind_some,
    List.isEmpty_cons, Bool.false_eq_true, if_false, hhigh, if_true, hlow, hempty, Bool.not_false,
    Bool.and_self]

/-- A character that is no half of a pair with what follows is read back. -/
theorem stringChar?_escapeChar {c : Char} {t : Text} (ht : t ≠ [])
    (h : Text.isHighSurrogate (codePoint c) = true → ∀ u, unitAhead? t = some u →
      Text.isLowSurrogate u = false) :
    stringChar? (escapeChar c ++ t) = some (.ok (c, t)) := by
  have he := isEscape_escapeChar c
  generalize escapeChar c = e at he
  cases he with
  | plain hquote hslash hplain =>
    rw [List.singleton_append, stringChar?, if_neg (by omega)]
    · exact fun heq => absurd heq hslash
    · exact fun _ heq => absurd heq hslash
    · exact fun _ _ heq => absurd heq hslash
  | letter b hb hletter =>
    rw [List.cons_append, List.singleton_append, stringChar?, hletter]
    exact fun heq => absurd heq hb
  | unit hunit =>
    refine stringChar?_unitText _ t ?_
    rw [unicodeEscape?_alone hunit ht h, Text.ofCodePoint_codePoint]
  | pair hpair =>
    have hlt := Text.codePoint_lt c
    rw [List.append_assoc]
    refine stringChar?_unitText _ _ ?_
    rw [unicodeEscape?_pair ?_ ?_ ht]
    · have hvalue : 0x10000 + (0xd800 + (codePoint c - 0x10000) / 0x400 - 0xd800) * 0x400
          + (0xdc00 + (codePoint c - 0x10000) % 0x400 - 0xdc00) = codePoint c := by omega
      rw [pairChar, hvalue, ← Text.eq_ofNat_of_codePoint rfl (by omega)]
    · simp only [Text.isHighSurrogate, Bool.and_eq_true, decide_eq_true_eq]
      omega
    · simp only [Text.isLowSurrogate, Bool.and_eq_true, decide_eq_true_eq]
      omega

/-- Beyond printable ASCII a code unit is written in digits. -/
theorem escapeChar_eq_unitText {c : Char} (h : 0x7f ≤ codePoint c) (hunit : codePoint c < 0x10000) :
    escapeChar c = unitText (codePoint c) := by
  have hne {b : Char} (hb : codePoint b < 0x7f) : ¬(c == b) = true := by
    rw [beq_iff_eq]
    rintro rfl
    omega
  have hnot {n : Nat} (hn : n < 0x7f) : ¬(codePoint c == n) = true := by
    rw [beq_iff_eq]
    omega
  have hplain : ¬(decide (0x20 ≤ codePoint c) && decide (codePoint c < 0x7f)) = true := by
    rw [Bool.and_eq_true, decide_eq_true_eq, decide_eq_true_eq]
    omega
  rw [escapeChar, if_neg (hne (by decide)), if_neg (hne (by decide)), if_neg (hne (by decide)),
    if_neg (hne (by decide)), if_neg (hne (by decide)), if_neg (hnot (by decide)),
    if_neg (hnot (by decide)), if_neg hplain, if_pos hunit]

/-- Two halves that stand side by side are read as one character. -/
theorem stringChar?_escapeChar_pair {c d : Char} {t : Text} (ht : t ≠ [])
    (hc : Text.isHighSurrogate (codePoint c) = true)
    (hd : Text.isLowSurrogate (codePoint d) = true) :
    stringChar? (escapeChar c ++ (escapeChar d ++ t)) =
      some (.ok (pairChar (codePoint c) (codePoint d), t)) := by
  have hhigh := hc
  have hlow := hd
  simp only [Text.isHighSurrogate, Text.isLowSurrogate, Bool.and_eq_true, decide_eq_true_eq]
    at hhigh hlow
  rw [escapeChar_eq_unitText (by omega) (by omega), escapeChar_eq_unitText (by omega) (by omega)]
  exact stringChar?_unitText _ _ (unicodeEscape?_pair hc hd ht)

/-! ## Reading strings -/

theorem stringFrom?_of_stringChar? {seen t rest : Text} {c : Char} {fuel : Nat}
    (hquote : ∀ more, t ≠ '"' :: more) (h : stringChar? t = some (.ok (c, rest))) :
    stringFrom? seen (fuel + 1) t = stringFrom? (c :: seen) fuel rest := by
  rw [stringFrom?]
  · rw [h]
  · exact hquote

theorem escapeChar_append_ne (c : Char) (t more : Text) : escapeChar c ++ t ≠ '"' :: more := by
  obtain ⟨b, rest, hcons, hb⟩ := (isEscape_escapeChar c).exists_cons
  rw [hcons, List.cons_append]
  exact fun h => hb (List.cons.inj h).1

/-- A string is read with its halves joined. -/
theorem stringFrom?_flatMap (s rest seen : Text) {fuel : Nat} (h : s.length < fuel) :
    stringFrom? seen fuel (s.flatMap escapeChar ++ '"' :: rest) =
      some (.ok (seen.reverse ++ joinPairs s, rest)) := by
  induction s using Text.joinPairs.induct generalizing seen fuel with
  | case1 c d s hpair ih =>
    obtain ⟨fuel, rfl⟩ : ∃ n, fuel = n + 1 := ⟨fuel - 1, by omega⟩
    rw [List.length_cons, List.length_cons] at h
    rw [joinPairs, if_pos hpair]
    rw [Bool.and_eq_true] at hpair
    rw [List.flatMap_cons, List.flatMap_cons, List.append_assoc, List.append_assoc,
      stringFrom?_of_stringChar? (escapeChar_append_ne c _)
        (stringChar?_escapeChar_pair (by simp) hpair.1 hpair.2),
      ih _ (by omega), List.reverse_cons, List.append_assoc, List.singleton_append]
  | case2 c d s hpair ih =>
    obtain ⟨fuel, rfl⟩ : ∃ n, fuel = n + 1 := ⟨fuel - 1, by omega⟩
    rw [List.length_cons] at h
    have hahead : Text.isHighSurrogate (codePoint c) = true → ∀ u,
        unitAhead? ((d :: s).flatMap escapeChar ++ '"' :: rest) = some u →
          Text.isLowSurrogate u = false := by
      intro hhigh u hu
      rw [hhigh, Bool.true_and, Bool.not_eq_true] at hpair
      rw [List.flatMap_cons, List.append_assoc] at hu
      exact (isEscape_escapeChar d).isLowSurrogate_ahead hpair hu
    rw [joinPairs, if_neg hpair, List.flatMap_cons, List.append_assoc,
      stringFrom?_of_stringChar? (escapeChar_append_ne c _)
        (stringChar?_escapeChar (by simp) hahead),
      ih _ (by omega), List.reverse_cons, List.append_assoc, List.singleton_append]
  | case3 s hs =>
    obtain ⟨fuel, rfl⟩ : ∃ n, fuel = n + 1 := ⟨fuel - 1, by omega⟩
    match s, hs with
    | [], _ =>
      rw [joinPairs, List.append_nil]
      · rfl
      · nofun
    | [c], _ =>
      rw [List.length_singleton] at h
      obtain ⟨fuel, rfl⟩ : ∃ n, fuel = n + 1 := ⟨fuel - 1, by omega⟩
      have hread : stringChar? (escapeChar c ++ '"' :: rest) = some (.ok (c, '"' :: rest)) :=
        stringChar?_escapeChar (List.cons_ne_nil _ _) fun _ _ => nofun
      rw [List.flatMap_singleton, stringFrom?_of_stringChar? (escapeChar_append_ne c _) hread,
        stringFrom?, List.reverse_cons]
      rfl
    | c :: d :: s, hs => exact absurd rfl (hs c d s)

/-- A string that is written at the start of a text is read, with its halves joined. -/
theorem string_stringText (s rest : Text) {size : Nat} (h : s.length ≤ size) :
    string size (s.flatMap escapeChar ++ '"' :: rest) = .ok (joinPairs s, rest) := by
  rw [string, stringFrom?_flatMap s rest [] (by omega)]
  rfl

/-! ## Characters of a string -/

theorem length_le_flatMap_escapeChar (s : Text) : s.length ≤ (s.flatMap escapeChar).length := by
  induction s with
  | nil => exact Nat.le_refl _
  | cons c s ih =>
    obtain ⟨b, more, hcons, -⟩ := (isEscape_escapeChar c).exists_cons
    rw [List.flatMap_cons, List.length_append, hcons, List.length_cons, List.length_cons]
    omega

theorem return_not_mem_unitText {n : Nat} (h : n < 0x10000) : '\r' ∉ unitText n := by
  intro hmem
  rcases List.mem_append.mp hmem with hmem | hmem
  · exact absurd hmem (by decide)
  · exact absurd (Text.isHexDigit_of_mem_ofNatHex (by decide) h hmem) (by decide)

theorem IsEscape.return_not_mem {c : Char} {e : Text} (he : IsEscape c e) : '\r' ∉ e := by
  cases he with
  | plain hquote hslash hplain =>
    rw [List.mem_singleton]
    rintro rfl
    exact absurd hplain (by decide)
  | letter b hb hletter =>
    have hb' : '\r' ≠ b := by
      rintro rfl
      cases hletter
    exact List.not_mem_cons_of_ne_of_not_mem (by decide)
      (List.not_mem_cons_of_ne_of_not_mem hb' List.not_mem_nil)
  | unit hunit => exact return_not_mem_unitText hunit
  | pair hpair =>
    have hlt := Text.codePoint_lt c
    rw [List.mem_append, not_or]
    exact ⟨return_not_mem_unitText (by omega), return_not_mem_unitText (by omega)⟩

/-- A written string has no carriage return. -/
theorem return_not_mem_stringText (s : Text) : '\r' ∉ stringText s := by
  intro hmem
  simp only [stringText, List.mem_append, List.mem_flatMap] at hmem
  rcases hmem with (hmem | ⟨c, -, hmem⟩) | hmem
  · exact absurd hmem (by decide)
  · exact (isEscape_escapeChar c).return_not_mem hmem
  · exact absurd hmem (by decide)

end Json

end NoteQuery
