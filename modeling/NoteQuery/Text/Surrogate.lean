import NoteQuery.Text.Basic

/-!
# Halves of surrogate pairs

An escape can write one half of a surrogate pair, which is no character. Texts carry
such a half as a private-use character, one for each of the 2048 halves from U+10E000 to
U+10E7FF, and writers turn it back into the half it stands for. A text that has one of these
characters itself is not told apart from a text that has the half.
-/
namespace NoteQuery.Text

def isHighSurrogate (n : Nat) : Bool := 0xd800 ≤ n && n < 0xdc00

def isLowSurrogate (n : Nat) : Bool := 0xdc00 ≤ n && n < 0xe000

/-- The private-use character that carries the first surrogate. -/
def surrogateCarrier : Nat := 0x10e000

/-- The character of a code point, or the one that carries a surrogate. -/
def ofCodePoint (n : Nat) : Char :=
  if isHighSurrogate n || isLowSurrogate n then Char.ofNat (surrogateCarrier + (n - 0xd800))
  else Char.ofNat n

/-- Whether a character carries a surrogate. -/
def isCarrier (c : Char) : Bool :=
  surrogateCarrier ≤ c.toNat && c.toNat < surrogateCarrier + 0x800

def codePoint (c : Char) : Nat :=
  if isCarrier c then 0xd800 + (c.toNat - surrogateCarrier) else c.toNat

/-- A surrogate that is carried is read back. -/
theorem codePoint_ofCodePoint {n : Nat} (low : 0xd800 ≤ n) (high : n < 0xe000) :
    codePoint (ofCodePoint n) = n := by
  have carried : (isHighSurrogate n || isLowSurrogate n) = true := by
    simp only [isHighSurrogate, isLowSurrogate, Bool.or_eq_true, Bool.and_eq_true,
      decide_eq_true_eq]
    omega
  have valid : (surrogateCarrier + (n - 0xd800)).isValidChar := by
    simp only [surrogateCarrier, Nat.isValidChar]
    omega
  have place : (ofCodePoint n).toNat = surrogateCarrier + (n - 0xd800) := by
    rw [ofCodePoint, if_pos carried, Char.ofNat, dif_pos valid]
    rfl
  have carrier : isCarrier (ofCodePoint n) = true := by
    simp only [isCarrier, place, Bool.and_eq_true, decide_eq_true_eq]
    omega
  rw [codePoint, if_pos carrier, place]
  omega

end NoteQuery.Text
