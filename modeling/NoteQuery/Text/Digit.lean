import NoteQuery.Text.Basic

/-!
# Digits

Every script's decimal digits read as numbers. The ten digits of a script stand side
by side, so the code point of its zero is enough. Superscripts and fractions are not
decimal digits. Formats that know ASCII only have their own class of digits.
-/
namespace NoteQuery.Text

/-- The zeros of the scripts beyond ASCII. -/
def zeroDigits : List Nat := [
   0x660, 0x6f0, 0x7c0, 0x966, 0x9e6, 0xa66, 0xae6, 0xb66,
   0xbe6, 0xc66, 0xce6, 0xd66, 0xde6, 0xe50, 0xed0, 0xf20,
   0x1040, 0x1090, 0x17e0, 0x1810, 0x1946, 0x19d0, 0x1a80, 0x1a90,
   0x1b50, 0x1bb0, 0x1c40, 0x1c50, 0xa620, 0xa8d0, 0xa900, 0xa9d0,
   0xa9f0, 0xaa50, 0xabf0, 0xff10, 0x104a0, 0x10d30, 0x11066, 0x110f0,
   0x11136, 0x111d0, 0x112f0, 0x11450, 0x114d0, 0x11650, 0x116c0, 0x11730,
   0x118e0, 0x11950, 0x11c50, 0x11d50, 0x11da0, 0x16a60, 0x16ac0, 0x16b50,
   0x1d7ce, 0x1d7d8, 0x1d7e2, 0x1d7ec, 0x1d7f6, 0x1e140, 0x1e2f0, 0x1e950,
   0x1fbf0]

def digitValue? (c : Char) : Option Nat :=
  if c.toNat < 0x80 then
    if '0' ≤ c && c ≤ '9' then some (c.toNat - 0x30) else none
  else
    (zeroDigits.find? fun z => z ≤ c.toNat && c.toNat < z + 10).map (c.toNat - ·)

def isDigit (c : Char) : Bool := (digitValue? c).isSome

/-- The number that a run of digits writes, most significant first. -/
def digitsValue (s : Text) : Nat :=
  s.foldl (fun n c => 10 * n + (digitValue? c).getD 0) 0

def isAsciiDigit (c : Char) : Bool := '0' ≤ c && c ≤ '9'

/-- The number that ASCII digits write. -/
def decimal (s : Text) : Nat := s.foldl (fun n c => 10 * n + (c.toNat - 0x30)) 0

def hexDigit? (c : Char) : Option Nat :=
  if '0' ≤ c && c ≤ '9' then some (c.toNat - 0x30)
  else if 'a' ≤ c && c ≤ 'f' then some (c.toNat - 0x61 + 10)
  else if 'A' ≤ c && c ≤ 'F' then some (c.toNat - 0x41 + 10)
  else none

def isHexDigit (c : Char) : Bool := (hexDigit? c).isSome

/-- The number in exactly `n` leading hexadecimal digits, put behind a value, and the rest. -/
def hexDigits? : Nat → Nat → Text → Option (Nat × Text)
  | 0, value, s => some (value, s)
  | n + 1, value, c :: rest => do hexDigits? n (16 * value + (← hexDigit? c)) rest
  | _ + 1, _, [] => none

/-- The digits of a class at the start of a text, single underscores allowed between two of
them. -/
def digitRun (p : Char → Bool) : Text → Text
  | [] => []
  | c :: '_' :: d :: rest =>
    if p c then (if p d then c :: '_' :: digitRun p (d :: rest) else [c]) else []
  | c :: rest => if p c then c :: digitRun p rest else []

def ofNat (n : Nat) : Text := Nat.toDigits 10 n

def ofInt (n : Int) : Text :=
  match n with
  | .ofNat n => ofNat n
  | .negSucc n => '-' :: ofNat (n + 1)

/-- A number in at least `width` digits, zeros in front. -/
def ofNatPadded (width n : Nat) : Text := padLeft '0' width (ofNat n)

/-- Lower-case hexadecimal digits, at least `width` of them. -/
def ofNatHex (width n : Nat) : Text := padLeft '0' width (Nat.toDigits 16 n)

end NoteQuery.Text
