/-!
# Binary floating point numbers

Numbers of 53 binary digits as exact integers with a power of two. Rounding is to the
nearest number, a tie going to the even one; everything is computed in integers, so no
operation depends on the machine.
-/
namespace NoteQuery

/-- `finite` stands for `± mantissa · 2 ^ exponent`. -/
inductive Double where
  | finite (negative : Bool) (mantissa : Nat) (exponent : Int)
  | infinite (negative : Bool)
  | nan
  deriving Repr, DecidableEq

namespace Double

/-- The integer nearest to `num / den`, a tie going to the even one. -/
def roundDiv (num den : Nat) : Nat :=
  let q := num / den
  let twice := 2 * (num % den)
  if twice < den then q
  else if den < twice then q + 1
  else q + q % 2

def minExponent : Int := -1074

def maxExponent : Int := 971

/-- `num / den` over `2 ^ exponent`, as a quotient of naturals. -/
def scaled (num den : Nat) (exponent : Int) : Nat × Nat :=
  if 0 ≤ exponent then (num, den * Nat.pow 2 exponent.toNat)
  else (num * Nat.pow 2 (-exponent).toNat, den)

/-- The number nearest to the quotient of two naturals, `den` not zero. -/
def ofRatio (negative : Bool) (num den : Nat) : Double :=
  if num == 0 then .finite negative 0 minExponent
  else
    let low : Int := (num.log2 : Int) - (den.log2 : Int) - 53
    let (n, d) := scaled num den low
    let exponent := max minExponent (if n / d < Nat.pow 2 53 then low else low + 1)
    let (n, d) := scaled num den exponent
    let m := roundDiv n d
    let (m, exponent) := if m == Nat.pow 2 53 then (Nat.pow 2 52, exponent + 1) else (m, exponent)
    if maxExponent < exponent then .infinite negative else .finite negative m exponent

/-- The number nearest to `digits · 10 ^ exponent`. -/
def ofDecimal (negative : Bool) (digits : Nat) (exponent : Int) : Double :=
  let size : Int := (Nat.toDigits 10 digits).length + exponent
  if digits == 0 || size < -400 then .finite negative 0 minExponent
  else if 400 < size then .infinite negative
  else if 0 ≤ exponent then ofRatio negative (digits * Nat.pow 10 exponent.toNat) 1
  else ofRatio negative digits (Nat.pow 10 (-exponent).toNat)

/-- The quotient of naturals that a finite number is, sign apart. -/
def ratio (mantissa : Nat) (exponent : Int) : Nat × Nat :=
  if 0 ≤ exponent then (mantissa * Nat.pow 2 exponent.toNat, 1)
  else (mantissa, Nat.pow 2 (-exponent).toNat)

def isZero : Double → Bool
  | .finite _ m _ => m == 0
  | _ => false

def divNat (x : Double) (k : Nat) : Double :=
  match x with
  | .finite negative m e =>
    let (n, d) := ratio m e
    ofRatio negative n (d * k)
  | x => x

def mulNat (x : Double) (k : Nat) : Double :=
  match x with
  | .finite negative m e =>
    let (n, d) := ratio m e
    ofRatio negative (n * k) d
  | x => x

def neg : Double → Double
  | .finite negative m e => .finite (!negative) m e
  | .infinite negative => .infinite (!negative)
  | .nan => .nan

/-- The sum of two numbers; a zero is negative only if both are. -/
def add : Double → Double → Double
  | .finite a m e, .finite b n f =>
    let (p, q) := ratio m e
    let (r, s) := ratio n f
    let signed (negative : Bool) (k : Nat) : Int := if negative then -k else k
    let sum := signed a (p * s) + signed b (r * q)
    if sum == 0 then .finite (a && b) 0 minExponent else ofRatio (sum < 0) sum.natAbs (q * s)
  | .infinite a, .infinite b => if a == b then .infinite a else .nan
  | .infinite a, .finite _ _ _ => .infinite a
  | .finite _ _ _, .infinite b => .infinite b
  | .nan, _ => .nan
  | _, .nan => .nan

end Double

end NoteQuery
