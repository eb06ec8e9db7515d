import NoteQuery.Number.Double
import NoteQuery.Text.Digit

/-!
# Shortest decimal text

The decimal text of a floating point number: the fewest digits that read back as the
number, and of those the nearest. Candidates are the two neighbours of the number on
each decimal grid, from one digit up.
-/
namespace NoteQuery.Double

/-- How many decimal digits stand before the point of `num / den`; zero or negative for
numbers below one tenth. -/
def pointPosition (num den : Nat) : Int :=
  let gap : Int := (Nat.toDigits 10 num).length - (Nat.toDigits 10 den).length
  let below : Bool :=
    if 0 ≤ gap then num < den * Nat.pow 10 gap.toNat else num * Nat.pow 10 (-gap).toNat < den
  if below then gap else gap + 1

/-- The numbers whose nearest double is `mantissa · 2 ^ exponent`, as numerators of the
two ends and the number itself over `4 · den`. -/
def readingInterval (mantissa : Nat) (exponent : Int) : Nat × Nat × Nat × Nat :=
  let (n, d) := ratio mantissa exponent
  let unit := n / mantissa
  let below := if mantissa == Nat.pow 2 52 && minExponent < exponent then unit else 2 * unit
  (4 * n - below, 4 * n, 4 * n + 2 * unit, 4 * d)

/-- The digits on the grid `10 ^ grid` that read back as the number, if there are any. -/
def digitsOnGrid? (mantissa : Nat) (exponent grid : Int) : Option Nat :=
  let (low, value, high, den) := readingInterval mantissa exponent
  let up := if 0 ≤ grid then 1 else Nat.pow 10 (-grid).toNat
  let down := if 0 ≤ grid then Nat.pow 10 grid.toNat else 1
  -- `c · 10 ^ grid` against `x / den` is `c · down · den` against `x · up`
  let floor := value * up / (down * den)
  let reads (c : Nat) : Bool :=
    let p := c * down * den
    if mantissa % 2 == 0 then low * up ≤ p && p ≤ high * up
    else low * up < p && p < high * up
  let gap (c : Nat) : Nat := max (c * down * den) (value * up) - min (c * down * den) (value * up)
  match reads floor, reads (floor + 1) with
  | true, true =>
    if gap floor < gap (floor + 1) then some floor
    else if gap (floor + 1) < gap floor then some (floor + 1)
    else some (floor + floor % 2)
  | true, false => some floor
  | false, true => some (floor + 1)
  | false, false => none

/-- The shortest digits and the grid they stand on, looking from `count` digits up. -/
def shortestFrom (mantissa : Nat) (exponent point : Int) : Nat → Nat → Nat × Int
  | 0, count => (mantissa, point - count)
  | fuel + 1, count =>
    match digitsOnGrid? mantissa exponent (point - count) with
    | some c => (c, point - count)
    | none => shortestFrom mantissa exponent point fuel (count + 1)

/-- Seventeen digits tell any two numbers apart. -/
def shortest (mantissa : Nat) (exponent : Int) : Nat × Int :=
  let (n, d) := ratio mantissa exponent
  shortestFrom mantissa exponent (pointPosition n d) 17 1

/-- Digits with the point after `point` of them: positional for points from -3 to 16,
with an exponent of at least two digits elsewhere. -/
def layout (digits : Text) (point : Int) : Text :=
  if -4 < point && point ≤ 16 then
    if point ≤ 0 then
      ['0', '.'] ++ List.replicate (-point).toNat '0' ++ digits
    else if point.toNat < digits.length then
      digits.take point.toNat ++ ['.'] ++ digits.drop point.toNat
    else digits ++ List.replicate (point.toNat - digits.length) '0' ++ ['.', '0']
  else
    let e := point - 1
    digits.take 1 ++ (if digits.length ≤ 1 then [] else '.' :: digits.drop 1)
      ++ ['e', if e < 0 then '-' else '+'] ++ Text.ofNatPadded 2 e.natAbs

def toText : Double → Text
  | .nan => "nan".toList
  | .infinite negative => (if negative then ['-'] else []) ++ "inf".toList
  | .finite negative m e =>
    (if negative then ['-'] else []) ++
      if m == 0 then "0.0".toList
      else
        let (digits, grid) := shortest m e
        let all := Text.ofNat digits
        layout (Text.dropEndWhile (· == '0') all) (grid + all.length)

end NoteQuery.Double
